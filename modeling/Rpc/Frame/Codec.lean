import Rpc.Error

/-! # Length-prefixed frames

A frame is written as a little-endian length word and a body: conversation, kind, number of parts,
and each part as role, length and content. Reading looks at the front of a buffer only. It either
waits for more, gets stuck on a length that cannot be right, or consumes one whole frame, good or
bad, so that a bad body never shifts the frames behind it.
-/
namespace Rpc

open Message

namespace Part

def bytes (p : Part) : Bytes :=
  Bytes.ofNat 2 p.role.tag.toNat ++ Bytes.ofNat 4 p.content.length ++ p.content

end Part

namespace Frame

/-- The frame size limit of a codec that was given none. -/
def defaultLimit : Nat := 16777216

def body (f : Frame) : Bytes :=
  Bytes.ofNat 8 f.conversation.toNat ++ [f.kind.tag] ++ Bytes.ofNat 2 f.parts.length ++
    f.parts.flatMap Part.bytes

def bytes (f : Frame) : Bytes := Bytes.ofNat 4 f.bodySize ++ f.body

def validate (f : Frame) : Except CodecError Unit :=
  if f.WellFormed then .ok () else .error (.invalidFrame (.layout f.roles f.kind))

/-- Refuses a frame whose parts do not fit its kind, then one too large for the limit or for the
length word, then one with more parts than their counter can tell. -/
def write (limit : Nat) (f : Frame) : Except CodecError Bytes := do
  f.validate
  if limit < f.bodySize ∨ 4294967296 ≤ f.bodySize then
    throw (.frameTooLarge f.bodySize limit)
  if 65536 ≤ f.parts.length then
    throw (.invalidFrame .tooManyParts)
  return f.bytes

/-- Appends a frame to a buffer; a refused frame leaves the buffer as it was. -/
def writeOnto (limit : Nat) (buffer : Bytes) (f : Frame) : Except CodecError Unit × Bytes :=
  match f.write limit with
  | .ok bytes => (.ok (), buffer ++ bytes)
  | .error e => (.error e, buffer)

def readParts : (count : Nat) → Bytes → Except CodecError (List Part × Bytes)
  | 0, b => .ok ([], b)
  | n + 1, b =>
    if b.length < partHeadSize then .error (.invalidFrame .cutPartHead)
    else
      let tag := UInt16.ofNat (Bytes.wordAt b 0 2)
      let size := Bytes.wordAt b 2 4
      let rest := b.drop partHeadSize
      match Part.Role.ofTag? tag with
      | none => .error (.invalidFrame (.unknownRole tag))
      | some role =>
        if rest.length < size then .error (.invalidFrame (.overrun size rest.length))
        else
          match readParts n (rest.drop size) with
          | .error e => .error e
          | .ok (parts, left) => .ok (⟨role, rest.take size⟩ :: parts, left)

/-- Reads a body of at least `headSize` octets. -/
def readBody (b : Bytes) : Except CodecError Frame :=
  let tag := UInt8.ofNat (Bytes.wordAt b 8 1)
  match Kind.ofTag? tag with
  | none => .error (.invalidFrame (.unknownKind tag))
  | some kind =>
    match readParts (Bytes.wordAt b 9 2) (b.drop headSize) with
    | .error e => .error e
    | .ok (parts, left) =>
      if left.isEmpty then
        let frame : Frame := ⟨UInt64.ofNat (Bytes.wordAt b 0 8), kind, parts⟩
        match frame.validate with
        | .ok () => .ok frame
        | .error e => .error e
      else .error (.invalidFrame (.trailing left.length))

end Frame

inductive Reading
  /-- Not yet a whole frame; nothing is consumed. -/
  | incomplete
  /-- A length that no frame can have; nothing is consumed. -/
  | stuck (cause : CodecError)
  /-- A whole frame with a bad body, which is consumed. -/
  | refused (cause : CodecError) (rest : Bytes)
  | frame (frame : Frame) (rest : Bytes)
  deriving DecidableEq, Repr

namespace Frame

def read (limit : Nat) (b : Bytes) : Reading :=
  if b.length < 4 then .incomplete
  else
    let size := Bytes.wordAt b 0 4
    if limit < size then .stuck (.frameTooLarge size limit)
    else if size < headSize then .stuck (.invalidFrame (.shortBody size))
    else if b.length < 4 + size then .incomplete
    else
      match readBody (Bytes.slice b 4 size) with
      | .ok f => .frame f (b.drop (4 + size))
      | .error e => .refused e (b.drop (4 + size))

end Frame

namespace Reading

def rest (r : Reading) (buffer : Bytes) : Bytes :=
  match r with
  | .incomplete | .stuck _ => buffer
  | .refused _ rest | .frame _ rest => rest

def outcome : Reading → Except CodecError (Option Frame)
  | .incomplete => .ok none
  | .stuck e | .refused e _ => .error e
  | .frame f _ => .ok (some f)

/-- The outcome at the end of the stream, where octets that make no frame are an error. -/
def outcomeAtEnd (r : Reading) (buffer : Bytes) : Except CodecError (Option Frame) :=
  match r with
  | .incomplete => if buffer.isEmpty then .ok none else .error (.io .cutFrame)
  | r => r.outcome

end Reading

/-- A whole frame, good or bad, takes its length word and as many octets as that announces. -/
theorem Frame.read_consumes {limit : Nat} {b rest : Bytes}
    (h : (∃ f, Frame.read limit b = .frame f rest) ∨ ∃ e, Frame.read limit b = .refused e rest) :
    Frame.headSize ≤ Bytes.wordAt b 0 4 ∧ Bytes.wordAt b 0 4 ≤ limit ∧
      4 + Bytes.wordAt b 0 4 ≤ b.length ∧ rest = b.drop (4 + Bytes.wordAt b 0 4) := by
  unfold Frame.read at h
  by_cases hshort : b.length < 4
  · simp [hshort] at h
  by_cases hlimit : limit < Bytes.wordAt b 0 4
  · simp [hshort, hlimit] at h
  by_cases hhead : Bytes.wordAt b 0 4 < Frame.headSize
  · simp [hshort, hlimit, hhead] at h
  by_cases hcut : b.length < 4 + Bytes.wordAt b 0 4
  · simp [hshort, hlimit, hhead, hcut] at h
  refine ⟨by omega, by omega, by omega, ?_⟩
  simp only [if_neg hshort, if_neg hlimit, if_neg hhead, if_neg hcut] at h
  cases hbody : Frame.readBody (Bytes.slice b 4 (Bytes.wordAt b 0 4)) with
  | ok f => simpa [hbody, eq_comm] using h
  | error e => simpa [hbody, eq_comm] using h

theorem Frame.read_rest_length_lt {limit : Nat} {b rest : Bytes} {f : Frame}
    (h : Frame.read limit b = .frame f rest) : rest.length < b.length := by
  obtain ⟨-, -, hlength, rfl⟩ := Frame.read_consumes (.inl ⟨f, h⟩)
  rw [List.length_drop]
  omega

theorem Frame.read_refused_length_lt {limit : Nat} {b rest : Bytes} {e : CodecError}
    (h : Frame.read limit b = .refused e rest) : rest.length < b.length := by
  obtain ⟨-, -, hlength, rfl⟩ := Frame.read_consumes (.inr ⟨e, h⟩)
  rw [List.length_drop]
  omega

/-- What a drained buffer gave: frames and errors in order, ending at the first error that
consumes nothing, and the octets left. -/
structure Drained where
  items : List (Except CodecError Frame)
  stuck : Option CodecError
  rest : Bytes

/-- Reads until the buffer holds no further whole frame. -/
def Frame.drain (limit : Nat) (b : Bytes) : Drained :=
  match h : Frame.read limit b with
  | .incomplete => ⟨[], none, b⟩
  | .stuck e => ⟨[], some e, b⟩
  | .refused e rest =>
    have := Frame.read_refused_length_lt h
    let d := Frame.drain limit rest
    { d with items := .error e :: d.items }
  | .frame f rest =>
    have := Frame.read_rest_length_lt h
    let d := Frame.drain limit rest
    { d with items := .ok f :: d.items }
termination_by b.length

end Rpc
