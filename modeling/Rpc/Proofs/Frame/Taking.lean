import Rpc.Proofs.Frame.ReadBack

/-! # Taking a frame off a buffer

A decoder takes a frame off its buffer field after field, and each field must be there in full: a
step that wants more octets than are left has no outcome at all. It never comes to that, for the
size of the body is checked before its head is taken, and what is left of the body is checked before
each part. What is taken fits its kind, so all that a handler looks up in a frame is there.
-/
namespace Rpc

open Message

/-- Steps that take octets off the front of a buffer until one of them fails. A step that reads past
the end has no outcome. -/
abbrev Taking : Type → Type := ExceptT CodecError (StateT Bytes Option)

namespace Taking

open Rpc.Frame

/-- The next `count` octets, which must be there. -/
def octets (count : Nat) : Taking Bytes :=
  ExceptT.mk fun b => if b.length < count then none else some (.ok (b.take count), b.drop count)

def word (width : Nat) : Taking Nat := do
  let code ← octets width
  return Bytes.toNat code

/-- The word in front, which must be there and is left there. -/
def wordAhead (width : Nat) : Taking Nat :=
  ExceptT.mk fun b => if b.length < width then none else some (.ok (Bytes.wordAt b 0 width), b)

/-- How many octets are left. -/
def remaining : Taking Nat := ExceptT.mk fun b => some (.ok b.length, b)

/-- Takes from some other octets and leaves the buffer as it is. -/
def within {α : Type} (code : Bytes) (x : Taking α) : Taking α :=
  ExceptT.mk fun b => (x.run code).map fun r => (r.1, b)

def part : Taking Part := do
  let there ← remaining
  if there < partHeadSize then throw (.invalidFrame .cutPartHead)
  else
    let tag ← word 2
    match Part.Role.ofTag? (UInt16.ofNat tag) with
    | none => throw (.invalidFrame (.unknownRole (UInt16.ofNat tag)))
    | some role =>
      let size ← word 4
      let there ← remaining
      if there < size then throw (.invalidFrame (.overrun size there))
      else
        let content ← octets size
        return ⟨role, content⟩

def parts : (count : Nat) → Taking (List Part)
  | 0 => return []
  | n + 1 => do
    let first ← part
    let later ← parts n
    return first :: later

def body : Taking Frame := do
  let conversation ← word 8
  let tag ← word 1
  match Kind.ofTag? (UInt8.ofNat tag) with
  | none => throw (.invalidFrame (.unknownKind (UInt8.ofNat tag)))
  | some kind =>
    let count ← word 2
    let parts ← parts count
    let trailing ← remaining
    if trailing = 0 then
      let frame : Frame := ⟨UInt64.ofNat conversation, kind, parts⟩
      liftM frame.validate
      return frame
    else throw (.invalidFrame (.trailing trailing))

/-- Takes the frame in front, once it is there in full. -/
def frame (limit : Nat) : Taking (Option Frame) := do
  let there ← remaining
  if there < 4 then return none
  else
    let size ← wordAhead 4
    if limit < size then throw (.frameTooLarge size limit)
    else if size < headSize then throw (.invalidFrame (.shortBody size))
    else if there < 4 + size then return none
    else
      let _ ← octets 4
      let code ← octets size
      let f ← within code body
      return some f

section Steps

variable {α β : Type} {x : Taking α} {next : α → Taking β} {a : α} {e : CodecError} {b left : Bytes}

theorem run_bind_of_ok (h : x.run b = some (.ok a, left)) :
    (x >>= next).run b = (next a).run left := by
  change (x.run b).bind (fun r => ExceptT.bindCont next r.1 r.2) = (next a).run left
  rw [h]
  rfl

theorem run_bind_of_error (h : x.run b = some (.error e, left)) :
    (x >>= next).run b = some (.error e, left) := by
  change (x.run b).bind (fun r => ExceptT.bindCont next r.1 r.2) = some (.error e, left)
  rw [h]
  rfl

theorem run_octets {count : Nat} (h : count ≤ b.length) :
    (octets count).run b = some (.ok (b.take count), b.drop count) :=
  if_neg (Nat.not_lt.mpr h)

theorem run_word {width : Nat} (h : width ≤ b.length) :
    (word width).run b = some (.ok (Bytes.wordAt b 0 width), b.drop width) := by
  rw [word, run_bind_of_ok (run_octets h)]
  rfl

theorem run_wordAhead {width : Nat} (h : width ≤ b.length) :
    (wordAhead width).run b = some (.ok (Bytes.wordAt b 0 width), b) :=
  if_neg (Nat.not_lt.mpr h)

theorem run_remaining : remaining.run b = some (.ok b.length, b) := rfl

theorem run_within {code : Bytes} {r : Except CodecError α} (h : x.run code = some (r, left)) :
    (within code x).run b = some (r, b) := by
  change (x.run code).map (fun r => (r.1, b)) = some (r, b)
  rw [h]
  rfl

/-- The word behind octets that have been taken. -/
theorem wordAt_drop (b : Bytes) (pos width : Nat) :
    Bytes.wordAt (b.drop pos) 0 width = Bytes.wordAt b pos width := rfl

end Steps

/-- What the steps come to: a result and what they leave, or an error, whatever is left then. -/
def ComesTo {α : Type} (x : Taking α) (b : Bytes) : Except CodecError (α × Bytes) → Prop
  | .ok (a, left) => x.run b = some (.ok a, left)
  | .error e => ∃ left, x.run b = some (.error e, left)

section Steps

variable {α β : Type} {x : Taking α} {next : α → Taking β} {a : α} {e : CodecError} {b left : Bytes}

theorem ComesTo.bind {r : Except CodecError (α × Bytes)}
    {s : α × Bytes → Except CodecError (β × Bytes)} (h : x.ComesTo b r)
    (hnext : ∀ taken, r = .ok taken → (next taken.1).ComesTo taken.2 (s taken)) :
    (x >>= next).ComesTo b (r >>= s) := by
  cases r with
  | error e =>
    obtain ⟨rest, hrest⟩ := h
    exact ⟨rest, run_bind_of_error hrest⟩
  | ok taken =>
    have hthen := hnext taken rfl
    change (x >>= next).ComesTo b (s taken)
    cases hs : s taken with
    | error e =>
      rw [hs] at hthen
      obtain ⟨rest, hrest⟩ := hthen
      exact ⟨rest, (run_bind_of_ok h).trans hrest⟩
    | ok result =>
      rw [hs] at hthen
      exact (run_bind_of_ok h).trans hthen

/-- A step that does not fail, with others behind it. -/
theorem ComesTo.after {r : Except CodecError (β × Bytes)} (h : x.run b = some (.ok a, left))
    (hnext : (next a).ComesTo left r) : (x >>= next).ComesTo b r :=
  ComesTo.bind (r := .ok (a, left)) (s := fun _ => r) h fun _ htaken => by
    cases htaken
    exact hnext

theorem ComesTo.failed (h : x.ComesTo b (.error e)) : (x >>= next).ComesTo b (.error e) :=
  ComesTo.bind (s := fun _ => .error e) h fun _ htaken => nomatch htaken

theorem ComesTo.throw : ComesTo (throw e : Taking α) b (.error e) := ⟨b, rfl⟩

end Steps

/-- One part and what is left behind it. -/
def readPart (b : Bytes) : Except CodecError (Part × Bytes) :=
  if b.length < partHeadSize then .error (.invalidFrame .cutPartHead)
  else
    let tag := UInt16.ofNat (Bytes.wordAt b 0 2)
    let size := Bytes.wordAt b 2 4
    let rest := b.drop partHeadSize
    match Part.Role.ofTag? tag with
    | none => .error (.invalidFrame (.unknownRole tag))
    | some role =>
      if rest.length < size then .error (.invalidFrame (.overrun size rest.length))
      else .ok (⟨role, rest.take size⟩, rest.drop size)

theorem readParts_succ (n : Nat) (b : Bytes) :
    readParts (n + 1) b = (readPart b >>= fun first =>
      readParts n first.2 >>= fun later => .ok (first.1 :: later.1, later.2)) := by
  rw [readParts, readPart]
  by_cases hhead : b.length < partHeadSize
  · simp only [if_pos hhead]
    rfl
  · simp only [if_neg hhead]
    cases Part.Role.ofTag? (UInt16.ofNat (Bytes.wordAt b 0 2)) with
    | none => rfl
    | some role =>
      by_cases hfit : (b.drop partHeadSize).length < Bytes.wordAt b 2 4
      · simp only [if_pos hfit]
        rfl
      · simp only [if_neg hfit, bind, Except.bind]
        cases readParts n ((b.drop partHeadSize).drop (Bytes.wordAt b 2 4)) <;> rfl

/-- The head of a part is taken only where there is room for it, and its content likewise. -/
theorem part_comesTo (b : Bytes) : part.ComesTo b (readPart b) := by
  unfold part readPart
  apply ComesTo.after run_remaining
  by_cases hhead : b.length < partHeadSize
  · rw [if_pos hhead, if_pos hhead]
    exact .throw
  · rw [if_neg hhead, if_neg hhead]
    have hsix : 6 ≤ b.length := Nat.le_of_not_lt hhead
    have hfour : 4 ≤ (b.drop 2).length := by
      rw [List.length_drop]
      omega
    have hrest : (b.drop 2).drop 4 = b.drop partHeadSize := List.drop_drop
    apply ComesTo.after (run_word (by omega))
    cases hrole : Part.Role.ofTag? (UInt16.ofNat (Bytes.wordAt b 0 2)) with
    | none =>
      simp only [hrole]
      exact .throw
    | some role =>
      simp only [hrole]
      apply ComesTo.after (run_word hfour)
      rw [wordAt_drop, hrest]
      apply ComesTo.after run_remaining
      by_cases hfit : (b.drop partHeadSize).length < Bytes.wordAt b 2 4
      · rw [if_pos hfit, if_pos hfit]
        exact .throw
      · rw [if_neg hfit, if_neg hfit]
        exact ComesTo.after (run_octets (Nat.le_of_not_lt hfit)) rfl

theorem parts_comesTo (n : Nat) (b : Bytes) : (parts n).ComesTo b (readParts n b) := by
  induction n generalizing b with
  | zero => rfl
  | succ n ih =>
    rw [parts, readParts_succ]
    exact .bind (part_comesTo b) fun first _ => .bind (ih first.2) fun _ _ => rfl

/-- The size that is asked of a body makes room for all that is taken before its parts. -/
theorem body_comesTo {b : Bytes} (h : headSize ≤ b.length) :
    body.ComesTo b ((readBody b).map (·, [])) := by
  rw [headSize] at h
  have hone : 1 ≤ (b.drop 8).length := by
    rw [List.length_drop]
    omega
  have htwo : 2 ≤ (b.drop (8 + 1)).length := by
    rw [List.length_drop]
    omega
  have hrest : (b.drop (8 + 1)).drop 2 = b.drop headSize := List.drop_drop
  unfold body readBody
  apply ComesTo.after (run_word (by omega))
  apply ComesTo.after (run_word hone)
  rw [wordAt_drop, List.drop_drop]
  simp only
  cases hkind : Kind.ofTag? (UInt8.ofNat (Bytes.wordAt b 8 1)) with
  | none => exact .throw
  | some kind =>
    apply ComesTo.after (run_word htwo)
    rw [wordAt_drop, hrest]
    have hparts := parts_comesTo (Bytes.wordAt b 9 2) (b.drop headSize)
    cases hread : readParts (Bytes.wordAt b 9 2) (b.drop headSize) with
    | error e =>
      rw [hread] at hparts
      exact .failed hparts
    | ok taken =>
      obtain ⟨parts, left⟩ := taken
      rw [hread] at hparts
      apply ComesTo.after hparts
      apply ComesTo.after run_remaining
      cases left with
      | cons octet left => exact .throw
      | nil =>
        simp only [List.length_nil, if_true, List.isEmpty_nil]
        cases hvalid : Frame.validate ⟨UInt64.ofNat (Bytes.wordAt b 0 8), kind, parts⟩ with
        | error e => exact .failed .throw
        | ok u => rfl

/-- A body that is shorter than its head would be read past its end. -/
example : body.run [1, 2, 3] = none := rfl

/-- Taking never reads past the end, and it comes to what reading the front of the buffer gives. -/
theorem run_frame (limit : Nat) (b : Bytes) :
    (frame limit).run b = some ((Frame.read limit b).outcome, (Frame.read limit b).rest b) := by
  unfold frame Frame.read
  rw [run_bind_of_ok run_remaining]
  by_cases hfour : b.length < 4
  · rw [if_pos hfour, if_pos hfour]
    rfl
  · rw [if_neg hfour, if_neg hfour, run_bind_of_ok (run_wordAhead (Nat.le_of_not_lt hfour))]
    by_cases hlimit : limit < Bytes.wordAt b 0 4
    · simp only [if_pos hlimit]
      rfl
    · by_cases hshort : Bytes.wordAt b 0 4 < headSize
      · simp only [if_neg hlimit, if_pos hshort]
        rfl
      · by_cases hcut : b.length < 4 + Bytes.wordAt b 0 4
        · simp only [if_neg hlimit, if_neg hshort, if_pos hcut]
          rfl
        · simp only [if_neg hlimit, if_neg hshort, if_neg hcut]
          have hthere : Bytes.wordAt b 0 4 ≤ (b.drop 4).length := by
            rw [List.length_drop]
            omega
          have hbody : headSize ≤ (Bytes.slice b 4 (Bytes.wordAt b 0 4)).length := by
            rw [Bytes.length_slice (by omega)]
            exact Nat.le_of_not_lt hshort
          rw [run_bind_of_ok (run_octets (Nat.le_of_not_lt hfour)),
            run_bind_of_ok (run_octets hthere), List.drop_drop]
          have htaken := body_comesTo hbody
          cases hread : readBody (Bytes.slice b 4 (Bytes.wordAt b 0 4)) with
          | error e =>
            rw [hread] at htaken
            obtain ⟨left, hleft⟩ := htaken
            exact run_bind_of_error (run_within hleft)
          | ok f =>
            rw [hread] at htaken
            exact run_bind_of_ok (run_within htaken)

end Taking

/-! ## What stands in a frame -/

namespace Frame

/-- What the kind of a frame says about its parts. -/
structure Complete (f : Frame) : Prop where
  /-- Baggage, heading and payload come in this order, each of them once at most. -/
  ordered : f.kind ≠ .control → f.roles.Sublist [.baggage, .heading, .payload]
  control : f.kind = .control → ∃ content, f.parts = [⟨.control, content⟩]
  message : f.kind.namesMethod = true →
    (f.content? .heading).isSome ∧ (f.content? .payload).isSome
  answer : f.kind.isAnswer = true →
    (f.content? .payload).isSome ∧ f.content? .heading = none

section Complete

variable {limit : Nat} {b : Bytes} {f : Frame}

theorem isSome_content?_iff {role : Part.Role} :
    (f.content? role).isSome ↔ role ∈ f.roles := by
  rw [content?, Option.isSome_map, List.find?_isSome, roles, List.mem_map]
  simp only [decide_eq_true_eq]

theorem content?_eq_none_iff {role : Part.Role} : f.content? role = none ↔ role ∉ f.roles := by
  rw [← isSome_content?_iff, Bool.not_eq_true, Option.isSome_eq_false_iff,
    Option.isNone_iff_eq_none]

theorem WellFormed.complete (h : f.WellFormed) : f.Complete := by
  have hordered : ∀ k ≠ Kind.control, ∀ l ∈ layouts k,
      l.Sublist [.baggage, .heading, .payload] := by
    intro k
    cases k <;> decide
  have hmessage : ∀ k : Kind, k.namesMethod = true → ∀ l ∈ layouts k,
      Part.Role.heading ∈ l ∧ Part.Role.payload ∈ l := by
    intro k
    cases k <;> decide
  have hanswer : ∀ k : Kind, k.isAnswer = true → ∀ l ∈ layouts k,
      Part.Role.payload ∈ l ∧ Part.Role.heading ∉ l := by
    intro k
    cases k <;> decide
  refine ⟨fun hk => hordered _ hk _ h, fun hk => ?_, fun hk => ?_, fun hk => ?_⟩
  · have hroles : f.roles ∈ layouts .control := hk ▸ h
    obtain ⟨⟨role, content⟩, hparts, hrole⟩ :=
      List.map_eq_singleton_iff.mp (List.mem_singleton.mp hroles)
    exact ⟨content, by rw [hparts, ← hrole]⟩
  · rw [isSome_content?_iff, isSome_content?_iff]
    exact hmessage _ hk _ h
  · rw [isSome_content?_iff, content?_eq_none_iff]
    exact hanswer _ hk _ h

theorem complete_of_read {rest : Bytes} (h : read limit b = .frame f rest) : f.Complete := by
  obtain ⟨code, hwrite, -⟩ := write_of_read h
  exact (write_eq_ok_iff.mp hwrite).1.complete

end Complete

end Frame

end Rpc
