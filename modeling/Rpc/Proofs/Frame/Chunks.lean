import Mathlib.Data.List.ReduceOption
import Rpc.Proofs.Frame.ReadBack

/-! # Frames that arrive in chunks

A decoder has one buffer. Octets are fed to its end in chunks of any size, and between any two
chunks it may be asked any number of times for the frame in front. However the octets of written
frames are cut, they come out whole, in order and once each, and what is left is the part of a frame
that has not arrived in full.
-/
namespace Rpc.Frame

inductive DecoderEvent
  | feed (chunk : Bytes)
  | decode

def fed : List DecoderEvent → Bytes
  | [] => []
  | .feed chunk :: es => chunk ++ fed es
  | .decode :: es => fed es

/-- The outcomes of the decodings in order, and the buffer that is left. -/
def decodeAll (limit : Nat) : Bytes → List DecoderEvent →
    List (Except CodecError (Option Frame)) × Bytes
  | b, [] => ([], b)
  | b, .feed chunk :: es => decodeAll limit (b ++ chunk) es
  | b, .decode :: es =>
    let r := read limit b
    let q := decodeAll limit (r.rest b) es
    (r.outcome :: q.1, q.2)

section Written

variable {limit : Nat}

/-- Writing a list of frames that begins with some frame writes that one first. -/
theorem mapM_write_cons {f : Frame} {frames : List Frame} {codes : List Bytes}
    (h : (f :: frames).mapM (write limit) = .ok codes) :
    ∃ code rest, f.write limit = .ok code ∧ frames.mapM (write limit) = .ok rest ∧
      codes = code :: rest := by
  rw [List.mapM_cons] at h
  cases hf : f.write limit with
  | error e => rw [hf] at h; cases h
  | ok code =>
    cases hr : frames.mapM (write limit) with
    | error e => rw [hf, hr] at h; cases h
    | ok rest =>
      rw [hf, hr] at h
      cases h
      exact ⟨code, rest, rfl, rfl, rfl⟩

theorem mapM_write_nil {codes : List Bytes} (h : [].mapM (write limit) = .ok codes) :
    codes = [] := by
  cases h
  rfl

variable {last : Frame} {lastCode trailing : Bytes} (hlast : last.write limit = .ok lastCode)
  (hpart : trailing <+: lastCode) (hproper : trailing ≠ lastCode)

include hlast hpart hproper

/-- What the front of a buffer holds if the buffer and what is still to come are written frames and
a part of one more: nothing yet, or the first of the frames. -/
theorem read_of_append_eq {frames : List Frame} {codes : List Bytes}
    (hcodes : frames.mapM (write limit) = .ok codes) {b more : Bytes}
    (hb : b ++ more = codes.flatten ++ trailing) :
    read limit b = .incomplete ∨
      ∃ f later code rest, frames = f :: later ∧ later.mapM (write limit) = .ok code ∧
        read limit b = .frame f rest ∧ rest ++ more = code.flatten ++ trailing := by
  cases frames with
  | nil =>
    left
    rw [mapM_write_nil hcodes, List.flatten_nil, List.nil_append] at hb
    have hbt : b <+: trailing := ⟨more, hb⟩
    refine read_eq_incomplete hlast (hbt.trans hpart) fun he => hproper ?_
    exact hpart.eq_of_length_le (he ▸ hbt.length_le)
  | cons f later =>
    obtain ⟨code, rest, hf, hlater, rfl⟩ := mapM_write_cons hcodes
    rw [List.flatten_cons, List.append_assoc] at hb
    rcases List.append_eq_append_iff.mp hb with ⟨a, ha, -⟩ | ⟨a, ha, hmore⟩
    · by_cases hnil : a = []
      · right
        subst hnil
        rw [List.append_nil] at ha
        have hread := read_write_append hf []
        rw [List.append_nil, ha] at hread
        rw [ha] at hb
        exact ⟨f, later, rest, [], rfl, hlater, hread, List.append_cancel_left hb⟩
      · left
        refine read_eq_incomplete hf ⟨a, ha.symm⟩ fun he => hnil ?_
        rw [he] at ha
        exact List.self_eq_append_right.mp ha
    · right
      exact ⟨f, later, rest, a, rfl, hlater, ha ▸ read_write_append hf a, hmore.symm⟩

/-- Once all has arrived, each decoding gives the next frame, and then none for good. -/
theorem decodeAll_replicate {frames : List Frame} {codes : List Bytes}
    (hcodes : frames.mapM (write limit) = .ok codes) (extra : Nat) :
    decodeAll limit (codes.flatten ++ trailing)
        (List.replicate (frames.length + extra) .decode) =
      (frames.map (.ok ∘ some) ++ List.replicate extra (.ok none), trailing) := by
  induction frames generalizing codes with
  | nil =>
    have hread := read_eq_incomplete hlast hpart hproper
    rw [mapM_write_nil hcodes]
    induction extra with
    | zero => rfl
    | succ extra ih =>
      simp only [List.length_nil, Nat.zero_add, List.flatten_nil, List.nil_append, List.map_nil]
        at ih ⊢
      simp only [List.replicate_succ, decodeAll, hread, Reading.rest, Reading.outcome, ih]
  | cons f later ih =>
    obtain ⟨code, rest, hf, hlater, rfl⟩ := mapM_write_cons hcodes
    have hread := read_write_append hf (rest.flatten ++ trailing)
    have hcount : (f :: later).length + extra = later.length + extra + 1 := by
      rw [List.length_cons]
      omega
    rw [hcount, List.replicate_succ, List.flatten_cons, List.append_assoc]
    simp only [decodeAll, hread, Reading.rest, Reading.outcome, ih hlater, List.map_cons,
      List.cons_append, Function.comp_apply]

/-- Whatever has been fed and decoded, the answers so far are the first of the frames, and the
buffer holds what has been fed of the others. -/
theorem decodeAll_of_append_eq {frames : List Frame} {codes : List Bytes}
    (hcodes : frames.mapM (write limit) = .ok codes) {b : Bytes} {es : List DecoderEvent}
    (hb : b ++ fed es = codes.flatten ++ trailing) :
    ∃ (answers : List (Option Frame)) (later : List Frame) (code : List Bytes),
      (decodeAll limit b es).1 = answers.map .ok ∧
      answers.reduceOption ++ later = frames ∧ later.mapM (write limit) = .ok code ∧
      (decodeAll limit b es).2 = code.flatten ++ trailing := by
  induction es generalizing b frames codes with
  | nil =>
    rw [fed, List.append_nil] at hb
    exact ⟨[], frames, codes, rfl, rfl, hcodes, hb⟩
  | cons e es ih =>
    cases e with
    | feed chunk =>
      rw [fed, ← List.append_assoc] at hb
      exact ih hcodes hb
    | decode =>
      rcases read_of_append_eq hlast hpart hproper hcodes hb with
        hr | ⟨f, later, code, rest, rfl, hlater, hr, hrest⟩
      · obtain ⟨answers, later, code, h1, h2, h3, h4⟩ := ih hcodes hb
        refine ⟨none :: answers, later, code, ?_, ?_, h3, ?_⟩
        · simp only [decodeAll, hr, Reading.rest, Reading.outcome, h1, List.map_cons]
        · rw [List.reduceOption_cons_of_none, h2]
        · simp only [decodeAll, hr, Reading.rest, h4]
      · obtain ⟨answers, left, code', h1, h2, h3, h4⟩ := ih hlater hrest
        refine ⟨some f :: answers, left, code', ?_, ?_, h3, ?_⟩
        · simp only [decodeAll, hr, Reading.rest, Reading.outcome, h1, List.map_cons]
        · rw [List.reduceOption_cons_of_some, List.cons_append, h2]
        · simp only [decodeAll, hr, Reading.rest, h4]

end Written

/-- Frames come out of a decoder as they were written. Whatever the chunks and the decodings in
between, no decoding is an error, and the frames so far, followed by those that the further
decodings give until one gives none, are the frames that were written; then the trailing octets are
left. -/
theorem decode_written_chunks {limit : Nat} {frames : List Frame} {codes : List Bytes}
    (hcodes : frames.mapM (write limit) = .ok codes) {last : Frame} {lastCode trailing : Bytes}
    (hlast : last.write limit = .ok lastCode) (hpart : trailing <+: lastCode)
    (hproper : trailing ≠ lastCode) {es : List DecoderEvent}
    (hfed : fed es = codes.flatten ++ trailing) :
    ∃ (answers : List (Option Frame)) (later : List Frame),
      (decodeAll limit [] es).1 = answers.map .ok ∧
      answers.reduceOption ++ later = frames ∧
      ∀ extra, decodeAll limit (decodeAll limit [] es).2
          (List.replicate (later.length + extra) .decode) =
        (later.map (.ok ∘ some) ++ List.replicate extra (.ok none), trailing) := by
  obtain ⟨answers, later, code, h1, h2, h3, h4⟩ :=
    decodeAll_of_append_eq hlast hpart hproper hcodes (b := []) hfed
  refine ⟨answers, later, h1, h2, fun extra => ?_⟩
  rw [h4]
  exact decodeAll_replicate hlast hpart hproper h3 extra

def pong : Frame := ⟨7, .response, [⟨.payload, [112]⟩]⟩

/-- Two responses and a part of a third, cut inside a length word and behind a heading. -/
def pongsInPieces : List DecoderEvent :=
  [.feed (pong.bytes.take 3), .decode, .feed (pong.bytes.drop 3 ++ pong.bytes.take 20), .decode,
    .feed (pong.bytes.drop 20 ++ pong.bytes.take 9)]

theorem decode_pongs_in_pieces :
    [pong, pong].mapM (write 64) = .ok [pong.bytes, pong.bytes] ∧
    fed pongsInPieces = [pong.bytes, pong.bytes].flatten ++ pong.bytes.take 9 ∧
    ∃ (answers : List (Option Frame)) (later : List Frame),
      (decodeAll 64 [] pongsInPieces).1 = answers.map .ok ∧
      answers.reduceOption ++ later = [pong, pong] ∧
      ∀ extra, decodeAll 64 (decodeAll 64 [] pongsInPieces).2
          (List.replicate (later.length + extra) .decode) =
        (later.map (.ok ∘ some) ++ List.replicate extra (.ok none), pong.bytes.take 9) := by
  have hcodes : [pong, pong].mapM (write 64) = .ok [pong.bytes, pong.bytes] := by rfl
  have hlast : pong.write 64 = .ok pong.bytes := by rfl
  have hproper : pong.bytes.take 9 ≠ pong.bytes := by decide
  have hfed : fed pongsInPieces = [pong.bytes, pong.bytes].flatten ++ pong.bytes.take 9 := by rfl
  exact ⟨hcodes, hfed,
    decode_written_chunks hcodes hlast (List.take_prefix 9 pong.bytes) hproper hfed⟩

end Rpc.Frame
