import Rpc.Frame.Codec

/-! # Reading back what was written

A frame that the limit lets through is found again at the front of every buffer that begins with
its octets, and exactly its octets are consumed. A buffer that holds only a part of them is not yet
readable. Nothing else is ever read: the decoder gives a frame only where the encoder wrote it.
-/
namespace Rpc

open Message

namespace Part

theorem length_bytes (p : Part) : p.bytes.length = Frame.partHeadSize + p.content.length := by
  simp only [bytes, List.length_append, Bytes.length_ofNat, Frame.partHeadSize]

end Part

namespace Frame

theorem length_flatMap_bytes (parts : List Part) :
    (parts.flatMap Part.bytes).length =
      parts.foldr (fun p size => partHeadSize + p.content.length + size) 0 := by
  induction parts with
  | nil => rfl
  | cons p parts ih =>
    rw [List.flatMap_cons, List.length_append, Part.length_bytes, ih, List.foldr_cons]

theorem length_body (f : Frame) : f.body.length = f.bodySize := by
  have h := length_flatMap_bytes f.parts
  simp only [body, bodySize, List.length_append, Bytes.length_ofNat, List.length_singleton, h,
    headSize]

theorem length_bytes (f : Frame) : f.bytes.length = 4 + f.bodySize := by
  rw [bytes, List.length_append, Bytes.length_ofNat, length_body]

theorem validate_eq_ok_iff {f : Frame} : f.validate = .ok () ↔ f.WellFormed := by
  unfold validate
  split <;> simp_all

theorem WellFormed.length_parts_le {f : Frame} (h : f.WellFormed) : f.parts.length ≤ 3 := by
  have hroles : ∀ k : Kind, ∀ l ∈ layouts k, l.length ≤ 3 := by
    intro k
    cases k <;> decide
  have hlen := hroles f.kind f.roles h
  rwa [roles, List.length_map] at hlen

/-- A frame is written exactly if its parts fit its kind and its size fits the limit and the length
word. The counter of parts never overflows, since no kind allows more than three. -/
theorem write_eq_ok_iff {limit : Nat} {f : Frame} {b : Bytes} :
    f.write limit = .ok b ↔
      f.WellFormed ∧ f.bodySize ≤ limit ∧ f.bodySize < 4294967296 ∧ f.bytes = b := by
  unfold write
  by_cases hw : f.WellFormed
  · have hparts := hw.length_parts_le
    rw [validate_eq_ok_iff.mpr hw]
    by_cases hs : limit < f.bodySize ∨ 4294967296 ≤ f.bodySize
    · simp only [bind, Except.bind, if_pos hs, throw, throwThe, MonadExceptOf.throw]
      constructor
      · intro h
        cases h
      · rintro ⟨-, hl, hm, -⟩
        omega
    · have hc : ¬ 65536 ≤ f.parts.length := by omega
      simp only [bind, Except.bind, if_neg hs, if_neg hc, pure, Except.pure, Except.ok.injEq]
      constructor
      · intro h
        exact ⟨hw, by omega, by omega, h⟩
      · rintro ⟨-, -, -, h⟩
        exact h
  · have hv : f.validate = .error (.invalidFrame (.layout f.roles f.kind)) := if_neg hw
    rw [hv]
    constructor
    · intro h
      cases h
    · rintro ⟨h, -⟩
      exact absurd h hw

theorem partSize_le_bodySize {f : Frame} {p : Part} (hp : p ∈ f.parts) :
    headSize + partHeadSize + p.content.length ≤ f.bodySize := by
  obtain ⟨before, behind, hparts⟩ := List.append_of_mem hp
  have hlength := congrArg (fun parts => (parts.flatMap Part.bytes).length) hparts
  simp only [length_flatMap_bytes, List.flatMap_append, List.flatMap_cons, List.length_append,
    Part.length_bytes] at hlength
  unfold bodySize
  omega

theorem content_length_lt {f : Frame} {n : Nat} (h : f.bodySize < n) {p : Part}
    (hp : p ∈ f.parts) : p.content.length < n := by
  have hsize := partSize_le_bodySize hp
  omega

theorem readParts_bytes_append (p : Part) (h : p.content.length < 4294967296) (n : Nat)
    (b : Bytes) :
    readParts (n + 1) (p.bytes ++ b) =
      match readParts n b with
      | .error e => .error e
      | .ok (parts, left) => .ok (p :: parts, left) := by
  have hlen : ¬ (p.bytes ++ b).length < partHeadSize := by
    rw [List.length_append, Part.length_bytes]
    omega
  have htag : p.role.tag.toNat < Bytes.wordCount 2 := by
    cases p.role <;> decide
  have hrole : Bytes.wordAt (p.bytes ++ b) 0 2 = p.role.tag.toNat := by
    rw [Part.bytes, List.append_assoc, List.append_assoc]
    exact Bytes.wordAt_ofNat_append htag _
  have hsize : Bytes.wordAt (p.bytes ++ b) 2 4 = p.content.length := by
    rw [Part.bytes, List.append_assoc, List.append_assoc, Bytes.wordAt_append_right (by simp),
      Bytes.length_ofNat, Nat.sub_self]
    exact Bytes.wordAt_ofNat_append (by rw [Bytes.wordCount_four]; omega) _
  have hdrop : (p.bytes ++ b).drop partHeadSize = p.content ++ b := by
    have hhead : (Bytes.ofNat 2 p.role.tag.toNat ++ Bytes.ofNat 4 p.content.length).length =
        partHeadSize := by simp [partHeadSize]
    rw [Part.bytes, List.append_assoc, List.drop_left' hhead]
  have hof : Part.Role.ofTag? (UInt16.ofNat p.role.tag.toNat) = some p.role := by
    rw [UInt16.ofNat_toNat]
    exact Part.Role.ofTag?_eq_some_iff.mpr rfl
  have hfit : ¬ (p.content ++ b).length < p.content.length := by
    rw [List.length_append]
    omega
  rw [readParts, if_neg hlen]
  cases hparts : readParts n b <;>
    simp only [hrole, hsize, hdrop, hof, if_neg hfit, List.drop_left, List.take_left, hparts]

theorem readParts_flatMap_bytes {parts : List Part}
    (h : ∀ p ∈ parts, p.content.length < 4294967296) (b : Bytes) :
    readParts parts.length (parts.flatMap Part.bytes ++ b) = .ok (parts, b) := by
  induction parts with
  | nil => rfl
  | cons p parts ih =>
    have hp := h p List.mem_cons_self
    have hrest := ih fun q hq => h q (List.mem_cons_of_mem _ hq)
    rw [List.length_cons, List.flatMap_cons, List.append_assoc, readParts_bytes_append p hp, hrest]

theorem readBody_body {f : Frame} (hw : f.WellFormed) (hs : f.bodySize < 4294967296) :
    readBody f.body = .ok f := by
  have hparts := hw.length_parts_le
  have hconv : Bytes.wordAt f.body 0 8 = f.conversation.toNat := by
    simp only [body, List.append_assoc]
    exact Bytes.wordAt_ofNat_append f.conversation.toNat_lt _
  have hkind : Bytes.wordAt f.body 8 1 = f.kind.tag.toNat := by
    simp only [body, List.append_assoc]
    rw [Bytes.wordAt_append_right (by simp), Bytes.length_ofNat]
    simp [Bytes.wordAt, Bytes.slice, Bytes.toNat]
  have hcount : Bytes.wordAt f.body 9 2 = f.parts.length := by
    simp only [body, List.append_assoc]
    rw [Bytes.wordAt_append_right (by simp), Bytes.length_ofNat,
      Bytes.wordAt_append_right (by simp), List.length_singleton]
    exact Bytes.wordAt_ofNat_append (by rw [Bytes.wordCount_two]; omega) _
  have hdrop : f.body.drop headSize = f.parts.flatMap Part.bytes := by
    have hhead : (Bytes.ofNat 8 f.conversation.toNat ++ [f.kind.tag] ++
        Bytes.ofNat 2 f.parts.length).length = headSize := by simp [headSize]
    rw [body, List.drop_left' hhead]
  have hread : readParts f.parts.length (f.parts.flatMap Part.bytes) = .ok (f.parts, []) := by
    have h := readParts_flatMap_bytes (fun p hp => content_length_lt hs hp) []
    rwa [List.append_nil] at h
  have hof : Kind.ofTag? (UInt8.ofNat f.kind.tag.toNat) = some f.kind := by
    rw [UInt8.ofNat_toNat]
    exact Kind.ofTag?_eq_some_iff.mpr rfl
  have hvalid := validate_eq_ok_iff.mpr hw
  simp only [readBody, hconv, hkind, hcount, hdrop, hof, hread, UInt64.ofNat_toNat,
    List.isEmpty_nil, if_true, hvalid]

/-- The length word of a frame stands at the front of each buffer that begins with the frame. -/
theorem wordAt_bytes_append {f : Frame} (hs : f.bodySize < 4294967296) (b : Bytes) :
    Bytes.wordAt (f.bytes ++ b) 0 4 = f.bodySize := by
  rw [bytes, List.append_assoc]
  exact Bytes.wordAt_ofNat_append (by rw [Bytes.wordCount_four]; omega) _

theorem headSize_le_bodySize (f : Frame) : headSize ≤ f.bodySize := Nat.le_add_right _ _

/-- A written frame in front of a buffer is read back, and the rest of the buffer stays. -/
theorem read_write_append {limit : Nat} {f : Frame} {code : Bytes} (h : f.write limit = .ok code)
    (rest : Bytes) : read limit (code ++ rest) = .frame f rest := by
  obtain ⟨hw, hl, hs, rfl⟩ := write_eq_ok_iff.mp h
  have hlen := f.length_bytes
  have hmin := f.headSize_le_bodySize
  have hword := wordAt_bytes_append hs rest
  have hslice : Bytes.slice (f.bytes ++ rest) 4 f.bodySize = f.body := by
    rw [bytes, List.append_assoc, Bytes.slice_append_right (by simp), Bytes.length_ofNat,
      Nat.sub_self, Bytes.slice_append_left (by rw [length_body]; omega), Bytes.slice,
      List.drop_zero, ← length_body, List.take_length]
  have hdrop : (f.bytes ++ rest).drop (4 + f.bodySize) = rest := List.drop_left' hlen
  have hlong : ¬ (f.bytes ++ rest).length < 4 + f.bodySize := by
    rw [List.length_append]
    omega
  have hfour : ¬ (f.bytes ++ rest).length < 4 := by
    rw [List.length_append]
    omega
  simp only [read, if_neg hfour, hword, if_neg (Nat.not_lt.mpr hl), if_neg (Nat.not_lt.mpr hmin),
    if_neg hlong, hslice, readBody_body hw hs, hdrop]

/-- A part of a frame, be it cut inside the length word or behind it, waits for more. -/
theorem read_eq_incomplete {limit : Nat} {f : Frame} {code b : Bytes}
    (h : f.write limit = .ok code) (hb : b <+: code) (hne : b ≠ code) :
    read limit b = .incomplete := by
  obtain ⟨-, hl, hs, rfl⟩ := write_eq_ok_iff.mp h
  have hlen := f.length_bytes
  have hmin := f.headSize_le_bodySize
  have hshort : b.length < f.bytes.length :=
    Nat.lt_of_le_of_ne hb.length_le fun he => hne (hb.eq_of_length he)
  by_cases hfour : b.length < 4
  · exact if_pos hfour
  · have hword : Bytes.wordAt b 0 4 = f.bodySize := by
      obtain ⟨t, ht⟩ := hb
      have hfull := wordAt_bytes_append hs []
      rw [List.append_nil, ← ht, Bytes.wordAt_append_left (by omega)] at hfull
      exact hfull
    have hcut : b.length < 4 + f.bodySize := by omega
    simp only [read, if_neg hfour, hword, if_neg (Nat.not_lt.mpr hl),
      if_neg (Nat.not_lt.mpr hmin), if_pos hcut]

/-! ## Frames that come from elsewhere -/

theorem readParts_eq {n : Nat} {b left : Bytes} {parts : List Part}
    (h : readParts n b = .ok (parts, left)) :
    b = parts.flatMap Part.bytes ++ left ∧ parts.length = n := by
  induction n generalizing b parts with
  | zero =>
    cases h
    exact ⟨rfl, rfl⟩
  | succ n ih =>
    rw [readParts] at h
    split at h
    · cases h
    · rename_i hhead
      simp only at h
      split at h
      · cases h
      · rename_i role hrole
        split at h
        · cases h
        · rename_i hfit
          split at h
          · cases h
          · rename_i later left' hread
            cases h
            obtain ⟨hrest, hcount⟩ := ih hread
            have hlen : partHeadSize ≤ b.length := Nat.le_of_not_lt hhead
            have hlong : Bytes.wordAt b 2 4 ≤ (b.drop partHeadSize).length := Nat.le_of_not_lt hfit
            have htwo : 0 + 2 ≤ b.length := by
              rw [partHeadSize] at hlen
              omega
            have hfour : 2 + 4 ≤ b.length := hlen
            -- the head of the part is its role and the length of its content
            have htag : role.tag.toNat = Bytes.wordAt b 0 2 := by
              rw [← Part.Role.ofTag?_eq_some_iff.mp hrole]
              exact UInt16.toNat_ofNat_of_lt (Bytes.wordAt_lt htwo)
            have hsize : ((b.drop partHeadSize).take (Bytes.wordAt b 2 4)).length =
                Bytes.wordAt b 2 4 := List.length_take_of_le hlong
            have hbytes : Part.bytes ⟨role, (b.drop partHeadSize).take (Bytes.wordAt b 2 4)⟩ =
                b.take partHeadSize ++ (b.drop partHeadSize).take (Bytes.wordAt b 2 4) := by
              rw [Part.bytes, htag, hsize, Bytes.ofNat_wordAt htwo, Bytes.ofNat_wordAt hfour]
              exact congrArg (· ++ _) (Bytes.slice_append_slice b 0 2 4)
            refine ⟨?_, by rw [List.length_cons, hcount]⟩
            rw [List.flatMap_cons, hbytes, List.append_assoc, List.append_assoc, ← hrest,
              List.take_append_drop, List.take_append_drop]

/-- A frame that is read is well-formed and was written as the body it was read from. -/
theorem body_of_readBody {b : Bytes} {f : Frame} (h : readBody b = .ok f)
    (hb : headSize ≤ b.length) : f.WellFormed ∧ f.body = b := by
  unfold readBody at h
  simp only at h
  split at h
  · cases h
  · rename_i kind hkind
    split at h
    · cases h
    · rename_i parts left hparts
      split at h
      · rename_i hleft
        split at h
        · rename_i hvalid
          cases h
          refine ⟨validate_eq_ok_iff.mp hvalid, ?_⟩
          obtain ⟨hrest, hcount⟩ := readParts_eq hparts
          rw [List.isEmpty_iff.mp hleft, List.append_nil] at hrest
          have height : 0 + 8 ≤ b.length := Nat.le_trans (by decide) hb
          have hnine : 8 + 1 ≤ b.length := Nat.le_trans (by decide) hb
          have heleven : 9 + 2 ≤ b.length := hb
          have hconversation : (UInt64.ofNat (Bytes.wordAt b 0 8)).toNat = Bytes.wordAt b 0 8 :=
            UInt64.toNat_ofNat_of_lt (Bytes.wordAt_lt height)
          have htag : [kind.tag] = Bytes.ofNat 1 (Bytes.wordAt b 8 1) := by
            rw [← Kind.ofTag?_eq_some_iff.mp hkind]
            rfl
          rw [body, hconversation, htag, hcount, ← hrest, Bytes.ofNat_wordAt height,
            Bytes.ofNat_wordAt hnine, Bytes.ofNat_wordAt heleven]
          rw [Bytes.slice_append_slice b 0 8 1, Bytes.slice_append_slice b 0 9 2]
          exact List.take_append_drop headSize b
        · cases h
      · cases h

/-- A frame is read only from octets that writing it gives. -/
theorem write_of_read {limit : Nat} {b rest : Bytes} {f : Frame}
    (h : read limit b = .frame f rest) :
    ∃ code, f.write limit = .ok code ∧ b = code ++ rest := by
  unfold read at h
  split at h
  · cases h
  · rename_i hshort
    simp only at h
    split at h
    · cases h
    · rename_i hlimit
      split at h
      · cases h
      · rename_i hhead
        split at h
        · cases h
        · rename_i hwhole
          split at h
          · rename_i f' hbody
            cases h
            have hword : 0 + 4 ≤ b.length := by omega
            have hlen : (Bytes.slice b 4 (Bytes.wordAt b 0 4)).length = Bytes.wordAt b 0 4 :=
              Bytes.length_slice (by omega)
            obtain ⟨hformed, hsame⟩ := body_of_readBody hbody (by omega)
            have hsize : f.bodySize = Bytes.wordAt b 0 4 := by
              rw [← length_body, hsame, hlen]
            have hbytes : f.bytes = b.take (4 + Bytes.wordAt b 0 4) := by
              rw [bytes, hsize, hsame, Bytes.ofNat_wordAt hword]
              exact Bytes.slice_append_slice b 0 4 _
            have hmax : f.bodySize < 4294967296 := by
              rw [hsize]
              exact Bytes.wordAt_lt hword
            refine ⟨f.bytes, write_eq_ok_iff.mpr ⟨hformed, by omega, hmax, rfl⟩, ?_⟩
            rw [hbytes, List.take_append_drop]
          · cases h

theorem bodySize_le_of_read {limit : Nat} {b rest : Bytes} {f : Frame}
    (h : read limit b = .frame f rest) : f.bodySize ≤ limit := by
  obtain ⟨code, hwrite, -⟩ := write_of_read h
  exact (write_eq_ok_iff.mp hwrite).2.1

/-- The octets of a frame in front of a buffer are those from which it is read. -/
theorem read_eq_frame_iff {limit : Nat} {b rest : Bytes} {f : Frame} :
    read limit b = .frame f rest ↔ ∃ code, f.write limit = .ok code ∧ b = code ++ rest := by
  constructor
  · exact write_of_read
  · rintro ⟨code, hwrite, rfl⟩
    exact read_write_append hwrite rest

theorem outcome_eq_some_iff {limit : Nat} {b : Bytes} {f : Frame} :
    (read limit b).outcome = .ok (some f) ↔
      read limit b = .frame f ((read limit b).rest b) := by
  cases read limit b with
  | incomplete | stuck cause | refused cause rest => simp [Reading.outcome]
  | frame g rest => simp [Reading.outcome, Reading.rest]

/-- What a decoder and an encoder of one limit make of a buffer. -/
structure Agrees (limit : Nat) (b : Bytes) : Prop where
  accepts : ∀ f, (read limit b).outcome = .ok (some f) ↔
    ∃ code, f.write limit = .ok code ∧ code <+: b
  unique : ∀ (f g : Frame) (code other : Bytes), f.write limit = .ok code → code <+: b →
    g.write limit = .ok other → other <+: b → f = g ∧ code = other
  rewrites : ∀ f, (read limit b).outcome = .ok (some f) →
    ∃ code, f.write limit = .ok code ∧ b = code ++ (read limit b).rest b

theorem agrees (limit : Nat) (b : Bytes) : Agrees limit b := by
  constructor
  · intro f
    rw [outcome_eq_some_iff]
    constructor
    · intro h
      obtain ⟨code, hwrite, hb⟩ := read_eq_frame_iff.mp h
      exact ⟨code, hwrite, _, hb.symm⟩
    · rintro ⟨code, hwrite, rest, rfl⟩
      rw [read_write_append hwrite rest]
      rfl
  · intro f g code other hf ⟨rest, hb⟩ hg ⟨rest', hb'⟩
    have hread : read limit b = .frame f rest := read_eq_frame_iff.mpr ⟨code, hf, hb.symm⟩
    have hread' : read limit b = .frame g rest' := read_eq_frame_iff.mpr ⟨other, hg, hb'.symm⟩
    obtain ⟨rfl, rfl⟩ := Reading.frame.inj (hread.symm.trans hread')
    exact ⟨rfl, List.append_cancel_right (hb.trans hb'.symm)⟩
  · intro f h
    exact read_eq_frame_iff.mp (outcome_eq_some_iff.mp h)

/-- The decoder and the encoder speak one language. What a decoder gives for a buffer is the frame
whose octets the buffer begins with, if there is one; there is one such frame at most, its octets
are what is consumed, and encoding it again gives them back. Hence the frames that the decoder may
give are those that the encoder takes. -/
theorem reads_what_is_written (limit : Nat) :
    (∀ b, Agrees limit b) ∧
    ∀ f : Frame, (∃ b, (read limit b).outcome = .ok (some f)) ↔ ∃ code, f.write limit = .ok code := by
  refine ⟨agrees limit, fun f => ?_⟩
  constructor
  · rintro ⟨b, hb⟩
    obtain ⟨code, hwrite, -⟩ := ((agrees limit b).accepts f).mp hb
    exact ⟨code, hwrite⟩
  · rintro ⟨code, hwrite⟩
    exact ⟨code, ((agrees limit code).accepts f).mpr ⟨code, hwrite, List.prefix_refl code⟩⟩

end Frame

end Rpc
