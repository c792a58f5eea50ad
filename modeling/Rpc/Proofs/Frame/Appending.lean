import Rpc.Proofs.Frame.ReadBack

/-! # Appending frames to a buffer

A frame is put behind whatever a buffer holds, field after field, once all checks have passed. So a
refused frame leaves no trace in the buffer, and a frame that is let through adds as many octets as
its size foretold. Each size and count is then small enough for its field, so all of them can be
read off the octets again.
-/
namespace Rpc.Frame

open Bytes

/-! ## Field after field -/

/-- Steps that add octets to a buffer until one of them fails. -/
abbrev Steps : Type → Type := ExceptT CodecError (StateM Bytes)

def emit (b : Bytes) : Steps Unit := modify (· ++ b)

def putPart (p : Part) : Steps Unit := do
  emit (ofNat 2 p.role.tag.toNat)
  emit (ofNat 4 p.content.length)
  emit p.content

def putFields (f : Frame) : Steps Unit := do
  emit (ofNat 4 f.bodySize)
  emit (ofNat 8 f.conversation.toNat)
  emit [f.kind.tag]
  emit (ofNat 2 f.parts.length)
  forM f.parts putPart

/-- Puts a frame onto a buffer, unless a check fails. -/
def put (limit : Nat) (f : Frame) : Steps Unit := do
  liftM f.validate
  if limit < f.bodySize ∨ 4294967296 ≤ f.bodySize then
    throw (.frameTooLarge f.bodySize limit)
  if 65536 ≤ f.parts.length then
    throw (.invalidFrame .tooManyParts)
  f.putFields

section Steps

variable {α β : Type} {buffer : Bytes}

theorem run_bind (x : Steps α) (next : α → Steps β) :
    (x >>= next).run buffer = ExceptT.bindCont next (x.run buffer).1 (x.run buffer).2 := rfl

theorem run_bind_of_ok {x : Steps α} {next : α → Steps β} {a : α} {buffer' : Bytes}
    (h : x.run buffer = (.ok a, buffer')) : (x >>= next).run buffer = (next a).run buffer' := by
  rw [run_bind, h]
  rfl

theorem run_bind_of_error {x : Steps α} {next : α → Steps β} {e : CodecError} {buffer' : Bytes}
    (h : x.run buffer = (.error e, buffer')) : (x >>= next).run buffer = (.error e, buffer') := by
  rw [run_bind, h]
  rfl

theorem run_emit (b : Bytes) : (emit b).run buffer = (.ok (), buffer ++ b) := rfl

theorem run_putPart (p : Part) : (putPart p).run buffer = (.ok (), buffer ++ p.bytes) := by
  rw [putPart, run_bind_of_ok (run_emit _), run_bind_of_ok (run_emit _), run_emit, Part.bytes,
    List.append_assoc, List.append_assoc, List.append_assoc]

theorem run_forM_putPart (parts : List Part) :
    (forM parts putPart : Steps Unit).run buffer =
      (.ok (), buffer ++ parts.flatMap Part.bytes) := by
  induction parts generalizing buffer with
  | nil =>
    rw [List.flatMap_nil, List.append_nil]
    rfl
  | cons p parts ih =>
    rw [List.forM_cons, run_bind_of_ok (run_putPart p), ih, List.flatMap_cons, List.append_assoc]

theorem run_putFields (f : Frame) : f.putFields.run buffer = (.ok (), buffer ++ f.bytes) := by
  rw [putFields, run_bind_of_ok (run_emit _), run_bind_of_ok (run_emit _),
    run_bind_of_ok (run_emit _), run_bind_of_ok (run_emit _), run_forM_putPart, bytes, body]
  simp only [List.append_assoc]

end Steps

/-- Octets are put down only once no check can fail any more. -/
theorem run_put (limit : Nat) (f : Frame) (buffer : Bytes) :
    (f.put limit).run buffer = f.writeOnto limit buffer := by
  unfold put writeOnto write
  cases hvalid : f.validate with
  | error e =>
    apply run_bind_of_error
    rfl
  | ok u =>
    by_cases hsize : limit < f.bodySize ∨ 4294967296 ≤ f.bodySize
    · simp only [if_pos hsize]
      rfl
    · by_cases hcount : 65536 ≤ f.parts.length
      · simp only [if_neg hsize, if_pos hcount]
        rfl
      · simp only [if_neg hsize, if_neg hcount]
        exact run_putFields f

/-! ## What the octets tell -/

section Place

variable {code front back : Bytes} {pos : Nat}

theorem wordAt_place {w n : Nat} (hn : n < wordCount w) (hcode : code = front ++ (ofNat w n ++ back))
    (hpos : front.length = pos) : wordAt code pos w = n := by
  subst hpos
  rw [hcode, wordAt_append_right (Nat.le_refl _), Nat.sub_self, wordAt_ofNat_append hn]

theorem slice_place {x : Bytes} (hcode : code = front ++ (x ++ back)) (hpos : front.length = pos) :
    slice code pos x.length = x := by
  subst hpos
  rw [hcode, slice_append_right (Nat.le_refl _), Nat.sub_self,
    slice_append_left (Nat.le_of_eq (Nat.zero_add _))]
  exact List.take_length

end Place

/-- Where a part begins that has some parts in front of it. -/
def partPlace (before : List Part) : Nat := 4 + headSize + (before.flatMap Part.bytes).length

/-- The octets of a part tell its role, its size and its content. -/
structure PartLayout (code : Bytes) (pos : Nat) (p : Part) : Prop where
  role : wordAt code pos 2 = p.role.tag.toNat
  size : wordAt code (pos + 2) 4 = p.content.length
  content : slice code (pos + partHeadSize) p.content.length = p.content

/-- Octets of as many as a frame takes, from which its sizes and counts and all else can be read. -/
structure WireLayout (f : Frame) (code : Bytes) : Prop where
  length : code.length = 4 + f.bodySize
  size : wordAt code 0 4 = f.bodySize
  conversation : wordAt code 4 8 = f.conversation.toNat
  kind : wordAt code 12 1 = f.kind.tag.toNat
  count : wordAt code 13 2 = f.parts.length
  parts : ∀ before p behind, f.parts = before ++ p :: behind → PartLayout code (partPlace before) p

theorem partLayout {code front back : Bytes} {p : Part} {pos : Nat}
    (hsize : p.content.length < 4294967296) (hcode : code = front ++ (p.bytes ++ back))
    (hpos : front.length = pos) : PartLayout code pos p := by
  have htag : p.role.tag.toNat < wordCount 2 := by
    cases p.role <;> decide
  have hlong : p.content.length < wordCount 4 := by
    rwa [wordCount_four]
  rw [Part.bytes, List.append_assoc, List.append_assoc] at hcode
  refine ⟨wordAt_place htag hcode hpos, ?_, ?_⟩
  · rw [← List.append_assoc] at hcode
    apply wordAt_place hlong hcode
    rw [List.length_append, length_ofNat, hpos]
  · rw [← List.append_assoc, ← List.append_assoc] at hcode
    apply slice_place hcode
    simp only [List.length_append, length_ofNat, hpos, partHeadSize]

theorem wireLayout_bytes {f : Frame} (hw : f.WellFormed) (hsize : f.bodySize < 4294967296) :
    WireLayout f f.bytes := by
  have hfew := hw.length_parts_le
  have hlong : f.bodySize < wordCount 4 := by
    rwa [wordCount_four]
  have hcount : f.parts.length < wordCount 2 := by
    rw [wordCount_two]
    omega
  have htag : [f.kind.tag] = ofNat 1 f.kind.tag.toNat := by
    rw [ofNat, UInt8.ofNat_toNat, ofNat]
  -- the octets of the frame, cut in front of each field
  have hbytes : f.bytes = [] ++ (ofNat 4 f.bodySize ++ f.body) := rfl
  have hnumber : f.bytes = ofNat 4 f.bodySize ++ (ofNat 8 f.conversation.toNat ++
      ([f.kind.tag] ++ ofNat 2 f.parts.length ++ f.parts.flatMap Part.bytes)) := by
    simp only [bytes, body, List.append_assoc]
  have hkind : f.bytes = ofNat 4 f.bodySize ++ ofNat 8 f.conversation.toNat ++
      (ofNat 1 f.kind.tag.toNat ++ (ofNat 2 f.parts.length ++ f.parts.flatMap Part.bytes)) := by
    simp only [bytes, body, htag, List.append_assoc]
  have hparts : f.bytes = ofNat 4 f.bodySize ++ ofNat 8 f.conversation.toNat ++ [f.kind.tag] ++
      (ofNat 2 f.parts.length ++ f.parts.flatMap Part.bytes) := by
    simp only [bytes, body, List.append_assoc]
  refine ⟨length_bytes f, wordAt_place hlong hbytes rfl,
    wordAt_place f.conversation.toNat_lt hnumber (length_ofNat 4 _),
    wordAt_place f.kind.tag.toNat_lt hkind (by simp), wordAt_place hcount hparts (by simp),
    fun before p behind hsplit => ?_⟩
  have hp : p ∈ f.parts := by
    rw [hsplit]
    exact List.mem_append_right before List.mem_cons_self
  have hcut : f.bytes = ofNat 4 f.bodySize ++ ofNat 8 f.conversation.toNat ++ [f.kind.tag] ++
      ofNat 2 f.parts.length ++ before.flatMap Part.bytes ++
        (p.bytes ++ behind.flatMap Part.bytes) := by
    have hflat : f.parts.flatMap Part.bytes =
        before.flatMap Part.bytes ++ (p.bytes ++ behind.flatMap Part.bytes) := by
      rw [hsplit, List.flatMap_append, List.flatMap_cons]
    simp only [bytes, body, hflat, List.append_assoc]
  apply partLayout (content_length_lt hsize hp) hcut
  simp only [List.length_append, length_ofNat, List.length_singleton, partPlace, headSize]

/-! ## Frames that are put down, and others -/

/-- Why a frame is not put down: its parts do not fit its kind, or the octets of its body are too
many. -/
inductive Refused (limit : Nat) (f : Frame) : CodecError → Prop
  | layout {flaw : FrameFlaw} (hvalid : f.validate = .error (.invalidFrame flaw)) :
      Refused limit f (.invalidFrame flaw)
  | size (hvalid : f.validate = .ok ()) (hsize : limit < f.bodySize ∨ 4294967296 ≤ f.bodySize) :
      Refused limit f (.frameTooLarge f.body.length limit)

section Writing

variable {limit : Nat} {f : Frame}

theorem Refused.write {e : CodecError} (h : Refused limit f e) : f.write limit = .error e := by
  cases h with
  | layout hvalid =>
    rw [Frame.write, hvalid]
    rfl
  | size hvalid hsize =>
    rw [Frame.write, hvalid, length_body]
    simp only [bind, Except.bind, if_pos hsize]
    rfl

theorem write_or_refused (limit : Nat) (f : Frame) :
    f.write limit = .ok f.bytes ∨ ∃ e, Refused limit f e := by
  by_cases hw : f.WellFormed
  · by_cases hsize : limit < f.bodySize ∨ 4294967296 ≤ f.bodySize
    · exact .inr ⟨_, .size (validate_eq_ok_iff.mpr hw) hsize⟩
    · exact .inl (write_eq_ok_iff.mpr ⟨hw, by omega, by omega, rfl⟩)
  · exact .inr ⟨_, .layout (if_neg hw)⟩

end Writing

/-- How a frame gets onto a buffer, or why it does not. -/
structure Appends (limit : Nat) (buffer : Bytes) (f : Frame) : Prop where
  /-- Field after field, the buffer comes to the same. -/
  stepwise : (f.put limit).run buffer = f.writeOnto limit buffer
  accepted : (f.writeOnto limit buffer).1 = .ok () ↔
    f.validate = .ok () ∧ f.bodySize ≤ limit ∧ f.bodySize < 4294967296
  appended : (f.writeOnto limit buffer).1 = .ok () →
    ∃ code, (f.writeOnto limit buffer).2 = buffer ++ code ∧ WireLayout f code
  refused : ∀ e, (f.writeOnto limit buffer).1 = .error e →
    Refused limit f e ∧ (f.writeOnto limit buffer).2 = buffer

/-- A frame is put onto a buffer exactly if its parts fit its kind and its size fits the limit and
the length word. Then all its octets stand behind those that were there, and every size, count and
content can be read off them; otherwise the buffer is as it was, and the error is that of the parts
or else tells how many octets the body would have had. -/
theorem appends_onto (limit : Nat) (buffer : Bytes) (f : Frame) : Appends limit buffer f := by
  have hstepwise := run_put limit f buffer
  rcases write_or_refused limit f with hwrite | ⟨e, hrefused⟩
  · obtain ⟨hw, hlimit, hword, -⟩ := write_eq_ok_iff.mp hwrite
    have hresult : f.writeOnto limit buffer = (.ok (), buffer ++ f.bytes) := by
      rw [writeOnto, hwrite]
    refine ⟨hstepwise, ?_, ?_, ?_⟩ <;> rw [hresult]
    · exact ⟨fun _ => ⟨validate_eq_ok_iff.mpr hw, hlimit, hword⟩, fun _ => rfl⟩
    · exact fun _ => ⟨f.bytes, rfl, wireLayout_bytes hw hword⟩
    · intro e he
      cases he
  · have hresult : f.writeOnto limit buffer = (.error e, buffer) := by
      rw [writeOnto, hrefused.write]
    refine ⟨hstepwise, ?_, ?_, ?_⟩ <;> rw [hresult]
    · constructor
      · intro h
        cases h
      · rintro ⟨hvalid, hlimit, hword⟩
        have hwrite : f.write limit = .ok f.bytes :=
          write_eq_ok_iff.mpr ⟨validate_eq_ok_iff.mp hvalid, hlimit, hword, rfl⟩
        rw [hrefused.write] at hwrite
        cases hwrite
    · intro h
      cases h
    · intro e' he
      cases he
      exact ⟨hrefused, rfl⟩

end Rpc.Frame
