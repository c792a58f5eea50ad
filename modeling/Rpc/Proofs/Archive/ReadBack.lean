import Rpc.Archive.Content

/-! # Archives are read back

A text goes into its cell or before it, and the first octet of the cell tells which: it is never a
continuation octet if the text stands in the cell, and always one if it does not. The value of an
archive stands where the reader looks for it, and what it points to lies before it. Headings and
faults therefore come back as they were.
-/
namespace Rpc

namespace Bytes

theorem ofText_eq_flatMap (s : String) : ofText s = s.toList.flatMap String.utf8EncodeChar := by
  rw [ofText, String.toUTF8_eq_toByteArray, ← String.utf8Encode_toList]
  exact List.toList_data_toByteArray

theorem lt_of_mem_utf8EncodeChar {c : Char} {b : UInt8} (h : b ∈ String.utf8EncodeChar c) :
    b.toNat < 255 := by
  have hbyte : ∀ n : Nat, n < 255 → (UInt8.ofNat n).toNat < 255 := by
    intro n hn
    rwa [UInt8.toNat_ofNat', Nat.mod_eq_of_lt (by omega)]
  unfold String.utf8EncodeChar at h
  simp only at h
  split at h
  · rw [List.mem_singleton.mp h]
    exact hbyte _ (by omega)
  · split at h
    · simp only [List.mem_cons, List.not_mem_nil, or_false] at h
      rcases h with rfl | rfl <;> exact hbyte _ (by omega)
    · split at h
      · simp only [List.mem_cons, List.not_mem_nil, or_false] at h
        rcases h with rfl | rfl | rfl <;> exact hbyte _ (by omega)
      · simp only [List.mem_cons, List.not_mem_nil, or_false] at h
        rcases h with rfl | rfl | rfl | rfl <;> exact hbyte _ (by omega)

/-- Filler octets occur in no text. -/
theorem ne_of_mem_ofText {s : String} {b : UInt8} (h : b ∈ ofText s) : b ≠ 0xff := by
  rw [ofText_eq_flatMap] at h
  obtain ⟨c, -, hc⟩ := List.mem_flatMap.mp h
  have hlt := lt_of_mem_utf8EncodeChar hc
  rintro rfl
  exact absurd hlt (by decide)

/-- The first octet of a text is no continuation octet. -/
theorem head_ofText {s : String} {b : UInt8} {rest : Bytes} (h : ofText s = b :: rest) :
    b.toNat / 64 ≠ 2 := by
  have hsize : 0 < s.toUTF8.size := by
    rw [ByteArray.size, ← Array.length_toList]
    change 0 < (ofText s).length
    simp [h]
  have hfirst := s.isValidUTF8.isUTF8FirstByte_getElem_zero hsize
  have hget : s.toByteArray[0] = b := by
    change s.toUTF8.data[0] = b
    rw [← Array.getElem_toList]
    have hlength : 0 < (ofText s).length := by simp [h]
    change (ofText s)[0] = b
    simp [h]
  rw [hget] at hfirst
  revert hfirst
  have hall : ∀ n : Nat, n < 256 → (UInt8.ofNat n).IsUTF8FirstByte →
      (UInt8.ofNat n).toNat / 64 ≠ 2 := by decide +kernel
  have hb := hall b.toNat b.toNat_lt
  rwa [UInt8.ofNat_toNat] at hb

theorem slice_slice {b : Bytes} {pos size i width : Nat} (h : i + width ≤ size) :
    slice (slice b pos size) i width = slice b (pos + i) width := by
  have hmin : min width (size - i) = width := by omega
  simp only [slice, List.drop_take, List.take_take, List.drop_drop, hmin]

end Bytes

namespace Archive

open Message Bytes

theorem locate_eq_ok {lo hi p size align : Nat} (hlo : lo ≤ p) (hhi : p + size ≤ hi)
    (ha : p % align = 0) : locate lo hi p size align = .ok p := by
  unfold locate
  have hin : ¬ ((p : Int) < lo ∨ (hi : Int) < p + size) := by omega
  rw [if_neg hin, Int.toNat_natCast, if_neg (not_not_intro ha)]

theorem asText_ofText (s : String) : asText (ofText s) = .ok s := by
  rw [asText, text?_ofText]

section Text

variable {b : Bytes} {s : String} {target here lo hi : Nat}

/-- A text of up to eight octets is read from its cell. -/
theorem readText_of_short (hcell : slice b here 8 = textCell (ofText s) target here)
    (hs : (ofText s).length ≤ 8) : readText b lo hi here = .ok (s, lo) := by
  rw [textCell, if_pos hs] at hcell
  have hword : wordAt b here 4 =
      toNat (((ofText s) ++ List.replicate (8 - (ofText s).length) 0xff).take 4) := by
    rw [← hcell, wordAt, slice, slice, List.take_take]
    rfl
  have hcode : ¬ wordAt b here 4 % 256 / 64 = 2 := by
    rw [hword]
    cases ht : ofText s with
    | nil => decide
    | cons x rest =>
      have hx := head_ofText ht
      have hlt := x.toNat_lt
      simp only [List.cons_append, List.take_succ_cons, Bytes.toNat]
      omega
  have htext : (slice b here 8).takeWhile (· ≠ 0xff) = ofText s := by
    have hall : ∀ x ∈ ofText s, decide (x ≠ (0xff : UInt8)) = true := fun x hx =>
      decide_eq_true (ne_of_mem_ofText hx)
    rw [hcell, List.takeWhile_append_of_pos hall]
    cases 8 - (ofText s).length <;> simp [List.replicate_succ]
  simp only [readText, if_neg hcode, htext, asText_ofText]
  rfl

/-- A longer text is read from where its cell points to. -/
theorem readText_of_long (hcell : slice b here 8 = textCell (ofText s) target here)
    (hl : 8 < (ofText s).length) (hmax : (ofText s).length < 1073741824)
    (hdata : slice b target (ofText s).length = ofText s) (hlo : lo ≤ target)
    (hhi : target + (ofText s).length ≤ hi) (ht : target < 2147483648) (hh : here < 2147483648) :
    readText b lo hi here = .ok (s, target + (ofText s).length) := by
  rw [textCell, if_neg (by omega)] at hcell
  have hlt : lengthCode (ofText s).length < wordCount 4 := by
    unfold lengthCode
    rw [wordCount_four]
    omega
  have hcode : wordAt b here 4 = lengthCode (ofText s).length := by
    have h : wordAt b here 4 = wordAt (slice b here 8) 0 4 := by
      rw [wordAt, wordAt, slice_slice (by omega), Nat.add_zero]
    rw [h, hcell, wordAt_ofNat_append hlt]
  have hpointer : slice b (here + 4) 4 = ofInt32 ((target : Int) - here) := by
    have h : slice b (here + 4) 4 = slice (slice b here 8) 4 4 := by rw [slice_slice (by omega)]
    rw [h, hcell, slice_append_right (by simp), length_ofNat, Nat.sub_self, slice, List.drop_zero,
      List.take_of_length_le (by simp)]
  have hpos : (here : Int) + toInt32 (slice b (here + 4) 4) = target := by
    rw [hpointer, toInt32_ofInt32 (by omega) (by omega)]
    omega
  have hsize : lengthCode (ofText s).length % 64 + lengthCode (ofText s).length / 256 * 64 =
      (ofText s).length := by
    unfold lengthCode
    omega
  have htop : lengthCode (ofText s).length % 256 / 64 = 2 := by
    unfold lengthCode
    omega
  have hnot : ¬ (ofText s).length ≤ 8 := by omega
  simp only [readText, hcode, htop, if_true, hsize, if_neg hnot, hpos,
    locate_eq_ok hlo hhi (Nat.mod_one _), hdata, asText_ofText, bind, Except.bind]
  rfl

theorem readText_textCell (hcell : slice b here 8 = textCell (ofText s) target here)
    (hmax : (ofText s).length < 1073741824)
    (hdata : 8 < (ofText s).length → slice b target (ofText s).length = ofText s)
    (hlo : lo ≤ target) (hhi : target + (longText (ofText s)).length ≤ hi)
    (ht : target < 2147483648) (hh : here < 2147483648) :
    readText b lo hi here =
      .ok (s, if (ofText s).length ≤ 8 then lo else target + (ofText s).length) := by
  by_cases hs : (ofText s).length ≤ 8
  · rw [if_pos hs]
    exact readText_of_short hcell hs
  · have hl : 8 < (ofText s).length := by omega
    rw [longText, if_neg hs] at hhi
    rw [if_neg hs]
    exact readText_of_long hcell hl hmax (hdata hl) hlo hhi ht hh

/-- Octets are read from where their cell points to. -/
theorem readVector_vectorCell {size : Nat} (hcell : slice b here 8 = vectorCell target size here)
    (hs : size < 4294967296) (hlo : lo ≤ target) (hhi : target + size ≤ hi)
    (ht : target < 2147483648) (hh : here < 2147483648) :
    readVector b lo hi here = .ok (slice b target size, target + size) := by
  have hsize : wordAt b (here + 4) 4 = size := by
    have h : slice b (here + 4) 4 = slice (slice b here 8) 4 4 := by rw [slice_slice (by omega)]
    rw [wordAt, h, hcell, vectorCell, slice_append_right (by simp), length_ofInt32, Nat.sub_self,
      slice, List.drop_zero, List.take_of_length_le (by simp),
      toNat_ofNat_of_lt (by rw [wordCount_four]; omega)]
  have hpointer : slice b here 4 = ofInt32 ((target : Int) - here) := by
    have h : slice b here 4 = slice (slice b here 8) 0 4 := by
      rw [slice_slice (by omega), Nat.add_zero]
    rw [h, hcell, vectorCell, slice_append_left (by simp), slice, List.drop_zero,
      List.take_of_length_le (by simp)]
  have hpos : Archive.target b here = target := by
    rw [Archive.target, hpointer, toInt32_ofInt32 (by omega) (by omega)]
    omega
  simp only [readVector, hsize, hpos, locate_eq_ok hlo hhi (Nat.mod_one _), bind, Except.bind]
  rfl

end Text

section Values

variable {α : Type} {data : Bytes} {value : Nat → Bytes} {size : Nat}

def valuePlace (data : Bytes) : Nat := data.length + (padding 4 data.length).length

theorem valuePlace_mod (data : Bytes) : valuePlace data % 4 = 0 := by
  simp only [valuePlace, padding, List.length_replicate]
  omega

theorem length_le_valuePlace (data : Bytes) : data.length ≤ valuePlace data := Nat.le_add_right _ _

theorem length_finish : (finish data value).length =
    valuePlace data + (value (valuePlace data)).length := by
  simp only [finish, valuePlace, List.length_append]

/-- The reader opens an archive at its value. -/
theorem openValue_finish (hv : (value (valuePlace data)).length = size)
    (read : Nat → Except ArchiveFlaw α) :
    openValue (finish data value) size read =
      match read (valuePlace data) with
      | .error e => .error (.deserialization e)
      | .ok a => .ok a := by
  have hlen : (finish data value).length = valuePlace data + size := by rw [length_finish, hv]
  have hplace : (finish data value).length - size = valuePlace data := by omega
  have hlocate := locate_eq_ok (Nat.zero_le _) (Nat.le_of_eq hlen.symm) (valuePlace_mod data)
  cases hread : read (valuePlace data) <;> simp only [openValue, hplace, hlocate, hread]

theorem slice_finish_value (i width : Nat) : slice (finish data value) (valuePlace data + i) width =
    slice (value (valuePlace data)) i width := by
  have hlen : (data ++ padding 4 data.length).length = valuePlace data := by
    simp [valuePlace]
  have hle : (data ++ padding 4 data.length).length ≤ valuePlace data + i := by omega
  have h := slice_append_right (b := value (valuePlace data)) hle width
  rwa [hlen, Nat.add_sub_cancel_left] at h

theorem slice_finish_data {pos width : Nat} (h : pos + width ≤ data.length) :
    slice (finish data value) pos width = slice data pos width := by
  rw [finish, List.append_assoc, slice_append_left h]

theorem slice_zero_append (a b : Bytes) : slice (a ++ b) 0 a.length = a := by
  simp [slice]

theorem bounded_eq_ok {texts : List Bytes} {archive b : Bytes} (h : bounded texts archive = .ok b) :
    (∀ t ∈ texts, t.length < 1073741824) ∧ archive.length < 2147483648 ∧ b = archive := by
  unfold bounded at h
  split at h
  · cases h
  · rename_i hnot
    cases h
    simp only [Bool.or_eq_true, List.any_eq_true, decide_eq_true_eq, not_or, not_exists, not_and,
      Nat.not_le] at hnot
    exact ⟨hnot.1, hnot.2, rfl⟩

end Values

end Archive

namespace Message

open Archive Bytes

/-- A heading that can be archived comes back. -/
theorem Heading.ofBytes_toBytes {h : Heading} {b : Bytes} (hb : h.toBytes = .ok b) :
    Heading.ofBytes b = .ok h := by
  obtain ⟨htext, hsize, rfl⟩ := bounded_eq_ok hb
  have hmax := htext _ List.mem_cons_self
  have hplace : valuePlace (longText (ofText h.method)) < 2147483648 := by
    rw [headingBytes, length_finish] at hsize
    omega
  have hcell : slice (headingBytes h) (valuePlace (longText (ofText h.method))) 8 =
      textCell (ofText h.method) 0 (valuePlace (longText (ofText h.method))) := by
    have hvalue : slice (headingBytes h) (valuePlace (longText (ofText h.method)) + 0) 8 = _ :=
      slice_finish_value 0 8
    rw [Nat.add_zero] at hvalue
    rw [hvalue, slice, List.drop_zero, List.take_of_length_le (by simp)]
  have hdata : 8 < (ofText h.method).length →
      slice (headingBytes h) 0 (ofText h.method).length = ofText h.method := by
    intro hl
    have hlong : longText (ofText h.method) = ofText h.method := if_neg (by omega)
    rw [headingBytes, slice_finish_data (by simp [hlong]), hlong]
    exact List.take_length
  have hend : 0 + (longText (ofText h.method)).length ≤
      valuePlace (longText (ofText h.method)) := by
    rw [Nat.zero_add]
    exact length_le_valuePlace _
  have hread := readText_textCell hcell hmax hdata (Nat.le_refl 0) hend (by omega) hplace
  have hopen : readHeading (headingBytes h) = _ := openValue_finish (by simp) _
  rw [Heading.ofBytes, hopen, hread]
  rfl

/-- What stands before the value of a fault. -/
def faultData (f : Fault) : Bytes := longText (ofText f.text) ++ f.details.getD []

/-- The cells behind the text of a fault. -/
def faultTail (f : Fault) (here : Nat) : Bytes :=
  match f.details with
  | none => List.replicate 12 0
  | some d => [1, 0, 0, 0] ++ vectorCell (longText (ofText f.text)).length d.length (here + 16)

def faultValue (f : Fault) (here : Nat) : Bytes :=
  ofNat 4 f.code.toNat ++ textCell (ofText f.text) 0 (here + 4) ++ faultTail f here

theorem faultBytes_eq (f : Fault) : faultBytes f = finish (faultData f) (faultValue f) := rfl

@[simp] theorem length_faultTail (f : Fault) (here : Nat) : (faultTail f here).length = 12 := by
  unfold faultTail
  split <;> simp

@[simp] theorem length_faultValue (f : Fault) (here : Nat) : (faultValue f here).length = 24 := by
  simp [faultValue]

theorem slice_faultValue (f : Fault) (here : Nat) :
    slice (faultValue f here) 0 4 = ofNat 4 f.code.toNat ∧
    slice (faultValue f here) 4 8 = textCell (ofText f.text) 0 (here + 4) ∧
    slice (faultValue f here) 12 12 = faultTail f here := by
  unfold faultValue
  refine ⟨?_, ?_, ?_⟩
  · rw [List.append_assoc, slice_append_left (by simp), slice, List.drop_zero,
      List.take_of_length_le (by simp)]
  · rw [slice_append_left (by simp), slice_append_right (by simp), slice]
    simp [List.take_of_length_le]
  · rw [slice_append_right (by simp), slice]
    simp [List.take_of_length_le]

section Fault

variable {f : Fault}

/-- A part of the value of a fault, as it stands in the archive. -/
theorem slice_faultBytes (f : Fault) (i width : Nat) :
    slice (faultBytes f) (valuePlace (faultData f) + i) width =
      slice (faultValue f (valuePlace (faultData f))) i width := by
  rw [faultBytes_eq, slice_finish_value]

theorem slice_faultTail (f : Fault) (i width : Nat) (hi : i + width ≤ 12) :
    slice (faultBytes f) (valuePlace (faultData f) + 12 + i) width =
      slice (faultTail f (valuePlace (faultData f))) i width := by
  have htail := (slice_faultValue f (valuePlace (faultData f))).2.2
  rw [Nat.add_assoc, slice_faultBytes, ← htail, slice_slice hi]

theorem length_longText_le (f : Fault) :
    (longText (ofText f.text)).length + (f.details.getD []).length ≤ valuePlace (faultData f) := by
  have h := length_le_valuePlace (faultData f)
  rwa [faultData, List.length_append] at h

theorem readText_faultBytes (hmax : (ofText f.text).length < 1073741824)
    (hplace : valuePlace (faultData f) + 24 < 2147483648) :
    readText (faultBytes f) 0 (valuePlace (faultData f)) (valuePlace (faultData f) + 4) =
      .ok (f.text, (longText (ofText f.text)).length) := by
  have hle := length_longText_le f
  have hcell : slice (faultBytes f) (valuePlace (faultData f) + 4) 8 =
      textCell (ofText f.text) 0 (valuePlace (faultData f) + 4) := by
    rw [slice_faultBytes, (slice_faultValue f _).2.1]
  have hdata : 8 < (ofText f.text).length →
      slice (faultBytes f) 0 (ofText f.text).length = ofText f.text := by
    intro hl
    have hlong : longText (ofText f.text) = ofText f.text := if_neg (by omega)
    rw [faultBytes_eq, slice_finish_data (by simp [faultData, hlong]), faultData, hlong,
      slice_zero_append]
  rw [readText_textCell hcell hmax hdata (Nat.le_refl 0) (by omega) (by omega) (by omega), longText]
  split <;> simp

theorem code_faultBytes (f : Fault) :
    UInt32.ofNat (wordAt (faultBytes f) (valuePlace (faultData f)) 4) = f.code := by
  have h := slice_faultBytes f 0 4
  rw [Nat.add_zero, (slice_faultValue f _).1] at h
  rw [wordAt, h, toNat_ofNat_of_lt f.code.toNat_lt, UInt32.ofNat_toNat]

theorem tag_faultBytes (f : Fault) : wordAt (faultBytes f) (valuePlace (faultData f) + 12) 1 =
    if f.details.isSome then 1 else 0 := by
  have h := slice_faultTail f 0 1 (by omega)
  rw [Nat.add_zero] at h
  rw [wordAt, h, faultTail]
  cases f.details <;> rfl

theorem readVector_faultBytes {d : Bytes} (hd : f.details = some d)
    (hplace : valuePlace (faultData f) + 24 < 2147483648) :
    readVector (faultBytes f) (longText (ofText f.text)).length (valuePlace (faultData f))
        (valuePlace (faultData f) + 16) =
      .ok (d, (longText (ofText f.text)).length + d.length) := by
  have hle := length_longText_le f
  have hdata : faultData f = longText (ofText f.text) ++ d := by
    rw [faultData, hd, Option.getD_some]
  rw [hd, Option.getD_some] at hle
  have hcell : slice (faultBytes f) (valuePlace (faultData f) + 16) 8 =
      vectorCell (longText (ofText f.text)).length d.length (valuePlace (faultData f) + 16) := by
    have h := slice_faultTail f 4 8 (by omega)
    rw [Nat.add_assoc] at h
    rw [h, faultTail, hd, slice]
    simp [List.take_of_length_le]
  have hslice : slice (faultBytes f) (longText (ofText f.text)).length d.length = d := by
    rw [faultBytes_eq, slice_finish_data (by simp [hdata]), hdata, slice]
    simp
  rw [readVector_vectorCell hcell (by omega) (Nat.le_refl _) hle (by omega) (by omega), hslice]

/-- A fault that can be archived comes back. -/
theorem Fault.ofBytes_toBytes {b : Bytes} (hb : f.toBytes = .ok b) : Fault.ofBytes b = .ok f := by
  obtain ⟨htext, hsize, rfl⟩ := bounded_eq_ok hb
  have hplace : valuePlace (faultData f) + 24 < 2147483648 := by
    rwa [faultBytes_eq, length_finish, length_faultValue] at hsize
  have hread := readText_faultBytes (htext _ List.mem_cons_self) hplace
  have hcode := code_faultBytes f
  have htag := tag_faultBytes f
  rw [Fault.ofBytes, readFault, faultBytes_eq, openValue_finish (length_faultValue f _),
    ← faultBytes_eq]
  simp only [hread, hcode, htag, bind, Except.bind]
  obtain ⟨code, text, details⟩ := f
  cases details with
  | none => rfl
  | some d =>
    have hvector := readVector_faultBytes (f := ⟨code, text, some d⟩) rfl hplace
    simp only [hvector, Option.isSome_some, if_true]
    rfl

end Fault

/-- The value of a notice of a violation. -/
def violationValue (code : UInt32) (details : String) (here : Nat) : Bytes :=
  [1, 0, 0, 0] ++ ofNat 4 code.toNat ++ textCell (ofText details) 0 (here + 8)

@[simp] theorem length_violationValue (code : UInt32) (details : String) (here : Nat) :
    (violationValue code details here).length = 16 := by
  simp [violationValue]

/-- A notice of a violation that can be archived comes back. -/
theorem Notice.ofBytes_violation {code : UInt32} {details : String} {b : Bytes}
    (hb : (Notice.violation code details).toBytes = .ok b) :
    Notice.ofBytes b = .ok (.violation code details) := by
  obtain ⟨htext, hsize, rfl⟩ := bounded_eq_ok hb
  have hmax := htext _ List.mem_cons_self
  have hbytes : noticeBytes (.violation code details) =
      finish (longText (ofText details)) (violationValue code details) := rfl
  rw [hbytes] at hsize ⊢
  have hplace : valuePlace (longText (ofText details)) + 16 < 2147483648 := by
    rwa [length_finish, length_violationValue] at hsize
  have htag : wordAt (finish (longText (ofText details)) (violationValue code details))
      (valuePlace (longText (ofText details))) 1 = 1 := by
    have h : slice (finish (longText (ofText details)) (violationValue code details))
        (valuePlace (longText (ofText details)) + 0) 1 = _ := slice_finish_value 0 1
    rw [Nat.add_zero] at h
    rw [wordAt, h]
    rfl
  have hcode : UInt32.ofNat (wordAt (finish (longText (ofText details))
      (violationValue code details)) (valuePlace (longText (ofText details)) + 4) 4) = code := by
    have hslice : slice (violationValue code details (valuePlace (longText (ofText details)))) 4 4 =
        ofNat 4 code.toNat := by
      rw [violationValue, List.append_assoc, slice_append_right (by simp),
        slice_append_left (by simp), slice]
      simp [List.take_of_length_le]
    rw [wordAt, slice_finish_value, hslice, toNat_ofNat_of_lt code.toNat_lt, UInt32.ofNat_toNat]
  have hcell : slice (finish (longText (ofText details)) (violationValue code details))
      (valuePlace (longText (ofText details)) + 8) 8 =
        textCell (ofText details) 0 (valuePlace (longText (ofText details)) + 8) := by
    rw [slice_finish_value, violationValue, slice_append_right (by simp), slice]
    simp [List.take_of_length_le]
  have hdata : 8 < (ofText details).length →
      slice (finish (longText (ofText details)) (violationValue code details)) 0
        (ofText details).length = ofText details := by
    intro hl
    have hlong : longText (ofText details) = ofText details := if_neg (by omega)
    rw [slice_finish_data (by simp [hlong]), hlong]
    exact List.take_length
  have hend : 0 + (longText (ofText details)).length ≤
      valuePlace (longText (ofText details)) := by
    rw [Nat.zero_add]
    exact length_le_valuePlace _
  have hread := readText_textCell hcell hmax hdata (Nat.le_refl 0) hend (by omega) (by omega)
  rw [Notice.ofBytes, readNotice, openValue_finish (length_violationValue code details _)]
  simp only [htag, hcode, hread, bind, Except.bind]
  rfl

/-- A notice takes sixteen octets at least. -/
theorem Notice.length_of_ofBytes {b : Bytes} {notice : Notice} (h : Notice.ofBytes b = .ok notice) :
    16 ≤ b.length := by
  rw [Notice.ofBytes, readNotice, openValue] at h
  split at h
  · cases h
  · rename_i here hlocate
    have hfits := (locate_ok hlocate).2.2.1
    omega

end Message

end Rpc
