/-! # Bytes, little-endian words and UTF-8 text

A byte string is a list of octets. Words are written least significant octet first; reading back
what was written gives the word again, and every octet string of the right width is the writing of
exactly one word. Text is its UTF-8 octets, so a byte string is the form of at most one text.
-/
namespace Rpc

abbrev Bytes := List UInt8

namespace Bytes

/-- The lowest `width` octets of `n`, least significant first. -/
def ofNat : (width n : Nat) → Bytes
  | 0, _ => []
  | w + 1, n => UInt8.ofNat n :: ofNat w (n / 256)

def wordCount : (width : Nat) → Nat
  | 0 => 1
  | w + 1 => 256 * wordCount w

@[simp] theorem wordCount_two : wordCount 2 = 65536 := rfl

@[simp] theorem wordCount_four : wordCount 4 = 4294967296 := rfl

/-- The number whose little-endian octets these are. -/
def toNat : Bytes → Nat
  | [] => 0
  | b :: bs => b.toNat + 256 * toNat bs

@[simp] theorem length_ofNat (w n : Nat) : (ofNat w n).length = w := by
  induction w generalizing n with
  | zero => rfl
  | succ w ih => simp [ofNat, ih]

theorem toNat_ofNat (w n : Nat) : toNat (ofNat w n) = n % wordCount w := by
  induction w generalizing n with
  | zero => simp [ofNat, toNat, wordCount, Nat.mod_one]
  | succ w ih =>
    have hb : (UInt8.ofNat n).toNat = n % 256 := UInt8.toNat_ofNat'
    rw [ofNat, toNat, ih, hb, wordCount, Nat.mod_mul]

theorem toNat_ofNat_of_lt {w n : Nat} (h : n < wordCount w) : toNat (ofNat w n) = n := by
  rw [toNat_ofNat, Nat.mod_eq_of_lt h]

theorem ofNat_toNat (b : Bytes) : ofNat b.length (toNat b) = b := by
  induction b with
  | nil => rfl
  | cons x b ih =>
    have hx : x.toNat < 256 := x.toNat_lt
    have hmod : (x.toNat + 256 * toNat b) % 256 = x.toNat := by omega
    have hdiv : (x.toNat + 256 * toNat b) / 256 = toNat b := by omega
    have hbyte : UInt8.ofNat (x.toNat + 256 * toNat b) = x :=
      UInt8.toNat_inj.mp (UInt8.toNat_ofNat'.trans hmod)
    rw [List.length_cons, toNat, ofNat, hdiv, ih, hbyte]

theorem toNat_lt (b : Bytes) : toNat b < wordCount b.length := by
  induction b with
  | nil => simp [toNat, wordCount]
  | cons x b ih =>
    have hx : x.toNat < 256 := x.toNat_lt
    simp only [toNat, List.length_cons, wordCount]
    omega

/-- The octets from `pos` on, at most `width` of them. -/
def slice (b : Bytes) (pos width : Nat) : Bytes := (b.drop pos).take width

/-- The word of `width` octets at `pos`. -/
def wordAt (b : Bytes) (pos width : Nat) : Nat := toNat (slice b pos width)

/-- What stands behind `a` is sliced as if `a` were not there. -/
theorem slice_append_right {a b : Bytes} {pos : Nat} (h : a.length ≤ pos) (width : Nat) :
    slice (a ++ b) pos width = slice b (pos - a.length) width := by
  simp only [slice, List.drop_append, List.drop_of_length_le h, List.nil_append]

theorem slice_append_left {a b : Bytes} {pos width : Nat} (h : pos + width ≤ a.length) :
    slice (a ++ b) pos width = slice a pos width := by
  have hpos : pos ≤ a.length := by omega
  have hwidth : width ≤ (a.drop pos).length := by rw [List.length_drop]; omega
  rw [slice, slice, List.drop_append_of_le_length hpos, List.take_append_of_le_length hwidth]

theorem wordAt_append_right {a b : Bytes} {pos : Nat} (h : a.length ≤ pos) (width : Nat) :
    wordAt (a ++ b) pos width = wordAt b (pos - a.length) width := by
  rw [wordAt, slice_append_right h, wordAt]

theorem wordAt_append_left {a b : Bytes} {pos width : Nat} (h : pos + width ≤ a.length) :
    wordAt (a ++ b) pos width = wordAt a pos width := by
  rw [wordAt, slice_append_left h, wordAt]

/-- A word in front is read back. -/
theorem wordAt_ofNat_append {w n : Nat} (h : n < wordCount w) (b : Bytes) :
    wordAt (ofNat w n ++ b) 0 w = n := by
  have htake : (ofNat w n ++ b).take w = ofNat w n := by
    rw [List.take_append_of_le_length (by simp), List.take_of_length_le (by simp)]
  rw [wordAt, slice, List.drop_zero, htake, toNat_ofNat_of_lt h]

theorem length_slice {b : Bytes} {pos width : Nat} (h : pos + width ≤ b.length) :
    (slice b pos width).length = width := by
  rw [slice, List.length_take, List.length_drop]
  omega

theorem wordAt_lt {b : Bytes} {pos width : Nat} (h : pos + width ≤ b.length) :
    wordAt b pos width < wordCount width := by
  have hlt := toNat_lt (slice b pos width)
  rwa [length_slice h] at hlt

/-- A word that is there is written again as it stands. -/
theorem ofNat_wordAt {b : Bytes} {pos width : Nat} (h : pos + width ≤ b.length) :
    ofNat width (wordAt b pos width) = slice b pos width := by
  have hofNat := ofNat_toNat (slice b pos width)
  rwa [length_slice h] at hofNat

/-- What is cut at two places in a row is put together again. -/
theorem slice_append_slice (b : Bytes) (pos m n : Nat) :
    slice b pos m ++ slice b (pos + m) n = slice b pos (m + n) := by
  rw [slice, slice, slice, List.take_add, List.drop_drop]

def ofInt32 (i : Int) : Bytes := ofNat 4 (i % 4294967296).toNat

/-- The signed reading of a 32-bit word. -/
def toInt32 (b : Bytes) : Int :=
  if toNat b < 2147483648 then toNat b else (toNat b : Int) - 4294967296

@[simp] theorem length_ofInt32 (i : Int) : (ofInt32 i).length = 4 := length_ofNat _ _

theorem toInt32_ofInt32 {i : Int} (hlo : -2147483648 ≤ i) (hhi : i < 2147483648) :
    toInt32 (ofInt32 i) = i := by
  have hlt : (i % 4294967296).toNat < wordCount 4 := by
    rw [wordCount_four]
    omega
  simp only [toInt32, ofInt32, toNat_ofNat_of_lt hlt]
  split <;> omega

/-- Zero octets up to the next multiple of `align`. -/
def padding (align size : Nat) : Bytes := List.replicate ((align - size % align) % align) 0

/-- The UTF-8 octets of a text. -/
def ofText (s : String) : Bytes := s.toUTF8.data.toList

/-- The text whose UTF-8 octets these are, if there is one. -/
def text? (b : Bytes) : Option String := String.fromUTF8? ⟨b.toArray⟩

theorem text?_ofText (s : String) : text? (ofText s) = some s := by
  have h : (⟨(ofText s).toArray⟩ : ByteArray) = s.toUTF8 := by simp [ofText]
  simp only [text?, h, String.fromUTF8?, String.toUTF8_eq_toByteArray, dif_pos s.isValidUTF8]
  rfl

theorem ofText_of_text? {b : Bytes} {s : String} (h : text? b = some s) : ofText s = b := by
  simp only [text?, String.fromUTF8?] at h
  split at h
  · cases h; simp [ofText, String.fromUTF8, String.toUTF8]
  · cases h

/-- How many continuation octets a lead octet announces, and the range of the first of them. -/
def continuation? (lead : Nat) : Option (Nat × Nat × Nat) :=
  if lead < 0x80 then some (0, 0x80, 0xbf)
  else if lead < 0xc2 then none
  else if lead < 0xe0 then some (1, 0x80, 0xbf)
  else if lead = 0xe0 then some (2, 0xa0, 0xbf)
  else if lead = 0xed then some (2, 0x80, 0x9f)
  else if lead < 0xf0 then some (2, 0x80, 0xbf)
  else if lead = 0xf0 then some (3, 0x90, 0xbf)
  else if lead < 0xf4 then some (3, 0x80, 0xbf)
  else if lead = 0xf4 then some (3, 0x80, 0x8f)
  else none

/-- Takes up to `count` continuation octets onto `code`; the flag says whether all were there. -/
def continue? : (count lo hi code : Nat) → Bytes → Bool × Nat × Bytes
  | 0, _, _, code, b => (true, code, b)
  | _ + 1, _, _, code, [] => (false, code, [])
  | n + 1, lo, hi, code, x :: b =>
    if lo ≤ x.toNat ∧ x.toNat ≤ hi then continue? n 0x80 0xbf (code * 64 + x.toNat % 64) b
    else (false, code, x :: b)

theorem continue?_length_le (n lo hi code : Nat) (b : Bytes) :
    (continue? n lo hi code b).2.2.length ≤ b.length := by
  induction b generalizing n lo hi code with
  | nil => cases n <;> simp [continue?]
  | cons x b ih =>
    cases n with
    | zero => simp [continue?]
    | succ n =>
      simp only [continue?]
      split
      · exact Nat.le_succ_of_le (ih ..)
      · simp

/-- Reads text leniently: each longest run of octets that begins a character but does not finish
it, and each octet that begins none, becomes one replacement character. -/
def lossyChars (b : Bytes) : List Char :=
  match b with
  | [] => []
  | x :: rest =>
    match continuation? x.toNat with
    | none => '\ufffd' :: lossyChars rest
    | some (n, lo, hi) =>
      let r := continue? n lo hi (if n = 0 then x.toNat else x.toNat % Nat.pow 2 (6 - n)) rest
      (if r.1 then Char.ofNat r.2.1 else '\ufffd') :: lossyChars r.2.2
termination_by b.length
decreasing_by
  · simp
  · exact Nat.lt_succ_of_le (continue?_length_le ..)

def lossyText (b : Bytes) : String := String.ofList (lossyChars b)

/-- A number of octets that repeat a pattern. -/
def cycle (pattern : Bytes) (count : Nat) : Bytes :=
  if pattern.isEmpty then []
  else ((List.replicate (count / pattern.length + 1) pattern).flatten).take count

def hexDigit (n : Nat) : Char := Char.ofNat (if n < 10 then 48 + n else 87 + n)

/-- Two lower-case hexadecimal digits for each octet. -/
def hex (b : Bytes) : String :=
  String.ofList (b.flatMap fun x => [hexDigit (x.toNat / 16), hexDigit (x.toNat % 16)])

end Bytes

end Rpc
