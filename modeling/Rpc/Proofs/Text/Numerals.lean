import Mathlib.Data.Nat.Digits.Defs
import Rpc.Text.Digits

/-! # Numerals are read back

A number is written in the digits of a base without a zero in front, so every reader of numerals
takes it: also the ones that forbid such zeros, and the ones that limit the value or the length.
-/
namespace Rpc.Text

/-! ## Digits of any base -/

section Base

variable {base : Nat} {value : Char → Option Nat}

theorem digits?_append (acc : Nat) (cs ds : List Char) :
    digits? base value acc (cs ++ ds) =
      (digits? base value acc cs).bind (digits? base value · ds) := by
  induction cs generalizing acc with
  | nil => rfl
  | cons c cs ih =>
    rw [List.cons_append, digits?, digits?]
    cases value c with
    | none => rfl
    | some d => exact ih (acc * base + d)

/-- What is read as a numeral holds digits only. -/
theorem isSome_of_digits? {acc n : Nat} {cs : List Char} (h : digits? base value acc cs = some n) :
    ∀ c ∈ cs, (value c).isSome := by
  induction cs generalizing acc with
  | nil => simp
  | cons c cs ih =>
    rw [digits?] at h
    cases hc : value c with
    | none => rw [hc] at h; cases h
    | some d =>
      rw [hc] at h
      intro x hx
      rcases List.mem_cons.mp hx with rfl | hx
      · rw [hc]; rfl
      · exact ih h x hx

variable (hbase : 1 < base)
include hbase

/-- Numbers in induction on their digits: a number is a digit, or digits and a last one. -/
theorem toDigits_induction {P : Nat → List Char → Prop}
    (one : ∀ d < base, P d [d.digitChar])
    (more : ∀ n d, 0 < n → d < base → P n (Nat.toDigits base n) →
      P (n * base + d) (Nat.toDigits base n ++ [d.digitChar])) (n : Nat) :
    P n (Nat.toDigits base n) := by
  induction n using Nat.strongRecOn with
  | ind n ih =>
    rw [Nat.toDigits_eq_if hbase]
    split
    · exact one n ‹_›
    · have hpos : 0 < n / base := Nat.div_pos (by omega) (by omega)
      have hlt : n / base < n := Nat.div_lt_self (by omega) hbase
      have hlast := more (n / base) (n % base) hpos (Nat.mod_lt n (by omega)) (ih _ hlt)
      rwa [Nat.mul_comm, Nat.div_add_mod] at hlast

theorem digits?_toDigits (hvalue : ∀ d < base, value d.digitChar = some d) (n : Nat) :
    digits? base value 0 (Nat.toDigits base n) = some n := by
  apply toDigits_induction hbase (P := fun n cs => digits? base value 0 cs = some n)
  case one =>
    intro d hd
    simp only [digits?, hvalue d hd, Nat.zero_mul, Nat.zero_add]
  case more =>
    intro n d _ hd hn
    rw [digits?_append, hn, Option.bind_some]
    simp only [digits?, hvalue d hd]

theorem mem_toDigits {n : Nat} {c : Char} (h : c ∈ Nat.toDigits base n) :
    ∃ d < base, c = d.digitChar := by
  revert h
  apply toDigits_induction hbase (P := fun _ cs => c ∈ cs → ∃ d < base, c = d.digitChar)
  case one =>
    intro d hd hc
    exact ⟨d, hd, List.mem_singleton.mp hc⟩
  case more =>
    intro n d _ hd hn hc
    rcases List.mem_append.mp hc with hc | hc
    · exact hn hc
    · exact ⟨d, hd, List.mem_singleton.mp hc⟩

/-- No zero leads but that of zero itself. -/
theorem toDigits_head (hsmall : base ≤ 16) {n : Nat} (hn : 0 < n) :
    (Nat.toDigits base n).head? ≠ some '0' := by
  revert hn
  apply toDigits_induction hbase (P := fun n cs => 0 < n → cs.head? ≠ some '0')
  case one =>
    intro d hd hpos
    have hnonzero : ∀ d < 16, 0 < d → [d.digitChar].head? ≠ some '0' := by decide
    exact hnonzero d (by omega) hpos
  case more =>
    intro n d hn hd ih _
    rw [List.head?_append, Option.or_of_isSome (by simp [Nat.toDigits_ne_nil])]
    exact ih hn

end Base

/-! ## Decimal numerals -/

theorem decimalDigit?_digitChar : ∀ d < 10, decimalDigit? d.digitChar = some d := by decide

theorem decimal?_toDigits (n : Nat) : decimal? (Nat.toDigits 10 n) = some n := by
  rw [decimal?, if_neg (by simp [Nat.toDigits_ne_nil])]
  exact digits?_toDigits (by decide) decimalDigit?_digitChar n

theorem plainDecimal?_toDigits (n : Nat) : plainDecimal? (Nat.toDigits 10 n) = some n := by
  rw [plainDecimal?, if_neg]
  · exact decimal?_toDigits n
  · rintro ⟨hzero, hne⟩
    rcases Nat.eq_zero_or_pos n with hn | hn
    · exact hne (by rw [hn, Nat.toDigits_zero])
    · exact toDigits_head (by decide) (by decide) hn hzero

theorem decimalBelow?_toDigits {bound n : Nat} (h : n < bound) :
    decimalBelow? bound (Nat.toDigits 10 n) = some n := by
  rw [decimalBelow?, decimal?_toDigits, Option.filter_some, if_pos (decide_eq_true h)]

/-! ## Groups of hexadecimal digits -/

theorem hexDigit?_digitChar : ∀ d < 16, hexDigit? d.digitChar = some d := by decide

theorem hexGroup?_toDigits {n : Nat} (h : n < 65536) :
    hexGroup? (Nat.toDigits 16 n) = some n := by
  have hlength : (Nat.toDigits 16 n).length ≤ 4 :=
    (Nat.length_toDigits_le_iff (by decide) (by decide)).mpr h
  rw [hexGroup?, if_neg]
  · exact digits?_toDigits (by decide) hexDigit?_digitChar n
  · simp [Nat.toDigits_ne_nil]
    omega

end Rpc.Text
