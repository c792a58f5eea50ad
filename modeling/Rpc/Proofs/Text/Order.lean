import Mathlib.Algebra.Group.Nat.Defs
import Rpc.Proofs.Archive.ReadBack

/-! # Texts stand in the order of their octets

The UTF-8 form of a character is a lead octet, which tells the length, and continuation octets of
six bits each, the highest first. So the first octet in which two characters differ is larger in the
larger one, and neither form begins the other: a text before another is before it in its octets too.
-/
namespace Rpc.Bytes

/-! ## Octets from numbers -/

theorem ofNat_cons_lt {m n : Nat} (hlt : m < n) (hn : n < 256) (a b : Bytes) :
    UInt8.ofNat m :: a < UInt8.ofNat n :: b := by
  refine List.cons_lt_cons_iff.mpr (Or.inl ?_)
  rw [UInt8.lt_iff_toNat_lt, UInt8.toNat_ofNat', UInt8.toNat_ofNat', Nat.mod_eq_of_lt (by omega),
    Nat.mod_eq_of_lt hn]
  exact hlt

theorem cons_lt_cons_self {a b : Bytes} (x : UInt8) (h : a < b) : x :: a < x :: b :=
  List.cons_lt_cons_iff.mpr (Or.inr ⟨rfl, h⟩)

/-! ## Characters -/

/-- The lowest sixes of bits of a code point, as continuation octets. -/
def continuations : (count code : Nat) → Bytes
  | 0, _ => []
  | n + 1, code => UInt8.ofNat (code / 64 ^ n % 64 + 128) :: continuations n code

/-- Code points that differ only in their lowest bits differ in the continuation octets. -/
theorem continuations_append_lt {count m n : Nat} (hlt : m < n)
    (hsame : m / 64 ^ count = n / 64 ^ count) (x y : Bytes) :
    continuations count m ++ x < continuations count n ++ y := by
  induction count with
  | zero =>
    rw [Nat.pow_zero, Nat.div_one, Nat.div_one] at hsame
    omega
  | succ count ih =>
    simp only [continuations, List.cons_append]
    by_cases hnext : m / 64 ^ count = n / 64 ^ count
    · rw [hnext]
      exact cons_lt_cons_self _ (ih hnext)
    · have hle : m / 64 ^ count ≤ n / 64 ^ count := Nat.div_le_div_right (Nat.le_of_lt hlt)
      rw [Nat.pow_succ, ← Nat.div_div_eq_div_mul, ← Nat.div_div_eq_div_mul] at hsame
      exact ofNat_cons_lt (by omega) (by omega) _ _

/-- What the lead octet of a character tells: how many octets follow, and the bits above theirs. -/
inductive Leads (code : Nat) : (lead count : Nat) → Prop
  | one (h : code < 128) : Leads code code 0
  | two (h : 128 ≤ code ∧ code < 2048) : Leads code (code / 64 ^ 1 + 192) 1
  | three (h : 2048 ≤ code ∧ code < 65536) : Leads code (code / 64 ^ 2 + 224) 2
  | four (h : 65536 ≤ code ∧ code < 1114112) : Leads code (code / 64 ^ 3 + 240) 3

theorem utf8EncodeChar_eq (c : Char) : ∃ lead count, Leads c.val.toNat lead count ∧
    String.utf8EncodeChar c = UInt8.ofNat lead :: continuations count c.val.toNat := by
  have hmax : c.val.toNat < 1114112 := by
    rcases c.valid with h | h
    · exact Nat.lt_trans h (by decide)
    · exact h.2
  generalize hcode : c.val.toNat = code at hmax ⊢
  unfold String.utf8EncodeChar
  simp only [hcode]
  by_cases h₁ : code ≤ 127
  · rw [if_pos h₁]
    exact ⟨_, _, .one (by omega), rfl⟩
  · rw [if_neg h₁]
    by_cases h₂ : code ≤ 2047
    · have hlead : code / 64 % 32 = code / 64 ^ 1 := by omega
      rw [if_pos h₂, hlead]
      refine ⟨_, _, .two (by omega), ?_⟩
      simp [continuations]
    · rw [if_neg h₂]
      by_cases h₃ : code ≤ 65535
      · have hlead : code / 4096 % 16 = code / 64 ^ 2 := by omega
        rw [if_pos h₃, hlead]
        refine ⟨_, _, .three (by omega), ?_⟩
        simp [continuations]
      · have hlead : code / 262144 % 8 = code / 64 ^ 3 := by omega
        rw [if_neg h₃, hlead]
        refine ⟨_, _, .four (by omega), ?_⟩
        simp [continuations]

/-- A larger code point has a larger lead octet, or as many octets and the same bits in the lead. -/
theorem Leads.lt_or_eq {m n lead lead' count count' : Nat} (hlt : m < n) (h : Leads m lead count)
    (h' : Leads n lead' count') :
    lead' < 256 ∧
      (lead < lead' ∨ lead = lead' ∧ count = count' ∧ m / 64 ^ count = n / 64 ^ count) := by
  cases h with
  | one hm => cases h' <;> omega
  | two hm => cases h' <;> omega
  | three hm => cases h' <;> omega
  | four hm => cases h' <;> omega

/-- Of two characters the smaller one has the smaller octets, whatever follows them. -/
theorem utf8EncodeChar_append_lt {c d : Char} (h : c < d) (x y : Bytes) :
    String.utf8EncodeChar c ++ x < String.utf8EncodeChar d ++ y := by
  have hlt : c.val.toNat < d.val.toNat := h
  obtain ⟨lead, count, hc, hcode⟩ := utf8EncodeChar_eq c
  obtain ⟨lead', count', hd, hcode'⟩ := utf8EncodeChar_eq d
  rw [hcode, hcode', List.cons_append, List.cons_append]
  obtain ⟨hsmall, hlead | ⟨rfl, rfl, hsame⟩⟩ := hc.lt_or_eq hlt hd
  · exact ofNat_cons_lt hlead hsmall _ _
  · exact cons_lt_cons_self _ (continuations_append_lt hlt hsame x y)

/-! ## Texts -/

theorem flatMap_utf8EncodeChar_lt {cs ds : List Char} (h : cs < ds) :
    cs.flatMap String.utf8EncodeChar < ds.flatMap String.utf8EncodeChar := by
  induction cs generalizing ds with
  | nil =>
    cases ds with
    | nil => exact absurd h (List.lt_irrefl _)
    | cons d ds =>
      obtain ⟨lead, count, -, hcode⟩ := utf8EncodeChar_eq d
      rw [List.flatMap_nil, List.flatMap_cons, hcode, List.cons_append]
      exact List.nil_lt_cons _ _
  | cons c cs ih =>
    cases ds with
    | nil => cases h
    | cons d ds =>
      rw [List.flatMap_cons, List.flatMap_cons]
      rcases List.cons_lt_cons_iff.mp h with hlt | ⟨rfl, hrest⟩
      · exact utf8EncodeChar_append_lt hlt _ _
      · exact List.append_left_lt (ih hrest)

theorem ofText_lt_of_lt {s t : String} (h : s < t) : ofText s < ofText t := by
  rw [ofText_eq_flatMap, ofText_eq_flatMap]
  exact flatMap_utf8EncodeChar_lt (String.lt_iff.mp h)

end Rpc.Bytes
