import Mathlib.Algebra.Group.Nat.Defs
import Rpc.Archive.Tree

/-! # Trees hold their entries

A search tree is built from the front of a list of entries, and its entries from left to right are
those that it took. The last level takes what the full levels above it leave, and its share goes to
the children from the left, so the tree of a list takes all of it and no leaf is overfull.
-/
namespace Rpc.Archive.Tree

open Message

/-- No leaf has more entries than a node has room for. -/
def Fits : Tree → Prop
  | absent => True
  | leaf es => es.length ≤ 5
  | inner t₀ _ t₁ _ t₂ _ t₃ _ t₄ _ t₅ =>
    t₀.Fits ∧ t₁.Fits ∧ t₂.Fits ∧ t₃.Fits ∧ t₄.Fits ∧ t₅.Fits

/-- A tree has taken so many entries off the front of a list. -/
structure Takes (r : Tree × List Entry) (count : Nat) (es : List Entry) : Prop where
  entries : r.1.toList ++ r.2 = es
  left : r.2.length + count = es.length
  fits : r.1.Fits

theorem Takes.next {r : Tree × List Entry} {count : Nat} {es : List Entry} (h : Takes r count es)
    (hmore : count < es.length) : r.1.toList ++ r.2.headD default :: r.2.tail = es ∧
      r.2.tail.length + (count + 1) = es.length := by
  have hleft := h.left
  have hentries := h.entries
  cases hr : r.2 with
  | nil =>
    rw [hr, List.length_nil] at hleft
    omega
  | cons e rest =>
    rw [hr] at hentries
    rw [hr, List.length_cons] at hleft
    refine ⟨hentries, ?_⟩
    rw [List.tail_cons]
    omega

/-! ## How the last level is shared out -/

theorem share_le (last room i : Nat) : share last room i ≤ room := Nat.min_le_left _ _

theorem sum_share (last room : Nat) (h : last ≤ 6 * room) :
    share last room 0 + share last room 1 + share last room 2 + share last room 3 +
      share last room 4 + share last room 5 = last := by
  unfold share
  omega

/-- Whatever the children take, the node takes one entry behind each of the first five. -/
theorem takes_inner (child : Nat → List Entry → Tree × List Entry) (count : Nat → Nat)
    (es : List Entry) (hchild : ∀ i es, count i ≤ es.length → Takes (child i es) (count i) es)
    (hlen : count 0 + count 1 + count 2 + count 3 + count 4 + count 5 + 5 ≤ es.length) :
    let r₀ := child 0 es
    let r₁ := child 1 r₀.2.tail
    let r₂ := child 2 r₁.2.tail
    let r₃ := child 3 r₂.2.tail
    let r₄ := child 4 r₃.2.tail
    let r₅ := child 5 r₄.2.tail
    Takes (inner r₀.1 (r₀.2.headD default) r₁.1 (r₁.2.headD default) r₂.1 (r₂.2.headD default)
        r₃.1 (r₃.2.headD default) r₄.1 (r₄.2.headD default) r₅.1, r₅.2)
      (count 0 + count 1 + count 2 + count 3 + count 4 + count 5 + 5) es := by
  intro r₀ r₁ r₂ r₃ r₄ r₅
  have h₀ : Takes r₀ (count 0) es := hchild 0 es (by omega)
  obtain ⟨e₀, l₀⟩ := h₀.next (by omega)
  have h₁ : Takes r₁ (count 1) r₀.2.tail := hchild 1 _ (by omega)
  obtain ⟨e₁, l₁⟩ := h₁.next (by omega)
  have h₂ : Takes r₂ (count 2) r₁.2.tail := hchild 2 _ (by omega)
  obtain ⟨e₂, l₂⟩ := h₂.next (by omega)
  have h₃ : Takes r₃ (count 3) r₂.2.tail := hchild 3 _ (by omega)
  obtain ⟨e₃, l₃⟩ := h₃.next (by omega)
  have h₄ : Takes r₄ (count 4) r₃.2.tail := hchild 4 _ (by omega)
  obtain ⟨e₄, l₄⟩ := h₄.next (by omega)
  have h₅ : Takes r₅ (count 5) r₄.2.tail := hchild 5 _ (by omega)
  have e₅ := h₅.entries
  have l₅ := h₅.left
  refine ⟨?_, ?_, h₀.fits, h₁.fits, h₂.fits, h₃.fits, h₄.fits, h₅.fits⟩
  · simp only [toList, List.append_assoc, List.cons_append, e₅, e₄, e₃, e₂, e₁, e₀]
  · simp only
    omega

/-- A tree takes the entries of its full levels and those of its last one. -/
theorem build_takes (h last : Nat) (es : List Entry) (hlast : last ≤ 5 * 6 ^ h)
    (hlen : 6 ^ h - 1 + last ≤ es.length) :
    Takes (build (h + 1) last es) (6 ^ h - 1 + last) es := by
  induction h generalizing last es with
  | zero =>
    cases last with
    | zero => exact ⟨rfl, by simp [build], trivial⟩
    | succ last =>
      refine ⟨List.take_append_drop _ _, ?_, ?_⟩
      · simp only [build, List.length_drop]
        omega
      · simp only [build, Fits, List.length_take]
        omega
  | succ h ih =>
    have hpow : 6 ^ (h + 1) = 6 * 6 ^ h := Nat.pow_succ'
    have hpos : 0 < 6 ^ h := Nat.pow_pos (by decide)
    -- An empty last level is that of a tree which is one level lower and full.
    cases last with
    | zero =>
      have hfull := ih (5 * 6 ^ h) es (Nat.le_refl _) (by omega)
      have hcount : 6 ^ h - 1 + 5 * 6 ^ h = 6 ^ (h + 1) - 1 + 0 := by omega
      rw [hcount] at hfull
      exact hfull
    | succ last =>
      have hsum := sum_share (last + 1) (5 * 6 ^ h) (by omega)
      have hinner := takes_inner (fun i => build (h + 1) (share (last + 1) (5 * 6 ^ h) i))
        (fun i => 6 ^ h - 1 + share (last + 1) (5 * 6 ^ h) i) es
        (fun i es hes => ih _ es (share_le _ _ _) hes) (by omega)
      have hcount : 6 ^ h - 1 + share (last + 1) (5 * 6 ^ h) 0 +
          (6 ^ h - 1 + share (last + 1) (5 * 6 ^ h) 1) +
          (6 ^ h - 1 + share (last + 1) (5 * 6 ^ h) 2) +
          (6 ^ h - 1 + share (last + 1) (5 * 6 ^ h) 3) +
          (6 ^ h - 1 + share (last + 1) (5 * 6 ^ h) 4) +
          (6 ^ h - 1 + share (last + 1) (5 * 6 ^ h) 5) + 5 = 6 ^ (h + 1) - 1 + (last + 1) := by
        omega
      simp only [hcount] at hinner
      exact hinner

/-- The height is the least number of levels with room for all entries. -/
theorem pow_height {n : Nat} (hn : 0 < n) :
    ∃ h, height n = h + 1 ∧ 6 ^ h ≤ n ∧ n < 6 ^ (h + 1) := by
  induction n using Nat.strongRecOn with
  | ind n ih =>
    have hheight : height n = height (n / 6) + 1 := by rw [height, if_neg (by omega)]
    by_cases hsmall : n / 6 = 0
    · refine ⟨0, ?_, by omega, by omega⟩
      rw [hheight, hsmall, height, if_pos rfl]
    · obtain ⟨h, hh, hlo, hhi⟩ := ih (n / 6) (by omega) (by omega)
      refine ⟨h + 1, by rw [hheight, hh], ?_, ?_⟩
      · rw [Nat.pow_succ]
        omega
      · rw [Nat.pow_succ]
        omega

/-- The tree of a list holds the list, and nothing is left out. -/
theorem toList_ofList (es : List Entry) : (ofList es).toList = es ∧ (ofList es).Fits := by
  by_cases hn : es.length = 0
  · obtain rfl := List.length_eq_zero_iff.mp hn
    have habsent : ofList [] = absent := by
      simp [ofList, height, build]
    rw [habsent]
    exact ⟨rfl, trivial⟩
  · obtain ⟨h, hheight, hlo, hhi⟩ := pow_height (n := es.length) (by omega)
    rw [Nat.pow_succ] at hhi
    have hpos : 0 < 6 ^ h := Nat.pow_pos (by decide)
    have htakes := build_takes h (es.length - (6 ^ h - 1)) es (by omega) (by omega)
    have hof : ofList es = (build (h + 1) (es.length - (6 ^ h - 1)) es).1 := by
      simp only [ofList, hheight, Nat.add_sub_cancel]
      rfl
    have hleft := htakes.left
    have hnone : (build (h + 1) (es.length - (6 ^ h - 1)) es).2 = [] :=
      List.length_eq_zero_iff.mp (by omega)
    have hentries := htakes.entries
    rw [hnone, List.append_nil, ← hof] at hentries
    exact ⟨hentries, hof ▸ htakes.fits⟩

end Rpc.Archive.Tree
