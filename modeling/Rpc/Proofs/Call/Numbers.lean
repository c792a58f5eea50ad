import Mathlib.Data.List.Nodup
import Rpc.Call.Table

/-! # The numbers that a table gives out

A table gives its numbers out in steps of two, beginning with the first number of its side. Until
the counter comes round, the number that comes next is the counter itself: it is greater than all
numbers before it, so it is not on the table, and the search for a free number ends at once.
-/
namespace Rpc.CallTable

/-- The numbers given out so far are the first ones of the side in their order, the counter stands
behind them, and the numbers on the table are among them. -/
structure InOrder (side : Side) (drawn : List UInt64) (t : CallTable) : Prop where
  toNat : drawn.map UInt64.toNat =
    (List.range drawn.length).map fun i => side.firstConversation.toNat + 2 * i
  next : t.next.toNat = side.firstConversation.toNat + 2 * drawn.length
  waiting : ∀ n ∈ t.waiting, n ∈ drawn

theorem firstConversation_pos (side : Side) : 0 < side.firstConversation.toNat := by
  cases side <;> decide

theorem firstConversation_le (side : Side) : side.firstConversation.toNat ≤ 2 := by
  cases side <;> decide

theorem inOrder_new (side : Side) : InOrder side [] (.new side) where
  toNat := rfl
  next := rfl
  waiting _ hn := absurd hn List.not_mem_nil

namespace InOrder

variable {side : Side} {drawn : List UInt64} {t t' : CallTable} {n : UInt64}

theorem toNat_eq (h : InOrder side drawn t) (hn : n ∈ drawn) :
    ∃ i < drawn.length, n.toNat = side.firstConversation.toNat + 2 * i := by
  have hmem : n.toNat ∈ drawn.map UInt64.toNat := List.mem_map_of_mem hn
  rw [h.toNat] at hmem
  obtain ⟨i, hi, heq⟩ := List.mem_map.mp hmem
  exact ⟨i, List.mem_range.mp hi, heq.symm⟩

theorem nodup (h : InOrder side drawn t) : drawn.Nodup := by
  refine List.Nodup.of_map UInt64.toNat ?_
  rw [h.toNat]
  refine List.Nodup.map ?_ List.nodup_range
  intro i j hij
  dsimp only at hij
  omega

theorem lt_next (h : InOrder side drawn t) (hn : n ∈ drawn) : n.toNat < t.next.toNat := by
  obtain ⟨i, hi, heq⟩ := h.toNat_eq hn
  rw [h.next, heq]
  omega

theorem next_not_mem (h : InOrder side drawn t) : t.next ∉ drawn := fun hmem =>
  Nat.lt_irrefl _ (h.lt_next hmem)

theorem ne_zero (h : InOrder side drawn t) (hn : n ∈ drawn) : n ≠ 0 := by
  obtain ⟨i, -, heq⟩ := h.toNat_eq hn
  have hpos := firstConversation_pos side
  rintro rfl
  rw [UInt64.toNat_zero] at heq
  omega

/-- The parity of a number tells which side gave it out. -/
theorem parity (h : InOrder side drawn t) (hn : n ∈ drawn) :
    n.toNat % 2 = if side = .client then 1 else 0 := by
  obtain ⟨i, -, heq⟩ := h.toNat_eq hn
  rw [heq, Nat.add_mul_mod_self_left]
  cases side <;> rfl

/-- The counter itself is the number that comes next. -/
theorem number_eq (h : InOrder side drawn t) (hn : n = t.enter.1 ∨ n = t.allocate.1) :
    n = t.next := by
  have hnext := h.next
  have hpos := firstConversation_pos side
  have hne : t.next ≠ 0 := by
    intro h0
    rw [h0, UInt64.toNat_zero] at hnext
    omega
  have hcandidate : candidate t.next = t.next := if_neg hne
  have hfree : t.next ∉ t.waiting := fun hmem => h.next_not_mem (h.waiting _ hmem)
  rcases hn with rfl | rfl
  · simp only [enter]
    cases t.waiting.length with
    | zero => exact hcandidate
    | succ tries => rw [free, hcandidate, if_neg hfree]
  · exact hcandidate

/-- A table that gives out no number and takes on none is in order as before. -/
theorem shrink (h : InOrder side drawn t) (hnext : t'.next = t.next)
    (hwaiting : ∀ m ∈ t'.waiting, m ∈ t.waiting) : InOrder side drawn t' where
  toNat := h.toNat
  next := by rw [hnext, h.next]
  waiting m hm := h.waiting m (hwaiting m hm)

/-- A number more is given out, and the counter has not come round. -/
theorem draw (h : InOrder side drawn t) (hn : n = t.next) (hnext : t'.next = n + 2)
    (hwaiting : ∀ m ∈ t'.waiting, m = n ∨ m ∈ t.waiting)
    (hmax : drawn.length + 1 < 9223372036854775807) : InOrder side (drawn ++ [n]) t' := by
  have hold := h.next
  have hfirst := firstConversation_le side
  have hlength : (drawn ++ [n]).length = drawn.length + 1 := List.length_append
  refine ⟨?_, ?_, ?_⟩
  · rw [hlength, List.range_succ, List.map_append, List.map_append, h.toNat, hn]
    simp only [List.map_cons, List.map_nil, hold]
  · rw [hlength, hnext, hn, UInt64.toNat_add, hold]
    change (_ + 2) % 18446744073709551616 = _
    omega
  · intro m hm
    rcases hwaiting m hm with rfl | hm
    · exact List.mem_append_right _ List.mem_cons_self
    · exact List.mem_append_left _ (h.waiting m hm)

end InOrder

end Rpc.CallTable
