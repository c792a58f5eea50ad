import Mathlib.Logic.Function.Iterate
import Rpc.Proofs.Call.Numbers

/-! # The search for a free number

The search goes from the counter on in steps of two and passes over zero, so sooner or later it comes
by every number of its side. As long as one of them is free, it ends at a free one. A number that is
taken off the table matters to the search only if the search ends at it.
-/
namespace Rpc.CallTable

variable {side : Side} {t : CallTable} {waiting : List UInt64} {counter n : UInt64}

def OfSide (side : Side) (n : UInt64) : Prop :=
  n ≠ 0 ∧ n.toNat % 2 = side.firstConversation.toNat % 2

def Counts (side : Side) (counter : UInt64) : Prop :=
  counter.toNat % 2 = side.firstConversation.toNat % 2

theorem counts_add_two (h : Counts side n) : Counts side (n + 2) := by
  unfold Counts at *
  rw [UInt64.toNat_add]
  change (n.toNat + 2) % 18446744073709551616 % 2 = _
  omega

theorem ofSide_candidate (h : Counts side counter) : OfSide side (candidate counter) := by
  unfold candidate
  split
  · rename_i hzero
    subst hzero
    refine ⟨by decide, ?_⟩
    exact h
  · exact ⟨‹_›, h⟩

theorem ofSide_free (waiting : List UInt64) (tries : Nat) (h : Counts side counter) :
    OfSide side (free waiting tries counter) := by
  induction tries generalizing counter with
  | zero => exact ofSide_candidate h
  | succ tries ih =>
    unfold free
    split
    · exact ih (counts_add_two (ofSide_candidate h).2)
    · exact ofSide_candidate h

/-! ## The way to a number -/

def ahead (n m : UInt64) : Nat := (n - m).toNat

theorem ahead_eq (n m : UInt64) :
    ahead n m = (18446744073709551616 - m.toNat + n.toNat) % 18446744073709551616 :=
  UInt64.toNat_sub n m

/-- Each step of the search brings it nearer to every number of its side that it has not reached. -/
theorem ahead_next_lt (hn : OfSide side n) {m : UInt64} (hm : OfSide side m) (hne : m ≠ n) :
    ahead n (candidate (m + 2)) < ahead n m := by
  have hn0 : n.toNat ≠ 0 := fun h => hn.1 (UInt64.toNat_inj.mp h)
  have hm0 : m.toNat ≠ 0 := fun h => hm.1 (UInt64.toNat_inj.mp h)
  have hnot : m.toNat ≠ n.toNat := fun h => hne (UInt64.toNat_inj.mp h)
  have hparity : m.toNat % 2 = n.toNat % 2 := hm.2.trans hn.2.symm
  have hmax := n.toNat_lt
  have hmax' := m.toNat_lt
  have hsum : (m + 2).toNat = (m.toNat + 2) % 18446744073709551616 := UInt64.toNat_add m 2
  rw [ahead_eq, ahead_eq]
  unfold candidate
  split
  · rename_i hzero
    have htwo : (2 : UInt64).toNat = 2 := rfl
    rw [hzero, UInt64.toNat_zero] at hsum
    rw [htwo]
    omega
  · rename_i hzero
    have hsum0 : (m + 2).toNat ≠ 0 := fun h => hzero (UInt64.toNat_inj.mp h)
    omega

/-- With as many tries as numbers wait on the way to a free one, the search ends at a free number. -/
theorem free_not_mem (hn : OfSide side n) (hfree : n ∉ waiting) {tries : Nat}
    (hcounter : Counts side counter)
    (htries : (waiting.filter fun m => ahead n m ≤ ahead n (candidate counter)).length ≤ tries) :
    free waiting tries counter ∉ waiting := by
  induction tries generalizing counter with
  | zero =>
    intro hmem
    have hempty := List.length_eq_zero_iff.mp (Nat.le_zero.mp htries)
    have hself := List.filter_eq_nil_iff.mp hempty _ hmem
    exact hself (decide_eq_true (Nat.le_refl _))
  | succ tries ih =>
    unfold free
    split
    · rename_i hmem
      have hside := ofSide_candidate hcounter
      have hne : candidate counter ≠ n := by
        rintro rfl
        exact hfree hmem
      have hnear := ahead_next_lt hn hside hne
      refine ih (counts_add_two hside.2) ?_
      -- the number that was passed over is not on the way any more
      have hfewer : (waiting.filter fun m =>
          ahead n m ≤ ahead n (candidate (candidate counter + 2))).length <
          (waiting.filter fun m => ahead n m ≤ ahead n (candidate counter)).length := by
        have hagain : (waiting.filter fun m =>
            ahead n m ≤ ahead n (candidate (candidate counter + 2))) =
            (waiting.filter fun m => ahead n m ≤ ahead n (candidate counter)).filter
              fun m => ahead n m ≤ ahead n (candidate (candidate counter + 2)) := by
          rw [List.filter_filter]
          refine List.filter_congr fun m _ => ?_
          rw [Bool.eq_iff_iff, Bool.and_eq_true, decide_eq_true_iff, decide_eq_true_iff]
          constructor
          · intro hle
            exact ⟨hle, Nat.le_trans hle (Nat.le_of_lt hnear)⟩
          · exact fun h => h.1
        rw [hagain, List.length_filter_lt_length_iff_exists]
        refine ⟨candidate counter, List.mem_filter.mpr ⟨hmem, decide_eq_true (Nat.le_refl _)⟩, ?_⟩
        simpa using hnear
      omega
    · assumption

/-- A table on which a number of its side is free gives out a free number. -/
theorem enter_not_mem (hn : OfSide side n) (hfree : n ∉ t.waiting)
    (hcounter : Counts side t.next) : t.enter.1 ∉ t.waiting :=
  free_not_mem hn hfree hcounter (List.length_filter_le _ _)

/-! ## A number that is taken off -/

/-- A free number at which the search begins is its end. -/
theorem free_of_not_mem (h : candidate counter ∉ waiting) (tries : Nat) :
    free waiting tries counter = candidate counter := by
  cases tries with
  | zero => rfl
  | succ tries => rw [free, if_neg h]

theorem free_filter {tries tries' : Nat}
    (hend : free (waiting.filter (· ≠ n)) tries counter ∉ waiting) (hle : tries ≤ tries') :
    free waiting tries' counter = free (waiting.filter (· ≠ n)) tries counter := by
  induction tries generalizing counter tries' with
  | zero => exact free_of_not_mem hend tries'
  | succ tries ih =>
    rw [free] at hend ⊢
    split at hend
    · rename_i hmem
      obtain ⟨tries', rfl⟩ := Nat.exists_eq_add_of_le' (Nat.lt_of_lt_of_le (Nat.succ_pos _) hle)
      rw [if_pos hmem, free, if_pos (List.mem_filter.mp hmem).1]
      exact ih hend (by omega)
    · rename_i hmem
      rw [if_neg hmem]
      exact free_of_not_mem hend tries'

@[simp] theorem remove_next (t : CallTable) (n : UInt64) : (t.remove n).2.next = t.next := rfl

@[simp] theorem remove_closed (t : CallTable) (n : UInt64) : (t.remove n).2.closed = t.closed := rfl

theorem not_mem_remove (t : CallTable) (n : UInt64) : n ∉ (t.remove n).2.waiting := by
  simp [remove]

/-- A table without a number goes on as the table with it, unless it gives this number out. -/
theorem enter_remove (hn : OfSide side n) (hcounter : Counts side t.next)
    (hother : (t.remove n).2.enter.1 ≠ n) :
    t.enter.1 = (t.remove n).2.enter.1 ∧ (t.enter.2.remove n).2 = (t.remove n).2.enter.2 := by
  have hfree : (t.remove n).2.enter.1 ∉ (t.remove n).2.waiting :=
    enter_not_mem hn (not_mem_remove t n) hcounter
  have hnot : (t.remove n).2.enter.1 ∉ t.waiting := by
    intro hmem
    refine hfree (List.mem_filter.mpr ⟨hmem, ?_⟩)
    simpa using hother
  have hsame : t.enter.1 = (t.remove n).2.enter.1 :=
    free_filter hnot (List.length_filter_le _ _)
  refine ⟨hsame, ?_⟩
  have hkept : t.enter.1 ≠ n := by
    rw [hsame]
    exact hother
  change CallTable.mk (t.enter.1 + 2) ((t.enter.1 :: t.waiting).filter (· ≠ n)) t.closed =
    CallTable.mk ((t.remove n).2.enter.1 + 2)
      ((t.remove n).2.enter.1 :: t.waiting.filter (· ≠ n)) t.closed
  rw [List.filter_cons_of_pos (by simpa using hkept), hsame]

/-! ## Numbers that are passed over -/

def passOver (t : CallTable) (j : Nat) : CallTable :=
  { t with next := (fun m => candidate m + 2)^[j] t.next }

/-- The search comes to its end by passing over some numbers. -/
theorem exists_free_eq (waiting : List UInt64) (tries : Nat) (counter : UInt64) :
    ∃ j, free waiting tries counter = candidate ((fun m => candidate m + 2)^[j] counter) := by
  induction tries generalizing counter with
  | zero => exact ⟨0, rfl⟩
  | succ tries ih =>
    unfold free
    split
    · obtain ⟨j, hj⟩ := ih (candidate counter + 2)
      exact ⟨j + 1, hj⟩
    · exact ⟨0, rfl⟩

/-- A table that has given out a number and taken it back has passed over some numbers. -/
theorem exists_passOver_eq (hnew : t.enter.1 ∉ t.waiting) :
    ∃ j, t.passOver j = (t.enter.2.remove t.enter.1).2 := by
  obtain ⟨j, hj⟩ := exists_free_eq t.waiting t.waiting.length t.next
  have hwaiting : (t.enter.1 :: t.waiting).filter (· ≠ t.enter.1) = t.waiting := by
    rw [List.filter_cons_of_neg (by simp), List.filter_eq_self]
    intro m hm
    refine decide_eq_true ?_
    rintro rfl
    exact hnew hm
  refine ⟨j + 1, ?_⟩
  calc t.passOver (j + 1)
      = ⟨t.enter.1 + 2, t.waiting, t.closed⟩ := by
        unfold passOver enter
        simp only [Function.iterate_succ_apply', hj]
    _ = (t.enter.2.remove t.enter.1).2 := by
        conv_lhs => rw [← hwaiting]
        rfl

/-- A table without a number that is not given out comes to the same one over those in between. -/
theorem exists_enter_passOver (hnew : t.enter.1 ∉ t.waiting) (hne : t.enter.1 ≠ n) :
    ∃ j, ((t.remove n).2.passOver j).enter = (t.enter.1, (t.enter.2.remove n).2) := by
  obtain ⟨j, hj⟩ := exists_free_eq t.waiting t.waiting.length t.next
  have hfree : candidate ((fun m => candidate m + 2)^[j] t.next) ∉ t.waiting.filter (· ≠ n) := by
    rw [← hj]
    exact fun hmem => hnew (List.mem_filter.mp hmem).1
  have hsame := free_of_not_mem hfree (t.waiting.filter (· ≠ n)).length
  rw [← hj] at hsame
  have hwaiting : (t.enter.1 :: t.waiting).filter (· ≠ n) =
      t.enter.1 :: t.waiting.filter (· ≠ n) :=
    List.filter_cons_of_pos (by simpa using hne)
  refine ⟨j, ?_⟩
  calc ((t.remove n).2.passOver j).enter
      = (t.enter.1, ⟨t.enter.1 + 2, t.enter.1 :: t.waiting.filter (· ≠ n), t.closed⟩) := by
        unfold passOver remove enter
        simp only [hsame]
    _ = (t.enter.1, (t.enter.2.remove n).2) := by
        rw [← hwaiting]
        rfl

end Rpc.CallTable
