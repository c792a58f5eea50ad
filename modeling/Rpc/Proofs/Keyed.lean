import Mathlib.Data.List.Basic

/-! # Lists with keys

Calls, handlers and writers stand in lists under their numbers. As long as no number stands twice,
taking the entry of a number off takes off exactly one.
-/
namespace Rpc

section Lookup

variable {κ α : Type} [DecidableEq κ] {l : List (κ × α)} {k : κ} {a : α}

theorem mem_of_lookup (h : l.lookup k = some a) : (k, a) ∈ l := by
  induction l with
  | nil => cases h
  | cons x l ih =>
    obtain ⟨key, b⟩ := x
    by_cases hk : k = key
    · subst hk
      rw [List.lookup_cons_self] at h
      cases h
      exact List.mem_cons_self
    · have hne : (k == key) = false := beq_eq_false_iff_ne.mpr hk
      rw [List.lookup_cons, hne] at h
      exact List.mem_cons_of_mem _ (ih h)

theorem ne_of_lookup_eq_none (h : l.lookup k = none) {x : κ × α} (hx : x ∈ l) : x.1 ≠ k := by
  intro he
  have hne := List.lookup_eq_none_iff.mp h x hx
  simp [he] at hne

theorem lookup_eq_none_iff_not_mem : l.lookup k = none ↔ k ∉ l.map Prod.fst := by
  constructor
  · intro h hmem
    obtain ⟨x, hx, hkey⟩ := List.mem_map.mp hmem
    exact ne_of_lookup_eq_none h hx hkey
  · intro h
    cases hlookup : l.lookup k with
    | none => rfl
    | some a => exact absurd (List.mem_map_of_mem (mem_of_lookup hlookup)) h

theorem filter_ne_eq_self (h : l.lookup k = none) : l.filter (·.1 ≠ k) = l := by
  rw [List.filter_eq_self]
  exact fun x hx => decide_eq_true (ne_of_lookup_eq_none h hx)

theorem lookup_of_mem (hl : (l.map Prod.fst).Nodup) (h : (k, a) ∈ l) : l.lookup k = some a := by
  induction l with
  | nil => cases h
  | cons x l ih =>
    obtain ⟨key, b⟩ := x
    rw [List.map_cons, List.nodup_cons] at hl
    rcases List.mem_cons.mp h with he | hmem
    · cases he
      exact List.lookup_cons_self
    · have hne : k ≠ key := by
        rintro rfl
        exact hl.1 (List.mem_map.mpr ⟨_, hmem, rfl⟩)
      rw [List.lookup_cons, beq_eq_false_iff_ne.mpr hne]
      exact ih hl.2 hmem

theorem exists_lookup (h : l ≠ []) : ∃ k a, l.lookup k = some a := by
  cases l with
  | nil => exact absurd rfl h
  | cons x l => exact ⟨x.1, x.2, List.lookup_cons_self⟩

theorem lookup_map {β : Type} (f : α → β) (l : List (κ × α)) (k : κ) :
    (l.map fun x => (x.1, f x.2)).lookup k = (l.lookup k).map f := by
  induction l with
  | nil => rfl
  | cons x l ih =>
    obtain ⟨key, b⟩ := x
    simp only [List.map_cons, List.lookup_cons]
    cases k == key with
    | true => rfl
    | false => exact ih

theorem lookup_map_key (f : κ → α → α) (l : List (κ × α)) (k : κ) :
    (l.map fun x => (x.1, f x.1 x.2)).lookup k = (l.lookup k).map (f k) := by
  induction l with
  | nil => rfl
  | cons x l ih =>
    obtain ⟨key, b⟩ := x
    simp only [List.map_cons, List.lookup_cons]
    by_cases hk : k = key
    · simp [hk]
    · rw [beq_eq_false_iff_ne.mpr hk]
      exact ih

/-- Changing the entry of one number leaves those of the others. -/
theorem lookup_modify (f : α → α) (l : List (κ × α)) (key k : κ) :
    (l.map fun x => if x.1 = key then (key, f x.2) else x).lookup k =
      if k = key then (l.lookup k).map f else l.lookup k := by
  have hmap : (l.map fun x => if x.1 = key then (key, f x.2) else x) =
      l.map fun x => (x.1, if x.1 = key then f x.2 else x.2) := by
    refine List.map_congr_left ?_
    intro x _
    by_cases hx : x.1 = key
    · rw [if_pos hx, if_pos hx, hx]
    · rw [if_neg hx, if_neg hx]
  rw [hmap, lookup_map_key (fun j a => if j = key then f a else a)]
  by_cases hk : k = key
  · simp only [hk, if_true]
  · simp only [hk, if_false, Option.map_id']

theorem keys_modify (f : α → α) (l : List (κ × α)) (key : κ) :
    (l.map fun x => if x.1 = key then (key, f x.2) else x).map Prod.fst = l.map Prod.fst := by
  rw [List.map_map]
  refine List.map_congr_left fun x _ => ?_
  simp only [Function.comp]
  split
  · exact Eq.symm ‹_›
  · rfl

theorem lookup_concat (l : List (κ × α)) (key k : κ) (a : α) :
    (l ++ [(key, a)]).lookup k = (l.lookup k).or (if k = key then some a else none) := by
  rw [List.lookup_append, List.lookup_cons, List.lookup_nil]
  by_cases hk : k = key
  · simp [hk]
  · simp [hk, beq_eq_false_iff_ne.mpr hk]

theorem lookup_filter_self (l : List (κ × α)) (k : κ) :
    (l.filter (·.1 ≠ k)).lookup k = none := by
  rw [List.lookup_eq_none_iff]
  intro x hx
  have hne := of_decide_eq_true (List.mem_filter.mp hx).2
  simpa using fun h => hne h.symm

theorem lookup_filter_ne {key : κ} (h : k ≠ key) (l : List (κ × α)) :
    (l.filter (·.1 ≠ key)).lookup k = l.lookup k := by
  induction l with
  | nil => rfl
  | cons x l ih =>
    obtain ⟨key', b⟩ := x
    by_cases hkey : key' = key
    · have hne : (k == key') = false := beq_eq_false_iff_ne.mpr (hkey ▸ h)
      rw [List.filter_cons_of_neg (by simp [hkey]), List.lookup_cons, hne]
      exact ih
    · rw [List.filter_cons_of_pos (by simp [hkey]), List.lookup_cons, List.lookup_cons, ih]

theorem filter_map_key {β : Type} (f : α → β) (l : List (κ × α)) (k : κ) :
    (l.map fun x => (x.1, f x.2)).filter (·.1 ≠ k) =
      (l.filter (·.1 ≠ k)).map fun x => (x.1, f x.2) := by
  rw [List.filter_map]
  rfl

/-- Without double numbers, the entry of a number stands beside those of the others. -/
theorem perm_of_lookup (hl : (l.map Prod.fst).Nodup) (h : l.lookup k = some a) :
    l.Perm ((k, a) :: l.filter (·.1 ≠ k)) := by
  induction l with
  | nil => cases h
  | cons x l ih =>
    obtain ⟨key, b⟩ := x
    rw [List.map_cons, List.nodup_cons] at hl
    by_cases hk : k = key
    · subst hk
      rw [List.lookup_cons_self] at h
      cases h
      have hrest : l.filter (·.1 ≠ k) = l := by
        rw [List.filter_eq_self]
        intro x hx
        refine decide_eq_true fun he => hl.1 ?_
        exact List.mem_map.mpr ⟨x, hx, he⟩
      rw [List.filter_cons_of_neg (by simp), hrest]
    · rw [List.lookup_cons, beq_eq_false_iff_ne.mpr hk] at h
      rw [List.filter_cons_of_pos (by simpa using Ne.symm hk)]
      exact ((ih hl.2 h).cons _).trans (.swap _ _ _)

theorem filter_eq_singleton_of_mem (hl : (l.map Prod.fst).Nodup) (h : (k, a) ∈ l) :
    l.filter (·.1 = k) = [(k, a)] := by
  have hperm := (perm_of_lookup hl (lookup_of_mem hl h)).filter (fun x => decide (x.1 = k))
  rw [List.filter_cons_of_pos (by simp), List.filter_filter] at hperm
  have hrest : l.filter (fun x => decide (x.1 = k) && decide (x.1 ≠ k)) = [] := by
    rw [List.filter_eq_nil_iff]
    intro x _
    simp
  rw [hrest] at hperm
  exact List.perm_singleton.mp hperm

end Lookup

variable {α : Type} {l : List (Nat × α)} {k : Nat} {a : α}

/-- What the entries weigh together. -/
def weight (f : α → Nat) (l : List (Nat × α)) : Nat := l.foldr (fun x n => f x.2 + n) 0

section Weight

variable (f : α → Nat)

theorem weight_cons (x : Nat × α) (l : List (Nat × α)) :
    weight f (x :: l) = f x.2 + weight f l := rfl

theorem weight_append (l l' : List (Nat × α)) : weight f (l ++ l') = weight f l + weight f l' := by
  induction l with
  | nil => exact (Nat.zero_add _).symm
  | cons x l ih => rw [List.cons_append, weight_cons, weight_cons, ih, Nat.add_assoc]

theorem weight_map {g : α → α} (hg : ∀ a, f (g a) = f a) (l : List (Nat × α)) :
    weight f (l.map fun x => (x.1, g x.2)) = weight f l := by
  induction l with
  | nil => rfl
  | cons x l ih => rw [List.map_cons, weight_cons, weight_cons, ih, hg]

theorem weight_perm {l' : List (Nat × α)} (h : l.Perm l') : weight f l = weight f l' := by
  induction h with
  | nil => rfl
  | cons x _ ih => rw [weight_cons, weight_cons, ih]
  | swap x y l => simp only [weight_cons]; omega
  | trans _ _ ih ih' => rw [ih, ih']

theorem weight_filter_le (q : Nat × α → Bool) (l : List (Nat × α)) :
    weight f (l.filter q) ≤ weight f l := by
  induction l with
  | nil => exact Nat.le_refl 0
  | cons x l ih =>
    rw [List.filter_cons]
    split
    · rw [weight_cons, weight_cons]
      omega
    · rw [weight_cons]
      omega

/-- Taking the entry of a number off takes off its weight at least. -/
theorem weight_filter_ne (h : l.lookup k = some a) :
    weight f (l.filter (·.1 ≠ k)) + f a ≤ weight f l := by
  induction l with
  | nil => cases h
  | cons x l ih =>
    obtain ⟨key, b⟩ := x
    by_cases hk : k = key
    · subst hk
      rw [List.lookup_cons_self] at h
      cases h
      rw [List.filter_cons_of_neg (by simp), weight_cons]
      rw [Nat.add_comm]
      exact Nat.add_le_add_left (weight_filter_le f _ l) _
    · rw [List.lookup_cons, beq_eq_false_iff_ne.mpr hk] at h
      rw [List.filter_cons_of_pos (by simpa using Ne.symm hk), weight_cons, weight_cons]
      have hrest := ih h
      omega

end Weight

theorem mem_filterMap_of_mem {β γ : Type} {g : β → Option γ} {l : List β} {x : β} {b : γ}
    (hx : x ∈ l) (hb : g x = some b) : b ∈ l.filterMap g := List.mem_filterMap.mpr ⟨x, hx, hb⟩

/-- What stands for a number that occurs once is the only one that does. -/
theorem filter_eq_singleton {β γ : Type} [DecidableEq γ] {g : β → Option γ} {l : List β} {x : β}
    {b : γ} (hcount : (l.filterMap g).count b ≤ 1) (hx : x ∈ l) (hb : g x = some b) :
    l.filter (fun y => g y = some b) = [x] := by
  induction l with
  | nil => cases hx
  | cons y l ih =>
    cases hy : g y with
    | none =>
      have hne : x ≠ y := by
        rintro rfl
        rw [hb] at hy
        cases hy
      rw [List.filterMap_cons, hy] at hcount
      rw [List.filter_cons_of_neg (by simp [hy])]
      exact ih hcount ((List.mem_cons.mp hx).resolve_left hne)
    | some a =>
      rw [List.filterMap_cons, hy, List.count_cons] at hcount
      by_cases ha : a = b
      · subst ha
        rw [beq_self_eq_true, if_pos rfl] at hcount
        have hrest : a ∉ l.filterMap g := List.count_eq_zero.mp (by omega)
        have hxy : x = y := by
          rcases List.mem_cons.mp hx with hxy | hmem
          · exact hxy
          · exact absurd (mem_filterMap_of_mem hmem hb) hrest
        have hfilter : l.filter (fun z => g z = some a) = [] := by
          rw [List.filter_eq_nil_iff]
          intro z hz hga
          exact hrest (mem_filterMap_of_mem hz (of_decide_eq_true hga))
        rw [List.filter_cons_of_pos (by simp [hy]), hfilter, hxy]
      · have hne : x ≠ y := by
          rintro rfl
          rw [hb] at hy
          exact ha (Option.some.inj hy).symm
        rw [List.filter_cons_of_neg (by simp [hy, ha])]
        exact ih (by omega) ((List.mem_cons.mp hx).resolve_left hne)

/-- No number stands twice, and all are below a bound. -/
structure KeysBelow (l : List (Nat × α)) (bound : Nat) : Prop where
  nodup : (l.map Prod.fst).Nodup
  lt : ∀ x ∈ l, x.1 < bound

namespace KeysBelow

variable {bound : Nat}

theorem nil (bound : Nat) : KeysBelow ([] : List (Nat × α)) bound := ⟨List.nodup_nil, by simp⟩

theorem filter (h : KeysBelow l bound) (q : Nat × α → Bool) : KeysBelow (l.filter q) bound :=
  ⟨h.nodup.sublist (List.filter_sublist.map _), fun x hx => h.lt x (List.mem_filter.mp hx).1⟩

theorem concat (h : KeysBelow l bound) (a : α) : KeysBelow (l ++ [(bound, a)]) (bound + 1) := by
  refine ⟨?_, ?_⟩
  · rw [List.map_append, List.nodup_append]
    refine ⟨h.nodup, by simp, ?_⟩
    intro x hx y hy
    obtain ⟨z, hz, rfl⟩ := List.mem_map.mp hx
    rw [List.mem_singleton.mp hy]
    exact Nat.ne_of_lt (h.lt z hz)
  · intro x hx
    rcases List.mem_append.mp hx with hx | hx
    · exact Nat.lt_succ_of_lt (h.lt x hx)
    · rw [List.mem_singleton.mp hx]
      exact Nat.lt_succ_self _

end KeysBelow

end Rpc
