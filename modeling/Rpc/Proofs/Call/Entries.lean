import Mathlib.Data.List.Induction
import Rpc.Call.Race
import Rpc.Proofs.Keyed

/-! # Every entry is accounted for

Each registration that has entered its number stands either on the table or among the outcomes,
and stands there once. An entry whose registration has returned was entered while the table was
open, so every closing still has to collect it or has it on its list. When all are done nothing is
left that a closing could have missed.
-/
namespace Rpc

namespace Registering

/-- Whether the registration has come as far as to enter a number. -/
def hasEntered : Registering → Bool
  | entered _ | withdrawing _ | registered _ | refused => true
  | begun | looked | drawn _ => false

end Registering

/-- Whether a closing will come to a number that is on the table. -/
def Closing.Awaits (n : UInt64) : Closing → Prop
  | begun | flagged => True
  | draining left => n ∈ left
  | done => False

namespace Race

/-- The registrations that stand on the table or among the outcomes. -/
def accounted (r : Race) : List Nat := r.waiting.map Prod.snd ++ r.outcomes.map Prod.fst

variable {r : Race} {task t : Nat} {n m : UInt64} {g after : Registering} {c : Closing}
  {o : Outcome}

/-! ## Single changes -/

theorem lookup_setRegister (r : Race) (task t : Nat) (after : Registering) :
    (r.setRegister task after).registers.lookup t =
      if t = task then (r.registers.lookup t).map fun _ => after else r.registers.lookup t :=
  lookup_modify (fun _ => after) r.registers task t

theorem lookup_setCloser (r : Race) (task t : Nat) (after : Closing) :
    (r.setCloser task after).closers.lookup t =
      if t = task then (r.closers.lookup t).map fun _ => after else r.closers.lookup t :=
  lookup_modify (fun _ => after) r.closers task t

theorem take_of_none (h : r.waiting.lookup n = none) (o : Outcome) : r.take n o = r := by
  simp only [take, h]

theorem take_of_some (h : r.waiting.lookup n = some task) (o : Outcome) : r.take n o =
    { r with waiting := r.waiting.filter (·.1 ≠ n), outcomes := (task, o) :: r.outcomes } := by
  simp only [take, h]

theorem take_waiting (r : Race) (n : UInt64) (o : Outcome) :
    (r.take n o).waiting = r.waiting.filter (·.1 ≠ n) := by
  cases h : r.waiting.lookup n with
  | none => rw [take_of_none h, filter_ne_eq_self h]
  | some task => rw [take_of_some h]

@[simp]
theorem take_registers (r : Race) (n : UInt64) (o : Outcome) :
    (r.take n o).registers = r.registers := by
  unfold take
  split <;> rfl

@[simp]
theorem take_closers (r : Race) (n : UInt64) (o : Outcome) :
    (r.take n o).closers = r.closers := by
  unfold take
  split <;> rfl

@[simp]
theorem take_closed (r : Race) (n : UInt64) (o : Outcome) : (r.take n o).closed = r.closed := by
  unfold take
  split <;> rfl

theorem mem_waiting_take : (m, t) ∈ (r.take n o).waiting ↔ (m, t) ∈ r.waiting ∧ m ≠ n := by
  rw [take_waiting, List.mem_filter, decide_eq_true_eq]

/-! ## The invariant -/

structure Sound (r : Race) : Prop where
  /-- No number stands twice on the table. -/
  keys : (r.waiting.map Prod.fst).Nodup
  /-- An entry is that of its registration. -/
  holds : ∀ n t, (n, t) ∈ r.waiting →
    ∃ g, r.registers.lookup t = some g ∧ g.number? = some n
  flagged : ∀ t c, r.closers.lookup t = some c → c ≠ .begun → r.closed = true
  awaited : ∀ closer c n t, r.closers.lookup closer = some c → (n, t) ∈ r.waiting →
    r.registers.lookup t = some (.registered n) → c.Awaits n
  once : r.accounted.Nodup
  entered : ∀ t ∈ r.accounted, ∃ g, r.registers.lookup t = some g ∧ g.hasEntered = true
  accounts : ∀ t g n, r.registers.lookup t = some g → g.number? = some n → t ∈ r.accounted

theorem sound_new (side : Side) : Sound (.new side) where
  keys := List.nodup_nil
  holds _ _ h := absurd h List.not_mem_nil
  flagged _ _ h := by cases h
  awaited _ _ _ _ h := by cases h
  once := List.nodup_nil
  entered _ h := absurd h List.not_mem_nil
  accounts _ _ _ h := by cases h

namespace Sound

/-- Taking a number off moves its registration to the outcomes. -/
theorem accounted_take (h : Sound r) (n : UInt64) (o : Outcome) :
    (r.take n o).accounted.Perm r.accounted := by
  cases hn : r.waiting.lookup n with
  | none => rw [take_of_none hn]
  | some task =>
    have hperm := (perm_of_lookup h.keys hn).map Prod.snd
    rw [take_of_some hn]
    refine List.Perm.trans ?_ (hperm.symm.append_right _)
    exact List.perm_middle

theorem take (h : Sound r) (n : UInt64) (o : Outcome) : Sound (r.take n o) := by
  have hperm := h.accounted_take n o
  constructor
  · rw [take_waiting]
    exact h.keys.sublist (List.filter_sublist.map _)
  · intro m t hm
    rw [take_registers]
    exact h.holds m t (mem_waiting_take.mp hm).1
  · simp only [take_closers, take_closed]
    exact h.flagged
  · intro closer c m t hc hm ht
    rw [take_closers] at hc
    rw [take_registers] at ht
    exact h.awaited closer c m t hc (mem_waiting_take.mp hm).1 ht
  · exact hperm.nodup_iff.mpr h.once
  · intro t ht
    rw [take_registers]
    exact h.entered t (hperm.mem_iff.mp ht)
  · intro t g m hg hm
    rw [take_registers] at hg
    exact hperm.mem_iff.mpr (h.accounts t g m hg hm)

/-- A registration comes further without the table. -/
theorem setRegister (h : Sound r) (hg : r.registers.lookup task = some g)
    (hnumber : ∀ n, (n, task) ∈ r.waiting → after.number? = some n)
    (hopen : ∀ n, after = .registered n → r.closed = false)
    (hentered : g.hasEntered = true → after.hasEntered = true)
    (haccounted : ∀ n, after.number? = some n → g.number? = some n) :
    Sound (r.setRegister task after) := by
  have hlookup := fun t => lookup_setRegister r task t after
  constructor
  · exact h.keys
  · intro n t hn
    rw [hlookup]
    by_cases ht : t = task
    · subst ht
      rw [if_pos rfl, hg]
      exact ⟨after, rfl, hnumber n hn⟩
    · rw [if_neg ht]
      exact h.holds n t hn
  · exact h.flagged
  · intro closer c n t hc hn ht
    rw [hlookup] at ht
    by_cases htask : t = task
    · subst htask
      rw [if_pos rfl, hg] at ht
      have hbegun : c = .begun := by
        by_contra hne
        have hclosed := h.flagged closer c hc hne
        rw [hopen n (Option.some.inj ht)] at hclosed
        cases hclosed
      rw [hbegun]
      trivial
    · rw [if_neg htask] at ht
      exact h.awaited closer c n t hc hn ht
  · exact h.once
  · intro t ht
    obtain ⟨g', hg', he⟩ := h.entered t ht
    rw [hlookup]
    by_cases htask : t = task
    · subst htask
      rw [hg] at hg'
      cases hg'
      rw [if_pos rfl, hg]
      exact ⟨after, rfl, hentered he⟩
    · rw [if_neg htask]
      exact ⟨g', hg', he⟩
  · intro t g' n ht hn
    rw [hlookup] at ht
    by_cases htask : t = task
    · subst htask
      rw [if_pos rfl, hg] at ht
      cases ht
      exact h.accounts t g n hg (haccounted n hn)
    · rw [if_neg htask] at ht
      exact h.accounts t g' n ht hn

theorem setCloser (h : Sound r) (hflagged : c ≠ .begun → r.closed = true)
    (hawaits : ∀ n t, (n, t) ∈ r.waiting → r.registers.lookup t = some (.registered n) →
      c.Awaits n) : Sound (r.setCloser task c) := by
  have hlookup := fun t => lookup_setCloser r task t c
  have hcase : ∀ t c', (r.setCloser task c).closers.lookup t = some c' →
      c' = c ∨ r.closers.lookup t = some c' := by
    intro t c' hc
    rw [hlookup] at hc
    by_cases ht : t = task
    · rw [if_pos ht] at hc
      obtain ⟨-, -, rfl⟩ := Option.map_eq_some_iff.mp hc
      exact Or.inl rfl
    · rw [if_neg ht] at hc
      exact Or.inr hc
  refine { h with flagged := ?_, awaited := ?_ }
  · intro t c' hc hne
    rcases hcase t c' hc with rfl | hc
    · exact hflagged hne
    · exact h.flagged t c' hc hne
  · intro closer c' n t hc hn ht
    rcases hcase closer c' hc with rfl | hc
    · exact hawaits n t hn ht
    · exact h.awaited closer c' n t hc hn ht

theorem draw (h : Sound r) : Sound r.draw := { h with }

theorem not_mem_waiting (h : Sound r) (hg : r.registers.lookup task = some g)
    (hnone : g.number? = none) : (n, task) ∉ r.waiting := by
  intro hn
  obtain ⟨g', hg', hnumber⟩ := h.holds n task hn
  rw [hg] at hg'
  cases hg'
  rw [hnone] at hnumber
  cases hnumber

/-- A registration enters its number, which is free. -/
theorem enter (h : Sound r) (hg : r.registers.lookup task = some (.drawn n))
    (hn : r.waiting.lookup n = none) :
    Sound ({ r with waiting := (n, task) :: r.waiting }.setRegister task (.entered n)) := by
  have hlookup := fun t =>
    lookup_setRegister { r with waiting := (n, task) :: r.waiting } task t (.entered n)
  have hfresh : task ∉ r.accounted := by
    intro hmem
    obtain ⟨g, hg', he⟩ := h.entered task hmem
    rw [hg] at hg'
    cases hg'
    cases he
  have hne : ∀ m t, (m, t) ∈ r.waiting → t ≠ task := by
    rintro m t hm rfl
    exact hfresh (List.mem_append_left _ (List.mem_map_of_mem hm))
  constructor
  · refine List.nodup_cons.mpr ⟨?_, h.keys⟩
    intro hmem
    obtain ⟨x, hx, hxn⟩ := List.mem_map.mp hmem
    exact ne_of_lookup_eq_none hn hx hxn
  · intro m t hm
    rw [hlookup]
    rcases List.mem_cons.mp hm with heq | hm
    · cases heq
      rw [if_pos rfl, hg]
      exact ⟨_, rfl, rfl⟩
    · rw [if_neg (hne m t hm)]
      exact h.holds m t hm
  · exact h.flagged
  · intro closer c m t hc hm ht
    rw [hlookup] at ht
    rcases List.mem_cons.mp hm with heq | hm
    · cases heq
      rw [if_pos rfl, hg] at ht
      cases ht
    · rw [if_neg (hne m t hm)] at ht
      exact h.awaited closer c m t hc hm ht
  · exact List.nodup_cons.mpr ⟨hfresh, h.once⟩
  · intro t ht
    rw [hlookup]
    by_cases htask : t = task
    · subst htask
      rw [if_pos rfl, hg]
      exact ⟨_, rfl, rfl⟩
    · rw [if_neg htask]
      exact h.entered t ((List.mem_cons.mp ht).resolve_left htask)
  · intro t g m ht hm
    rw [hlookup] at ht
    by_cases htask : t = task
    · rw [htask]
      exact List.mem_cons_self
    · rw [if_neg htask] at ht
      exact List.mem_cons_of_mem _ (h.accounts t g m ht hm)

/-! ## Steps -/

theorem setRegister_of_none (h : Sound r) (hg : r.registers.lookup task = some g)
    (hbefore : g.number? = none) (hnew : g.hasEntered = false) (hafter : after.number? = none) :
    Sound (r.setRegister task after) := by
  refine h.setRegister hg ?_ ?_ ?_ ?_
  · intro n hn
    exact absurd hn (h.not_mem_waiting hg hbefore)
  · rintro n rfl
    cases hafter
  · intro he
    rw [hnew] at he
    cases he
  · intro n hn
    rw [hafter] at hn
    cases hn

theorem stepRegister (h : Sound r) (hg : r.registers.lookup task = some g) :
    Sound (r.stepRegister task g) := by
  cases g with
  | begun =>
    refine h.setRegister_of_none hg rfl rfl ?_
    split <;> rfl
  | looked =>
    refine h.draw.setRegister_of_none hg rfl rfl ?_
    split <;> rfl
  | drawn n =>
    cases hn : r.waiting.lookup n with
    | some t =>
      simp only [Race.stepRegister, hn, Option.isSome_some, if_true]
      exact h.setRegister_of_none hg rfl rfl rfl
    | none =>
      simp only [Race.stepRegister, hn, Option.isSome_none, Bool.false_eq_true, if_false]
      exact h.enter hg hn
  | entered n =>
    have hown : ∀ m, (m, task) ∈ r.waiting → m = n := by
      intro m hm
      obtain ⟨g, hg', hnumber⟩ := h.holds m task hm
      rw [hg] at hg'
      cases hg'
      exact (Option.some.inj hnumber).symm
    cases hclosed : r.closed with
    | true =>
      simp only [Race.stepRegister, hclosed, if_true]
      refine h.setRegister hg ?_ (by simp) id fun m hm => hm
      intro m hm
      rw [hown m hm]
      rfl
    | false =>
      simp only [Race.stepRegister, hclosed, Bool.false_eq_true, if_false]
      refine h.setRegister hg ?_ (fun _ _ => hclosed) id fun m hm => hm
      intro m hm
      rw [hown m hm]
      rfl
  | withdrawing n =>
    have hg' : (r.take n (.withdrawn task)).registers.lookup task = some (.withdrawing n) := by
      rw [take_registers]
      exact hg
    refine (h.take n _).setRegister hg' ?_ (by simp) id fun _ hm => by cases hm
    intro m hm
    obtain ⟨hm, hne⟩ := mem_waiting_take.mp hm
    obtain ⟨g, hg', hnumber⟩ := h.holds m task hm
    rw [hg] at hg'
    cases hg'
    exact absurd (Option.some.inj hnumber).symm hne
  | registered n => exact h
  | refused => exact h

theorem stepClose (h : Sound r) (hc : r.closers.lookup task = some c) :
    Sound (r.stepClose task c) := by
  cases c with
  | begun =>
    have hflag : Sound { r with closed := true } := { h with flagged := fun _ _ _ _ => rfl }
    exact hflag.setCloser (fun _ => rfl) fun _ _ _ _ => trivial
  | flagged =>
    refine h.setCloser (fun _ => h.flagged task _ hc (by simp)) ?_
    intro n t hn _
    exact List.mem_map.mpr ⟨(n, t), hn, rfl⟩
  | draining left =>
    have hclosed := h.flagged task _ hc (by simp)
    cases left with
    | nil =>
      refine h.setCloser (fun _ => hclosed) ?_
      intro n t hn ht
      exact absurd (h.awaited task _ n t hc hn ht) List.not_mem_nil
    | cons m left =>
      refine (h.take m _).setCloser ?_ ?_
      · intro _
        rw [take_closed]
        exact hclosed
      · intro n t hn ht
        obtain ⟨hn, hne⟩ := mem_waiting_take.mp hn
        rw [take_registers] at ht
        exact (List.mem_cons.mp (h.awaited task _ n t hc hn ht)).resolve_left hne
  | done => exact h

theorem beginRegister (h : Sound r) :
    Sound { r with registers := r.registers ++ [(task, .begun)] } := by
  have hold : ∀ t g, r.registers.lookup t = some g →
      (r.registers ++ [(task, Registering.begun)]).lookup t = some g := by
    intro t g ht
    rw [lookup_concat, ht, Option.some_or]
  have hback : ∀ t g, (r.registers ++ [(task, Registering.begun)]).lookup t = some g → g ≠ .begun →
      r.registers.lookup t = some g := by
    intro t g ht hne
    rw [lookup_concat] at ht
    cases hlookup : r.registers.lookup t with
    | some g' =>
      rw [hlookup] at ht
      exact ht
    | none =>
      rw [hlookup, Option.none_or] at ht
      split at ht
      · exact absurd (Option.some.inj ht).symm hne
      · cases ht
  constructor
  · exact h.keys
  · intro n t hn
    obtain ⟨g, hg, hnumber⟩ := h.holds n t hn
    exact ⟨g, hold t g hg, hnumber⟩
  · exact h.flagged
  · intro closer c n t hc hn ht
    exact h.awaited closer c n t hc hn (hback t _ ht (by simp))
  · exact h.once
  · intro t ht
    obtain ⟨g, hg, he⟩ := h.entered t ht
    exact ⟨g, hold t g hg, he⟩
  · intro t g n ht hn
    refine h.accounts t g n (hback t g ht ?_) hn
    rintro rfl
    cases hn

theorem beginClose (h : Sound r) :
    Sound { r with closers := r.closers ++ [(task, .begun)] } := by
  have hback : ∀ t c, (r.closers ++ [(task, Closing.begun)]).lookup t = some c →
      c = .begun ∨ r.closers.lookup t = some c := by
    intro t c hc
    rw [lookup_concat] at hc
    cases hlookup : r.closers.lookup t with
    | some c' =>
      rw [hlookup] at hc
      exact Or.inr hc
    | none =>
      rw [hlookup, Option.none_or] at hc
      split at hc
      · exact Or.inl (Option.some.inj hc).symm
      · cases hc
  refine { h with flagged := ?_, awaited := ?_ }
  · intro t c hc hne
    exact h.flagged t c ((hback t c hc).resolve_left hne) hne
  · intro closer c n t hc hn ht
    rcases hback closer c hc with rfl | hc
    · trivial
    · exact h.awaited closer c n t hc hn ht

theorem step (h : Sound r) (e : Event) : Sound (r.step e) := by
  cases e with
  | beginRegister task =>
    simp only [Race.step]
    split
    · exact h
    · exact h.beginRegister
  | register task =>
    cases hg : r.registers.lookup task with
    | some g =>
      simp only [Race.step, hg]
      exact h.stepRegister hg
    | none =>
      simp only [Race.step, hg]
      exact h
  | allocate => exact h.draw
  | complete n reply => exact h.take n _
  | remove n => exact h.take n _
  | beginClose task =>
    simp only [Race.step]
    split
    · exact h
    · exact h.beginClose
  | close task =>
    cases hc : r.closers.lookup task with
    | some c =>
      simp only [Race.step, hc]
      exact h.stepClose hc
    | none =>
      simp only [Race.step, hc]
      exact h

end Sound

theorem sound_run (side : Side) (es : List Event) : Sound ((new side).run es) := by
  induction es using List.reverseRecOn with
  | nil => exact sound_new side
  | append_singleton es e ih =>
    rw [run, List.foldl_append]
    exact ih.step e

/-! ## When all are done -/

/-- A closing that is done has left nothing of what has returned. -/
theorem Sound.waiting_of_quiet (h : Sound r) (hquiet : r.IsQuiet) (hclosers : r.closers ≠ []) :
    r.waiting = [] := by
  obtain ⟨closer, c, hc⟩ := exists_lookup hclosers
  have hdone : c = .done := hquiet.2 _ (mem_of_lookup hc)
  subst hdone
  rw [List.eq_nil_iff_forall_not_mem]
  rintro ⟨n, t⟩ hn
  obtain ⟨g, hg, hnumber⟩ := h.holds n t hn
  have hreturned := hquiet.1 _ (mem_of_lookup hg)
  cases g with
  | registered m =>
    cases hnumber
    exact h.awaited closer .done n t hc hn hg
  | refused => cases hnumber
  | begun | looked | drawn m | entered m | withdrawing m => cases hreturned

/-- A registration that has got its number and is not on the table has one outcome. -/
theorem Sound.outcome (h : Sound r) (hg : r.registers.lookup task = some (.registered n))
    (hgone : (n, task) ∉ r.waiting) :
    ∃ o, r.outcomes.filter (·.1 = task) = [(task, o)] := by
  have honce : (r.outcomes.map Prod.fst).Nodup := (List.nodup_append.mp h.once).2.1
  have hmem : task ∈ r.outcomes.map Prod.fst := by
    rcases List.mem_append.mp (h.accounts task _ n hg rfl) with hw | ho
    · obtain ⟨⟨m, t⟩, hm, rfl⟩ := List.mem_map.mp hw
      obtain ⟨g, hg', hnumber⟩ := h.holds m t hm
      rw [hg] at hg'
      cases hg'
      cases hnumber
      exact absurd hm hgone
    · exact ho
  obtain ⟨⟨t, o⟩, ho, rfl⟩ := List.mem_map.mp hmem
  exact ⟨o, filter_eq_singleton_of_mem honce ho⟩

end Race

end Rpc
