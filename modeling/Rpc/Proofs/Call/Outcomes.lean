import Rpc.Proofs.Call.Entries
import Rpc.Proofs.Call.Numbers
import Rpc.Proofs.Notes

/-! # What becomes of a registration

An outcome is brought by the step that takes the number off: an answer to that very number, its
removal, a closing, or a registration that takes its number back. The last one takes back its own
entry: as long as the counter does not come round, no two registrations are given one number. So a
registration that has returned its number is either answered or removed.
-/
namespace Rpc

namespace Registering

/-- The number that the counter has given to the registration. -/
def given? : Registering → Option UInt64
  | drawn n | entered n | withdrawing n | registered n => some n
  | begun | looked | refused => none

/-- Where a registration that has entered its number can come to. -/
def ComesTo : Registering → Registering → Prop
  | begun, _ | looked, _ | drawn _, _ => True
  | entered n, g => g.number? = some n ∨ g = refused
  | withdrawing n, g => g = withdrawing n ∨ g = refused
  | registered n, g => g = registered n
  | refused, g => g = refused

variable {g g' g'' : Registering} {n : UInt64}

theorem comesTo_refl (g : Registering) : g.ComesTo g := by
  cases g with
  | entered n => exact Or.inl rfl
  | withdrawing n => exact Or.inl rfl
  | registered n => exact rfl
  | refused => exact rfl
  | begun | looked | drawn n => trivial

theorem ComesTo.trans (h : g.ComesTo g') (h' : g'.ComesTo g'') : g.ComesTo g'' := by
  cases g with
  | begun | looked | drawn n => trivial
  | entered n =>
    rcases h with hn | rfl
    · cases g' with
      | entered m =>
        cases hn
        exact h'
      | withdrawing m =>
        cases hn
        rcases h' with rfl | rfl
        · exact Or.inl rfl
        · exact Or.inr rfl
      | registered m =>
        obtain rfl : g'' = registered m := h'
        exact Or.inl hn
      | begun | looked | drawn m | refused => cases hn
    · exact Or.inr h'
  | withdrawing n =>
    rcases h with rfl | rfl
    · exact h'
    · exact Or.inr h'
  | registered n =>
    obtain rfl : g' = registered n := h
    exact h'
  | refused =>
    obtain rfl : g' = refused := h
    exact h'

theorem ComesTo.number (h : g.ComesTo (.registered n)) {m : UInt64} (hm : g.number? = some m) :
    m = n := by
  cases g with
  | entered k =>
    cases hm
    rcases h with h | h
    · cases h
      rfl
    · cases h
  | withdrawing k =>
    rcases h with h | h <;> cases h
  | registered k =>
    cases hm
    cases h
    rfl
  | begun | looked | drawn k | refused => cases hm

end Registering

namespace Race

def advance (r : Race) : Registering → Registering
  | .begun => if r.closed then .refused else .looked
  | .looked => if r.next = 0 then .looked else .drawn r.next
  | .drawn n => if (r.waiting.lookup n).isSome then .looked else .entered n
  | .entered n => if r.closed then .withdrawing n else .registered n
  | .withdrawing _ => .refused
  | g => g

/-- The event takes a number off the table and brings its registration this outcome. -/
def Takes (r : Race) (n : UInt64) : Event → Outcome → Prop
  | .complete m reply, o => m = n ∧ o = .replied reply
  | .remove m, o => m = n ∧ o = .forgotten
  | .register task, o => r.registers.lookup task = some (.withdrawing n) ∧ o = .withdrawn task
  | .close task, o => (∃ left, r.closers.lookup task = some (.draining (n :: left))) ∧
      o = .replied (.error (.transport .connectionClosed))
  | .beginRegister _, _ | .allocate, _ | .beginClose _, _ => False

def draws (r : Race) : Event → List UInt64
  | .register task => if r.registers.lookup task = some .looked then [r.next] else []
  | .allocate => [r.next]
  | _ => []

/-- The numbers that a run draws from the counter. -/
def drawn (side : Side) (es : List Event) : List UInt64 := notes step draws (new side) es

variable {r : Race} {task t : Nat} {n m : UInt64} {g g' : Registering} {o : Outcome} {e : Event}
  {side : Side} {es : List Event}

theorem run_append (fs : List Event) : r.run (es ++ fs) = (r.run es).run fs := List.foldl_append

theorem run_concat : r.run (es ++ [e]) = (r.run es).step e := run_append [e]

/-! ## What a step does -/

/-- What a step can do to the table, the registrations and the outcomes. -/
inductive Change (r : Race) : Event → Race → Prop
  | stay (e : Event) (h : r.draws e = []) : Change r e r
  | begins (task : Nat) (h : r.registers.lookup task = none) :
      Change r (.beginRegister task) { r with registers := r.registers ++ [(task, .begun)] }
  | moves (task : Nat) (g : Registering) (h : r.registers.lookup task = some g)
      (hg : g ≠ .looked) : Change r (.register task) (r.setRegister task (r.advance g))
  | draws (task : Nat) (h : r.registers.lookup task = some .looked) :
      Change r (.register task) (r.draw.setRegister task (r.advance .looked))
  | enters (task : Nat) (n : UInt64) (h : r.registers.lookup task = some (.drawn n))
      (hn : r.waiting.lookup n = none) : Change r (.register task)
        ({ r with waiting := (n, task) :: r.waiting }.setRegister task (r.advance (.drawn n)))
  | withdraws (task : Nat) (n : UInt64) (h : r.registers.lookup task = some (.withdrawing n)) :
      Change r (.register task)
        ((r.take n (.withdrawn task)).setRegister task (r.advance (.withdrawing n)))
  | allocates : Change r .allocate r.draw
  | takes (e : Event) (n : UInt64) (o : Outcome) (h : r.Takes n e o) (hdraws : r.draws e = [])
      (closers : List (Nat × Closing)) : Change r e { r.take n o with closers := closers }
  | closes (e : Event) (h : r.draws e = []) (closed : Bool) (closers : List (Nat × Closing)) :
      Change r e { r with closed := closed, closers := closers }

theorem draws_of_ne (h : r.registers.lookup task = some g) (hg : g ≠ .looked) :
    r.draws (.register task) = [] := by
  rw [draws, h, if_neg]
  intro heq
  exact hg (Option.some.inj heq)

theorem change_stepRegister (h : r.registers.lookup task = some g) :
    Change r (.register task) (r.stepRegister task g) := by
  cases g with
  | begun => exact .moves task .begun h (by simp)
  | looked => exact .draws task h
  | drawn n =>
    cases hn : r.waiting.lookup n with
    | some t =>
      have hmoves := Change.moves task (.drawn n) h (by simp)
      simp only [advance, hn, Option.isSome_some, if_true] at hmoves
      simp only [stepRegister, hn, Option.isSome_some, if_true]
      exact hmoves
    | none =>
      have henters := Change.enters task n h hn
      simp only [advance, hn, Option.isSome_none, Bool.false_eq_true, if_false] at henters
      simp only [stepRegister, hn, Option.isSome_none, Bool.false_eq_true, if_false]
      exact henters
  | entered n => exact .moves task (.entered n) h (by simp)
  | withdrawing n => exact .withdraws task n h
  | registered n => exact .stay _ (draws_of_ne h (by simp))
  | refused => exact .stay _ (draws_of_ne h (by simp))

theorem change_stepClose {c : Closing} (h : r.closers.lookup task = some c) :
    Change r (.close task) (r.stepClose task c) := by
  cases c with
  | begun => exact .closes _ rfl true _
  | flagged => exact .closes _ rfl r.closed _
  | draining left =>
    cases left with
    | nil => exact .closes _ rfl r.closed _
    | cons n left =>
      have htakes : r.Takes n (.close task) (.replied (.error (.transport .connectionClosed))) :=
        ⟨⟨left, h⟩, rfl⟩
      exact .takes _ n _ htakes rfl _
  | done => exact .stay _ rfl

theorem change_step (r : Race) (e : Event) : Change r e (r.step e) := by
  cases e with
  | beginRegister task =>
    cases h : r.registers.lookup task with
    | some g =>
      simp only [step, h, Option.isSome_some, if_true]
      exact .stay _ rfl
    | none =>
      simp only [step, h, Option.isSome_none, Bool.false_eq_true, if_false]
      exact .begins task h
  | register task =>
    cases h : r.registers.lookup task with
    | some g =>
      simp only [step, h]
      exact change_stepRegister h
    | none =>
      simp only [step, h]
      exact .stay _ (by simp [draws, h])
  | allocate => exact .allocates
  | complete n reply =>
    have htakes : r.Takes n (.complete n reply) (.replied reply) := ⟨rfl, rfl⟩
    exact .takes _ n _ htakes rfl (r.take n _).closers
  | remove n =>
    have htakes : r.Takes n (.remove n) .forgotten := ⟨rfl, rfl⟩
    exact .takes _ n _ htakes rfl (r.take n _).closers
  | beginClose task =>
    simp only [step]
    split
    · exact .stay _ rfl
    · exact .closes _ rfl r.closed _
  | close task =>
    cases h : r.closers.lookup task with
    | some c =>
      simp only [step, h]
      exact change_stepClose h
    | none =>
      simp only [step, h]
      exact .stay _ rfl

/-- A registration stands where it stood, or begins, or takes its own next step. -/
theorem lookup_step (r : Race) (e : Event) (t : Nat) :
    (r.step e).registers.lookup t = r.registers.lookup t ∨
      r.registers.lookup t = none ∧ (r.step e).registers.lookup t = some .begun ∨
      ∃ g, e = .register t ∧ r.registers.lookup t = some g ∧
        (r.step e).registers.lookup t = some (r.advance g) := by
  generalize hr' : r.step e = r'
  have hchange := change_step r e
  rw [hr'] at hchange
  have hset : ∀ (q : Race) (task : Nat) (g : Registering), q.registers = r.registers →
      r.registers.lookup task = some g → e = .register task →
      (q.setRegister task (r.advance g)).registers.lookup t = r.registers.lookup t ∨
        e = .register t ∧ r.registers.lookup t = some g ∧
          (q.setRegister task (r.advance g)).registers.lookup t = some (r.advance g) := by
    intro q task g hq hg he
    rw [lookup_setRegister, hq]
    by_cases ht : t = task
    · subst ht
      rw [if_pos rfl, hg, Option.map_some]
      exact Or.inr ⟨he, rfl, rfl⟩
    · rw [if_neg ht]
      exact Or.inl rfl
  cases hchange with
  | begins task h =>
    rw [lookup_concat]
    by_cases ht : t = task
    · subst ht
      rw [h, if_pos rfl, Option.none_or]
      exact Or.inr (Or.inl ⟨rfl, rfl⟩)
    · rw [if_neg ht, Option.or_none]
      exact Or.inl rfl
  | moves task g h hg => exact (hset r task g rfl h rfl).imp_right fun hmoved => Or.inr ⟨g, hmoved⟩
  | draws task h =>
    exact (hset r.draw task .looked rfl h rfl).imp_right fun hmoved => Or.inr ⟨_, hmoved⟩
  | enters task n h hn =>
    exact (hset { r with waiting := (n, task) :: r.waiting } task (.drawn n) rfl h rfl).imp_right
      fun hmoved => Or.inr ⟨_, hmoved⟩
  | withdraws task n h =>
    have hkept := take_registers r n (.withdrawn task)
    exact (hset _ task (.withdrawing n) hkept h rfl).imp_right fun hmoved => Or.inr ⟨_, hmoved⟩
  | takes _ n o => exact Or.inl (congrArg (List.lookup t) (take_registers r n o))
  | stay | allocates | closes => exact Or.inl rfl

theorem mem_outcomes_take {o' : Outcome} (h : (t, o) ∈ (r.take n o').outcomes) :
    (t, o) ∈ r.outcomes ∨ r.waiting.lookup n = some t ∧ o = o' := by
  cases hn : r.waiting.lookup n with
  | none =>
    rw [take_of_none hn] at h
    exact Or.inl h
  | some task =>
    rw [take_of_some hn] at h
    rcases List.mem_cons.mp h with heq | h
    · cases heq
      exact Or.inr ⟨rfl, rfl⟩
    · exact Or.inl h

/-- A new outcome is that of a number that the event takes off the table. -/
theorem mem_outcomes_step (h : (t, o) ∈ (r.step e).outcomes) :
    (t, o) ∈ r.outcomes ∨ ∃ n, r.waiting.lookup n = some t ∧ r.Takes n e o := by
  generalize hr' : r.step e = r' at h
  have hchange := change_step r e
  rw [hr'] at hchange
  cases hchange with
  | withdraws task n hg =>
    rcases mem_outcomes_take h with h | ⟨hn, ho⟩
    · exact Or.inl h
    · exact Or.inr ⟨n, hn, hg, ho⟩
  | takes _ n o' htakes =>
    rcases mem_outcomes_take h with h | ⟨hn, rfl⟩
    · exact Or.inl h
    · exact Or.inr ⟨n, hn, htakes⟩
  | stay | begins | moves | draws | enters | allocates | closes => exact Or.inl h

/-- A new entry is that of a registration that has drawn its number. -/
theorem mem_waiting_step (h : (n, t) ∈ (r.step e).waiting) :
    (n, t) ∈ r.waiting ∨ r.registers.lookup t = some (.drawn n) := by
  generalize hr' : r.step e = r' at h
  have hchange := change_step r e
  rw [hr'] at hchange
  cases hchange with
  | enters task m hg hm =>
    rcases List.mem_cons.mp h with heq | h
    · cases heq
      exact Or.inr hg
    · exact Or.inl h
  | withdraws task m hg => exact Or.inl (mem_waiting_take.mp h).1
  | takes _ m o => exact Or.inl (mem_waiting_take.mp h).1
  | stay | begins | moves | draws | allocates | closes => exact Or.inl h

theorem next_step (r : Race) (e : Event) :
    r.draws e = [] ∧ (r.step e).next = r.next ∨
      r.draws e = [r.next] ∧ (r.step e).next = r.next + 2 := by
  have htake : ∀ n o, (r.take n o).next = r.next := by
    intro n o
    unfold take
    split <;> rfl
  generalize hr' : r.step e = r'
  have hchange := change_step r e
  rw [hr'] at hchange
  cases hchange with
  | moves task g h hg => exact Or.inl ⟨draws_of_ne h hg, rfl⟩
  | draws task h => exact Or.inr ⟨by rw [draws, h, if_pos rfl], rfl⟩
  | enters task n h hn => exact Or.inl ⟨draws_of_ne h (by simp), rfl⟩
  | withdraws task n h => exact Or.inl ⟨draws_of_ne h (by simp), htake n _⟩
  | allocates => exact Or.inr ⟨rfl, rfl⟩
  | takes _ n o _ hdraws => exact Or.inl ⟨hdraws, htake n o⟩
  | begins => exact Or.inl ⟨rfl, rfl⟩
  | stay _ h => exact Or.inl ⟨h, rfl⟩
  | closes _ h => exact Or.inl ⟨h, rfl⟩

/-! ## Where an outcome comes from -/

theorem comesTo_advance (r : Race) (g : Registering) : g.ComesTo (r.advance g) := by
  cases g with
  | begun | looked | drawn n => trivial
  | entered n =>
    rw [advance]
    split <;> exact Or.inl rfl
  | withdrawing n => exact Or.inr rfl
  | registered n | refused => rfl

theorem comesTo_run (es : List Event) (ht : r.registers.lookup t = some g) :
    ∃ g', (r.run es).registers.lookup t = some g' ∧ g.ComesTo g' := by
  induction es using List.reverseRecOn with
  | nil => exact ⟨g, ht, g.comesTo_refl⟩
  | append_singleton es e ih =>
    obtain ⟨g', hg', hcomes⟩ := ih
    rw [run_concat]
    rcases lookup_step (r.run es) e t with hsame | ⟨hnone, -⟩ | ⟨g'', -, hg'', hnext⟩
    · exact ⟨g', hsame.trans hg', hcomes⟩
    · rw [hg'] at hnone
      cases hnone
    · rw [hg'] at hg''
      cases hg''
      exact ⟨_, hnext, hcomes.trans (comesTo_advance _ g')⟩

/-- An outcome was brought at some moment by an event that took the number off the table. -/
theorem taken_of_mem_outcomes (h : (t, o) ∈ ((new side).run es).outcomes) :
    ∃ front e back n, es = front ++ e :: back ∧
      ((new side).run front).waiting.lookup n = some t ∧ ((new side).run front).Takes n e o := by
  induction es using List.reverseRecOn with
  | nil => cases h
  | append_singleton es e ih =>
    rw [run_concat] at h
    rcases mem_outcomes_step h with h | ⟨n, hn, htakes⟩
    · obtain ⟨front, e', back, n, rfl, hn, htakes⟩ := ih h
      refine ⟨front, e', back ++ [e], n, ?_, hn, htakes⟩
      rw [List.append_assoc, List.cons_append]
    · exact ⟨es, e, [], n, rfl, hn, htakes⟩

/-! ## Until the counter comes round -/

/-- The registrations have been given different numbers so far. -/
structure Apart (side : Side) (es : List Event) : Prop where
  order : CallTable.InOrder side (drawn side es) ((new side).run es).table
  given : ∀ t g n, ((new side).run es).registers.lookup t = some g → g.given? = some n →
    n ∈ drawn side es
  apart : ∀ t t' g g' n, ((new side).run es).registers.lookup t = some g → g.given? = some n →
    ((new side).run es).registers.lookup t' = some g' → g'.given? = some n → t = t'

theorem given_advance (h : (r.advance g).given? = some n) :
    g.given? = some n ∨ g = .looked ∧ n = r.next := by
  cases g with
  | begun =>
    rw [advance] at h
    split at h <;> cases h
  | looked =>
    rw [advance] at h
    split at h
    · cases h
    · exact Or.inr ⟨rfl, (Option.some.inj h).symm⟩
  | drawn m =>
    rw [advance] at h
    split at h
    · cases h
    · exact Or.inl h
  | entered m =>
    rw [advance] at h
    split at h <;> exact Or.inl h
  | withdrawing m => cases h
  | registered m => exact Or.inl h
  | refused => cases h

/-- A number that a registration has been given was its number before, or is the one it draws. -/
theorem given_step (ht : (r.step e).registers.lookup t = some g') (hn : g'.given? = some n) :
    (∃ g, r.registers.lookup t = some g ∧ g.given? = some n) ∨
      e = .register t ∧ r.registers.lookup t = some .looked ∧ n = r.next := by
  rcases lookup_step r e t with hsame | ⟨-, hbegun⟩ | ⟨g, he, hg, hnext⟩
  · exact Or.inl ⟨g', hsame.symm.trans ht, hn⟩
  · rw [hbegun] at ht
    cases ht
    cases hn
  · rw [hnext] at ht
    cases ht
    rcases given_advance hn with hn | ⟨rfl, rfl⟩
    · exact Or.inl ⟨g, hg, hn⟩
    · exact Or.inr ⟨he, hg, rfl⟩

theorem drawn_concat : drawn side (es ++ [e]) =
    drawn side es ++ ((new side).run es).draws e := notes_concat es e

theorem Apart.inOrder_step (h : Apart side es)
    (hmax : (drawn side (es ++ [e])).length < 9223372036854775807) :
    CallTable.InOrder side (drawn side (es ++ [e])) ((new side).run (es ++ [e])).table := by
  rw [drawn_concat] at hmax
  rw [drawn_concat, run_concat]
  have horder := h.order
  have hgiven := h.given
  generalize (new side).run es = r at horder hgiven hmax ⊢
  have hwaiting : ∀ m ∈ (r.step e).table.waiting, m ∈ drawn side es := by
    intro m hm
    obtain ⟨⟨k, t⟩, hk, rfl⟩ := List.mem_map.mp hm
    rcases mem_waiting_step hk with hk | ht
    · exact horder.waiting k (List.mem_map_of_mem hk)
    · exact hgiven t _ k ht rfl
  rcases next_step r e with ⟨hdraws, hnext⟩ | ⟨hdraws, hnext⟩
  · rw [hdraws, List.append_nil]
    exact ⟨horder.toNat, (congrArg UInt64.toNat hnext).trans horder.next, hwaiting⟩
  · rw [hdraws, List.length_append] at hmax
    rw [hdraws]
    have hkept : CallTable.InOrder side (drawn side es)
        { r.table with waiting := (r.step e).table.waiting } :=
      ⟨horder.toNat, horder.next, hwaiting⟩
    exact hkept.draw rfl hnext (fun m hm => Or.inr hm) hmax

theorem apart_run (hmax : (drawn side es).length < 9223372036854775807) : Apart side es := by
  induction es using List.reverseRecOn with
  | nil => exact ⟨CallTable.inOrder_new side, by simp [new, run], by simp [new, run]⟩
  | append_singleton es e ih =>
    have h : Apart side es := by
      refine ih ?_
      rw [drawn_concat, List.length_append] at hmax
      omega
    have hmem : ∀ {n}, n ∈ drawn side es → n ∈ drawn side (es ++ [e]) := by
      intro n hn
      rw [drawn_concat]
      exact List.mem_append_left _ hn
    have hfresh := h.order.next_not_mem
    refine ⟨h.inOrder_step hmax, ?_, ?_⟩
    · intro t g n ht hn
      rw [run_concat] at ht
      rcases given_step ht hn with ⟨g', hg', hn'⟩ | ⟨rfl, hlooked, rfl⟩
      · exact hmem (h.given t g' n hg' hn')
      · rw [drawn_concat, draws, hlooked, if_pos rfl]
        exact List.mem_append_right _ List.mem_cons_self
    · intro t t' g g' n ht hn ht' hn'
      rw [run_concat] at ht ht'
      rcases given_step ht hn with ⟨q, hq, hqn⟩ | ⟨rfl, -, rfl⟩
      · rcases given_step ht' hn' with ⟨q', hq', hqn'⟩ | ⟨-, -, rfl⟩
        · exact h.apart t t' q q' n hq hqn hq' hqn'
        · exact absurd (h.given t q _ hq hqn) hfresh
      · rcases given_step ht' hn' with ⟨q', hq', hqn'⟩ | ⟨heq, -, -⟩
        · exact absurd (h.given t' q' _ hq' hqn') hfresh
        · cases heq
          rfl

/-! ## All are settled -/

/-- What can become of a registration that has returned its number. Another registration takes the
number back only if it has been given the same one. -/
def Settles (side : Side) (es : List Event) (n : UInt64) (task : Nat) : Outcome → Prop
  | .replied reply => reply = .error (.transport .connectionClosed) ∨ .complete n reply ∈ es
  | .forgotten => .remove n ∈ es
  | .withdrawn other => other ≠ task ∧ 9223372036854775807 ≤ (drawn side es).length

theorem given_of_number (h : g.number? = some n) : g.given? = some n := by
  cases g with
  | entered m | withdrawing m | registered m => exact h
  | begun | looked | drawn m | refused => cases h

theorem settles_of_mem (hn : ((new side).run es).registers.lookup t = some (.registered n))
    (ho : (t, o) ∈ ((new side).run es).outcomes) : Settles side es n t o := by
  obtain ⟨front, e, back, m, rfl, hm, htakes⟩ := taken_of_mem_outcomes ho
  obtain ⟨g, hg, hnumber⟩ := (sound_run side front).holds m t (mem_of_lookup hm)
  obtain ⟨g', hg', hcomes⟩ := comesTo_run (e :: back) hg
  rw [← run_append, hn] at hg'
  cases hg'
  have hmn : m = n := hcomes.number hnumber
  subst hmn
  have hmem : e ∈ front ++ e :: back := List.mem_append_right _ List.mem_cons_self
  cases e with
  | complete k reply =>
    obtain ⟨rfl, rfl⟩ := htakes
    exact Or.inr hmem
  | remove k =>
    obtain ⟨rfl, rfl⟩ := htakes
    exact hmem
  | close task =>
    obtain ⟨-, rfl⟩ := htakes
    exact Or.inl rfl
  | register other =>
    obtain ⟨hother, rfl⟩ := htakes
    have hne : other ≠ t := by
      rintro rfl
      rw [hg] at hother
      cases hother
      rcases hcomes with h | h <;> cases h
    refine ⟨hne, ?_⟩
    by_contra hlt
    have hfront : (drawn side front).length < 9223372036854775807 := by
      rw [drawn, notes_append, List.length_append] at hlt
      rw [drawn]
      omega
    exact hne ((apart_run hfront).apart other t _ g m hother rfl hg (given_of_number hnumber))
  | beginRegister task | allocate | beginClose task => exact htakes.elim

/-- When all registrations and closings have returned, every registration is accounted for. -/
theorem settled_of_quiet (side : Side) (es : List Event)
    (hquiet : ((new side).run es).IsQuiet) (hclosers : ((new side).run es).closers ≠ []) :
    ((new side).run es).waiting = [] ∧
      (∀ task n, ((new side).run es).registers.lookup task = some (.registered n) →
        ∃ o, ((new side).run es).outcomes.filter (·.1 = task) = [(task, o)] ∧
          Settles side es n task o) ∧
      ∀ front back task n, es = front ++ back →
        ((new side).run front).registers.lookup task = some .refused →
          (n, task) ∉ ((new side).run front).waiting := by
  have hsound := sound_run side es
  have hempty := hsound.waiting_of_quiet hquiet hclosers
  refine ⟨hempty, ?_, ?_⟩
  · intro task n hn
    obtain ⟨o, ho⟩ := hsound.outcome hn (by rw [hempty]; exact List.not_mem_nil)
    refine ⟨o, ho, settles_of_mem hn ?_⟩
    have hmem : (task, o) ∈ ((new side).run es).outcomes.filter (·.1 = task) := by
      rw [ho]
      exact List.mem_singleton_self _
    exact (List.mem_filter.mp hmem).1
  · intro front back task n _ hrefused
    exact (sound_run side front).not_mem_waiting hrefused rfl

/-- One registration is done before the closing begins; another one enters its number between the
flag and the collection, and finds itself failed when it looks again. -/
def crossing : List Event :=
  [.beginRegister 0, .register 0, .register 0, .register 0, .register 0,
    .beginRegister 1, .register 1, .register 1, .beginClose 0, .close 0, .register 1, .close 0,
    .register 1, .close 0, .register 1, .close 0, .close 0]

theorem crossing_settled : ((new .client).run crossing).IsQuiet ∧
    ((new .client).run crossing).closers ≠ [] ∧ ((new .client).run crossing).waiting = [] ∧
      ∃ o, ((new .client).run crossing).outcomes.filter (·.1 = 0) = [(0, o)] ∧
        Settles .client crossing 1 0 o := by
  have hquiet : ((new .client).run crossing).IsQuiet := by
    unfold IsQuiet
    decide
  have hclosers : ((new .client).run crossing).closers ≠ [] := by decide
  have hsettled := settled_of_quiet .client crossing hquiet hclosers
  exact ⟨hquiet, hclosers, hsettled.1, hsettled.2.1 0 1 (by decide)⟩

end Race

end Rpc
