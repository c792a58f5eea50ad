import Mathlib.Data.List.Induction
import Rpc.Call.Exchange
import Rpc.Proofs.Call.Numbers
import Rpc.Proofs.Keyed
import Rpc.Proofs.Notes

/-! # The account of an exchange

What an exchange holds is told by the operations that led to it. A number is on the table if it was
registered and no operation since has taken it off; each receiver has the reply of the operation
that took its number off, if that one brought a reply. As long as the counter does not come round,
the numbers given out are all different, so no operation can touch another one's receiver.
-/
namespace Rpc.Exchange

inductive Operation
  | register
  | allocate
  | complete (n : UInt64) (reply : Reply)
  | remove (n : UInt64)
  | close (cause : CallError)

def perform (x : Exchange) : Operation → Exchange
  | .register => x.register.2
  | .allocate => x.allocate.2
  | .complete n reply => (x.complete n reply).2
  | .remove n => (x.remove n).2
  | .close cause => x.close cause

/-- The exchange of one side after some operations. -/
def after (side : Side) (os : List Operation) : Exchange := os.foldl perform (new side)

namespace Operation

/-- Whether an operation takes a number off the table. -/
def Frees (n : UInt64) : Operation → Prop
  | complete m _ | remove m => m = n
  | close _ => True
  | register | allocate => False

/-- The reply that an operation has for the receiver of a number. -/
def Answers (n : UInt64) (reply : Reply) : Operation → Prop
  | complete m r => m = n ∧ r = reply
  | close cause => .error cause = reply
  | _ => False

end Operation

/-- The numbers that an operation registers. -/
def registers (x : Exchange) : Operation → List UInt64
  | .register => x.register.1.toOption.toList
  | _ => []

/-- The numbers that an operation gives out. -/
def gives (x : Exchange) : Operation → List UInt64
  | .allocate => [x.allocate.1]
  | o => x.registers o

/-- The replies that an operation sends, with the numbers of their receivers. -/
def sends (x : Exchange) : Operation → List (UInt64 × Reply)
  | .complete n reply => if (x.complete n reply).1 then [(n, reply)] else []
  | .close cause => x.table.waiting.map (·, .error cause)
  | _ => []

section Record

variable (side : Side) (os : List Operation)

def registered : List UInt64 := notes perform registers (new side) os

def given : List UInt64 := notes perform gives (new side) os

def sent : List (UInt64 × Reply) := notes perform sends (new side) os

/-- A number was registered, and no operation since has taken it off the table. -/
def Pending (n : UInt64) : Prop :=
  ∃ front back, os = front ++ .register :: back ∧ n ∈ (after side front).registers .register ∧
    ∀ o ∈ back, ¬ o.Frees n

/-- What stands in the box of a registered number. -/
def boxOf (n : UInt64) : Box :=
  match (sent side os).lookup n with
  | some reply => .holding reply
  | none => .empty

end Record

variable {side : Side} {os : List Operation} {o : Operation} {x : Exchange} {n m : UInt64}

/-! ## The operations -/

theorem register_closed (h : x.table.closed = true) : x.register = (.error .connectionClosed, x) := by
  simp only [register, CallTable.register, h, if_true]

theorem register_open (h : x.table.closed = false) : x.register =
    (.ok x.table.enter.1, ⟨x.table.enter.2,
      (x.table.enter.1, .empty) :: x.boxes.filter (·.1 ≠ x.table.enter.1)⟩) := by
  simp only [register, CallTable.register, h, Bool.false_eq_true, if_false]

theorem mem_registers : n ∈ x.registers .register ↔ x.table.closed = false ∧ n = x.table.enter.1 := by
  cases h : x.table.closed with
  | true => simp [registers, register_closed h, Except.toOption]
  | false => simp [registers, register_open h, Except.toOption]

theorem complete_fst (n : UInt64) (reply : Reply) :
    (x.complete n reply).1 = decide (n ∈ x.table.waiting) := by
  unfold complete CallTable.remove
  by_cases h : n ∈ x.table.waiting <;> simp [h]

theorem remove_fst (n : UInt64) : (x.remove n).1 = decide (n ∈ x.table.waiting) := rfl

theorem complete_table (n : UInt64) (reply : Reply) :
    (x.complete n reply).2.table = (x.table.remove n).2 := by
  unfold complete
  dsimp only
  split <;> rfl

theorem complete_boxes (n : UInt64) (reply : Reply) : (x.complete n reply).2.boxes =
    if n ∈ x.table.waiting then deliver (· = n) reply x.boxes else x.boxes := by
  unfold complete CallTable.remove
  by_cases h : n ∈ x.table.waiting <;> simp [h]

theorem lookup_deliver (under : UInt64 → Bool) (reply : Reply) (boxes : List (UInt64 × Box))
    (n : UInt64) : (deliver under reply boxes).lookup n = (boxes.lookup n).map fun b =>
      match b with
      | .empty => if under n then .holding reply else .empty
      | b => b := by
  have hdeliver : deliver under reply boxes = boxes.map fun e => (e.1,
      match e.2 with
      | .empty => if under e.1 then .holding reply else .empty
      | b => b) := by
    refine List.map_congr_left ?_
    intro e _
    obtain ⟨m, b⟩ := e
    cases b with
    | empty =>
      dsimp only
      split <;> rfl
    | holding reply => rfl
    | spent => rfl
  rw [hdeliver]
  exact lookup_map_key (fun m b => match b with
    | .empty => if under m then .holding reply else .empty
    | b => b) boxes n

/-! ## What is pending -/

theorem after_concat : after side (os ++ [o]) = (after side os).perform o := by
  rw [after, List.foldl_append, List.foldl_cons, List.foldl_nil, after]

theorem pending_concat : Pending side (os ++ [o]) n ↔
    Pending side os n ∧ ¬ o.Frees n ∨
      o = .register ∧ n ∈ (after side os).registers .register := by
  constructor
  · rintro ⟨front, back, hcut, hn, hkept⟩
    rcases List.eq_nil_or_concat back with rfl | ⟨back, p, rfl⟩
    · obtain ⟨rfl, hlast⟩ := List.append_inj' hcut rfl
      exact Or.inr ⟨List.head_eq_of_cons_eq hlast, hn⟩
    · rw [List.concat_eq_append, ← List.cons_append, ← List.append_assoc] at hcut
      obtain ⟨rfl, hlast⟩ := List.append_inj' hcut rfl
      obtain rfl := List.head_eq_of_cons_eq hlast
      refine Or.inl ⟨⟨front, back, rfl, hn, ?_⟩, ?_⟩
      · intro q hq
        exact hkept q (by rw [List.concat_eq_append]; exact List.mem_append_left _ hq)
      · exact hkept o (by rw [List.concat_eq_append]; exact List.mem_append_right _ List.mem_cons_self)
  · rintro (⟨⟨front, back, rfl, hn, hkept⟩, hfrees⟩ | ⟨rfl, hn⟩)
    · refine ⟨front, back ++ [o], by rw [List.append_assoc, List.cons_append], hn, ?_⟩
      intro q hq
      rcases List.mem_append.mp hq with hq | hq
      · exact hkept q hq
      · rw [List.mem_singleton.mp hq]
        exact hfrees
    · exact ⟨os, [], rfl, hn, fun q hq => absurd hq List.not_mem_nil⟩

theorem mem_remove : m ∈ (x.table.remove n).2.waiting ↔ m ∈ x.table.waiting ∧ n ≠ m := by
  simp only [CallTable.remove, List.mem_filter, decide_eq_true_eq, ne_comm]

/-- A step takes the numbers off that it frees, and puts the one on that it registers. -/
theorem mem_waiting_perform : m ∈ (x.perform o).table.waiting ↔
    m ∈ x.table.waiting ∧ ¬ o.Frees m ∨ o = .register ∧ m ∈ x.registers .register := by
  cases o with
  | register =>
    rw [perform, mem_registers]
    cases h : x.table.closed with
    | true => simp [register_closed h, Operation.Frees]
    | false =>
      simp only [register_open h, CallTable.enter, List.mem_cons, Operation.Frees, true_and,
        not_false_eq_true, and_true]
      exact or_comm
  | allocate => simp [perform, allocate, CallTable.allocate, Operation.Frees]
  | complete n reply =>
    rw [perform, complete_table, mem_remove]
    simp [Operation.Frees]
  | remove n =>
    have hremove : (x.perform (.remove n)).table = (x.table.remove n).2 := rfl
    rw [hremove, mem_remove]
    simp [Operation.Frees]
  | close cause => simp [perform, close, CallTable.close, Operation.Frees]

theorem mem_waiting_iff : n ∈ (after side os).table.waiting ↔ Pending side os n := by
  induction os using List.reverseRecOn with
  | nil =>
    refine iff_of_false List.not_mem_nil ?_
    rintro ⟨front, back, hcut, -⟩
    cases front <;> cases hcut
  | append_singleton os o ih => rw [after_concat, mem_waiting_perform, pending_concat, ih]

/-! ## Closing -/

theorem perform_closed : (x.perform o).table.closed = true ↔
    x.table.closed = true ∨ ∃ cause, o = .close cause := by
  cases o with
  | register =>
    cases h : x.table.closed with
    | true => simp [perform, register_closed h, h]
    | false => simp [perform, register_open h, CallTable.enter, h]
  | allocate => simp [perform, allocate, CallTable.allocate]
  | complete n reply => simp [perform, complete_table, CallTable.remove]
  | remove n => simp [perform, remove, CallTable.remove]
  | close cause => simp [perform, close, CallTable.close]

theorem closed_iff : (after side os).table.closed = true ↔ ∃ cause, .close cause ∈ os := by
  induction os using List.reverseRecOn with
  | nil => simp [after, new, CallTable.new]
  | append_singleton os o ih =>
    rw [after_concat, perform_closed, ih]
    simp only [List.mem_append, List.mem_singleton, exists_or, eq_comm]

theorem waiting_of_closed (h : (after side os).table.closed = true) :
    (after side os).table.waiting = [] := by
  induction os using List.reverseRecOn with
  | nil => rfl
  | append_singleton os o ih =>
    rw [after_concat] at h ⊢
    rw [List.eq_nil_iff_forall_not_mem]
    intro m hm
    rcases perform_closed.mp h with hold | ⟨cause, rfl⟩
    · rcases mem_waiting_perform.mp hm with ⟨hm, -⟩ | ⟨-, hm⟩
      · rw [ih hold] at hm
        exact List.not_mem_nil hm
      · rw [(mem_registers.mp hm).1] at hold
        cases hold
    · cases hm

/-- A closed exchange takes nothing on, and closing it again changes nothing. -/
theorem closed_stays (h : (after side os).table.closed = true) :
    (after side os).register = (.error .connectionClosed, after side os) ∧
      ∀ cause, (after side os).close cause = after side os := by
  refine ⟨register_closed h, ?_⟩
  intro cause
  have hnone := waiting_of_closed h
  generalize after side os = x at h hnone
  obtain ⟨⟨next, waiting, closed⟩, boxes⟩ := x
  dsimp only at h hnone
  subst h hnone
  have hboxes : deliver (· ∈ ([] : List UInt64)) (.error cause) boxes = boxes := by
    refine List.map_id'' ?_ boxes
    intro e
    obtain ⟨m, b⟩ := e
    cases b <;> simp
  rw [close]
  dsimp only
  rw [hboxes]
  rfl

/-! ## Until the counter comes round -/

theorem given_concat : given side (os ++ [o]) = given side os ++ (after side os).gives o :=
  notes_concat os o

theorem sent_concat : sent side (os ++ [o]) = sent side os ++ (after side os).sends o :=
  notes_concat os o

theorem registered_concat :
    registered side (os ++ [o]) = registered side os ++ (after side os).registers o :=
  notes_concat os o

theorem inOrder_perform {drawn : List UInt64} (h : CallTable.InOrder side drawn x.table)
    (hmax : (drawn ++ x.gives o).length < 9223372036854775807) :
    CallTable.InOrder side (drawn ++ x.gives o) (x.perform o).table := by
  have hlength : ∀ m : UInt64, (drawn ++ [m]).length = drawn.length + 1 := fun _ =>
    List.length_append
  cases o with
  | register =>
    cases hclosed : x.table.closed with
    | true =>
      simp only [gives, registers, perform, register_closed hclosed, Except.toOption,
        Option.toList_none, List.append_nil]
      exact h
    | false =>
      simp only [gives, registers, perform, register_open hclosed, Except.toOption,
        Option.toList_some] at hmax ⊢
      rw [hlength] at hmax
      exact h.draw (h.number_eq (Or.inl rfl)) rfl (fun m hm => List.mem_cons.mp hm) hmax
  | allocate =>
    simp only [gives, hlength] at hmax ⊢
    exact h.draw (h.number_eq (Or.inr rfl)) rfl (fun m hm => Or.inr hm) hmax
  | complete n reply =>
    simp only [gives, registers, List.append_nil]
    refine h.shrink ?_ ?_
    · rw [perform, complete_table]
      rfl
    · intro m hm
      rw [perform, complete_table] at hm
      exact (mem_remove.mp hm).1
  | remove n =>
    simp only [gives, registers, List.append_nil]
    exact h.shrink rfl fun m hm => (mem_remove.mp hm).1
  | close cause =>
    simp only [gives, registers, List.append_nil]
    exact h.shrink rfl fun m hm => absurd hm List.not_mem_nil

/-- The state of things as long as all numbers given out are different. -/
structure Tidy (side : Side) (os : List Operation) : Prop where
  order : CallTable.InOrder side (given side os) (after side os).table
  waiting : (after side os).table.waiting.Nodup
  gone : ∀ e ∈ sent side os, e.1 ∈ given side os ∧ e.1 ∉ (after side os).table.waiting
  once : ((sent side os).map Prod.fst).Nodup
  boxes : ∀ n, (after side os).box? n =
    if n ∈ registered side os then some (boxOf side os n) else none

/-- A number that is registered has not been given out before. -/
theorem Tidy.fresh (h : Tidy side os) (hn : n ∈ (after side os).registers .register) :
    n ∉ given side os := by
  rw [h.order.number_eq (Or.inl (mem_registers.mp hn).2)]
  exact h.order.next_not_mem

theorem lookup_sent_eq_none (h : ∀ e ∈ sent side os, e.1 ≠ n) : (sent side os).lookup n = none := by
  rw [List.lookup_eq_none_iff]
  intro e he
  simpa using (h e he).symm

theorem Tidy.waiting_step (h : Tidy side os) :
    ((after side os).perform o).table.waiting.Nodup := by
  cases o with
  | register =>
    cases hclosed : (after side os).table.closed with
    | true =>
      rw [perform, register_closed hclosed]
      exact h.waiting
    | false =>
      have hn : (after side os).table.enter.1 ∈ (after side os).registers .register :=
        mem_registers.mpr ⟨hclosed, rfl⟩
      have hfresh := h.fresh hn
      rw [perform, register_open hclosed]
      refine List.nodup_cons.mpr ⟨?_, h.waiting⟩
      intro hmem
      exact hfresh (h.order.waiting _ hmem)
  | allocate => exact h.waiting
  | complete n reply =>
    rw [perform, complete_table]
    exact h.waiting.filter _
  | remove n => exact h.waiting.filter _
  | close cause => exact List.nodup_nil

/-- A reply goes to a number that was on the table, which the operation takes off. -/
theorem mem_sends {e : UInt64 × Reply} (he : e ∈ x.sends o) :
    e.1 ∈ x.table.waiting ∧ o.Frees e.1 ∧ o.Answers e.1 e.2 := by
  cases o with
  | complete n reply =>
    simp only [sends, complete_fst, decide_eq_true_eq] at he
    split at he
    · rename_i hn
      rw [List.mem_singleton.mp he]
      exact ⟨hn, rfl, rfl, rfl⟩
    · cases he
  | close cause =>
    obtain ⟨m, hm, rfl⟩ := List.mem_map.mp he
    exact ⟨hm, trivial, rfl⟩
  | register | allocate | remove n => cases he

theorem sends_of_answers {reply : Reply} (hn : n ∈ x.table.waiting) (ho : o.Answers n reply) :
    (n, reply) ∈ x.sends o := by
  cases o with
  | complete m r =>
    obtain ⟨rfl, rfl⟩ := ho
    simp [sends, complete_fst, hn]
  | close cause =>
    obtain rfl := ho
    exact List.mem_map.mpr ⟨n, hn, rfl⟩
  | register | allocate | remove m => cases ho

theorem Tidy.gone_step (h : Tidy side os) : ∀ e ∈ sent side (os ++ [o]),
    e.1 ∈ given side (os ++ [o]) ∧ e.1 ∉ ((after side os).perform o).table.waiting := by
  intro e he
  rw [sent_concat] at he
  rw [given_concat]
  rcases List.mem_append.mp he with he | he
  · obtain ⟨hgiven, hnot⟩ := h.gone e he
    refine ⟨List.mem_append_left _ hgiven, ?_⟩
    intro hmem
    rcases mem_waiting_perform.mp hmem with ⟨hmem, -⟩ | ⟨-, hmem⟩
    · exact hnot hmem
    · exact h.fresh hmem hgiven
  · obtain ⟨hmem, hfrees, -⟩ := mem_sends he
    refine ⟨List.mem_append_left _ (h.order.waiting _ hmem), ?_⟩
    intro hmem'
    rcases mem_waiting_perform.mp hmem' with ⟨-, hnot⟩ | ⟨rfl, -⟩
    · exact hnot hfrees
    · exact hfrees

theorem Tidy.once_step (h : Tidy side os) : ((sent side (os ++ [o])).map Prod.fst).Nodup := by
  rw [sent_concat, List.map_append, List.nodup_append]
  refine ⟨h.once, ?_, ?_⟩
  · cases o with
    | complete n reply =>
      simp only [sends]
      split <;> simp
    | close cause =>
      simp only [sends, List.map_map, Function.comp_def, List.map_id_fun', id_eq]
      exact h.waiting
    | register | allocate | remove n => exact List.nodup_nil
  · intro m hm m' hm' heq
    obtain ⟨e, he, rfl⟩ := List.mem_map.mp hm
    obtain ⟨e', he', rfl⟩ := List.mem_map.mp hm'
    have hwaits := (mem_sends he').1
    rw [← heq] at hwaits
    exact (h.gone e he).2 hwaits

theorem lookup_sends_close (cause : CallError) (n : UInt64) (waiting : List UInt64) :
    (waiting.map fun m => (m, (.error cause : Reply))).lookup n =
      if n ∈ waiting then some (.error cause) else none := by
  induction waiting with
  | nil => rfl
  | cons m waiting ih =>
    rw [List.map_cons, List.lookup_cons, ih]
    by_cases hn : n = m
    · simp [hn]
    · simp [hn, beq_eq_false_iff_ne.mpr hn]

/-- An operation that registers nothing fills the empty boxes that it sends a reply for. -/
theorem box?_perform (ho : o ≠ .register) (n : UInt64) :
    (x.perform o).box? n = (x.box? n).map fun b =>
      match b with
      | .empty => ((x.sends o).lookup n).elim .empty .holding
      | b => b := by
  have hsame : ∀ b : Option Box, b = b.map fun b =>
      match b with
      | .empty => .empty
      | b => b := by
    intro b
    rcases b with _ | b
    · rfl
    · cases b <;> rfl
  cases o with
  | register => exact absurd rfl ho
  | allocate | remove m => exact hsame (x.box? n)
  | complete m reply =>
    simp only [perform, box?, sends, complete_boxes, complete_fst, decide_eq_true_eq]
    by_cases hm : m ∈ x.table.waiting
    · rw [if_pos hm, if_pos hm, lookup_deliver, List.lookup_cons, List.lookup_nil]
      by_cases hn : n = m
      · simp [hn]
      · simp [hn, beq_eq_false_iff_ne.mpr hn]
    · rw [if_neg hm, if_neg hm]
      exact hsame (x.boxes.lookup n)
  | close cause =>
    simp only [perform, close, box?, sends, lookup_deliver, lookup_sends_close, decide_eq_true_eq]
    by_cases hn : n ∈ x.table.waiting <;> simp [hn]

theorem Tidy.boxes_step (h : Tidy side os) (o : Operation) (n : UInt64) :
    ((after side os).perform o).box? n =
      if n ∈ registered side (os ++ [o]) then some (boxOf side (os ++ [o]) n) else none := by
  by_cases ho : o = .register
  · subst ho
    have hsent : boxOf side (os ++ [.register]) n = boxOf side os n := by
      have hsends : (after side os).sends .register = [] := rfl
      rw [boxOf, sent_concat, hsends, List.append_nil, boxOf]
    rw [registered_concat, hsent]
    cases hclosed : (after side os).table.closed with
    | true =>
      simp only [perform, registers, register_closed hclosed, Except.toOption, Option.toList_none,
        List.append_nil]
      exact h.boxes n
    | false =>
      have hnew : (after side os).table.enter.1 ∈ (after side os).registers .register :=
        mem_registers.mpr ⟨hclosed, rfl⟩
      simp only [perform, registers, register_open hclosed, Except.toOption, Option.toList_some,
        List.mem_append, List.mem_singleton, box?]
      generalize (after side os).table.enter.1 = m at hnew ⊢
      by_cases hn : n = m
      · subst hn
        have hnone : (sent side os).lookup n = none := by
          refine lookup_sent_eq_none ?_
          rintro e he rfl
          exact h.fresh hnew (h.gone e he).1
        rw [List.lookup_cons_self, if_pos (Or.inr rfl), boxOf, hnone]
      · rw [List.lookup_cons, beq_eq_false_iff_ne.mpr hn]
        dsimp only
        rw [lookup_filter_ne hn]
        simp only [hn, or_false]
        exact h.boxes n
  · have hregistered : registered side (os ++ [o]) = registered side os := by
      rw [registered_concat]
      cases o with
      | register => exact absurd rfl ho
      | _ => exact List.append_nil _
    rw [box?_perform ho, h.boxes, hregistered]
    by_cases hn : n ∈ registered side os
    · simp only [hn, if_true, Option.map_some, boxOf, sent_concat, List.lookup_append]
      cases (sent side os).lookup n with
      | some reply => rfl
      | none =>
        cases ((after side os).sends o).lookup n <;> rfl
    · simp only [hn, if_false, Option.map_none]

theorem tidy (hmax : (given side os).length < 9223372036854775807) : Tidy side os := by
  induction os using List.reverseRecOn with
  | nil =>
    refine ⟨CallTable.inOrder_new side, List.nodup_nil, ?_, List.nodup_nil, fun n => rfl⟩
    intro e he
    cases he
  | append_singleton os o ih =>
    rw [given_concat] at hmax
    have h := ih (by rw [List.length_append] at hmax; omega)
    constructor
    · rw [given_concat, after_concat]
      exact inOrder_perform h.order hmax
    · rw [after_concat]
      exact h.waiting_step
    · rw [after_concat]
      exact h.gone_step
    · exact h.once_step
    · intro n
      rw [after_concat]
      exact h.boxes_step o n

/-- A reply was sent by an operation that had it for the number while the number was pending. -/
theorem mem_sent_iff {reply : Reply} : (n, reply) ∈ sent side os ↔
    ∃ front o back, os = front ++ o :: back ∧ Pending side front n ∧ o.Answers n reply := by
  constructor
  · intro h
    obtain ⟨front, o, back, hcut, he⟩ := mem_notes_iff.mp h
    obtain ⟨hwaits, -, hanswers⟩ := mem_sends he
    exact ⟨front, o, back, hcut, mem_waiting_iff.mp hwaits, hanswers⟩
  · rintro ⟨front, o, back, hcut, hpending, hanswers⟩
    exact mem_notes_iff.mpr
      ⟨front, o, back, hcut, sends_of_answers (mem_waiting_iff.mpr hpending) hanswers⟩

/-! ## The account -/

/-- What the operations so far tell about an exchange. -/
structure Account (side : Side) (os : List Operation) : Prop where
  distinct : (given side os).Nodup
  nonzero : ∀ n ∈ given side os, n ≠ 0
  parity : ∀ n ∈ given side os, n.toNat % 2 = if side = .client then 1 else 0
  pending : ∀ n, n ∈ (after side os).table.waiting ↔ Pending side os n
  pending_once : (after side os).table.waiting.Nodup
  completes : ∀ n reply, ((after side os).complete n reply).1 = true ↔ Pending side os n
  removes : ∀ n, ((after side os).remove n).1 = true ↔ Pending side os n
  replies : ∀ n reply, (n, reply) ∈ sent side os ↔
    ∃ front o back, os = front ++ o :: back ∧ Pending side front n ∧ o.Answers n reply
  replies_once : ((sent side os).map Prod.fst).Nodup
  /-- Each receiver finds the reply that was sent to its own number. -/
  found : ∀ n, (after side os).box? n =
    if n ∈ registered side os then some (boxOf side os n) else none
  closed : ∀ cause, .close cause ∈ os →
    (after side os).register = (.error .connectionClosed, after side os) ∧
      ∀ again, (after side os).close again = after side os

theorem account_of_given (side : Side) (os : List Operation)
    (hmax : (given side os).length < 9223372036854775807) : Account side os := by
  have h := tidy hmax
  constructor
  · exact h.order.nodup
  · intro n hn
    exact h.order.ne_zero hn
  · intro n hn
    exact h.order.parity hn
  · intro n
    exact mem_waiting_iff
  · exact h.waiting
  · intro n reply
    rw [complete_fst, decide_eq_true_eq, mem_waiting_iff]
  · intro n
    rw [remove_fst, decide_eq_true_eq, mem_waiting_iff]
  · intro n reply
    exact mem_sent_iff
  · exact h.once
  · exact h.boxes
  · intro cause hmem
    exact closed_stays (closed_iff.mpr ⟨cause, hmem⟩)

/-- Two calls and an event: one call is answered, the other fails when the exchange closes. -/
theorem account_of_two_calls :
    given .client [.register, .allocate, .register, .complete 1 (.ok []), .close .cancelled] =
        [1, 3, 5] ∧
      Account .client
        [.register, .allocate, .register, .complete 1 (.ok []), .close .cancelled] := by
  have hgiven : given .client
      [.register, .allocate, .register, .complete 1 (.ok []), .close .cancelled] = [1, 3, 5] := rfl
  refine ⟨hgiven, account_of_given _ _ ?_⟩
  rw [hgiven]
  decide

end Rpc.Exchange
