import Rpc.Proofs.Call.Outcomes
import Rpc.Proofs.Call.Search

/-! # A task that is left alone

While no other task comes in between, a registration does to the table what registering does in one
step, and a closing does what closing does.
-/
namespace Rpc.Race

variable {r : Race} {task : Nat} {g : Registering} {c : Closing}

theorem step_register (h : r.registers.lookup task = some g) :
    r.step (.register task) = r.stepRegister task g := by simp only [step, h]

theorem step_close (h : r.closers.lookup task = some c) :
    r.step (.close task) = r.stepClose task c := by simp only [step, h]

@[simp]
theorem table_take (r : Race) (n : UInt64) (o : Outcome) :
    (r.take n o).table = (r.table.remove n).2 := by
  cases h : r.waiting.lookup n with
  | none =>
    have hkept := congrArg (List.map Prod.fst) (filter_ne_eq_self h)
    rw [take_of_none h]
    simpa [table, CallTable.remove, List.filter_map, Function.comp_def] using hkept.symm
  | some t => simp [take_of_some h, table, CallTable.remove, List.filter_map, Function.comp_def]

/-! ## Numbers -/

/-- Of a conversation that expects no answer. -/
theorem exists_allocates (r : Race) : ∃ k,
    (r.run (List.replicate k .allocate)).table = r.table.allocate.2 ∧
      (r.run (List.replicate k .allocate)).closers = r.closers := by
  by_cases hzero : r.next = 0
  · exact ⟨2, by simp [run, step, draw, table, CallTable.allocate, CallTable.candidate, hzero], rfl⟩
  · exact ⟨1, by simp [run, step, draw, table, CallTable.allocate, CallTable.candidate, hzero], rfl⟩

/-- A search has moved the counter and its own registration, and nothing else. -/
structure Searches (r r' : Race) (task : Nat) (g : Registering) : Prop where
  stage : r'.registers.lookup task = some g
  waiting : r'.waiting = r.waiting
  closed : r'.closed = r.closed
  closers : r'.closers = r.closers

theorem searches_set (h : r.registers.lookup task = some g) (next : UInt64) (after : Registering) :
    Searches r ({ r with next }.setRegister task after) task after where
  stage := by
    rw [lookup_setRegister, if_pos rfl]
    exact congrArg (Option.map fun _ => after) h
  waiting := rfl
  closed := rfl
  closers := rfl

theorem Searches.trans {mid after : Race} {g' : Registering} (h : Searches r mid task g)
    (h' : Searches mid after task g') : Searches r after task g' where
  stage := h'.stage
  waiting := h'.waiting.trans h.waiting
  closed := h'.closed.trans h.closed
  closers := h'.closers.trans h.closers

/-- The counter steps over zero. -/
theorem exists_draws (h : r.registers.lookup task = some .looked) : ∃ k,
    let r' := r.run (List.replicate k (.register task))
    Searches r r' task (.drawn (CallTable.candidate r.next)) ∧
      r'.next = CallTable.candidate r.next + 2 := by
  have hstep := step_register h
  have hsearch := searches_set h
  by_cases hzero : r.next = 0
  · simp only [stepRegister, if_pos hzero] at hstep
    have hlooked := hsearch (r.next + 2) .looked
    refine ⟨2, ?_⟩
    have hagain := step_register hlooked.stage
    have hnext : ({ r with next := r.next + 2 }.setRegister task .looked).next ≠ 0 := by
      change r.next + 2 ≠ 0
      rw [hzero]
      decide
    simp only [stepRegister, if_neg hnext] at hagain
    have hrun : r.run (List.replicate 2 (.register task)) = _ :=
      (congrArg (·.step (.register task)) hstep).trans hagain
    have hcandidate : CallTable.candidate r.next = r.next + 2 := by
      rw [hzero]
      rfl
    rw [hrun, hcandidate]
    exact ⟨hlooked.trans (searches_set hlooked.stage _ _), rfl⟩
  · simp only [stepRegister, if_neg hzero] at hstep
    have hcandidate : CallTable.candidate r.next = r.next := if_neg hzero
    refine ⟨1, ?_⟩
    have hrun : r.run (List.replicate 1 (.register task)) = _ := hstep
    rw [hrun, hcandidate]
    exact ⟨hsearch _ _, rfl⟩

theorem step_enters {n : UInt64} (h : r.registers.lookup task = some (.drawn n))
    (hfree : n ∉ r.table.waiting) : r.step (.register task) =
      { r with waiting := (n, task) :: r.waiting }.setRegister task (.entered n) := by
  have hnone : ¬(r.waiting.lookup n).isSome = true := by
    rw [lookup_eq_none_iff_not_mem.mpr hfree]
    exact Bool.false_ne_true
  rw [step_register h, stepRegister, if_neg hnone]

theorem step_passesOver {n : UInt64} (h : r.registers.lookup task = some (.drawn n))
    (htaken : n ∈ r.table.waiting) : r.step (.register task) = r.setRegister task .looked := by
  have hsome : (r.waiting.lookup n).isSome = true := by
    rw [Option.isSome_iff_ne_none, ne_eq, lookup_eq_none_iff_not_mem]
    exact not_not_intro htaken
  rw [step_register h, stepRegister, if_pos hsome]

theorem run_register_add (k : Nat) : r.run (List.replicate (k + 1) (.register task)) =
    (r.run (List.replicate k (.register task))).step (.register task) := by
  rw [List.replicate_succ', run_concat]

/-- The table and the registration once a number is entered. -/
structure Enters (r r' : Race) (task : Nat) (n : UInt64) : Prop where
  stage : r'.registers.lookup task = some (.entered n)
  table : r'.table = { r.table with next := n + 2, waiting := n :: r.table.waiting }
  closers : r'.closers = r.closers

theorem exists_enters_of_free (h : r.registers.lookup task = some .looked)
    (hfree : CallTable.candidate r.next ∉ r.table.waiting) : ∃ k,
      Enters r (r.run (List.replicate k (.register task))) task (CallTable.candidate r.next) := by
  obtain ⟨k, hsearch, hnext⟩ := exists_draws h
  refine ⟨k + 1, ?_⟩
  generalize hmid : r.run (List.replicate k (.register task)) = mid at hsearch hnext
  have hwaiting : mid.table.waiting = r.table.waiting :=
    congrArg (List.map Prod.fst) hsearch.waiting
  rw [run_register_add, hmid, step_enters hsearch.stage (hwaiting ▸ hfree)]
  refine ⟨?_, ?_, hsearch.closers⟩
  · rw [lookup_setRegister, if_pos rfl]
    exact congrArg (Option.map fun _ => Registering.entered _) hsearch.stage
  · change CallTable.mk mid.next (_ :: mid.table.waiting) mid.closed = _
    rw [hnext, hwaiting, hsearch.closed]
    rfl

/-- A search comes to the number that the table would find, if that is free. -/
theorem exists_enters (tries : Nat) (h : r.registers.lookup task = some .looked)
    (hfree : CallTable.free r.table.waiting tries r.next ∉ r.table.waiting) :
    ∃ k, Enters r (r.run (List.replicate k (.register task))) task
      (CallTable.free r.table.waiting tries r.next) := by
  induction tries generalizing r with
  | zero => exact exists_enters_of_free h hfree
  | succ tries ih =>
    by_cases hmem : CallTable.candidate r.next ∈ r.table.waiting
    · -- the number is passed over, and the search goes on behind it
      obtain ⟨k, hsearch, hnext⟩ := exists_draws h
      have hpasses : r.run (List.replicate (k + 1) (.register task)) = _ := run_register_add k
      generalize r.run (List.replicate k (.register task)) = mid at hsearch hnext hpasses
      have hwaiting : mid.table.waiting = r.table.waiting :=
        congrArg (List.map Prod.fst) hsearch.waiting
      rw [step_passesOver hsearch.stage (hwaiting ▸ hmem)] at hpasses
      have hlooked := searches_set hsearch.stage mid.next .looked
      have hafter : (mid.setRegister task .looked).table =
          { r.table with next := CallTable.candidate r.next + 2 } := by
        change CallTable.mk mid.next mid.table.waiting mid.closed = _
        rw [hnext, hwaiting, hsearch.closed]
        rfl
      have hstart : (mid.setRegister task .looked).next = CallTable.candidate r.next + 2 :=
        congrArg CallTable.next hafter
      simp only [CallTable.free, if_pos hmem] at hfree ⊢
      obtain ⟨j, henters⟩ := ih (r := mid.setRegister task .looked) hlooked.stage
        (by rwa [hafter, hstart])
      rw [hafter, hstart] at henters
      refine ⟨k + 1 + j, ?_⟩
      rw [List.replicate_add, run_append, hpasses]
      exact ⟨henters.stage, henters.table.trans (by rw [hafter]),
        henters.closers.trans hsearch.closers⟩
    · have hfirst := CallTable.free_of_not_mem hmem (tries + 1)
      rw [hfirst] at hfree ⊢
      exact exists_enters_of_free h hfree

/-- A registration that is left alone gets the number that the table gives out. -/
theorem exists_registers (hnew : r.registers.lookup task = none) (hopen : r.closed = false)
    (hfree : r.table.enter.1 ∉ r.table.waiting) : ∃ k,
    let r' := r.run (.beginRegister task :: List.replicate k (.register task))
    r'.table = r.table.enter.2 ∧ r'.registers.lookup task = some (.registered r.table.enter.1) ∧
      r'.closers = r.closers := by
  generalize hbegins : r.step (.beginRegister task) = begun
  have hbegun : begun = { r with registers := r.registers ++ [(task, .begun)] } := by
    rw [← hbegins]
    simp [step, hnew]
  have hstage : begun.registers.lookup task = some .begun := by
    rw [hbegun, lookup_concat, hnew, if_pos rfl, Option.none_or]
  have htable : begun.table = r.table := by
    rw [hbegun]
    rfl
  have hclosed : begun.closed = false := (congrArg CallTable.closed htable).trans hopen
  have hlooks : begun.step (.register task) = begun.setRegister task .looked := by
    rw [step_register hstage, stepRegister, hclosed, if_neg Bool.false_ne_true]
  have hlooked := searches_set hstage begun.next .looked
  obtain ⟨k, henters⟩ := exists_enters r.table.waiting.length hlooked.stage (by
    change CallTable.free begun.table.waiting _ begun.table.next ∉ begun.table.waiting
    rw [htable]
    exact hfree)
  change Enters (begun.setRegister task .looked) _ task
    (CallTable.free begun.table.waiting _ begun.table.next) at henters
  rw [htable] at henters
  refine ⟨1 + k + 1, ?_⟩
  have hrun : r.run (.beginRegister task :: List.replicate (1 + k + 1) (.register task)) =
      ((begun.setRegister task .looked).run (List.replicate k (.register task))).step
        (.register task) := by
    rw [← run_register_add, ← hlooks, ← hbegins, Nat.add_assoc, List.replicate_add]
    rfl
  generalize (begun.setRegister task .looked).run (List.replicate k (.register task)) = mid
    at henters hrun
  have hmid : mid.closed = false := (congrArg CallTable.closed henters.table).trans hclosed
  rw [step_register henters.stage, stepRegister, hmid, if_neg Bool.false_ne_true] at hrun
  rw [hrun]
  refine ⟨henters.table.trans ?_, ?_, henters.closers.trans ?_⟩
  · have hsame : (begun.setRegister task .looked).table = r.table := htable
    rw [hsame]
    rfl
  · rw [lookup_setRegister, if_pos rfl]
    exact congrArg (Option.map fun _ => Registering.registered _) henters.stage
  · rw [hbegun]
    rfl

/-! ## Closing -/

/-- A closing has come to some stage, and the others are where they were. -/
structure Closes (r r' : Race) (task : Nat) (c : Closing) : Prop where
  stage : r'.closers.lookup task = some c
  others : ∀ t, t ≠ task → r'.closers.lookup t = r.closers.lookup t

theorem closes_set {s : Race} (h : r.closers.lookup task = some c)
    (hsame : s.closers = r.closers) (after : Closing) :
    Closes r (s.setCloser task after) task after where
  stage := by
    rw [lookup_setCloser, if_pos rfl, hsame, h]
    rfl
  others t ht := by rw [lookup_setCloser, if_neg ht, hsame]

theorem Closes.trans {mid after : Race} {c' : Closing} (h : Closes r mid task c)
    (h' : Closes mid after task c') : Closes r after task c' :=
  ⟨h'.stage, fun t ht => (h'.others t ht).trans (h.others t ht)⟩

/-- What a closing comes to in as many steps, and not before. -/
structure DoneIn (r : Race) (task k : Nat) (table : CallTable) : Prop where
  closes : Closes r (r.run (List.replicate k (.close task))) task .done
  table : (r.run (List.replicate k (.close task))).table = table
  before : ∀ i < k, (r.run (List.replicate i (.close task))).closers.lookup task ≠ some .done

/-- One step more at the front. -/
theorem DoneIn.cons {k : Nat} {table : CallTable} {r' : Race} (h : DoneIn r' task k table)
    (hstep : r.step (.close task) = r') (hcloses : Closes r r' task c)
    (hnot : r.closers.lookup task ≠ some .done) : DoneIn r task (k + 1) table := by
  have hrun : ∀ i, r.run (List.replicate (i + 1) (.close task)) =
      r'.run (List.replicate i (.close task)) := by
    intro i
    rw [← hstep]
    rfl
  refine ⟨?_, ?_, fun i hi => ?_⟩
  · rw [hrun]
    exact hcloses.trans h.closes
  · rw [hrun]
    exact h.table
  · cases i with
    | zero => exact hnot
    | succ i =>
      rw [hrun]
      exact h.before i (by omega)

/-- A closing takes off what is on its list. -/
theorem doneIn_of_draining {left : List UInt64}
    (h : r.closers.lookup task = some (.draining left)) (hall : ∀ n ∈ r.table.waiting, n ∈ left) :
    DoneIn r task (left.length + 1) { r.table with waiting := [] } := by
  have hnot : r.closers.lookup task ≠ some .done := by
    rw [h]
    exact fun heq => nomatch heq
  induction left generalizing r with
  | nil =>
    have hnone : r.table.waiting = [] := List.eq_nil_iff_forall_not_mem.mpr fun n hn => by
      simpa using hall n hn
    have hcloses := closes_set h rfl .done
    have hdone : DoneIn (r.setCloser task .done) task 0 { r.table with waiting := [] } := by
      refine ⟨⟨hcloses.stage, fun _ _ => rfl⟩, ?_, nofun⟩
      rw [← hnone]
      rfl
    exact hdone.cons (step_close h) hcloses hnot
  | cons n left ih =>
    have hstep := step_close h
    rw [stepClose] at hstep
    generalize htaken : r.take n (.replied (.error (.transport .connectionClosed))) = taken at hstep
    have hclosers : taken.closers = r.closers := by rw [← htaken, take_closers]
    have htable : taken.table = (r.table.remove n).2 := by rw [← htaken, table_take]
    have hcloses := closes_set h hclosers (.draining left)
    have hrest := ih (r := taken.setCloser task (.draining left)) hcloses.stage (fun m hm => ?_) ?_
    · change DoneIn _ task _ { taken.table with waiting := [] } at hrest
      rw [htable] at hrest
      exact hrest.cons hstep hcloses hnot
    · change m ∈ taken.table.waiting at hm
      rw [htable] at hm
      obtain ⟨hm, hne⟩ := List.mem_filter.mp hm
      exact (List.mem_cons.mp (hall m hm)).resolve_left (of_decide_eq_true hne)
    · rw [hcloses.stage]
      exact fun heq => nomatch heq

/-- A closing that is left alone closes the table. -/
theorem exists_doneIn (h : r.closers.lookup task = some .begun) :
    ∃ k, DoneIn r task k r.table.close := by
  have hflags := closes_set (s := { r with closed := true }) h rfl .flagged
  generalize hflagged : { r with closed := true }.setCloser task .flagged = flagged at hflags
  have hcollects := closes_set hflags.stage rfl (.draining flagged.table.waiting)
  have hclose : { flagged.table with waiting := [] } = r.table.close := by
    rw [← hflagged]
    rfl
  have hdrains : DoneIn (flagged.setCloser task (.draining flagged.table.waiting)) task _
      { flagged.table with waiting := [] } := doneIn_of_draining hcollects.stage fun n hn => hn
  rw [hclose] at hdrains
  refine ⟨_, (hdrains.cons (step_close hflags.stage) hcollects ?_).cons
    ((step_close h).trans hflagged) hflags ?_⟩
  · rw [hflags.stage]
    exact fun heq => nomatch heq
  · rw [h]
    exact fun heq => nomatch heq

theorem closes_begin (hnew : r.closers.lookup task = none) :
    Closes r (r.step (.beginClose task)) task .begun := by
  have hbegins : r.step (.beginClose task) =
      { r with closers := r.closers ++ [(task, .begun)] } := by simp [step, hnew]
  rw [hbegins]
  constructor
  · rw [lookup_concat, hnew, if_pos rfl, Option.none_or]
  · intro t ht
    rw [lookup_concat, if_neg ht, Option.or_none]

theorem table_begin (task : Nat) : (r.step (.beginClose task)).table = r.table := by
  simp only [step]
  split <;> rfl

end Rpc.Race
