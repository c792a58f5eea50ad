import Rpc.Connection.Step

/-! # What the small operations leave alone

Most operations of a connection touch a few of its fields. The handlers at work, the writers, the
receive loop and the table of numbers each have few operations of their own.
-/
namespace Rpc.Connection

variable {σ : Type} (c : Connection σ)

section Table

variable (caller : Nat) (stage : Stage) (reply : Reply) (n : UInt64)

@[simp] theorem setStage_table : (c.setStage caller stage).table = c.table := rfl
@[simp] theorem setStage_serving : (c.setStage caller stage).serving = c.serving := rfl
@[simp] theorem setStage_writers : (c.setStage caller stage).writers = c.writers := rfl
@[simp] theorem setStage_loop : (c.setStage caller stage).loop = c.loop := rfl
@[simp] theorem setStage_shut : (c.setStage caller stage).shut = c.shut := rfl
@[simp] theorem setStage_phase : (c.setStage caller stage).phase = c.phase := rfl
@[simp] theorem setStage_nextHandler : (c.setStage caller stage).nextHandler = c.nextHandler := rfl
@[simp] theorem setStage_nextWriter : (c.setStage caller stage).nextWriter = c.nextWriter := rfl

/-- A number that is not on the table is nobody's. -/
theorem resolve_of_not_mem (h : n ∉ c.table.waiting) : c.resolve n reply = c := by
  simp [resolve, CallTable.remove, h]

theorem resolve_of_mem (h : n ∈ c.table.waiting) :
    c.resolve n reply =
      { c with
        table := { c.table with waiting := c.table.waiting.filter (· ≠ n) }
        calls := c.calls.map fun e => (e.1, e.2.receive (· = n) reply) } := by
  simp [resolve, CallTable.remove, deliver, h]

/-- What happens at the table stays at the table and the calls. -/
theorem resolve_eq : c.resolve n reply =
    { c with table := (c.resolve n reply).table, calls := (c.resolve n reply).calls } := by
  by_cases h : n ∈ c.table.waiting
  · rw [resolve_of_mem c reply n h]
  · rw [resolve_of_not_mem c reply n h]

@[simp] theorem resolve_serving : (c.resolve n reply).serving = c.serving := by rw [resolve_eq]
@[simp] theorem resolve_writers : (c.resolve n reply).writers = c.writers := by rw [resolve_eq]
@[simp] theorem resolve_loop : (c.resolve n reply).loop = c.loop := by rw [resolve_eq]
@[simp] theorem resolve_shut : (c.resolve n reply).shut = c.shut := by rw [resolve_eq]
@[simp] theorem resolve_phase : (c.resolve n reply).phase = c.phase := by rw [resolve_eq]
@[simp] theorem resolve_nextHandler : (c.resolve n reply).nextHandler = c.nextHandler := by
  rw [resolve_eq]
@[simp] theorem resolve_nextWriter : (c.resolve n reply).nextWriter = c.nextWriter := by
  rw [resolve_eq]

theorem forget_eq : c.forget caller =
    { c with table := (c.forget caller).table, calls := (c.forget caller).calls } := by
  unfold forget
  cases (c.call? caller).bind Call.number? with
  | none => rfl
  | some n => exact resolve_eq _ _ _

@[simp] theorem forget_serving : (c.forget caller).serving = c.serving := by rw [forget_eq]
@[simp] theorem forget_writers : (c.forget caller).writers = c.writers := by rw [forget_eq]
@[simp] theorem forget_loop : (c.forget caller).loop = c.loop := by rw [forget_eq]
@[simp] theorem forget_shut : (c.forget caller).shut = c.shut := by rw [forget_eq]
@[simp] theorem forget_phase : (c.forget caller).phase = c.phase := by rw [forget_eq]
@[simp] theorem forget_nextHandler : (c.forget caller).nextHandler = c.nextHandler := by
  rw [forget_eq]
@[simp] theorem forget_nextWriter : (c.forget caller).nextWriter = c.nextWriter := by rw [forget_eq]

end Table

section End

/-- A teardown ends the phases, shuts the stream and closes the table, once. -/
theorem teardown_eq : c.teardown.1 =
    { c with
      phase := c.teardown.1.phase
      shut := c.teardown.1.shut
      table := c.teardown.1.table
      calls := c.teardown.1.calls } := by
  unfold teardown
  split <;> rfl

@[simp] theorem teardown_serving : c.teardown.1.serving = c.serving := by rw [teardown_eq]
@[simp] theorem teardown_writers : c.teardown.1.writers = c.writers := by rw [teardown_eq]
@[simp] theorem teardown_loop : c.teardown.1.loop = c.loop := by rw [teardown_eq]
@[simp] theorem teardown_nextHandler : c.teardown.1.nextHandler = c.nextHandler := by
  rw [teardown_eq]
@[simp] theorem teardown_nextWriter : c.teardown.1.nextWriter = c.nextWriter := by rw [teardown_eq]

@[simp] theorem leave_serving : c.leave.1.serving = c.serving := by simp [leave]
@[simp] theorem leave_writers : c.leave.1.writers = c.writers := by simp [leave]
@[simp] theorem leave_loop : c.leave.1.loop = .over := by simp [leave]
@[simp] theorem leave_nextHandler : c.leave.1.nextHandler = c.nextHandler := by simp [leave]
@[simp] theorem leave_nextWriter : c.leave.1.nextWriter = c.nextWriter := by simp [leave]

end End

section Frames

variable {c} {p : Profile σ} {purpose : Purpose} {f : Frame}

theorem enqueue_ok {c' : Connection σ} (h : c.enqueue p purpose f = .ok c') :
    (∃ code, f.write p.limit = .ok code) ∧
      c' = { c with
        writers := c.writers ++ [(c.nextWriter, ⟨purpose, f⟩)]
        nextWriter := c.nextWriter + 1 } := by
  unfold enqueue at h
  split at h
  · cases h
  · rename_i code hcode
    cases h
    exact ⟨⟨code, hcode⟩, rfl⟩

end Frames

end Rpc.Connection
