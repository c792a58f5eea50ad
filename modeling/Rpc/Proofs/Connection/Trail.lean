import Rpc.Connection.Step

/-! # What a run leaves behind

A note says what one step of a connection contributes to some record, from the state before the step
and the event. The trail of a run is the record of all its steps in order. The outputs are one such
record; others tell which frames the receive loop took in, or which handlers came to a result.
-/
namespace Rpc.Connection

variable {σ : Type} (p : Profile σ)

/-- The notes of all steps of a run in order. -/
def trail {α : Type} (note : Connection σ → Event → List α) : Connection σ → List Event → List α
  | _, [] => []
  | c, e :: es => note c e ++ trail note (c.step p e).1 es

variable {p} {c : Connection σ}

theorem run_append (es fs : List Event) :
    run p c (es ++ fs) =
      ((run p (run p c es).1 fs).1, (run p c es).2 ++ (run p (run p c es).1 fs).2) := by
  induction es generalizing c with
  | nil => rfl
  | cons e es ih =>
    simp only [List.cons_append, run, Progress.andThen, ih, List.append_assoc]

theorem run_concat (es : List Event) (e : Event) :
    (run p c (es ++ [e])).1 = ((run p c es).1.step p e).1 := by
  rw [run_append]
  rfl

theorem run_singleton (e : Event) : run p c [e] = c.step p e := by
  simp [run, Progress.andThen]

/-- What every step preserves holds after every run. -/
theorem run_preserves {I : Connection σ → Prop} (hstep : ∀ c e, I c → I (c.step p e).1) (h : I c)
    (es : List Event) : I (run p c es).1 := by
  induction es generalizing c with
  | nil => exact h
  | cons e es ih => exact ih (hstep c e h)

/-- What holds of a state and the events that led to it holds after every run, if each further event
keeps it. -/
theorem run_history {I : List Event → Connection σ → Prop} (hnew : I [] c)
    (hstep : ∀ front e, I front (run p c front).1 →
      I (front ++ [e]) ((run p c front).1.step p e).1) (es : List Event) : I es (run p c es).1 := by
  suffices h : ∀ back front, I front (run p c front).1 →
      I (front ++ back) (run p c (front ++ back)).1 from h es [] hnew
  intro back
  induction back with
  | nil =>
    intro front h
    rwa [List.append_nil]
  | cons e back ih =>
    intro front h
    have hnext := hstep front e h
    rw [← run_concat] at hnext
    have hall := ih (front ++ [e]) hnext
    rwa [List.append_assoc] at hall

theorem outputs_eq_trail (es : List Event) :
    (run p c es).2 = trail p (fun c e => (c.step p e).2) c es := by
  induction es generalizing c with
  | nil => rfl
  | cons e es ih => simp only [run, Progress.andThen, trail, ih]

variable {α : Type} {note : Connection σ → Event → List α}

theorem trail_append (es fs : List Event) :
    trail p note c (es ++ fs) = trail p note c es ++ trail p note (run p c es).1 fs := by
  induction es generalizing c with
  | nil => rfl
  | cons e es ih =>
    simp only [List.cons_append, trail, run, Progress.andThen, ih, List.append_assoc]

theorem trail_concat (es : List Event) (e : Event) :
    trail p note c (es ++ [e]) = trail p note c es ++ note (run p c es).1 e := by
  rw [trail_append]
  simp only [trail, List.append_nil]

theorem trail_singleton (e : Event) : trail p note c [e] = note c e := List.append_nil _

theorem trail_map {β : Type} (f : α → β) (es : List Event) :
    trail p (fun c e => (note c e).map f) c es = (trail p note c es).map f := by
  induction es generalizing c with
  | nil => rfl
  | cons e es ih => simp only [trail, ih, List.map_append]

theorem trail_filterMap {β : Type} (f : α → Option β) (es : List Event) :
    trail p (fun c e => (note c e).filterMap f) c es = (trail p note c es).filterMap f := by
  induction es generalizing c with
  | nil => rfl
  | cons e es ih => simp only [trail, ih, List.filterMap_append]

/-- What is in the record was noted at some step. -/
theorem mem_trail_iff {a : α} {es : List Event} :
    a ∈ trail p note c es ↔
      ∃ front e back, es = front ++ e :: back ∧ a ∈ note (run p c front).1 e := by
  induction es generalizing c with
  | nil => simp [trail]
  | cons e es ih =>
    rw [trail, List.mem_append, ih]
    constructor
    · rintro (h | ⟨front, f, back, rfl, h⟩)
      · exact ⟨[], e, es, rfl, h⟩
      · exact ⟨e :: front, f, back, rfl, h⟩
    · rintro ⟨front, f, back, hes, h⟩
      cases front with
      | nil =>
        cases hes
        exact Or.inl h
      | cons e' front =>
        cases hes
        exact Or.inr ⟨front, f, back, rfl, h⟩

end Rpc.Connection
