/-! # Notes on a run

A note says what one step of a machine contributes to some record, from the state before the step
and the event. The notes of a run are the record of all its steps in order.
-/
namespace Rpc

section Notes

variable {S E α : Type} (step : S → E → S) (note : S → E → List α)

/-- The notes of all steps of a run in order. -/
def notes : S → List E → List α
  | _, [] => []
  | s, e :: es => note s e ++ notes (step s e) es

variable {step note} {s : S}

theorem notes_append (es fs : List E) :
    notes step note s (es ++ fs) =
      notes step note s es ++ notes step note (es.foldl step s) fs := by
  induction es generalizing s with
  | nil => rfl
  | cons e es ih => rw [List.cons_append, notes, notes, ih, List.append_assoc, List.foldl_cons]

theorem notes_concat (es : List E) (e : E) :
    notes step note s (es ++ [e]) = notes step note s es ++ note (es.foldl step s) e := by
  rw [notes_append, notes, notes, List.append_nil]

/-- What is on record was noted at some step. -/
theorem mem_notes_iff {a : α} {es : List E} :
    a ∈ notes step note s es ↔
      ∃ front e back, es = front ++ e :: back ∧ a ∈ note (front.foldl step s) e := by
  induction es generalizing s with
  | nil => simp [notes]
  | cons e es ih =>
    rw [notes, List.mem_append, ih]
    constructor
    · rintro (h | ⟨front, f, back, rfl, h⟩)
      · exact ⟨[], e, es, rfl, h⟩
      · exact ⟨e :: front, f, back, rfl, h⟩
    · rintro ⟨front, f, back, hcut, h⟩
      cases front with
      | nil =>
        cases hcut
        exact Or.inl h
      | cons e' front =>
        cases hcut
        exact Or.inr ⟨front, f, back, rfl, h⟩

end Notes

end Rpc
