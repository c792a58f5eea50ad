/-! # Cutting text at a separator -/
namespace Rpc.Text

/-- The pieces between the separators; there is one piece more than there are separators. -/
def pieces {α : Type} [DecidableEq α] (separator : α) : List α → List (List α)
  | [] => [[]]
  | c :: cs =>
    if c = separator then [] :: pieces separator cs
    else
      match pieces separator cs with
      | [] => [[c]]
      | p :: ps => (c :: p) :: ps

theorem pieces_ne_nil {α : Type} [DecidableEq α] (separator : α) (cs : List α) :
    pieces separator cs ≠ [] := by
  cases cs with
  | nil => simp [pieces]
  | cons c cs =>
    simp only [pieces]
    by_cases hc : c = separator
    · simp [if_pos hc]
    · rw [if_neg hc]
      cases pieces separator cs <;> simp

theorem pieces_of_not_mem {α : Type} [DecidableEq α] {separator : α} {cs : List α}
    (h : separator ∉ cs) : pieces separator cs = [cs] := by
  induction cs with
  | nil => rfl
  | cons c cs ih =>
    have hne : c ≠ separator := fun e => h (e ▸ List.mem_cons_self)
    simp [pieces, hne, ih fun hm => h (List.mem_cons_of_mem _ hm)]

theorem pieces_append {α : Type} [DecidableEq α] {separator : α} {cs : List α}
    (h : separator ∉ cs) (rest : List α) :
    pieces separator (cs ++ separator :: rest) = cs :: pieces separator rest := by
  induction cs with
  | nil => simp [pieces]
  | cons c cs ih =>
    have hne : c ≠ separator := fun e => h (e ▸ List.mem_cons_self)
    simp [pieces, hne, ih fun hm => h (List.mem_cons_of_mem _ hm)]

theorem length_pieces {α : Type} [DecidableEq α] (separator : α) (cs : List α) :
    (pieces separator cs).length = cs.count separator + 1 := by
  induction cs with
  | nil => rfl
  | cons c cs ih =>
    simp only [pieces]
    split
    · next h => rw [h, List.count_cons_self, List.length_cons, ih]
    · next h =>
      rw [List.count_cons_of_ne h]
      split
      · next hnil => exact absurd hnil (pieces_ne_nil separator cs)
      · next p ps heq => rw [← ih, heq, List.length_cons, List.length_cons]

/-- Pieces that are joined by the separator are cut apart again. -/
theorem pieces_intercalate {α : Type} [DecidableEq α] {separator : α} {ps : List (List α)}
    (hne : ps ≠ []) (h : ∀ p ∈ ps, separator ∉ p) :
    pieces separator ([separator].intercalate ps) = ps := by
  induction ps with
  | nil => exact absurd rfl hne
  | cons p ps ih =>
    cases ps with
    | nil => rw [List.intercalate_singleton, pieces_of_not_mem (h p List.mem_cons_self)]
    | cons q ps =>
      rw [List.intercalate_cons_cons, List.append_assoc, List.singleton_append,
        pieces_append (h p List.mem_cons_self)]
      exact congrArg (p :: ·) (ih (List.cons_ne_nil q ps) fun r hr => h r (List.mem_cons_of_mem p hr))

theorem eq_or_mem_of_mem_intercalate {α : Type} {separator c : α} {ps : List (List α)}
    (h : c ∈ [separator].intercalate ps) : c = separator ∨ ∃ p ∈ ps, c ∈ p := by
  induction ps with
  | nil => cases h
  | cons p ps ih =>
    cases ps with
    | nil =>
      rw [List.intercalate_singleton] at h
      exact Or.inr ⟨p, List.mem_cons_self, h⟩
    | cons q ps =>
      rw [List.intercalate_cons_cons, List.append_assoc, List.singleton_append] at h
      rcases List.mem_append.mp h with h | h
      · exact Or.inr ⟨p, List.mem_cons_self, h⟩
      · rcases List.mem_cons.mp h with h | h
        · exact Or.inl h
        · exact (ih h).imp_right fun ⟨r, hr, hmem⟩ => ⟨r, List.mem_cons_of_mem p hr, hmem⟩

theorem exists_mem_pieces {α : Type} [DecidableEq α] (separator : α) {c : α} {cs : List α}
    (hc : c ∈ cs) (hne : c ≠ separator) : ∃ p ∈ pieces separator cs, c ∈ p := by
  induction cs with
  | nil => cases hc
  | cons x cs ih =>
    simp only [pieces]
    split
    · next hx =>
      have htail : c ∈ cs := (List.mem_cons.mp hc).resolve_left fun h => hne (h.trans hx)
      obtain ⟨p, hp, hmem⟩ := ih htail
      exact ⟨p, List.mem_cons_of_mem _ hp, hmem⟩
    · split
      · next hnil => exact absurd hnil (pieces_ne_nil separator cs)
      · next p ps heq =>
        rw [heq] at ih
        rcases List.mem_cons.mp hc with rfl | htail
        · exact ⟨c :: p, List.mem_cons_self, List.mem_cons_self⟩
        · obtain ⟨q, hq, hmem⟩ := ih htail
          rcases List.mem_cons.mp hq with rfl | hq
          · exact ⟨x :: q, List.mem_cons_self, List.mem_cons_of_mem x hmem⟩
          · exact ⟨q, List.mem_cons_of_mem _ hq, hmem⟩

end Rpc.Text
