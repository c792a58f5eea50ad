import Rpc.Bytes

/-! # Baggage

The out-of-band entries that travel with a message and belong to the layers. Entries are kept
strictly ascending by key, so two baggages with the same look-ups are equal.
-/
namespace Rpc.Message

abbrev Entry := String × Bytes

structure Baggage where
  entries : List Entry
  sorted : entries.Pairwise (fun a b => a.1 < b.1)
  deriving DecidableEq, Repr

namespace Baggage

def lookup (key : String) : List Entry → Option Bytes
  | [] => none
  | e :: es => if e.1 = key then some e.2 else lookup key es

def insertEntry (key : String) (value : Bytes) : List Entry → List Entry
  | [] => [(key, value)]
  | e :: es =>
    if key < e.1 then (key, value) :: e :: es
    else if key = e.1 then (key, value) :: es
    else e :: insertEntry key value es

def eraseEntry (key : String) (es : List Entry) : List Entry := es.filter (·.1 ≠ key)

theorem mem_insertEntry {key : String} {value : Bytes} {es : List Entry} {x : Entry}
    (h : x ∈ insertEntry key value es) : x = (key, value) ∨ x ∈ es := by
  induction es with
  | nil => simpa [insertEntry] using h
  | cons e es ih =>
    unfold insertEntry at h
    split at h
    · simpa using h
    · split at h
      · rcases List.mem_cons.mp h with h | h
        · exact Or.inl h
        · exact Or.inr (List.mem_cons_of_mem _ h)
      · rcases List.mem_cons.mp h with rfl | h
        · exact Or.inr List.mem_cons_self
        · exact (ih h).imp id (List.mem_cons_of_mem _)

private theorem lt_of_not_lt {a b : String} (h : ¬ a < b) (hne : a ≠ b) : b < a :=
  Decidable.byContradiction fun hn =>
    hne (String.le_antisymm (String.not_lt.mp hn) (String.not_lt.mp h))

theorem sorted_insertEntry (key : String) (value : Bytes) {es : List Entry}
    (h : es.Pairwise (fun a b => a.1 < b.1)) :
    (insertEntry key value es).Pairwise (fun a b => a.1 < b.1) := by
  induction es with
  | nil => simp [insertEntry]
  | cons e es ih =>
    obtain ⟨hfirst, hrest⟩ := List.pairwise_cons.mp h
    unfold insertEntry
    split
    · rename_i hlt
      refine List.pairwise_cons.mpr ⟨?_, h⟩
      intro x hx
      rcases List.mem_cons.mp hx with rfl | hx
      · exact hlt
      · exact String.lt_trans hlt (hfirst x hx)
    · split
      · rename_i heq
        subst heq
        exact List.pairwise_cons.mpr ⟨hfirst, hrest⟩
      · rename_i hlt hne
        refine List.pairwise_cons.mpr ⟨?_, ih hrest⟩
        intro x hx
        rcases mem_insertEntry hx with rfl | hx
        · exact lt_of_not_lt hlt hne
        · exact hfirst x hx

theorem sorted_eraseEntry (key : String) {es : List Entry}
    (h : es.Pairwise (fun a b => a.1 < b.1)) :
    (eraseEntry key es).Pairwise (fun a b => a.1 < b.1) := h.filter _

def empty : Baggage := ⟨[], List.Pairwise.nil⟩

instance : Inhabited Baggage := ⟨empty⟩

def get? (b : Baggage) (key : String) : Option Bytes := lookup key b.entries

/-- A value read as text; none if it is absent or not UTF-8. -/
def getText? (b : Baggage) (key : String) : Option String := (b.get? key).bind Bytes.text?

def contains (b : Baggage) (key : String) : Bool := (b.get? key).isSome

/-- The value inserted last under a key is the one it has. -/
def insert (b : Baggage) (key : String) (value : Bytes) : Baggage :=
  ⟨insertEntry key value b.entries, sorted_insertEntry key value b.sorted⟩

def erase (b : Baggage) (key : String) : Baggage :=
  ⟨eraseEntry key b.entries, sorted_eraseEntry key b.sorted⟩

def size (b : Baggage) : Nat := b.entries.length

def isEmpty (b : Baggage) : Bool := b.entries.isEmpty

/-- The entries inserted one after the other. -/
def ofList (es : List Entry) : Baggage := es.foldl (fun b e => b.insert e.1 e.2) empty

@[ext] theorem ext {a b : Baggage} (h : a.entries = b.entries) : a = b := by
  cases a; cases b; cases h; rfl

theorem lookup_insertEntry (key other : String) (value : Bytes) (es : List Entry) :
    lookup other (insertEntry key value es) =
      if key = other then some value else lookup other es := by
  induction es with
  | nil => simp [insertEntry, lookup]
  | cons e es ih =>
    unfold insertEntry
    split
    · simp [lookup]
    · split
      · rename_i heq
        by_cases h : key = other <;> simp_all [lookup]
      · rename_i hne
        simp only [lookup, ih]
        by_cases h : key = other
        · subst h; simp [Ne.symm hne]
        · simp [h]

theorem lookup_eraseEntry (key other : String) (es : List Entry) :
    lookup other (eraseEntry key es) = if key = other then none else lookup other es := by
  induction es with
  | nil => simp [eraseEntry, lookup]
  | cons e es ih =>
    unfold eraseEntry at ih ⊢
    by_cases he : e.1 = key
    · simp only [he, ne_eq, not_true_eq_false, decide_false, Bool.false_eq_true,
        not_false_eq_true, List.filter_cons_of_neg, ih, lookup]
      split <;> simp_all
    · simp only [ne_eq, he, not_false_eq_true, decide_true, List.filter_cons_of_pos, lookup, ih]
      by_cases h : key = other
      · subst h; simp [he]
      · simp [h]

@[simp] theorem get?_empty (key : String) : empty.get? key = none := rfl

@[simp] theorem get?_insert (b : Baggage) (key other : String) (value : Bytes) :
    (b.insert key value).get? other = if key = other then some value else b.get? other :=
  lookup_insertEntry key other value b.entries

@[simp] theorem get?_erase (b : Baggage) (key other : String) :
    (b.erase key).get? other = if key = other then none else b.get? other :=
  lookup_eraseEntry key other b.entries

end Baggage

end Rpc.Message
