import Rpc.Proofs.Archive.ReadBack
import Rpc.Proofs.Archive.Trees

/-! # Nodes are read back

A written tree stands in its archive behind everything that its nodes point to. The reader walks it
from the root: at each node the window ends where the node begins, and it begins behind what was
read before. The children of a node, then the data of its entries, then the node itself fill the
octets of the tree in this order, so the window always holds what is read next.
-/
namespace Rpc.Archive

open Message Bytes

/-- Some octets stand at a place of a buffer. -/
def Holds (b : Bytes) (pos : Nat) (x : Bytes) : Prop := slice b pos x.length = x

section Holds

variable {b x y : Bytes} {pos : Nat}

theorem holds_append : Holds b pos (x ++ y) ↔ Holds b pos x ∧ Holds b (pos + x.length) y := by
  have hcut : slice b pos (x ++ y).length =
      slice b pos x.length ++ slice b (pos + x.length) y.length := by
    simp only [slice, List.length_append, List.take_add, List.drop_drop]
  unfold Holds
  rw [hcut]
  constructor
  · intro h
    have hlen : (slice b pos x.length).length = x.length := by
      have hall := congrArg List.length h
      simp only [slice, List.length_append, List.length_take, List.length_drop] at hall ⊢
      omega
    exact List.append_inj h hlen
  · rintro ⟨hx, hy⟩
    rw [hx, hy]

theorem Holds.slice_eq (h : Holds b pos x) {i width : Nat} (hi : i + width ≤ x.length) :
    slice b (pos + i) width = slice x i width := by
  rw [← slice_slice hi, h]

theorem holds_self (b : Bytes) : Holds b 0 b := List.take_length

end Holds

/-! ## Cells of a node -/

theorem length_fill {size : Nat} {x : Bytes} (h : x.length ≤ size) : (fill size x).length = size := by
  simp only [fill, List.length_append, List.length_replicate]
  omega

@[simp] theorem length_keyCells (pos here : Nat) (es : List Entry) :
    (keyCells pos here es).length = 8 * es.length := by
  induction es generalizing pos here with
  | nil => rfl
  | cons e es ih =>
    rw [keyCells, List.length_append, length_textCell, ih, List.length_cons]
    omega

@[simp] theorem length_valueCells (pos here : Nat) (es : List Entry) :
    (valueCells pos here es).length = 8 * es.length := by
  induction es generalizing pos here with
  | nil => rfl
  | cons e es ih =>
    rw [valueCells, List.length_append, length_vectorCell, ih, List.length_cons]
    omega

section Node

variable {b : Bytes} {kind : UInt8} {pos here : Nat} {es : List Entry}

theorem length_nodeHead (kind : UInt8) (pos here : Nat) (hes : es.length ≤ 5) :
    (Tree.nodeHead kind pos here es).length = 84 := by
  have hkeys : (fill 40 (keyCells pos (here + 4) es)).length = 40 :=
    length_fill (by rw [length_keyCells]; omega)
  have hvalues : (fill 40 (valueCells pos (here + 44) es)).length = 40 :=
    length_fill (by rw [length_valueCells]; omega)
  rw [Tree.nodeHead, List.length_append, List.length_append, hkeys, hvalues]
  rfl

theorem holds_nodeHead (hes : es.length ≤ 5) (h : Holds b here (Tree.nodeHead kind pos here es)) :
    wordAt b here 1 = kind.toNat ∧ Holds b (here + 4) (keyCells pos (here + 4) es) ∧
      Holds b (here + 44) (valueCells pos (here + 44) es) := by
  have hkeys : (fill 40 (keyCells pos (here + 4) es)).length = 40 :=
    length_fill (by rw [length_keyCells]; omega)
  rw [Tree.nodeHead, List.append_assoc] at h
  obtain ⟨hkind, hrest⟩ := holds_append.mp h
  obtain ⟨hkeyCells, hvalueCells⟩ := holds_append.mp hrest
  rw [hkeys] at hvalueCells
  refine ⟨?_, (holds_append.mp hkeyCells).1, (holds_append.mp hvalueCells).1⟩
  have hfirst : slice b (here + 0) 1 = slice [kind, 0, 0, 0] 0 1 := hkind.slice_eq (by simp)
  rw [Nat.add_zero] at hfirst
  rw [wordAt, hfirst]
  simp [slice, Bytes.toNat]

/-- The keys of some entries are short enough for their length words. -/
def Tellable (es : List Entry) : Prop := ∀ e ∈ es, (ofText e.1).length < 1073741824

/-- The entries of a node are read one behind the other, and so is their data. -/
theorem readEntries_cells {i lo hi : Nat} (hdata : Holds b pos (es.flatMap entryData))
    (hkeys : Holds b (here + 4 + 8 * i) (keyCells pos (here + 4 + 8 * i) es))
    (hvalues : Holds b (here + 44 + 8 * i) (valueCells pos (here + 44 + 8 * i) es))
    (htell : Tellable es) (hlo : lo ≤ pos) (hhi : pos + (es.flatMap entryData).length ≤ hi)
    (hmax : hi < 2147483648) (hhere : here + 44 + 8 * (i + es.length) < 2147483648) :
    ∃ after, readEntries b hi here es.length i lo = .ok (es, after) := by
  induction es generalizing pos i lo with
  | nil => exact ⟨lo, rfl⟩
  | cons e es ih =>
    have htext := htell e List.mem_cons_self
    rw [List.flatMap_cons] at hdata hhi
    rw [List.length_append] at hhi
    rw [List.length_cons] at hhere
    obtain ⟨hentry, hlater⟩ := holds_append.mp hdata
    have hsize : (entryData e).length = (longText (ofText e.1)).length + e.2.length := by
      rw [entryData, List.length_append]
    rw [entryData] at hentry
    obtain ⟨hlong, hvalue⟩ := holds_append.mp hentry
    obtain ⟨hkey, hkeys⟩ := holds_append.mp hkeys
    obtain ⟨hcell, hvalues⟩ := holds_append.mp hvalues
    rw [Holds, length_textCell] at hkey
    rw [Holds, length_vectorCell] at hcell
    rw [length_textCell] at hkeys
    rw [length_vectorCell] at hvalues
    have hfar : 8 < (ofText e.1).length →
        slice b pos (ofText e.1).length = ofText e.1 := by
      intro hl
      rw [longText, if_neg (by omega)] at hlong
      exact hlong
    have hread : readText b lo hi _ = _ :=
      readText_textCell hkey htext hfar hlo (by omega) (by omega) (by omega)
    have hbehind : (if (ofText e.1).length ≤ 8 then lo else pos + (ofText e.1).length) ≤
        pos + (longText (ofText e.1)).length := by
      rw [longText]
      split
      · exact Nat.le_add_right_of_le hlo
      · exact Nat.le_refl _
    have hvector : readVector b (if (ofText e.1).length ≤ 8 then lo else pos + (ofText e.1).length)
        hi (here + 44 + 8 * i) = .ok (e.2, pos + (entryData e).length) := by
      rw [readVector_vectorCell hcell (by omega) hbehind (by omega) (by omega) (by omega), hvalue,
        hsize, ← Nat.add_assoc]
    have hrest : ∃ after, readEntries b hi here es.length (i + 1) (pos + (entryData e).length) =
        .ok (es, after) :=
      ih hlater hkeys hvalues (fun x hx => htell x (List.mem_cons_of_mem _ hx)) (Nat.le_refl _)
        (by omega) (by omega)
    obtain ⟨after, hrest⟩ := hrest
    refine ⟨after, ?_⟩
    simp only [List.length_cons, readEntries, hread, hvector, hrest, bind, Except.bind]
    rfl

end Node

/-! ## Trees -/

/-- Wherever a tree stands in a window, it is read back from its topmost node, and the window
begins behind it afterwards. -/
def ReadsBack (t : Tree) : Prop :=
  ∀ (b : Bytes) (pos lo hi : Nat), Holds b pos (t.write pos).bytes → lo ≤ pos →
    pos + (t.write pos).bytes.length ≤ hi → hi < 2147483648 →
    match (t.write pos).root with
    | none => t.toList = []
    | some root => root + 84 ≤ pos + (t.write pos).bytes.length ∧
      readNode b lo hi root = .ok (t.toList, pos + (t.write pos).bytes.length)

/-- The pointer in front of a place says where its target is, or that there is none. -/
theorem pointer_of_holds {b : Bytes} {target : Option Nat} {field : Nat}
    (h : Holds b field (pointerCell target field)) (hfield : field < 2147483648)
    (hbefore : ∀ t ∈ target, t < field) :
    match target with
    | none => toInt32 (slice b field 4) = 1
    | some t => toInt32 (slice b field 4) ≠ 1 ∧ Archive.target b field = t := by
  rw [Holds, length_pointerCell] at h
  cases target with
  | none =>
    rw [h]
    exact toInt32_ofInt32 (by omega) (by omega)
  | some t =>
    have hlt := hbefore t rfl
    have hoffset : toInt32 (slice b field 4) = (t : Int) - field := by
      rw [h]
      exact toInt32_ofInt32 (by omega) (by omega)
    refine ⟨by omega, ?_⟩
    rw [Archive.target, hoffset]
    omega

/-- What the pointer of a node leads to, nothing if it leads nowhere. -/
def readChild (b : Bytes) (lo hi field : Nat) : Except ArchiveFlaw (List Entry × Nat) :=
  if toInt32 (slice b field 4) = 1 then .ok ([], lo) else readNode b lo hi (target b field)

section Node

variable {b : Bytes} {lo hi here after : Nat} {es : List Entry}

theorem readNode_leaf (hlo : lo ≤ here) (hhi : here + 88 ≤ hi) (haligned : here % 4 = 0)
    (hkind : wordAt b here 1 = 0) (hcount : wordAt b (here + 84) 4 = es.length)
    (hes : es.length ≤ 5) (hentries : readEntries b here here es.length 0 lo = .ok (es, after)) :
    readNode b lo hi here = .ok (es, here + 88) := by
  have hhead : locate lo hi here 84 4 = .ok here := locate_eq_ok hlo (by omega) haligned
  have hplace : locate lo hi here 88 4 = .ok here := locate_eq_ok hlo hhi haligned
  rw [readNode]
  simp only [hhead, hkind, if_true, hplace, hcount, if_neg (Nat.not_lt.mpr hes), hentries, bind,
    Except.bind]
  rfl

theorem readNode_inner {c₀ c₁ c₂ c₃ c₄ c₅ : List Entry} {lo₁ lo₂ lo₃ lo₄ lo₅ lo₆ : Nat}
    (hlo : lo ≤ here) (hhi : here + 108 ≤ hi) (haligned : here % 4 = 0)
    (hkind : wordAt b here 1 = 1) (r₀ : readChild b lo here (here + 84) = .ok (c₀, lo₁))
    (r₁ : readChild b lo₁ here (here + 88) = .ok (c₁, lo₂))
    (r₂ : readChild b lo₂ here (here + 92) = .ok (c₂, lo₃))
    (r₃ : readChild b lo₃ here (here + 96) = .ok (c₃, lo₄))
    (r₄ : readChild b lo₄ here (here + 100) = .ok (c₄, lo₅))
    (r₅ : readChild b lo₅ here (here + 104) = .ok (c₅, lo₆))
    (hentries : readEntries b here here 5 0 lo₆ = .ok (es, after)) :
    readNode b lo hi here = .ok (interleave [c₀, c₁, c₂, c₃, c₄, c₅] es, here + 108) := by
  have hhead : locate lo hi here 84 4 = .ok here := locate_eq_ok hlo (by omega) haligned
  have hplace : locate lo hi here 108 4 = .ok here := locate_eq_ok hlo hhi haligned
  unfold readChild at r₀ r₁ r₂ r₃ r₄ r₅
  rw [readNode]
  simp only [hhead, hkind, Nat.one_ne_zero, if_false, if_true]
  split
  · rename_i flaw hflaw
    rw [hplace] at hflaw
    cases hflaw
  · rename_i place hok
    rw [hplace] at hok
    cases hok
    simp only [r₀, r₁, r₂, r₃, r₄, r₅, hentries, bind, Except.bind]
    rfl

end Node

/-- The child that a pointer of a node tells of is read back, if there is one. -/
theorem ReadsBack.child {t : Tree} (ht : ReadsBack t) {w : Tree.Written} {b : Bytes}
    {pos next lo field : Nat} (hi : Nat) (hw : t.write pos = w) (hnext : pos + w.bytes.length = next)
    (hbytes : Holds b pos w.bytes) (hcell : Holds b field (pointerCell w.root field))
    (hlo : lo ≤ pos) (hhi : next ≤ hi) (hfield : hi ≤ field) (hmax : field < 2147483648) :
    ∃ after ≤ next, readChild b lo hi field = .ok (t.toList, after) := by
  subst hw hnext
  have hread := ht b pos lo hi hbytes hlo hhi (by omega)
  cases hroot : (t.write pos).root with
  | none =>
    rw [hroot] at hread hcell
    have hpointer := pointer_of_holds hcell hmax (by simp)
    exact ⟨lo, by omega, by rw [readChild, if_pos hpointer, hread]⟩
  | some root =>
    rw [hroot] at hread hcell
    obtain ⟨hplace, hread⟩ := hread
    have hpointer := pointer_of_holds hcell hmax fun r hr => by
      cases hr
      omega
    obtain ⟨hsome, htarget⟩ := hpointer
    exact ⟨_, Nat.le_refl _, by rw [readChild, if_neg hsome, htarget, hread]⟩

theorem padded_mod (pos : Nat) (data : Bytes) :
    (pos + data.length + (padding 4 (pos + data.length)).length) % 4 = 0 := by
  simp only [padding, List.length_replicate]
  omega

theorem readsBack_leaf {es : List Entry} (hes : es.length ≤ 5) (htell : Tellable es) :
    ReadsBack (.leaf es) := by
  intro b pos lo hi hbytes hlo hhi hmax
  have haligned := padded_mod pos (es.flatMap entryData)
  have hhead := length_nodeHead 0 pos
    (pos + (es.flatMap entryData).length +
      (padding 4 (pos + (es.flatMap entryData).length)).length) hes
  simp only [Tree.write] at hbytes hhi ⊢
  generalize hhere : pos + (es.flatMap entryData).length +
    (padding 4 (pos + (es.flatMap entryData).length)).length = here at hbytes hhi haligned hhead ⊢
  have hlen : pos + (es.flatMap entryData ++ padding 4 (pos + (es.flatMap entryData).length) ++
      Tree.nodeHead 0 pos here es ++ ofNat 4 es.length).length = here + 88 := by
    simp only [List.length_append, hhead, length_ofNat]
    omega
  rw [hlen] at hhi ⊢
  rw [List.append_assoc, List.append_assoc] at hbytes
  obtain ⟨hdata, hrest⟩ := holds_append.mp hbytes
  obtain ⟨-, hnode⟩ := holds_append.mp hrest
  rw [hhere] at hnode
  obtain ⟨hcells, hcount⟩ := holds_append.mp hnode
  rw [hhead] at hcount
  obtain ⟨hkind, hkeys, hvalues⟩ := holds_nodeHead hes hcells
  have hword : wordAt b (here + 84) 4 = es.length := by
    have h := hcount
    rw [Holds, length_ofNat] at h
    rw [wordAt, h, toNat_ofNat_of_lt (by rw [wordCount_four]; omega)]
  have hentries : ∃ after, readEntries b here here es.length 0 lo = .ok (es, after) :=
    readEntries_cells hdata hkeys hvalues htell hlo (by omega) (by omega) (by omega)
  obtain ⟨after, hentries⟩ := hentries
  exact ⟨by omega, readNode_leaf (by omega) hhi haligned hkind hword hes hentries⟩

theorem readsBack_inner {t₀ t₁ t₂ t₃ t₄ t₅ : Tree} {e₀ e₁ e₂ e₃ e₄ : Entry} (h₀ : ReadsBack t₀)
    (h₁ : ReadsBack t₁) (h₂ : ReadsBack t₂) (h₃ : ReadsBack t₃) (h₄ : ReadsBack t₄)
    (h₅ : ReadsBack t₅) (htell : Tellable [e₀, e₁, e₂, e₃, e₄]) :
    ReadsBack (.inner t₀ e₀ t₁ e₁ t₂ e₂ t₃ e₃ t₄ e₄ t₅) := by
  intro b pos lo hi hbytes hlo hhi hmax
  simp only [Tree.write] at hbytes hhi ⊢
  -- `pᵢ` is where the octets of a child begin, `p` where those of the entries do.
  generalize hw₀ : t₀.write pos = w₀ at hbytes hhi ⊢
  generalize hp₁ : pos + w₀.bytes.length = p₁ at hbytes hhi ⊢
  generalize hw₁ : t₁.write p₁ = w₁ at hbytes hhi ⊢
  generalize hp₂ : p₁ + w₁.bytes.length = p₂ at hbytes hhi ⊢
  generalize hw₂ : t₂.write p₂ = w₂ at hbytes hhi ⊢
  generalize hp₃ : p₂ + w₂.bytes.length = p₃ at hbytes hhi ⊢
  generalize hw₃ : t₃.write p₃ = w₃ at hbytes hhi ⊢
  generalize hp₄ : p₃ + w₃.bytes.length = p₄ at hbytes hhi ⊢
  generalize hw₄ : t₄.write p₄ = w₄ at hbytes hhi ⊢
  generalize hp₅ : p₄ + w₄.bytes.length = p₅ at hbytes hhi ⊢
  generalize hw₅ : t₅.write p₅ = w₅ at hbytes hhi ⊢
  generalize hp : p₅ + w₅.bytes.length = p at hbytes hhi ⊢
  generalize hes : [e₀, e₁, e₂, e₃, e₄] = es at hbytes hhi htell ⊢
  have hfive : es.length = 5 := by rw [← hes]; rfl
  have haligned := padded_mod p (es.flatMap entryData)
  generalize hhere : p + (es.flatMap entryData).length +
    (padding 4 (p + (es.flatMap entryData).length)).length = here at hbytes hhi haligned ⊢
  have hhead : (Tree.nodeHead 1 p here es).length = 84 :=
    length_nodeHead 1 p here (Nat.le_of_eq hfive)
  -- The octets of the tree are cut at these places, and the node into its cells and pointers.
  simp only [List.append_assoc] at hbytes
  obtain ⟨b₀, hbytes⟩ := holds_append.mp hbytes
  obtain ⟨b₁, hbytes⟩ := holds_append.mp (hp₁ ▸ hbytes)
  obtain ⟨b₂, hbytes⟩ := holds_append.mp (hp₂ ▸ hbytes)
  obtain ⟨b₃, hbytes⟩ := holds_append.mp (hp₃ ▸ hbytes)
  obtain ⟨b₄, hbytes⟩ := holds_append.mp (hp₄ ▸ hbytes)
  obtain ⟨b₅, hbytes⟩ := holds_append.mp (hp₅ ▸ hbytes)
  obtain ⟨hdata, hbytes⟩ := holds_append.mp (hp ▸ hbytes)
  obtain ⟨-, hbytes⟩ := holds_append.mp hbytes
  obtain ⟨hcells, hbytes⟩ := holds_append.mp (hhere ▸ hbytes)
  rw [hhead] at hbytes
  obtain ⟨c₀, hbytes⟩ := holds_append.mp hbytes
  obtain ⟨c₁, hbytes⟩ := holds_append.mp hbytes
  obtain ⟨c₂, hbytes⟩ := holds_append.mp hbytes
  obtain ⟨c₃, hbytes⟩ := holds_append.mp hbytes
  obtain ⟨c₄, c₅⟩ := holds_append.mp hbytes
  simp only [length_pointerCell] at c₁ c₂ c₃ c₄ c₅
  have hlen : pos + (w₀.bytes ++ w₁.bytes ++ w₂.bytes ++ w₃.bytes ++ w₄.bytes ++ w₅.bytes ++
      es.flatMap entryData ++ padding 4 (p + (es.flatMap entryData).length) ++
      Tree.nodeHead 1 p here es ++ pointerCell w₀.root (here + 84) ++
      pointerCell w₁.root (here + 88) ++ pointerCell w₂.root (here + 92) ++
      pointerCell w₃.root (here + 96) ++ pointerCell w₄.root (here + 100) ++
      pointerCell w₅.root (here + 104)).length = here + 108 := by
    simp only [List.length_append, hhead, length_pointerCell]
    omega
  rw [hlen] at hhi ⊢
  -- A child that is absent leaves the window as it is, so it begins at the next one or before it.
  obtain ⟨lo₁, hlo₁, r₀⟩ := h₀.child here hw₀ hp₁ b₀ c₀ hlo (by omega) (by omega) (by omega)
  obtain ⟨lo₂, hlo₂, r₁⟩ := h₁.child here hw₁ hp₂ b₁ c₁ hlo₁ (by omega) (by omega) (by omega)
  obtain ⟨lo₃, hlo₃, r₂⟩ := h₂.child here hw₂ hp₃ b₂ c₂ hlo₂ (by omega) (by omega) (by omega)
  obtain ⟨lo₄, hlo₄, r₃⟩ := h₃.child here hw₃ hp₄ b₃ c₃ hlo₃ (by omega) (by omega) (by omega)
  obtain ⟨lo₅, hlo₅, r₄⟩ := h₄.child here hw₄ hp₅ b₄ c₄ hlo₄ (by omega) (by omega) (by omega)
  obtain ⟨lo₆, hlo₆, r₅⟩ := h₅.child here hw₅ hp b₅ c₅ hlo₅ (by omega) (by omega) (by omega)
  obtain ⟨hkind, hkeys, hvalues⟩ := holds_nodeHead (Nat.le_of_eq hfive) hcells
  have hentries : ∃ after, readEntries b here here es.length 0 lo₆ = .ok (es, after) :=
    readEntries_cells hdata hkeys hvalues htell hlo₆ (by omega) (by omega) (by omega)
  obtain ⟨after, hentries⟩ := hentries
  rw [hfive] at hentries
  refine ⟨by omega, ?_⟩
  rw [readNode_inner (by omega) hhi haligned hkind r₀ r₁ r₂ r₃ r₄ r₅ hentries, ← hes]
  simp [interleave, Tree.toList]

theorem length_toList_le {t : Tree} (hfits : t.Fits) (pos : Nat) :
    t.toList.length ≤ (t.write pos).bytes.length := by
  induction t generalizing pos with
  | absent => exact Nat.le_refl 0
  | leaf es =>
    simp only [Tree.Fits] at hfits
    simp only [Tree.toList, Tree.write, List.length_append, length_nodeHead _ _ _ hfits]
    omega
  | inner t₀ e₀ t₁ e₁ t₂ e₂ t₃ e₃ t₄ e₄ t₅ ih₀ ih₁ ih₂ ih₃ ih₄ ih₅ =>
    obtain ⟨hfits₀, hfits₁, hfits₂, hfits₃, hfits₄, hfits₅⟩ := hfits
    simp only [Tree.toList, Tree.write, List.length_append, List.length_cons, length_pointerCell]
    have h₀ := ih₀ hfits₀ pos
    generalize (t₀.write pos).bytes.length = n₀ at h₀ ⊢
    have h₁ := ih₁ hfits₁ (pos + n₀)
    generalize (t₁.write (pos + n₀)).bytes.length = n₁ at h₁ ⊢
    have h₂ := ih₂ hfits₂ (pos + n₀ + n₁)
    generalize (t₂.write (pos + n₀ + n₁)).bytes.length = n₂ at h₂ ⊢
    have h₃ := ih₃ hfits₃ (pos + n₀ + n₁ + n₂)
    generalize (t₃.write (pos + n₀ + n₁ + n₂)).bytes.length = n₃ at h₃ ⊢
    have h₄ := ih₄ hfits₄ (pos + n₀ + n₁ + n₂ + n₃)
    generalize (t₄.write (pos + n₀ + n₁ + n₂ + n₃)).bytes.length = n₄ at h₄ ⊢
    have h₅ := ih₅ hfits₅ (pos + n₀ + n₁ + n₂ + n₃ + n₄)
    generalize (t₅.write (pos + n₀ + n₁ + n₂ + n₃ + n₄)).bytes.length = n₅ at h₅ ⊢
    omega

theorem Tellable.mono {es fs : List Entry} (h : Tellable fs) (hsub : ∀ e ∈ es, e ∈ fs) :
    Tellable es := fun e he => h e (hsub e he)

/-- A written tree is read back, whatever its shape. -/
theorem readsBack {t : Tree} (hfits : t.Fits) (htell : Tellable t.toList) : ReadsBack t := by
  induction t with
  | absent =>
    intro b pos lo hi _ _ _ _
    rfl
  | leaf es => exact readsBack_leaf hfits htell
  | inner t₀ e₀ t₁ e₁ t₂ e₂ t₃ e₃ t₄ e₄ t₅ ih₀ ih₁ ih₂ ih₃ ih₄ ih₅ =>
    obtain ⟨hfits₀, hfits₁, hfits₂, hfits₃, hfits₄, hfits₅⟩ := hfits
    have hmem : ∀ e, e ∈ (Tree.inner t₀ e₀ t₁ e₁ t₂ e₂ t₃ e₃ t₄ e₄ t₅).toList ↔
        (e ∈ t₀.toList ∨ e ∈ t₁.toList ∨ e ∈ t₂.toList ∨ e ∈ t₃.toList ∨ e ∈ t₄.toList ∨
          e ∈ t₅.toList) ∨ e ∈ [e₀, e₁, e₂, e₃, e₄] := by
      intro e
      simp only [Tree.toList, List.mem_append, List.mem_cons, List.not_mem_nil]
      grind
    refine readsBack_inner (ih₀ hfits₀ ?_) (ih₁ hfits₁ ?_) (ih₂ hfits₂ ?_) (ih₃ hfits₃ ?_)
      (ih₄ hfits₄ ?_) (ih₅ hfits₅ ?_) ?_
    all_goals exact htell.mono fun e he => (hmem e).mpr (by simp only [he, true_or, or_true])

end Rpc.Archive
