import Mathlib.Logic.Function.Iterate
import Rpc.Proofs.Message.Changes

/-! # A baggage is no larger than its archive

The pointers of an archive come from the peer: one may lead back to the node in which it stands, two
of them to one text, and the counts may lie. The window keeps them in check. Every target is taken
off the front of the window that is left, so what has been read never outweighs the octets that the
window has left behind. And since the window of the children of a node ends where the node begins,
nodes are nested no deeper than there is room for one before the other, whatever they point to.
-/
namespace Rpc

open Bytes

namespace Message

/-- The octets of the keys and the values of some entries. -/
def load : List Entry → Nat
  | [] => 0
  | e :: es => (ofText e.1).length + e.2.length + load es

theorem load_cons (e : Entry) (es : List Entry) :
    load (e :: es) = (ofText e.1).length + e.2.length + load es := rfl

theorem load_append (es es' : List Entry) : load (es ++ es') = load es + load es' := by
  induction es with
  | nil => rw [List.nil_append, load, Nat.zero_add]
  | cons e es ih => rw [List.cons_append, load_cons, load_cons, ih, ← Nat.add_assoc]

namespace Baggage

def load (b : Baggage) : Nat := Message.load b.entries

theorem load_insertEntry_le (key : String) (value : Bytes) (es : List Entry) :
    Message.load (insertEntry key value es) ≤
      (ofText key).length + value.length + Message.load es := by
  induction es with
  | nil => exact Nat.le_refl _
  | cons e es ih =>
    unfold insertEntry
    split
    · exact Nat.le_refl _
    · split <;> simp only [load_cons] <;> omega

theorem load_ofList_le (es : List Entry) : (ofList es).load ≤ Message.load es := by
  have hfrom : ∀ b : Baggage,
      (es.foldl (fun b e => b.insert e.1 e.2) b).load ≤ b.load + Message.load es := by
    induction es with
    | nil => exact fun b => Nat.le_refl _
    | cons e es ih =>
      intro b
      have hfirst : (b.insert e.1 e.2).load ≤ (ofText e.1).length + e.2.length + b.load :=
        load_insertEntry_le e.1 e.2 b.entries
      have hrest := ih (b.insert e.1 e.2)
      rw [List.foldl_cons, load_cons]
      omega
  have hnone : Baggage.load .empty = 0 := rfl
  have hall := hfrom .empty
  rwa [hnone, Nat.zero_add] at hall

end Baggage

end Message

namespace Archive

open Message

/-! ## The window pays -/

/-- Octets have been read out of a window `[lo, hi)` that goes on at `after`. The part that is left
behind pays for them, save for some that stand in a node. -/
structure PaidBy (lo hi after size inNode : Nat) : Prop where
  onward : lo ≤ after
  inside : after ≤ hi
  covers : size ≤ after - lo + inNode

namespace PaidBy

variable {lo mid hi after size size' inNode inNode' : Nat}

theorem nothing (h : lo ≤ hi) : PaidBy lo hi lo 0 0 := ⟨Nat.le_refl lo, h, Nat.zero_le _⟩

theorem trans (h : PaidBy lo hi mid size inNode) (h' : PaidBy mid hi after size' inNode') :
    PaidBy lo hi after (size + size') (inNode + inNode') := by
  obtain ⟨hon, -, hsize⟩ := h
  obtain ⟨hon', hin', hsize'⟩ := h'
  exact ⟨Nat.le_trans hon hon', hin', by omega⟩

/-- The node itself pays for what stands in it, once the window has passed the node. -/
theorem pastNode {here past : Nat} (h : PaidBy lo here after size inNode)
    (hnode : here + inNode ≤ past) (hpast : past ≤ hi) : PaidBy lo hi past size 0 := by
  obtain ⟨hon, hin, hsize⟩ := h
  exact ⟨by omega, hpast, by omega⟩

end PaidBy

section Cells

variable {b : Bytes} {lo hi here after : Nat}

theorem length_slice_le (b : Bytes) (pos width : Nat) : (slice b pos width).length ≤ width :=
  List.length_take_le _ _

theorem ofText_of_asText {x : Bytes} {s : String} (h : asText x = .ok s) : ofText s = x := by
  unfold asText at h
  split at h
  · cases h
    exact ofText_of_text? ‹_›
  · cases h

theorem paidBy_text {s : String} (hlo : lo ≤ hi) (h : readText b lo hi here = .ok (s, after)) :
    PaidBy lo hi after (ofText s).length 8 := by
  unfold readText at h
  dsimp only at h
  split at h
  · split at h
    · cases h
    · obtain ⟨pos, hpos, h⟩ := bind_eq_ok.mp h
      obtain ⟨text, htext, h⟩ := bind_eq_ok.mp h
      cases h
      obtain ⟨-, hlow, hhigh, -⟩ := locate_ok hpos
      refine ⟨by omega, hhigh, ?_⟩
      rw [ofText_of_asText htext]
      exact Nat.le_trans (length_slice_le _ _ _) (by omega)
  · obtain ⟨text, htext, h⟩ := bind_eq_ok.mp h
    cases h
    refine ⟨Nat.le_refl lo, hlo, ?_⟩
    rw [ofText_of_asText htext]
    have hcell := (List.takeWhile_sublist (· ≠ 0xff) (l := slice b here 8)).length_le
    exact Nat.le_trans hcell (Nat.le_trans (length_slice_le _ _ _) (Nat.le_add_left 8 _))

theorem paidBy_vector {v : Bytes} (h : readVector b lo hi here = .ok (v, after)) :
    PaidBy lo hi after v.length 0 := by
  obtain ⟨pos, hpos, h⟩ := bind_eq_ok.mp h
  cases h
  obtain ⟨-, hlow, hhigh, -⟩ := locate_ok hpos
  exact ⟨by omega, hhigh, Nat.le_trans (length_slice_le _ _ _) (by omega)⟩

/-- Of an entry no more than a short key stands in the node. -/
theorem paidBy_entries {count i : Nat} {es : List Entry} (hlo : lo ≤ hi)
    (h : readEntries b hi here count i lo = .ok (es, after)) :
    PaidBy lo hi after (load es) (8 * count) := by
  induction count generalizing i lo es with
  | zero =>
    cases h
    exact .nothing hlo
  | succ n ih =>
    obtain ⟨⟨key, lo₁⟩, hkey, h⟩ := bind_eq_ok.mp h
    obtain ⟨⟨value, lo₂⟩, hvalue, h⟩ := bind_eq_ok.mp h
    obtain ⟨⟨rest, past⟩, hrest, h⟩ := bind_eq_ok.mp h
    cases h
    have hentry := (paidBy_text hlo hkey).trans (paidBy_vector hvalue)
    have hall := hentry.trans (ih hentry.inside hrest)
    rwa [load_cons, Nat.mul_succ, Nat.add_comm (8 * n)]

end Cells

theorem load_interleave (cs : List (List Entry)) (es : List Entry) :
    load (interleave cs es) = load cs.flatten + load es := by
  fun_induction interleave cs es with
  | case1 c cs e es ih =>
    rw [load_append, load_cons, ih, List.flatten_cons, load_append, load_cons]
    omega
  | case2 cs es _ => exact load_append _ _

/-! ## One node, whatever reads those below it -/

abbrev NodeReader := (lo hi : Nat) → (pos : Int) → Except ArchiveFlaw (List Entry × Nat)

section Nodes

variable (b : Bytes) (node : NodeReader)

/-- What the pointer of a node leads to, nothing if it leads nowhere. -/
def readChildBy (lo hi field : Nat) : Except ArchiveFlaw (List Entry × Nat) :=
  if toInt32 (slice b field 4) = 1 then .ok ([], lo) else node lo hi (target b field)

/-- The children to which the pointers from `field` on lead, one behind the other. -/
def readChildrenBy (hi : Nat) :
    (count field lo : Nat) → Except ArchiveFlaw (List (List Entry) × Nat)
  | 0, _, lo => .ok ([], lo)
  | n + 1, field, lo => do
    let (c, lo) ← readChildBy b node lo hi field
    let (cs, lo) ← readChildrenBy hi n (field + 4) lo
    return (c :: cs, lo)

def readNodeBy : NodeReader := fun lo hi pos =>
  match locate lo hi pos 84 4 with
  | .error e => .error e
  | .ok here =>
    let kind := wordAt b here 1
    if kind = 0 then
      match locate lo hi pos 88 4 with
      | .error e => .error e
      | .ok here =>
        let count := wordAt b (here + 84) 4
        if 5 < count then .error .overfullLeaf
        else do
          let (es, _) ← readEntries b here here count 0 lo
          return (es, here + 88)
    else if kind = 1 then
      match locate lo hi pos 108 4 with
      | .error e => .error e
      | .ok here => do
        let (cs, lo) ← readChildrenBy b node here 6 (here + 84) lo
        let (es, _) ← readEntries b here here 5 0 lo
        return (interleave cs es, here + 108)
    else .error .unknownNode

/-- The baggage of an archive whose topmost node some reader reads. -/
def readBaggageBy : Except CodecError Baggage :=
  openValue b 8 fun here => do
    let count := wordAt b (here + 4) 4
    if count = 0 then return .empty
    let (es, _) ← node 0 here (target b here)
    if es.length = count then return .ofList es
    else throw .wrongCount

variable {b node} {lo hi : Nat} {pos : Int}

theorem readChildrenBy_succ_bind {β : Type} (n field : Nat)
    (f : List (List Entry) × Nat → Except ArchiveFlaw β) :
    readChildrenBy b node hi (n + 1) field lo >>= f =
      readChildBy b node lo hi field >>= fun r =>
        readChildrenBy b node hi n (field + 4) r.2 >>= fun q => f (r.1 :: q.1, q.2) := by
  rw [readChildrenBy]
  cases readChildBy b node lo hi field with
  | error e => rfl
  | ok r =>
    simp only [bind, Except.bind]
    cases readChildrenBy b node hi n (field + 4) r.2 <;> rfl

/-- The reader of nodes reads those below a node in its own way. -/
theorem readNode_eq (b : Bytes) : readNode b = readNodeBy b (readNode b) := by
  funext lo hi pos
  rw [readNode, readNodeBy]
  cases locate lo hi pos 84 4 with
  | error e => rfl
  | ok here =>
    dsimp only
    by_cases hleaf : wordAt b here 1 = 0
    · exact (if_pos hleaf).trans (if_pos hleaf).symm
    · rw [if_neg hleaf, if_neg hleaf]
      by_cases hinner : wordAt b here 1 = 1
      · rw [if_pos hinner, if_pos hinner]
        split
        · rename_i flaw hplace
          rw [hplace]
        · rename_i place hplace
          rw [hplace]
          dsimp only
          simp only [readChildrenBy_succ_bind]
          rfl
      · rw [if_neg hinner, if_neg hinner]

theorem readBaggageBy_readNode (b : Bytes) : readBaggageBy b (readNode b) = Baggage.ofBytes b := rfl

/-- A leaf yields the entries it holds; an inner node puts its own between those of its children. -/
theorem readNodeBy_ok {es : List Entry} {after : Nat}
    (h : readNodeBy b node lo hi pos = .ok (es, after)) :
    (∃ here count past, lo ≤ here ∧ here + 88 ≤ hi ∧ after = here + 88 ∧ count ≤ 5 ∧
      readEntries b here here count 0 lo = .ok (es, past)) ∨
    ∃ here cs own mid past, lo ≤ here ∧ here + 108 ≤ hi ∧ after = here + 108 ∧
      readChildrenBy b node here 6 (here + 84) lo = .ok (cs, mid) ∧
      readEntries b here here 5 0 mid = .ok (own, past) ∧ es = interleave cs own := by
  unfold readNodeBy at h
  split at h
  · cases h
  · dsimp only at h
    split at h
    · split at h
      · cases h
      · rename_i here hplace
        split at h
        · cases h
        · rename_i hcount
          obtain ⟨⟨es', past⟩, hentries, h⟩ := bind_eq_ok.mp h
          cases h
          obtain ⟨-, hlow, hhigh, -⟩ := locate_ok hplace
          exact .inl ⟨here, _, past, hlow, hhigh, rfl, Nat.le_of_not_lt hcount, hentries⟩
    · split at h
      · split at h
        · cases h
        · rename_i here hplace
          obtain ⟨⟨cs, mid⟩, hchildren, h⟩ := bind_eq_ok.mp h
          obtain ⟨⟨own, past⟩, hentries, h⟩ := bind_eq_ok.mp h
          cases h
          obtain ⟨-, hlow, hhigh, -⟩ := locate_ok hplace
          exact .inr ⟨here, cs, own, mid, past, hlow, hhigh, rfl, hchildren, hentries, rfl⟩
      · cases h

/-! ## What nodes hold -/

/-- The windows that end at some place pay for all that a reader takes out of them. -/
def Thrifty (node : NodeReader) (hi : Nat) : Prop :=
  ∀ lo pos es after, node lo hi pos = .ok (es, after) → PaidBy lo hi after (load es) 0

theorem paidBy_children (hnode : Thrifty node hi) {count field after : Nat}
    {cs : List (List Entry)} (hlo : lo ≤ hi)
    (h : readChildrenBy b node hi count field lo = .ok (cs, after)) :
    PaidBy lo hi after (load cs.flatten) 0 := by
  induction count generalizing field lo cs with
  | zero =>
    cases h
    exact .nothing hlo
  | succ n ih =>
    obtain ⟨⟨c, mid⟩, hchild, h⟩ := bind_eq_ok.mp h
    obtain ⟨⟨rest, past⟩, hrest, h⟩ := bind_eq_ok.mp h
    cases h
    have hfirst : PaidBy lo hi mid (load c) 0 := by
      unfold readChildBy at hchild
      split at hchild
      · cases hchild
        exact .nothing hlo
      · exact hnode _ _ _ _ hchild
    rw [List.flatten_cons, load_append]
    exact hfirst.trans (ih hfirst.inside hrest)

/-- Reading a node is thrifty if reading the nodes before it is: the window of its children ends at
the node, and its own entries come behind them in the same window. -/
theorem thrifty_readNodeBy (hnode : ∀ here < hi, Thrifty node here) :
    Thrifty (readNodeBy b node) hi := by
  intro lo pos es after h
  rcases readNodeBy_ok h with ⟨here, count, past, hlow, hhigh, rfl, hcount, hentries⟩ |
    ⟨here, cs, own, mid, past, hlow, hhigh, rfl, hchildren, hentries, rfl⟩
  · exact (paidBy_entries hlow hentries).pastNode (by omega) hhigh
  · have hbelow := paidBy_children (hnode here (by omega)) hlow hchildren
    have hall := hbelow.trans (paidBy_entries hbelow.inside hentries)
    rw [load_interleave]
    exact hall.pastNode (by omega) hhigh

theorem thrifty_readNode (b : Bytes) (hi : Nat) : Thrifty (readNode b) hi := by
  induction hi using Nat.strongRecOn with
  | ind hi ih =>
    rw [readNode_eq]
    exact thrifty_readNodeBy ih

/-- The root of the tree is paid for by what stands before the value, which has eight octets. -/
theorem load_le_of_lists {es : List Entry} (h : Lists b es) : load es + 8 ≤ b.length := by
  obtain ⟨here, hplace, -, hread⟩ := h
  obtain ⟨-, -, hhigh, -⟩ := locate_ok hplace
  cases es with
  | nil => exact Nat.le_trans (Nat.le_add_left 8 here) hhigh
  | cons e es =>
    obtain ⟨after, hread⟩ := hread (List.cons_ne_nil e es)
    obtain ⟨-, hin, hcovers⟩ := thrifty_readNode b here _ _ _ _ hread
    omega

/-! ## How deep nodes are nested -/

theorem readChildrenBy_congr {node' : NodeReader} (h : ∀ lo pos, node lo hi pos = node' lo hi pos)
    (count field lo : Nat) :
    readChildrenBy b node hi count field lo = readChildrenBy b node' hi count field lo := by
  induction count generalizing field lo with
  | zero => rfl
  | succ n ih => simp only [readChildrenBy, readChildBy, h, ih]

/-- Before an inner node there are as many octets less in the window as the node takes. -/
theorem readNodeBy_congr {node' : NodeReader}
    (h : ∀ lo here pos, here + 108 ≤ hi → node lo here pos = node' lo here pos) :
    readNodeBy b node lo hi pos = readNodeBy b node' lo hi pos := by
  unfold readNodeBy
  cases hinner : locate lo hi pos 108 4 with
  | error e => rfl
  | ok here =>
    obtain ⟨-, -, hhigh, -⟩ := locate_ok hinner
    have hchildren : readChildrenBy b node here 6 (here + 84) lo =
        readChildrenBy b node' here 6 (here + 84) lo :=
      readChildrenBy_congr (fun lo pos => h lo here pos hhigh) 6 (here + 84) lo
    simp only [hchildren]

/-- Nodes that are nested too deep for the buffer are never read, so nothing can depend on them. -/
theorem iterate_readNodeBy (nested : NodeReader) {levels : Nat} (h : hi < 108 * levels) :
    (readNodeBy b)^[levels] nested lo hi pos = readNode b lo hi pos := by
  induction levels generalizing lo hi pos with
  | zero => exact absurd h (Nat.not_lt_zero hi)
  | succ n ih =>
    rw [Function.iterate_succ_apply', readNode_eq]
    exact readNodeBy_congr fun lo here pos hroom => ih (by omega)

end Nodes

theorem readBaggageBy_iterate (b : Bytes) (nested : NodeReader) :
    readBaggageBy b ((readNodeBy b)^[b.length / 108 + 1] nested) = Baggage.ofBytes b := by
  rw [← readBaggageBy_readNode]
  unfold readBaggageBy openValue
  cases hplace : locate 0 b.length ((b.length - 8 : Nat) : Int) 8 4 with
  | error e => rfl
  | ok here =>
    obtain ⟨-, -, hhigh, -⟩ := locate_ok hplace
    have hroot : (readNodeBy b)^[b.length / 108 + 1] nested 0 here (target b here) =
        readNode b 0 here (target b here) := iterate_readNodeBy nested (by omega)
    simp only [hroot]

/-- An inner node all of whose pointers lead back to it, under a value that tells of five entries. -/
def cyclicArchive : Bytes :=
  [1, 0, 0, 0] ++ List.replicate 80 0 ++
    (List.range 6).flatMap (fun i => pointerCell (some 0) (84 + 4 * i)) ++
    pointerCell (some 0) 108 ++ ofNat 4 5

/-- The window of its children is empty, so the node is refused before it is read again. -/
example : Baggage.ofBytes cyclicArchive = .error (.deserialization .outsideWindow) := by
  decide +kernel

end Archive

theorem Message.Baggage.load_le_of_ofBytes {bytes : Bytes} {b : Baggage}
    (h : Baggage.ofBytes bytes = .ok b) : b.load + 8 ≤ bytes.length := by
  obtain ⟨es, hlists, rfl⟩ := Baggage.ofBytes_eq_ok_iff.mp h
  have hload := Archive.load_le_of_lists hlists
  have hkept := Baggage.load_ofList_le es
  omega

end Rpc
