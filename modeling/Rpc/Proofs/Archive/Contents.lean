import Rpc.Proofs.Archive.Nodes

/-! # Contents are read back

Whatever a frame carries besides its payload is the same after it was archived and read again, as
long as its texts fit their length words and its archive is within the reach of its pointers. The
entries of a baggage come back sorted, so inserting them one after the other gives the baggage.
-/
namespace Rpc.Message

open Archive Bytes

/-! ## Baggage from its entries -/

namespace Baggage

theorem insertEntry_of_lt {key : String} {value : Bytes} {es : List Entry}
    (h : ∀ e ∈ es, e.1 < key) : insertEntry key value es = es ++ [(key, value)] := by
  induction es with
  | nil => rfl
  | cons e es ih =>
    have hlt : e.1 < key := h e List.mem_cons_self
    have hrest : insertEntry key value es = es ++ [(key, value)] :=
      ih fun x hx => h x (List.mem_cons_of_mem _ hx)
    have hnot : ¬ key < e.1 := fun h => String.lt_irrefl _ (String.lt_trans hlt h)
    have hne : key ≠ e.1 := fun heq => String.lt_irrefl _ (heq ▸ hlt)
    rw [insertEntry, if_neg hnot, if_neg hne, hrest, List.cons_append]

/-- Entries that come in the order of their keys end up in this order. -/
theorem entries_foldl_insert {es : List Entry} {b : Baggage}
    (h : (b.entries ++ es).Pairwise (fun x y => x.1 < y.1)) :
    (es.foldl (fun b e => b.insert e.1 e.2) b).entries = b.entries ++ es := by
  induction es generalizing b with
  | nil => rw [List.foldl_nil, List.append_nil]
  | cons e es ih =>
    have hlt : ∀ x ∈ b.entries, x.1 < e.1 := fun x hx =>
      (List.pairwise_append.mp h).2.2 x hx e List.mem_cons_self
    have hinsert : (b.insert e.1 e.2).entries = b.entries ++ [e] := insertEntry_of_lt hlt
    have hcut : b.entries ++ e :: es = (b.insert e.1 e.2).entries ++ es := by
      rw [hinsert, List.append_assoc, List.singleton_append]
    rw [hcut] at h ⊢
    exact ih h

theorem ofList_entries (b : Baggage) : ofList b.entries = b :=
  ext (entries_foldl_insert (by simpa [empty] using b.sorted))

end Baggage

/-! ## Baggage from its archive -/

section Baggage

variable {g : Baggage}

/-- The search tree of a baggage, as its archive begins. -/
def baggageTree (g : Baggage) : Tree.Written := (Tree.ofList g.entries).write 0

def baggageValue (g : Baggage) (here : Nat) : Bytes :=
  pointerCell (baggageTree g).root here ++ ofNat 4 g.size

theorem baggageBytes_eq (g : Baggage) :
    baggageBytes g = finish (baggageTree g).bytes (baggageValue g) := rfl

@[simp] theorem length_baggageValue (g : Baggage) (here : Nat) :
    (baggageValue g here).length = 8 := by
  simp [baggageValue]

theorem size_le (g : Baggage) : g.size ≤ (baggageTree g).bytes.length := by
  obtain ⟨hlist, hfits⟩ := Tree.toList_ofList g.entries
  have hle := length_toList_le hfits 0
  rwa [hlist] at hle

/-- What an archived baggage begins and ends with. -/
theorem holds_baggageBytes (g : Baggage) :
    Holds (baggageBytes g) 0 (baggageTree g).bytes ∧
      Holds (baggageBytes g) (valuePlace (baggageTree g).bytes)
        (pointerCell (baggageTree g).root (valuePlace (baggageTree g).bytes)) ∧
      Holds (baggageBytes g) (valuePlace (baggageTree g).bytes + 4) (ofNat 4 g.size) := by
  have hall : Holds (baggageBytes g) 0 (finish (baggageTree g).bytes (baggageValue g)) :=
    holds_self _
  rw [finish, List.append_assoc] at hall
  obtain ⟨htree, hrest⟩ := holds_append.mp hall
  obtain ⟨-, hvalue⟩ := holds_append.mp hrest
  rw [Nat.zero_add] at hvalue
  obtain ⟨hroot, hsize⟩ := holds_append.mp hvalue
  rw [length_pointerCell] at hsize
  exact ⟨htree, hroot, hsize⟩

theorem readNode_baggageBytes (htell : Tellable g.entries) (hsome : g.size ≠ 0)
    (hplace : valuePlace (baggageTree g).bytes < 2147483648) :
    ∃ after, readNode (baggageBytes g) 0 (valuePlace (baggageTree g).bytes)
      (target (baggageBytes g) (valuePlace (baggageTree g).bytes)) = .ok (g.entries, after) := by
  obtain ⟨hlist, hfits⟩ := Tree.toList_ofList g.entries
  obtain ⟨htree, hpointer, -⟩ := holds_baggageBytes g
  have hback : ReadsBack (Tree.ofList g.entries) := readsBack hfits (by rwa [hlist])
  have hle := length_le_valuePlace (baggageTree g).bytes
  have hread := hback (baggageBytes g) 0 0 (valuePlace (baggageTree g).bytes) htree (Nat.le_refl 0)
    (by rwa [Nat.zero_add]) hplace
  rw [hlist] at hread
  cases hroot : (baggageTree g).root with
  | none =>
    rw [← baggageTree, hroot] at hread
    exact absurd (congrArg List.length hread) hsome
  | some root =>
    rw [← baggageTree, hroot] at hread
    rw [hroot] at hpointer
    obtain ⟨hbefore, hread⟩ := hread
    have htarget := (pointer_of_holds hpointer hplace fun r hr => by
      cases hr
      omega).2
    exact ⟨_, htarget ▸ hread⟩

theorem Baggage.ofBytes_toBytes {b : Bytes} (hb : g.toBytes = .ok b) :
    Baggage.ofBytes b = .ok g := by
  obtain ⟨htexts, hsize, rfl⟩ := bounded_eq_ok hb
  have htell : Tellable g.entries := fun e he => htexts _ (List.mem_map_of_mem he)
  have hplace : valuePlace (baggageTree g).bytes + 8 < 2147483648 := by
    rwa [baggageBytes_eq, length_finish, length_baggageValue] at hsize
  have hle := length_le_valuePlace (baggageTree g).bytes
  have hcount : wordAt (baggageBytes g) (valuePlace (baggageTree g).bytes + 4) 4 = g.size := by
    have hword := (holds_baggageBytes g).2.2
    have hfew := size_le g
    rw [Holds, length_ofNat] at hword
    rw [wordAt, hword, toNat_ofNat_of_lt (by rw [wordCount_four]; omega)]
  rw [Baggage.ofBytes, readBaggage, baggageBytes_eq, openValue_finish (length_baggageValue g _),
    ← baggageBytes_eq]
  by_cases hnone : g.size = 0
  · have hempty : g = .empty := Baggage.ext (List.length_eq_zero_iff.mp hnone)
    simp only [hcount, hnone, if_true]
    rw [hempty]
    rfl
  · obtain ⟨after, hread⟩ := readNode_baggageBytes htell hnone (by omega)
    simp only [hcount, if_neg hnone, hread, bind, Except.bind]
    have hall : g.entries.length = g.size := rfl
    rw [if_pos hall, Baggage.ofList_entries]
    rfl

end Baggage

/-! ## All contents -/

theorem Notice.ofBytes_toBytes {n : Notice} {b : Bytes} (hb : n.toBytes = .ok b) :
    Notice.ofBytes b = .ok n := by
  cases n with
  | hello version =>
    cases hb
    have hword : slice (noticeBytes (.hello version)) 4 4 = ofNat 4 version.toNat := rfl
    have hversion : UInt32.ofNat (wordAt (noticeBytes (.hello version)) 4 4) = version := by
      rw [wordAt, hword, toNat_ofNat_of_lt version.toNat_lt, UInt32.ofNat_toNat]
    have hread : Notice.ofBytes (noticeBytes (.hello version)) =
        .ok (.hello (UInt32.ofNat (wordAt (noticeBytes (.hello version)) 4 4))) := rfl
    rw [hread, hversion]
  | violation code details => exact Notice.ofBytes_violation hb
  | close =>
    cases hb
    rfl

/-- An archive whose texts fit their length words and that its pointers can span is written. -/
theorem bounded_of_lt {texts : List Bytes} {archive : Bytes}
    (htexts : ∀ t ∈ texts, t.length < 1073741824) (hsize : archive.length < 2147483648) :
    bounded texts archive = .ok archive := by
  have hany : texts.any (1073741824 ≤ ·.length) = false := by
    rw [List.any_eq_false]
    intro t ht
    have hlt := htexts t ht
    simp only [decide_eq_true_eq]
    omega
  have hnot : ¬ 2147483648 ≤ archive.length := by omega
  simp only [bounded, hany, hnot, decide_false, Bool.or_false, Bool.false_eq_true, if_false]

/-- Every heading, fault, notice and baggage, of any number of entries, can be archived if its
texts are shorter than `2 ^ 30` octets and the archive is shorter than `2 ^ 31`, and reading the
archive gives it back. -/
theorem contents_read_back :
    (∀ h : Heading, (ofText h.method).length < 1073741824 →
      (headingBytes h).length < 2147483648 →
      h.toBytes = .ok (headingBytes h) ∧ Heading.ofBytes (headingBytes h) = .ok h) ∧
    (∀ f : Fault, (ofText f.text).length < 1073741824 → (faultBytes f).length < 2147483648 →
      f.toBytes = .ok (faultBytes f) ∧ Fault.ofBytes (faultBytes f) = .ok f) ∧
    (∀ n : Notice, (∀ code details, n = .violation code details →
        (ofText details).length < 1073741824) → (noticeBytes n).length < 2147483648 →
      n.toBytes = .ok (noticeBytes n) ∧ Notice.ofBytes (noticeBytes n) = .ok n) ∧
    ∀ g : Baggage, (∀ e ∈ g.entries, (ofText e.1).length < 1073741824) →
      (baggageBytes g).length < 2147483648 →
      g.toBytes = .ok (baggageBytes g) ∧ Baggage.ofBytes (baggageBytes g) = .ok g := by
  refine ⟨?_, ?_, ?_, ?_⟩
  · intro h htext hsize
    have hwritten : h.toBytes = .ok (headingBytes h) :=
      bounded_of_lt (List.forall_mem_singleton.mpr htext) hsize
    exact ⟨hwritten, Heading.ofBytes_toBytes hwritten⟩
  · intro f htext hsize
    have hwritten : f.toBytes = .ok (faultBytes f) :=
      bounded_of_lt (List.forall_mem_singleton.mpr htext) hsize
    exact ⟨hwritten, Fault.ofBytes_toBytes hwritten⟩
  · intro n htext hsize
    have hwritten : n.toBytes = .ok (noticeBytes n) := by
      cases n with
      | hello version => rfl
      | violation code details =>
        exact bounded_of_lt (List.forall_mem_singleton.mpr (htext code details rfl)) hsize
      | close => rfl
    exact ⟨hwritten, Notice.ofBytes_toBytes hwritten⟩
  · intro g hkeys hsize
    have hwritten : g.toBytes = .ok (baggageBytes g) :=
      bounded_of_lt (List.forall_mem_map.mpr hkeys) hsize
    exact ⟨hwritten, Baggage.ofBytes_toBytes hwritten⟩

/-- Seven entries need a node above the leaves. -/
def sevenEntries : Baggage := .ofList [("trace", [1, 2]), ("", []), ("a key of sixteen", [3]),
  ("b", []), ("c", [4]), ("d", []), ("e", [5, 6, 7])]

theorem sevenEntries_read_back : sevenEntries.size = 7 ∧
    sevenEntries.toBytes = .ok (baggageBytes sevenEntries) ∧
    Baggage.ofBytes (baggageBytes sevenEntries) = .ok sevenEntries := by
  have hkeys : ∀ e ∈ sevenEntries.entries, (ofText e.1).length < 1073741824 := by decide +kernel
  have hsize : (baggageBytes sevenEntries).length < 2147483648 := by decide +kernel
  exact ⟨by decide +kernel, contents_read_back.2.2.2 sevenEntries hkeys hsize⟩

end Rpc.Message
