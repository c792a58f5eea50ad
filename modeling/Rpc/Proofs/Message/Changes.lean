import Mathlib.Data.List.Induction
import Mathlib.Data.List.Nodup
import Rpc.Proofs.Archive.Contents
import Rpc.Proofs.Keyed
import Rpc.Proofs.Text.Order

/-! # A baggage is what its changes left

A baggage comes about by entries that are put in and taken out, or from an archive, whose entries
are put in as they come. Either way it lists each key once, in the order of the octets, with the
value that was put in last. So neither the order of the changes nor the order in which a peer lists its
entries shows in a baggage, or in its archive.
-/
namespace Rpc.Message

open Archive Bytes

inductive Change
  | insert (key : String) (value : Bytes)
  | erase (key : String)

namespace Change

def key : Change → String
  | insert key _ | erase key => key

/-- An entry of an archive is put in. -/
def ofEntry (e : Entry) : Change := insert e.1 e.2

end Change

/-- Changes leave a value under a key that is put in and neither replaced nor taken out again. -/
def Leaves (cs : List Change) (key : String) (value : Bytes) : Prop :=
  ∃ front back, cs = front ++ .insert key value :: back ∧ ∀ c ∈ back, c.key ≠ key

section Leaves

variable {cs : List Change} {c : Change} {key : String} {value : Bytes}

theorem not_leaves_nil : ¬ Leaves [] key value := by
  rintro ⟨front, back, h, -⟩
  cases front <;> cases h

/-- The last change under a key decides. -/
theorem leaves_concat : Leaves (cs ++ [c]) key value ↔
    if c.key = key then c = .insert key value else Leaves cs key value := by
  constructor
  · rintro ⟨front, back, hcs, hback⟩
    rcases List.eq_nil_or_concat back with rfl | ⟨mid, last, rfl⟩
    · obtain ⟨-, hc⟩ := List.append_inj' hcs rfl
      cases hc
      exact (if_pos (rfl : (Change.insert key value).key = key)).mpr rfl
    · have hlast : last.key ≠ key := hback last (by simp)
      rw [List.concat_eq_append, ← List.cons_append, ← List.append_assoc] at hcs
      obtain ⟨hfront, hc⟩ := List.append_inj' hcs rfl
      cases hc
      rw [if_neg hlast]
      exact ⟨front, mid, hfront, fun c' hc' => hback c' (by simp [hc'])⟩
  · intro h
    by_cases hc : c.key = key
    · rw [if_pos hc] at h
      exact ⟨cs, [], by rw [h], fun c' hc' => absurd hc' List.not_mem_nil⟩
    · rw [if_neg hc] at h
      obtain ⟨front, back, rfl, hback⟩ := h
      refine ⟨front, back ++ [c], by simp, fun c' hc' => ?_⟩
      rcases List.mem_append.mp hc' with hc' | hc'
      · exact hback c' hc'
      · rw [List.mem_singleton.mp hc']
        exact hc

end Leaves

namespace Baggage

variable {a b : Baggage} {cs : List Change} {key : String} {value : Bytes}

/-! ## Entries and look-ups -/

theorem lookup_eq (key : String) (es : List Entry) : lookup key es = es.lookup key := by
  induction es with
  | nil => rfl
  | cons e es ih =>
    obtain ⟨other, value⟩ := e
    by_cases hkey : other = key
    · rw [lookup, if_pos hkey, hkey, List.lookup_cons_self]
    · rw [lookup, if_neg hkey, ih, List.lookup_cons, beq_eq_false_iff_ne.mpr (Ne.symm hkey)]

theorem keys_nodup (b : Baggage) : (b.entries.map Prod.fst).Nodup := by
  refine List.pairwise_map.mpr (b.sorted.imp fun hlt heq => ?_)
  rw [heq] at hlt
  exact String.lt_irrefl _ hlt

theorem get?_eq_some_iff : b.get? key = some value ↔ (key, value) ∈ b.entries := by
  rw [get?, lookup_eq]
  exact ⟨mem_of_lookup, lookup_of_mem b.keys_nodup⟩

/-- The entries stand in the order of their keys, so they show in no more than the look-ups. -/
theorem eq_of_mem_iff (h : ∀ e, e ∈ a.entries ↔ e ∈ b.entries) : a = b := by
  have hnodup : ∀ c : Baggage, c.entries.Nodup := fun c => List.Nodup.of_map _ c.keys_nodup
  have hperm : a.entries.Perm b.entries :=
    (List.perm_ext_iff_of_nodup (hnodup a) (hnodup b)).mpr h
  refine ext (hperm.eq_of_pairwise (fun x y _ _ hxy hyx => ?_) a.sorted b.sorted)
  exact absurd (String.lt_trans hxy hyx) (String.lt_irrefl _)

/-! ## Changes -/

def change (b : Baggage) : Change → Baggage
  | .insert key value => b.insert key value
  | .erase key => b.erase key

def changeAll (b : Baggage) (cs : List Change) : Baggage := cs.foldl change b

theorem get?_change (b : Baggage) (c : Change) : (b.change c).get? key = some value ↔
    if c.key = key then c = .insert key value else b.get? key = some value := by
  cases c with
  | insert other given =>
    rw [change, get?_insert, Change.key]
    by_cases hkey : other = key
    · rw [if_pos hkey, if_pos hkey, hkey, Option.some_inj]
      exact ⟨fun h => by rw [h], fun h => by cases h; rfl⟩
    · rw [if_neg hkey, if_neg hkey]
  | erase other =>
    rw [change, get?_erase, Change.key]
    by_cases hkey : other = key
    · rw [if_pos hkey, if_pos hkey]
      simp
    · rw [if_neg hkey, if_neg hkey]

theorem get?_changeAll (cs : List Change) :
    (changeAll .empty cs).get? key = some value ↔ Leaves cs key value := by
  induction cs using List.reverseRecOn with
  | nil => simpa [changeAll] using not_leaves_nil
  | append_singleton cs c ih =>
    have hlast : changeAll .empty (cs ++ [c]) = (changeAll .empty cs).change c := by
      rw [changeAll, List.foldl_append]
      rfl
    rw [hlast, get?_change, leaves_concat, ih]

theorem ofList_eq_changeAll (es : List Entry) :
    ofList es = changeAll .empty (es.map .ofEntry) := by
  rw [ofList, changeAll, List.foldl_map]
  rfl

theorem changeAll_append (cs ds : List Change) :
    b.changeAll (cs ++ ds) = (b.changeAll cs).changeAll ds := List.foldl_append

/-! ## What a baggage tells -/

/-- A baggage is what some changes left, and lists it in the order of the octets of the keys. -/
structure ToldBy (b : Baggage) (cs : List Change) : Prop where
  ascending : b.entries.Pairwise fun x y => ofText x.1 < ofText y.1
  listed : ∀ key value, (key, value) ∈ b.entries ↔ Leaves cs key value
  /-- There are as many entries as keys under which something is left. -/
  counted : ∀ keys : List String, keys.Nodup → (∀ key, key ∈ keys ↔ ∃ value, Leaves cs key value) →
    b.size = keys.length
  found : ∀ key value, b.get? key = some value ↔ Leaves cs key value

theorem told_changeAll (cs : List Change) : (changeAll .empty cs).ToldBy cs := by
  have hlisted : ∀ key value, (key, value) ∈ (changeAll .empty cs).entries ↔ Leaves cs key value :=
    fun key value => get?_eq_some_iff.symm.trans (get?_changeAll cs)
  refine ⟨(changeAll .empty cs).sorted.imp ofText_lt_of_lt, hlisted, fun keys hkeys hall => ?_,
    fun key value => get?_changeAll cs⟩
  have hperm : ((changeAll .empty cs).entries.map Prod.fst).Perm keys := by
    refine (List.perm_ext_iff_of_nodup (keys_nodup _) hkeys).mpr fun key => ?_
    rw [hall, List.mem_map]
    constructor
    · rintro ⟨⟨_, value⟩, hmem, rfl⟩
      exact ⟨value, (hlisted _ value).mp hmem⟩
    · rintro ⟨value, hleaves⟩
      exact ⟨(key, value), (hlisted key value).mpr hleaves, rfl⟩
  rw [size, ← hperm.length_eq, List.length_map]

/-- Only what the changes left in the end shows. -/
theorem ToldBy.eq {ds : List Change} (ha : a.ToldBy cs) (hb : b.ToldBy ds)
    (h : ∀ key value, Leaves cs key value ↔ Leaves ds key value) : a = b :=
  eq_of_mem_iff fun ⟨key, value⟩ =>
    (ha.listed key value).trans ((h key value).trans (hb.listed key value).symm)

end Baggage

/-! ## Entries of an archive -/

/-- The entries that an archive lists, from left to right in its tree, perhaps with one key twice. -/
def Lists (b : Bytes) (es : List Entry) : Prop :=
  ∃ here, locate 0 b.length ((b.length - 8 : Nat) : Int) 8 4 = .ok here ∧
    wordAt b (here + 4) 4 = es.length ∧
    (es ≠ [] → ∃ after, readNode b 0 here (target b here) = .ok (es, after))

/-- The entries of an archive are put in one after the other. -/
theorem Baggage.ofBytes_eq_ok_iff {bytes : Bytes} {b : Baggage} :
    Baggage.ofBytes bytes = .ok b ↔ ∃ es, Lists bytes es ∧ b = Baggage.ofList es := by
  unfold Baggage.ofBytes readBaggage openValue Lists
  cases hplace : locate 0 bytes.length ((bytes.length - 8 : Nat) : Int) 8 4 with
  | error e => simp
  | ok here =>
    simp only [Except.ok.injEq, exists_eq_left']
    by_cases hcount : wordAt bytes (here + 4) 4 = 0
    · simp only [hcount, if_true]
      constructor
      · intro h
        cases h
        exact ⟨[], ⟨rfl, fun h => absurd rfl h⟩, rfl⟩
      · rintro ⟨es, ⟨hlength, -⟩, rfl⟩
        rw [List.length_eq_zero_iff.mp hlength.symm]
        rfl
    · simp only [if_neg hcount]
      cases hread : readNode bytes 0 here (target bytes here) with
      | error e =>
        simp only [bind, Except.bind]
        constructor
        · intro h
          cases h
        · rintro ⟨es, ⟨hlength, hes⟩, -⟩
          obtain ⟨after, h⟩ := hes fun hnil => hcount (by rw [hlength, hnil]; rfl)
          cases h
      | ok r =>
        obtain ⟨es, after⟩ := r
        simp only [bind, Except.bind]
        by_cases hlength : es.length = wordAt bytes (here + 4) 4
        · rw [if_pos hlength]
          constructor
          · intro h
            cases h
            exact ⟨es, ⟨hlength.symm, fun _ => ⟨after, rfl⟩⟩, rfl⟩
          · rintro ⟨es', ⟨hlength', hes'⟩, rfl⟩
            obtain ⟨after', h⟩ := hes' fun hnil => hcount (by rw [hlength', hnil]; rfl)
            cases h
            rfl
        · rw [if_neg hlength]
          constructor
          · intro h
            cases h
          · rintro ⟨es', ⟨hlength', hes'⟩, rfl⟩
            obtain ⟨after', h⟩ := hes' fun hnil => hcount (by rw [hlength', hnil]; rfl)
            cases h
            exact absurd hlength'.symm hlength

/-- What was read from an archive is what its entries left, and goes on from there. -/
theorem Baggage.told_of_ofBytes {bytes : Bytes} {b : Baggage} (h : Baggage.ofBytes bytes = .ok b) :
    ∃ es, Lists bytes es ∧ ∀ cs, (b.changeAll cs).ToldBy (es.map .ofEntry ++ cs) := by
  obtain ⟨es, hlists, rfl⟩ := ofBytes_eq_ok_iff.mp h
  refine ⟨es, hlists, fun cs => ?_⟩
  rw [ofList_eq_changeAll, ← changeAll_append]
  exact told_changeAll _

/-- However a baggage came about, by changes or from the archive of a peer, it is what was left in
the end, in one order; and what is left in the end makes the baggage, and the octets of its
archive. -/
theorem Baggage.told_by_changes :
    (∀ cs, (changeAll .empty cs).ToldBy cs) ∧
    (∀ bytes b, Baggage.ofBytes bytes = .ok b →
      ∃ es, Lists bytes es ∧ ∀ cs, (b.changeAll cs).ToldBy (es.map .ofEntry ++ cs)) ∧
    ∀ (a b : Baggage) (cs ds : List Change), a.ToldBy cs → b.ToldBy ds →
      (∀ key value, Leaves cs key value ↔ Leaves ds key value) → a = b ∧ a.toBytes = b.toBytes := by
  refine ⟨told_changeAll, fun bytes b => told_of_ofBytes, fun a b cs ds ha hb h => ?_⟩
  have heq : a = b := ha.eq hb h
  exact ⟨heq, congrArg toBytes heq⟩

/-- A leaf with its keys out of order, one of them twice. -/
def shuffledEntries : List Entry := [("b", [1]), ("a", [2]), ("b", [3])]

def shuffledArchive : Bytes :=
  let leaf := (Tree.leaf shuffledEntries).write 0
  finish leaf.bytes fun here => pointerCell leaf.root here ++ ofNat 4 3

/-- The same is left when a key is put in and taken out again on the way. -/
def detour : List Change := [.insert "a" [2], .insert "c" [], .insert "b" [3], .erase "c"]

theorem shuffledArchive_told :
    Baggage.ofBytes shuffledArchive = .ok (.ofList [("a", [2]), ("b", [3])]) ∧
    (∃ es, Lists shuffledArchive es ∧
      ∀ cs, ((Baggage.ofList [("a", [2]), ("b", [3])]).changeAll cs).ToldBy (es.map .ofEntry ++ cs)) ∧
    (∀ key value, Leaves (shuffledEntries.map .ofEntry) key value ↔ Leaves detour key value) ∧
    (Baggage.changeAll .empty (shuffledEntries.map .ofEntry)).toBytes =
      (Baggage.changeAll .empty detour).toBytes := by
  have hread : Baggage.ofBytes shuffledArchive = .ok (.ofList [("a", [2]), ("b", [3])]) := by
    decide +kernel
  have hleaves : ∀ key value,
      Leaves (shuffledEntries.map .ofEntry) key value ↔ Leaves detour key value := by
    intro key value
    have hsame : Baggage.changeAll .empty (shuffledEntries.map .ofEntry) =
        Baggage.changeAll .empty detour := by
      decide +kernel
    rw [← Baggage.get?_changeAll, ← Baggage.get?_changeAll, hsame]
  obtain ⟨hchanges, harchives, hsame⟩ := Baggage.told_by_changes
  exact ⟨hread, harchives _ _ hread, hleaves, (hsame _ _ _ _ (hchanges _) (hchanges _) hleaves).2⟩

end Rpc.Message
