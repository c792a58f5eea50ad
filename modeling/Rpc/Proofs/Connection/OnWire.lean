import Rpc.Proofs.Connection.Calls
import Rpc.Proofs.Connection.Moves
import Rpc.Proofs.Connection.Outputs
import Rpc.Proofs.Connection.Writers
import Rpc.Proofs.Stream.Failures

/-! # A connection on the wire

A writer that a connection lets write in one step asks for the permit, puts its octets and gives the
permit back. While nobody comes in between, the octets on the wire are those of the frames that the
connection sent, and its shutdowns close the socket.
-/
namespace Rpc

namespace Stream.Wire

variable {w w' mid : Wire} {n : Nat} {g after : Writing} {octets : Bytes}

/-- Where the events of a socket may lead that takes nothing after it has failed. -/
def Reaches (w w' : Wire) : Prop := ∃ es, w.FailsForGood es ∧ w.run es = w'

theorem failsForGood_append (es fs : List Event) :
    w.FailsForGood (es ++ fs) ↔ w.FailsForGood es ∧ (w.run es).FailsForGood fs := by
  induction es generalizing w with
  | nil => exact iff_of_eq (true_and _).symm
  | cons e es ih =>
    rw [List.cons_append, FailsForGood, FailsForGood, ih, and_assoc]
    rfl

theorem Reaches.refl (w : Wire) : Reaches w w := ⟨[], trivial, rfl⟩

theorem Reaches.trans (h : Reaches w mid) (h' : Reaches mid w') : Reaches w w' := by
  obtain ⟨es, hes, rfl⟩ := h
  obtain ⟨fs, hfs, rfl⟩ := h'
  exact ⟨es ++ fs, (failsForGood_append es fs).mpr ⟨hes, hfs⟩, run_append w es fs⟩

theorem Reaches.of_put {e : Event} (h : w.step e = w') (hwhole : w.broken = false) :
    Reaches w w' := ⟨[e], ⟨fun _ => hwhole, trivial⟩, h⟩

theorem Reaches.of_step {e : Event} (h : w.step e = w') (hquiet : e.isPut = false) :
    Reaches w w' := by
  refine ⟨[e], ⟨fun hput => ?_, trivial⟩, h⟩
  rw [hquiet] at hput
  cases hput

/-! ## A writer that is left alone -/

theorem setWriter_setWriter : (w.setWriter n g).setWriter n after = w.setWriter n after := by
  simp only [setWriter, List.map_map]
  refine congrArg (fun writers => { w with writers }) (List.map_congr_left fun x _ => ?_)
  by_cases hx : x.1 = n <;> simp [hx]

theorem lookup_setWriter_self (hw : w.writers.lookup n = some g) (after : Writing) :
    (w.setWriter n after).writers.lookup n = some after := by
  rw [lookup_setWriter hw, if_pos rfl]

theorem isFree_setWriter (hfree : w.isFree = true) (hafter : after.holds = false) :
    (w.setWriter n after).isFree = true := by
  unfold isFree at hfree ⊢
  rw [Bool.and_eq_true, List.all_eq_true] at hfree ⊢
  refine ⟨fun x hx => ?_, hfree.2⟩
  obtain ⟨y, hy, rfl⟩ := List.mem_map.mp hx
  by_cases hkey : y.1 = n
  · simp [hkey, hafter]
  · rw [if_neg hkey]
    exact hfree.1 y hy

theorem step_advance (hw : w.writers.lookup n = some g) :
    w.step (.advance n) = w.stepWriter n g := by simp only [step, withWriter, hw]

theorem reaches_refused (hw : w.writers.lookup n = some (.begun octets)) (hshut : w.shut = true) :
    Reaches w (w.setWriter n .refused) := by
  have hrefused := step_advance hw
  rw [stepWriter, if_pos hshut] at hrefused
  exact .of_step hrefused rfl

/-- A writer on an open stream whose permit is free comes to the socket. -/
theorem reaches_putting (hw : w.writers.lookup n = some (.begun octets)) (hfree : w.isFree = true)
    (hopen : w.shut = false) : Reaches w (w.setWriter n (.putting octets)) := by
  have hwaits : Reaches w (w.setWriter n (.waiting octets)) := by
    have hjoins := step_advance hw
    rw [stepWriter, hopen, if_neg Bool.false_ne_true] at hjoins
    exact .of_step hjoins rfl
  have hholds : Reaches (w.setWriter n (.waiting octets)) (w.setWriter n (.holding octets)) := by
    have hgranted := step_advance (lookup_setWriter_self hw (.waiting octets))
    rw [stepWriter, if_pos (isFree_setWriter hfree rfl), setWriter_setWriter] at hgranted
    exact .of_step hgranted rfl
  have hputs : Reaches (w.setWriter n (.holding octets)) (w.setWriter n (.putting octets)) := by
    have hcleared := step_advance (lookup_setWriter_self hw (.holding octets))
    have hstill : (w.setWriter n (.holding octets)).shut = false := hopen
    rw [stepWriter, hstill, if_neg Bool.false_ne_true, setWriter_setWriter] at hcleared
    exact .of_step hcleared rfl
  exact (hwaits.trans hholds).trans hputs

/-- It puts all its octets at once. -/
theorem reaches_written (hw : w.writers.lookup n = some (.begun octets)) (hfree : w.isFree = true)
    (hopen : w.shut = false) (hclosed : w.closed = false) (hwhole : w.broken = false) :
    Reaches w ({ w with pieces := (n, octets) :: w.pieces }.setWriter n .written) := by
  have hput : (w.setWriter n (.putting octets)).step (.put n octets.length) =
      { w with pieces := (n, octets) :: w.pieces }.setWriter n (.putting []) := by
    have hstill : ¬(w.setWriter n (.putting octets)).closed = true := by
      simp [setWriter, hclosed]
    simp only [step, withWriter, lookup_setWriter_self hw, put]
    rw [if_neg hstill, List.take_length, List.drop_length]
    exact setWriter_setWriter (w := { w with pieces := (n, octets) :: w.pieces })
  have hputs : Reaches (w.setWriter n (.putting octets))
      ({ w with pieces := (n, octets) :: w.pieces }.setWriter n (.putting [])) :=
    .of_put hput hwhole
  have hflush : ({ w with pieces := (n, octets) :: w.pieces }.setWriter n (.putting [])).step
      (.flush n) = { w with pieces := (n, octets) :: w.pieces }.setWriter n .written := by
    have hlookup := lookup_setWriter_self (w := { w with pieces := (n, octets) :: w.pieces }) hw
      (.putting [])
    simp only [step, withWriter, hlookup, flush, setWriter_setWriter]
  have hflushes : Reaches ({ w with pieces := (n, octets) :: w.pieces }.setWriter n (.putting []))
      ({ w with pieces := (n, octets) :: w.pieces }.setWriter n .written) :=
    .of_step hflush rfl
  exact ((reaches_putting hw hfree hopen).trans hputs).trans hflushes

/-- The first shutdown of a stream whose permit is free closes the socket. -/
theorem reaches_closed (task : Nat) (hnone : w.shutters = []) (hfree : w.isFree = true)
    (hopen : w.shut = false) : Reaches (w.beginShut task)
      { w with shut := true, closed := true, shutters := [(task, .done true)] } := by
  have hbegun : w.beginShut task = { w with shutters := [(task, .begun)] } := by
    simp [beginShut, hnone]
  have hflags : ({ w with shutters := [(task, .begun)] } : Wire).step (.shut task) =
      { w with shut := true, shutters := [(task, .flagged)] } := by
    simp [step, withShutter, stepShut, setShutter, hopen]
  have hgraceful : ({ w with shut := true, shutters := [(task, .flagged)] } : Wire).step
      (.shut task) = { w with shut := true, shutters := [(task, .graceful)] } := by
    have hstill :
        ({ w with shut := true, shutters := [(task, .flagged)] } : Wire).isFree = true := by
      simp only [isFree, Bool.and_eq_true] at hfree ⊢
      exact ⟨hfree.1, rfl⟩
    simp [step, withShutter, stepShut, setShutter, hstill]
  have hcloses : ({ w with shut := true, shutters := [(task, .graceful)] } : Wire).step
      (.shut task) = { w with shut := true, shutters := [(task, .closing)] } := by
    simp [step, withShutter, stepShut, setShutter]
  have hdone : ({ w with shut := true, shutters := [(task, .closing)] } : Wire).step (.shut task) =
      { w with shut := true, closed := true, shutters := [(task, .done true)] } := by
    simp [step, withShutter, stepShut, setShutter]
  rw [hbegun]
  exact (((Reaches.of_step hflags rfl).trans (.of_step hgraceful rfl)).trans
    (.of_step hcloses rfl)).trans (.of_step hdone rfl)

/-- A write that fails before its first octet shuts the stream. -/
theorem reaches_failed (hw : w.writers.lookup n = some (.begun octets)) (hfree : w.isFree = true)
    (hopen : w.shut = false) (hnone : w.shutters = []) : Reaches w
      ({ w with
        shut := true
        closed := true
        broken := true
        shutters := [(n, .done true)] }.setWriter n .failed) := by
  have hfail : (w.setWriter n (.putting octets)).step (.fail n) =
      { w with broken := true }.setWriter n .failing := by
    simp only [step, withWriter, lookup_setWriter_self hw, fail]
    exact setWriter_setWriter (w := { w with broken := true })
  have hfails : Reaches (w.setWriter n (.putting octets))
      ({ w with broken := true }.setWriter n .failing) := .of_step hfail rfl
  have hgives : ({ w with broken := true }.setWriter n .failing).step (.advance n) =
      ({ w with broken := true }.setWriter n .failed).beginShut n := by
    rw [step_advance (lookup_setWriter_self (w := { w with broken := true }) hw _), stepWriter,
      setWriter_setWriter]
  have hshuts : Reaches ({ w with broken := true }.setWriter n .failing)
      (({ w with broken := true }.setWriter n .failed).beginShut n) :=
    .of_step hgives rfl
  have hfreed : ({ w with broken := true }.setWriter n .failed).isFree = true :=
    isFree_setWriter (w := { w with broken := true }) hfree rfl
  have hcloses := reaches_closed (w := { w with broken := true }.setWriter n .failed) n hnone hfreed
    hopen
  exact (((reaches_putting hw hfree hopen).trans hfails).trans hshuts).trans hcloses

/-! ## The writers of a connection -/

variable {limit next : Nat} {writers : List (Nat × Writer)} {sent : List Frame} {v : Writer}
  {before : Writing}

/-- The wire has the waiting writers of a connection, with the octets of what was sent, and nobody
has the permit. -/
structure Holds (limit : Nat) (writers : List (Nat × Writer)) (next : Nat) (sent : List Frame)
    (w : Wire) : Prop where
  hasLimit : w.limit = limit
  begun : ∀ n v, writers.lookup n = some v →
    v.frame.write limit = .ok v.frame.bytes ∧ w.writers.lookup n = some (.begun v.frame.bytes)
  unused : ∀ n, next ≤ n → w.writers.lookup n = none
  free : w.isFree = true
  octets : w.bytes = sent.flatMap Frame.bytes
  closed : w.closed = w.shut
  whole : w.shut = false → w.broken = false ∧ w.shutters = []

theorem holds_new (limit : Nat) : Holds limit [] 0 [] (new limit) where
  hasLimit := rfl
  begun _ _ h := nomatch h
  unused _ _ := rfl
  free := rfl
  octets := rfl
  closed := rfl
  whole _ := ⟨rfl, rfl⟩

/-- A writer has come to its end. -/
theorem Holds.finish (h : Holds limit writers next sent w) (hw : w.writers.lookup n = some before)
    (hafter : after.holds = false) :
    Holds limit (writers.filter (·.1 ≠ n)) next sent (w.setWriter n after) where
  hasLimit := h.hasLimit
  begun m v hm := by
    have hne : m ≠ n := by
      rintro rfl
      rw [lookup_filter_self] at hm
      cases hm
    rw [lookup_filter_ne hne] at hm
    rw [lookup_setWriter hw, if_neg hne]
    exact h.begun m v hm
  unused m hm := by
    have hne : m ≠ n := by
      rintro rfl
      rw [h.unused m hm] at hw
      cases hw
    rw [lookup_setWriter hw, if_neg hne]
    exact h.unused m hm
  free := isFree_setWriter h.free hafter
  octets := h.octets
  closed := h.closed
  whole := h.whole

theorem Holds.exists_begun (h : Holds limit writers next sent w) (hcode : ∃ code,
    v.frame.write limit = .ok code) : ∃ w', Reaches w w' ∧
      Holds limit (writers ++ [(next, v)]) (next + 1) sent w' ∧ w'.shut = w.shut := by
  have hcode : v.frame.write limit = .ok v.frame.bytes := by
    obtain ⟨code, hcode⟩ := hcode
    rw [hcode, (Frame.write_eq_ok_iff.mp hcode).2.2.2]
  have hnew := h.unused next (Nat.le_refl _)
  have hjoins : w.step (.begin next v.frame) =
      { w with writers := w.writers ++ [(next, .begun v.frame.bytes)] } := by
    simp [step, hnew, join, h.hasLimit, hcode]
  refine ⟨_, .of_step hjoins rfl, ⟨h.hasLimit, ?_, ?_, ?_, h.octets, h.closed, h.whole⟩, rfl⟩
  · intro m u hm
    rw [lookup_concat] at hm ⊢
    cases hold : writers.lookup m with
    | some u' =>
      rw [hold, Option.some_or] at hm
      obtain ⟨hcode', hw⟩ := h.begun m u' hold
      cases hm
      exact ⟨hcode', by rw [hw, Option.some_or]⟩
    | none =>
      rw [hold, Option.none_or] at hm
      by_cases hm' : m = next
      · rw [if_pos hm'] at hm ⊢
        cases hm
        exact ⟨hcode, by rw [hm', hnew, Option.none_or]⟩
      · rw [if_neg hm'] at hm
        cases hm
  · intro m hm
    rw [lookup_concat, h.unused m (by omega), if_neg (by omega), Option.none_or]
  · have hfree := h.free
    simp only [isFree, Bool.and_eq_true, List.all_append] at hfree ⊢
    exact ⟨⟨hfree.1, rfl⟩, hfree.2⟩

theorem Holds.exists_written (h : Holds limit writers next sent w)
    (hv : writers.lookup n = some v) (hopen : w.shut = false) : ∃ w', Reaches w w' ∧
      Holds limit (writers.filter (·.1 ≠ n)) next (sent ++ [v.frame]) w' ∧ w'.shut = w.shut := by
  obtain ⟨hcode, hw⟩ := h.begun n v hv
  have hwhole := h.whole hopen
  have hreaches := reaches_written hw h.free hopen (h.closed.trans hopen) hwhole.1
  have hsent : Holds limit writers next (sent ++ [v.frame])
      { w with pieces := (n, v.frame.bytes) :: w.pieces } :=
    ⟨h.hasLimit, h.begun, h.unused, h.free, by simp [bytes, ← h.octets], h.closed, h.whole⟩
  exact ⟨_, hreaches, hsent.finish hw rfl, rfl⟩

theorem Holds.exists_refused (h : Holds limit writers next sent w)
    (hv : writers.lookup n = some v) (hshut : w.shut = true) : ∃ w', Reaches w w' ∧
      Holds limit (writers.filter (·.1 ≠ n)) next sent w' ∧ w'.shut = w.shut := by
  obtain ⟨hcode, hw⟩ := h.begun n v hv
  exact ⟨_, reaches_refused hw hshut, h.finish hw rfl, rfl⟩

/-- A stream that has been shut has nothing more to take. -/
theorem Holds.shutDown (h : Holds limit writers next sent w) (task : Nat) (broken : Bool) :
    Holds limit writers next sent
      { w with shut := true, closed := true, broken, shutters := [(task, .done true)] } where
  hasLimit := h.hasLimit
  begun := h.begun
  unused := h.unused
  free := by
    have hfree := h.free
    simp only [isFree, Bool.and_eq_true] at hfree ⊢
    exact ⟨hfree.1, rfl⟩
  octets := h.octets
  closed := rfl
  whole hopen := nomatch hopen

theorem Holds.exists_failed (h : Holds limit writers next sent w)
    (hv : writers.lookup n = some v) (hopen : w.shut = false) : ∃ w', Reaches w w' ∧
      Holds limit (writers.filter (·.1 ≠ n)) next sent w' ∧ w'.shut = true := by
  obtain ⟨hcode, hw⟩ := h.begun n v hv
  have hreaches := reaches_failed hw h.free hopen (h.whole hopen).2
  exact ⟨_, hreaches, (h.shutDown n true).finish hw rfl, rfl⟩

theorem Holds.exists_shut (h : Holds limit writers next sent w) (hopen : w.shut = false) :
    ∃ w', Reaches w w' ∧ Holds limit writers next sent w' ∧ w'.shut = true := by
  obtain ⟨hwhole, hnone⟩ := h.whole hopen
  have hbegins : Reaches w (w.beginShut 0) := .of_step (e := .beginShut 0) rfl rfl
  exact ⟨_, hbegins.trans (reaches_closed 0 hnone h.free hopen), h.shutDown 0 w.broken, rfl⟩

end Stream.Wire

namespace Connection

open Rpc.Stream (Wire)

variable {σ : Type} {p : Profile σ} {c c' : Connection σ} {side : Side} {limit : Nat}
  {sent : List Frame} {w : Wire} {e : Event}

/-! ## Steps -/

theorem Move.shut (h : Move side c c') (hshut : c.shut = true) : c'.shut = true := by
  cases h with
  | work _ hsame => exact hsame.trans hshut
  | numbered | loops | refused | served | dialed | greeted | established => exact hshut
  | left | failed => exact teardown_shut (c := { c with loop := .over }) hshut
  | tornDown => exact teardown_shut hshut
  | dialedInVain => exact teardown_shut (c := { c with phase := .connecting, loop := .over }) hshut

theorem Comes.shut (h : Comes side c c') (hshut : c.shut = true) : c'.shut = true := by
  induction h with
  | refl => exact hshut
  | tail _ hmove ih => exact hmove.shut ih

theorem Coherent.failWrite_shut (h : c.Coherent) {n : Nat} {v : Writer} {fault : IoFault}
    (hv : c.writers.lookup n = some v) : (c.failWrite p n fault).1.shut = true := by
  simp only [failWrite, hv]
  refine resume_shut _ ?_
  unfold teardown
  split
  · exact (h.gone ‹_›).2
  · rfl

/-- The wire is as shut as the connection, and has its writers and what it sent. -/
structure Carries (limit : Nat) (c : Connection σ) (sent : List Frame) (w : Wire) : Prop
    extends w.Holds limit c.writers c.nextWriter sent where
  shut : w.shut = c.shut

theorem carries_new (p : Profile σ) (s : σ) :
    Carries p.limit (.new p s) [] (Wire.new p.limit) where
  toHolds := Wire.holds_new p.limit
  shut := rfl

/-- A writer that gets the stream comes to its end. -/
theorem Carries.exists_done (h : Carries p.limit c sent w) (hc : c.Coherent) (e : Event) :
    ∃ w', Wire.Reaches w w' ∧
      w'.Holds p.limit (c.waitingWriters e) c.nextWriter (sent ++ c.writes e) ∧
        (w'.shut = true → c.shut = true ∨ (c.step p e).1.shut = true) := by
  have hidle : c.waitingWriters e = c.writers → c.writes e = [] → ∃ w', Wire.Reaches w w' ∧
      w'.Holds p.limit (c.waitingWriters e) c.nextWriter (sent ++ c.writes e) ∧
        (w'.shut = true → c.shut = true ∨ (c.step p e).1.shut = true) := by
    intro hwriters hwrites
    rw [hwriters, hwrites, List.append_nil]
    exact ⟨w, .refl w, h.toHolds, fun hshut => Or.inl (h.shut ▸ hshut)⟩
  cases e with
  | write n =>
    cases hv : c.writers.lookup n with
    | none => exact hidle (filter_ne_eq_self hv) (by simp [writes, hv])
    | some v =>
      cases hshut : c.shut with
      | true =>
        obtain ⟨w', hreaches, hholds, -⟩ := h.exists_refused hv (h.shut.trans hshut)
        have hnothing : c.writes (.write n) = [] := by simp [writes, hshut]
        rw [hnothing, List.append_nil]
        exact ⟨w', hreaches, hholds, fun _ => Or.inl rfl⟩
      | false =>
        obtain ⟨w', hreaches, hholds, hsame⟩ := h.exists_written hv (h.shut.trans hshut)
        have hframe : c.writes (.write n) = [v.frame] := by simp [writes, hshut, hv]
        rw [hframe]
        refine ⟨w', hreaches, hholds, fun hnot => ?_⟩
        rw [hsame, h.shut, hshut] at hnot
        cases hnot
  | failWrite n fault =>
    cases hv : c.writers.lookup n with
    | none => exact hidle (filter_ne_eq_self hv) rfl
    | some v =>
      have hends : (c.step p (.failWrite n fault)).1.shut = true := hc.failWrite_shut hv
      have hnothing : c.writes (.failWrite n fault) = [] := rfl
      rw [hnothing, List.append_nil]
      cases hshut : c.shut with
      | true =>
        obtain ⟨w', hreaches, hholds, -⟩ := h.exists_refused hv (h.shut.trans hshut)
        exact ⟨w', hreaches, hholds, fun _ => Or.inr hends⟩
      | false =>
        obtain ⟨w', hreaches, hholds, -⟩ := h.exists_failed hv (h.shut.trans hshut)
        exact ⟨w', hreaches, hholds, fun _ => Or.inr hends⟩
  | start | call | advance | expire | cancel | abandon => exact hidle rfl rfl
  | arrive | answer | handshakeTimeout | stop => exact hidle rfl rfl

/-- What a connection does in one step, its writers and shutdowns do on the wire. -/
theorem Carries.exists_step (h : Carries p.limit c sent w) (hc : c.Coherent)
    (hcomes : Comes p.side c (c.step p e).1) : ∃ w', Wire.Reaches w w' ∧
      Carries p.limit (c.step p e).1 (sent ++ (c.step p e).2.filterMap Output.frame?) w' := by
  obtain ⟨done, hfinish, hdone, hshut⟩ := h.exists_done hc e
  have hbegins : ∃ mid, Wire.Reaches done mid ∧ mid.Holds p.limit (c.step p e).1.writers
      (c.step p e).1.nextWriter (sent ++ c.writes e) ∧ mid.shut = done.shut := by
    rcases writers_step (p := p) (c := c) e with ⟨hw, hn⟩ | ⟨purpose, f, henlists, hcode, hw, hn⟩
    · rw [hw, hn]
      exact ⟨done, .refl done, hdone, rfl⟩
    · rw [henlists.waitingWriters_eq] at hdone
      rw [hw, hn]
      exact hdone.exists_begun hcode
  obtain ⟨mid, hbegin, hmid, hsame⟩ := hbegins
  rw [(step_outputs e).1]
  cases hend : (c.step p e).1.shut with
  | false =>
    refine ⟨mid, hfinish.trans hbegin, hmid, ?_⟩
    rw [hend, hsame, Bool.eq_false_iff]
    intro hdown
    rcases hshut hdown with hbefore | hafter
    · rw [hcomes.shut hbefore] at hend
      cases hend
    · rw [hafter] at hend
      cases hend
  | true =>
    cases hopen : mid.shut with
    | true => exact ⟨mid, hfinish.trans hbegin, hmid, hopen.trans hend.symm⟩
    | false =>
      obtain ⟨w', hshuts, hholds, hdown⟩ := hmid.exists_shut hopen
      exact ⟨w', (hfinish.trans hbegin).trans hshuts, hholds, hdown.trans hend.symm⟩

/-! ## Runs -/

/-- Until the counter comes round, some wire goes along with a connection step for step. -/
theorem exists_wire (s : σ) (es : List Event)
    (hmax : (drawn p s es).length < 9223372036854775807) : ∃ gs : List (List Wire.Event),
      gs.length = es.length ∧ ∀ k ≤ es.length,
        (Wire.new p.limit).FailsForGood (gs.take k).flatten ∧
          Carries p.limit (run p (.new p s) (es.take k)).1
            ((run p (.new p s) (es.take k)).2.filterMap Output.frame?)
            ((Wire.new p.limit).run (gs.take k).flatten) := by
  refine exists_along (I := fun es fs => (Wire.new p.limit).FailsForGood fs ∧
    Carries p.limit (run p (.new p s) es).1 ((run p (.new p s) es).2.filterMap Output.frame?)
      ((Wire.new p.limit).run fs)) s ⟨trivial, carries_new p s⟩
    (fun front e fs hcoherent hcomes ⟨hfails, h⟩ => ?_) es hmax
  rw [run_concat] at hcomes
  obtain ⟨w', ⟨gs, hgood, hgs⟩, hnext⟩ := h.exists_step hcoherent hcomes
  refine ⟨gs, (Wire.failsForGood_append fs gs).mpr ⟨hfails, hgood⟩, ?_⟩
  rw [Wire.run_append, hgs, run_append, run_singleton, List.filterMap_append]
  exact hnext

end Connection

end Rpc
