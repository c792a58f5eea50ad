import Rpc.Proofs.Keyed
import Rpc.Stream.Permit

/-! # Moves of writers and shutdowns

What one step does, whoever makes it. A shutdown that closes gracefully has the permit and has raised
the flag, so no writer is putting anything then, and whoever gets the permit later finds the stream
shut: nothing is put on the wire any more.
-/
namespace Rpc.Stream

namespace Writing

/-- The frame of a writer that has not put anything yet. -/
def frame? : Writing → Option Bytes
  | begun frame | waiting frame | holding frame => some frame
  | _ => none

/-- The moves of a writer by which it neither takes the permit nor puts anything. -/
inductive Passes (shut : Bool) : (fails : Bool) → Writing → Writing → Prop
  | refused (frame : Bytes) (h : shut = true) : Passes shut false (begun frame) refused
  | queued (frame : Bytes) : Passes shut false (begun frame) (waiting frame)
  | turned (frame : Bytes) (h : shut = true) : Passes shut false (holding frame) refused
  | cleared (frame : Bytes) (h : shut = false) : Passes shut false (holding frame) (putting frame)
  | flushed : Passes shut false (putting []) written
  | broke (left : Bytes) : Passes shut true (putting left) failing
  | gaveUp : Passes shut false failing failed

variable {shut fails : Bool} {before after : Writing} {frame left : Bytes}

namespace Passes

theorem pending (h : Passes shut fails before after) (ha : after.frame? = some frame) :
    before.frame? = some frame := by
  cases h with
  | queued => exact ha
  | refused | turned | cleared | flushed | broke | gaveUp => cases ha

theorem holds (h : Passes shut fails before after) (ha : after.holds) : before.holds := by
  cases h with
  | turned | cleared | flushed | broke => rfl
  | refused | queued | gaveUp => cases ha

theorem unwritten (h : Passes shut fails before after) : before ≠ written := by
  cases h <;> exact Writing.noConfusion

theorem shut_of_refused (h : Passes shut fails before .refused) : shut = true := by
  cases h <;> assumption

theorem holds_of_written (h : Passes shut fails before .written) : before.holds := by
  cases h
  rfl

theorem cleared_of_putting (h : Passes shut fails before (.putting left)) :
    shut = false ∧ before = holding left := by
  cases h with
  | cleared _ h => exact ⟨h, rfl⟩

theorem of_failing (h : Passes shut fails before .failing) : fails = true := by
  cases h
  rfl

theorem of_failed (h : Passes shut fails before .failed) : before = failing := by
  cases h
  rfl

theorem of_fails (h : Passes shut true before after) : before.holds ∧ after = failing := by
  cases h
  exact ⟨rfl, rfl⟩

end Passes

/-- The event by which a writer passes on. -/
def passing (writer : Nat) (fails : Bool) : Writing → Wire.Event
  | putting _ => if fails then .fail writer else .flush writer
  | _ => .advance writer

end Writing

namespace Wire

/-- Who is granted the permit by an event, with its frame. -/
def grants (w : Wire) : Event → List (Nat × Bytes)
  | .advance writer =>
    match w.writers.lookup writer with
    | some (.waiting frame) => if w.isFree then [(writer, frame)] else []
    | _ => []
  | _ => []

/-! ## What a step does -/

/-- A shutdown is under way and has got so far that the flag is up. -/
structure Shuts (w : Wire) (was now : Shutting) (shut closed : Bool) : Prop where
  stillShut : w.shut → shut
  stillClosed : w.closed → closed
  flagged : now = .flagged → shut
  graceful : now = .graceful → was = .flagged ∧ w.isFree

/-- What an event does, and who is granted the permit by it. -/
inductive Moves (w : Wire) : Event → List (Nat × Bytes) → Wire → Prop
  | stays (e : Event) : Moves w e [] w
  | joined {writer : Nat} {f : Frame} {g : Writing} (hnew : w.writers.lookup writer = none)
      (hg : g = .refused ∨ ∃ octets, f.write w.limit = .ok octets ∧ g = .begun octets) :
      Moves w (.begin writer f) [] { w with writers := w.writers ++ [(writer, g)] }
  | passed {e : Event} {writer : Nat} {before after : Writing} {fails : Bool}
      (hw : w.writers.lookup writer = some before)
      (hpass : before.Passes w.shut fails after) (hevent : e = before.passing writer fails) :
      Moves w e [] ({ w with broken := w.broken || fails }.setWriter writer after)
  | gaveUp {writer : Nat} (hw : w.writers.lookup writer = some .failing) :
      Moves w (.advance writer) [] ((w.setWriter writer .failed).beginShut writer)
  | granted {writer : Nat} {frame : Bytes}
      (hw : w.writers.lookup writer = some (.waiting frame)) (hfree : w.isFree) :
      Moves w (.advance writer) [(writer, frame)] (w.setWriter writer (.holding frame))
  | put {writer count : Nat} {left : Bytes}
      (hw : w.writers.lookup writer = some (.putting left)) (hopen : w.closed = false) :
      Moves w (.put writer count) []
        ({ w with pieces := (writer, left.take count) :: w.pieces }.setWriter writer
          (.putting (left.drop count)))
  | shutBegun {task : Nat} (hnew : w.shutters.lookup task = none) :
      Moves w (.beginShut task) [] { w with shutters := w.shutters ++ [(task, .begun)] }
  | shutMoved {e : Event} {task : Nat} {was now : Shutting} {shut closed : Bool}
      (hs : w.shutters.lookup task = some was) (hshuts : Shuts w was now shut closed) :
      Moves w e [] ({ w with shut, closed }.setShutter task now)

variable {w : Wire} {writer task : Nat} {before after g : Writing} {es : List Event} {e : Event}
  {turns : List (Nat × Bytes)} {left frame octets : Bytes} {f : Frame} {count limit : Nat}

theorem lookup_setWriter (hw : w.writers.lookup writer = some before) (t : Nat) :
    (w.setWriter writer after).writers.lookup t =
      if t = writer then some after else w.writers.lookup t := by
  have hmodify := lookup_modify (fun _ => after) w.writers writer t
  unfold setWriter
  dsimp only
  rw [hmodify]
  by_cases ht : t = writer
  · rw [if_pos ht, if_pos ht, ht, hw]
    rfl
  · rw [if_neg ht, if_neg ht]

theorem lookup_setShutter {was : Shutting} (hs : w.shutters.lookup task = some was)
    (now : Shutting) (t : Nat) :
    (w.setShutter task now).shutters.lookup t =
      if t = task then some now else w.shutters.lookup t := by
  have hmodify := lookup_modify (fun _ => now) w.shutters task t
  unfold setShutter
  dsimp only
  rw [hmodify]
  by_cases ht : t = task
  · rw [if_pos ht, if_pos ht, ht, hs]
    rfl
  · rw [if_neg ht, if_neg ht]

theorem moves_join (hnew : w.writers.lookup writer = none) :
    Moves w (.begin writer f) [] (w.join writer f) := by
  unfold join
  refine .joined hnew ?_
  cases hf : f.write w.limit with
  | error cause => exact Or.inl rfl
  | ok octets => exact Or.inr ⟨octets, rfl, rfl⟩

theorem moves_pass (hw : w.writers.lookup writer = some before)
    (hpass : before.Passes w.shut false after) (hevent : e = before.passing writer false) :
    Moves w e [] (w.setWriter writer after) := by
  have hmoves := Moves.passed hw hpass hevent
  rwa [Bool.or_false] at hmoves

theorem moves_shut {was now : Shutting} (hs : w.shutters.lookup task = some was)
    (hflagged : now ≠ .flagged) (hgraceful : now = .graceful → was = .flagged ∧ w.isFree) :
    Moves w e [] (w.setShutter task now) :=
  .shutMoved hs ⟨id, id, fun h => absurd h hflagged, hgraceful⟩

theorem moves_stepShut {was : Shutting} (hs : w.shutters.lookup task = some was) :
    Moves w e [] (w.stepShut task was) := by
  cases was with
  | begun =>
    dsimp only [stepShut]
    split
    · exact moves_shut hs nofun nofun
    · exact .shutMoved hs ⟨fun _ => rfl, id, fun _ => rfl, nofun⟩
  | flagged =>
    dsimp only [stepShut]
    cases hfree : w.isFree with
    | true => exact moves_shut hs nofun fun _ => ⟨rfl, hfree⟩
    | false => exact moves_shut hs nofun nofun
  | graceful => exact moves_shut hs nofun nofun
  | closing =>
    exact .shutMoved hs ⟨id, fun _ => rfl, nofun,
      nofun⟩
  | dropped | done => exact .stays e

theorem moves_dropShut {was : Shutting} (hs : w.shutters.lookup task = some was) :
    Moves w e [] (w.dropShut task was) := by
  cases was with
  | graceful =>
    dsimp only [dropShut]
    split
    · exact .stays _
    · exact moves_shut hs nofun nofun
  | begun | flagged | dropped | closing | done => exact .stays e

theorem moves_stepWriter (hw : w.writers.lookup writer = some g) :
    Moves w (.advance writer) (w.grants (.advance writer)) (w.stepWriter writer g) := by
  simp only [grants, hw]
  cases g with
  | begun frame =>
    dsimp only [stepWriter]
    cases hs : w.shut with
    | true => exact moves_pass hw (.refused frame hs) rfl
    | false => exact moves_pass hw (.queued frame) rfl
  | waiting frame =>
    dsimp only [stepWriter]
    by_cases hfree : w.isFree = true
    · rw [if_pos hfree, if_pos hfree]
      exact .granted hw hfree
    · rw [if_neg hfree, if_neg hfree]
      exact .stays _
  | holding frame =>
    dsimp only [stepWriter]
    cases hs : w.shut with
    | true => exact moves_pass hw (.turned frame hs) rfl
    | false => exact moves_pass hw (.cleared frame hs) rfl
  | failing => exact .gaveUp hw
  | putting | written | failed | refused => exact .stays _

theorem moves_put (hw : w.writers.lookup writer = some g) :
    Moves w (.put writer count) [] (w.put writer count g) := by
  cases g with
  | putting left =>
    dsimp only [Wire.put]
    by_cases hc : w.closed = true
    · rw [if_pos hc]
      exact .stays _
    · rw [if_neg hc]
      exact .put hw (Bool.not_eq_true _ ▸ hc)
  | begun | waiting | holding | failing | written | failed | refused => exact .stays _

theorem moves_flush (hw : w.writers.lookup writer = some g) :
    Moves w (.flush writer) [] (w.flush writer g) := by
  cases g with
  | putting left =>
    cases left with
    | nil => exact moves_pass hw .flushed rfl
    | cons => exact .stays _
  | begun | waiting | holding | failing | written | failed | refused => exact .stays _

theorem moves_fail (hw : w.writers.lookup writer = some g) :
    Moves w (.fail writer) [] (w.fail writer g) := by
  cases g with
  | putting left =>
    have hmoves := Moves.passed hw (.broke left) rfl
    rwa [Bool.or_true] at hmoves
  | begun | waiting | holding | failing | written | failed | refused => exact .stays _

theorem moves_withWriter {next : Writing → Wire} (h : ∀ {g}, w.writers.lookup writer = some g →
    Moves w e [] (next g)) : Moves w e [] (w.withWriter writer next) := by
  unfold withWriter
  cases hw : w.writers.lookup writer with
  | none => exact .stays e
  | some g => exact h hw

theorem moves_withShutter {next : Shutting → Wire}
    (h : ∀ {was}, w.shutters.lookup task = some was → Moves w e [] (next was)) :
    Moves w e [] (w.withShutter task next) := by
  unfold withShutter
  cases hs : w.shutters.lookup task with
  | none => exact .stays e
  | some was => exact h hs

theorem moves_step (w : Wire) (e : Event) : Moves w e (w.grants e) (w.step e) := by
  cases e with
  | begin writer f =>
    cases hw : w.writers.lookup writer with
    | some g => simpa [step, grants, hw] using Moves.stays _
    | none => simpa [step, grants, hw] using moves_join hw
  | advance writer =>
    cases hw : w.writers.lookup writer with
    | none => simpa [step, withWriter, grants, hw] using Moves.stays _
    | some g => simpa [step, withWriter, hw] using moves_stepWriter hw
  | put writer count => exact moves_withWriter moves_put
  | flush writer => exact moves_withWriter moves_flush
  | fail writer => exact moves_withWriter moves_fail
  | beginShut task =>
    simp only [step, beginShut, grants]
    cases hs : w.shutters.lookup task with
    | some g => exact .stays _
    | none => exact .shutBegun hs
  | shut task => exact moves_withShutter moves_stepShut
  | drop task => exact moves_withShutter moves_dropShut

/-! ## The permit and the flag -/

/-- A shutdown that goes on has raised the flag, and one that closes gracefully has the permit. -/
structure Guarded (w : Wire) : Prop where
  flagged : ∀ task, w.shutters.lookup task = some .flagged → w.shut
  graceful : ∀ task, w.shutters.lookup task = some .graceful →
    w.shut ∧ ∀ writer g, w.writers.lookup writer = some g → g.holds = false

theorem holds_of_isFree (h : w.isFree) (hw : w.writers.lookup writer = some g) :
    g.holds = false := by
  unfold isFree at h
  rw [Bool.and_eq_true, List.all_eq_true] at h
  simpa using h.1 _ (mem_of_lookup hw)

theorem ne_graceful_of_isFree {was : Shutting} (h : w.isFree)
    (hs : w.shutters.lookup task = some was) : was ≠ .graceful := by
  unfold isFree at h
  rw [Bool.and_eq_true, List.all_eq_true, List.all_eq_true] at h
  simpa using h.2 _ (mem_of_lookup hs)

/-- Writers that come to hold nothing new leave the shutdowns as they are. -/
theorem Guarded.of_writers {w' : Wire} (h : Guarded w) (hshut : w'.shut = w.shut)
    (hs : w'.shutters = w.shutters)
    (hw : ∀ writer g, w'.writers.lookup writer = some g → g.holds →
      ∃ writer' g', w.writers.lookup writer' = some g' ∧ g'.holds) : Guarded w' where
  flagged task ht := by
    rw [hs] at ht
    exact hshut ▸ h.flagged task ht
  graceful task ht := by
    rw [hs] at ht
    obtain ⟨hflag, hnone⟩ := h.graceful task ht
    refine ⟨hshut ▸ hflag, fun writer g hg => ?_⟩
    by_contra hholds
    obtain ⟨writer', g', hw', hg'⟩ := hw writer g hg (Bool.not_eq_false _ ▸ hholds)
    rw [hnone writer' g' hw'] at hg'
    cases hg'

theorem Guarded.setWriter (h : Guarded w) (hw : w.writers.lookup writer = some before)
    (hholds : after.holds → before.holds) : Guarded (w.setWriter writer after) := by
  refine h.of_writers rfl rfl fun t g hg hgh => ?_
  rw [lookup_setWriter hw] at hg
  split at hg
  · cases hg
    exact ⟨writer, before, hw, hholds hgh⟩
  · exact ⟨t, g, hg, hgh⟩

theorem Guarded.shutBegun (h : Guarded w) (task : Nat) :
    Guarded { w with shutters := w.shutters ++ [(task, .begun)] } := by
  have hold : ∀ t now, (w.shutters ++ [(task, Shutting.begun)]).lookup t = some now →
      now ≠ .begun → w.shutters.lookup t = some now := by
    intro t now ht hnow
    rw [lookup_concat] at ht
    cases hs : w.shutters.lookup t with
    | some was => simpa [hs] using ht
    | none =>
      rw [hs] at ht
      split at ht <;> cases ht
      exact absurd rfl hnow
  exact ⟨fun t ht => h.flagged t (hold t _ ht nofun), fun t ht => h.graceful t (hold t _ ht nofun)⟩

theorem Guarded.beginShut (h : Guarded w) (task : Nat) : Guarded (w.beginShut task) := by
  unfold Wire.beginShut
  split
  · exact h
  · exact h.shutBegun task

theorem Guarded.step {w' : Wire} (h : Guarded w) (hmoves : Moves w e turns w') : Guarded w' := by
  cases hmoves with
  | stays => exact h
  | @joined writer f g hnew hg =>
    refine h.of_writers rfl rfl fun t g' hg' hgh => ?_
    rw [lookup_concat] at hg'
    cases ht : w.writers.lookup t with
    | some was =>
      rw [ht] at hg'
      cases hg'
      exact ⟨t, _, ht, hgh⟩
    | none =>
      rw [ht] at hg'
      split at hg' <;> cases hg'
      obtain rfl | ⟨octets, -, rfl⟩ := hg <;> cases hgh
  | passed hw hpass =>
    exact Guarded.setWriter (h.of_writers rfl rfl fun t g hg hh => ⟨t, g, hg, hh⟩) hw hpass.holds
  | gaveUp hw =>
    have hpass : Writing.Passes w.shut false .failing .failed := .gaveUp
    exact (h.setWriter hw hpass.holds).beginShut _
  | @granted writer frame hw hfree =>
    refine ⟨h.flagged, fun t ht => absurd rfl (ne_graceful_of_isFree hfree ht)⟩
  | put hw hopen =>
    exact Guarded.setWriter (h.of_writers rfl rfl fun t g hg hh => ⟨t, g, hg, hh⟩) hw fun _ => rfl
  | shutBegun hnew => exact h.shutBegun _
  | @shutMoved e task was now shut closed hs hshuts =>
    have hlookup := lookup_setShutter (w := { w with shut, closed }) hs now
    constructor
    · intro t ht
      rw [hlookup] at ht
      split at ht
      · cases ht
        exact hshuts.flagged rfl
      · exact hshuts.stillShut (h.flagged t ht)
    · intro t ht
      rw [hlookup] at ht
      split at ht
      · cases ht
        obtain ⟨rfl, hfree⟩ := hshuts.graceful rfl
        exact ⟨hshuts.stillShut (h.flagged _ hs), fun writer g hg => holds_of_isFree hfree hg⟩
      · obtain ⟨hflag, hnone⟩ := h.graceful t ht
        exact ⟨hshuts.stillShut hflag, hnone⟩

theorem guarded_run (limit : Nat) (es : List Event) : Guarded (run (new limit) es) := by
  have hall : ∀ (es : List Event) (w : Wire), Guarded w → Guarded (w.run es) := by
    intro es
    induction es with
    | nil => exact fun _ h => h
    | cons e es ih => exact fun w h => ih _ (h.step (moves_step w e))
  exact hall es _ ⟨nofun, nofun⟩

/-! ## After the closing -/

/-- Nothing can be put on the wire any more. -/
def Sealed (w : Wire) : Prop :=
  w.closed ∨ w.shut ∧ ∀ writer left, w.writers.lookup writer ≠ some (.putting left)

/-- A shutdown closes the stream or has closed it. -/
def Closes (w : Wire) : Prop := w.closed ∨ ∃ task, w.shutters.lookup task = some .graceful

theorem Guarded.sealed (h : Guarded w) (hcloses : w.Closes) : w.Sealed := by
  rcases hcloses with hclosed | ⟨task, ht⟩
  · exact Or.inl hclosed
  · obtain ⟨hflag, hnone⟩ := h.graceful task ht
    refine Or.inr ⟨hflag, fun writer left hw => ?_⟩
    have hholds := hnone writer _ hw
    cases hholds

theorem Sealed.setWriter (h : Sealed w) (hw : w.writers.lookup writer = some before)
    (hputting : w.shut → ∀ left, after ≠ .putting left) : Sealed (w.setWriter writer after) := by
  refine h.imp id fun ⟨hflag, hnone⟩ => ⟨hflag, fun t left ht => ?_⟩
  rw [lookup_setWriter hw] at ht
  split at ht
  · cases ht
    exact hputting hflag left rfl
  · exact hnone t left ht

theorem Sealed.step {w' : Wire} (h : Sealed w) (hmoves : Moves w e turns w') :
    Sealed w' ∧ w'.bytes = w.bytes := by
  cases hmoves with
  | stays => exact ⟨h, rfl⟩
  | @joined writer f g hnew hg =>
    refine ⟨h.imp id fun ⟨hflag, hnone⟩ => ⟨hflag, fun t left ht => ?_⟩, rfl⟩
    rw [lookup_concat] at ht
    cases hw : w.writers.lookup t with
    | some was =>
      rw [hw] at ht
      cases ht
      exact hnone t left hw
    | none =>
      rw [hw] at ht
      split at ht <;> cases ht
      obtain hrefused | ⟨octets, -, hbegun⟩ := hg <;> contradiction
  | @passed e writer before after fails hw hpass =>
    refine ⟨Sealed.setWriter (w := { w with broken := _ }) h hw fun hflag left hafter => ?_, rfl⟩
    subst hafter
    rw [(hpass.cleared_of_putting).1] at hflag
    cases hflag
  | gaveUp hw =>
    have hseals : (w.setWriter _ .failed).Sealed := h.setWriter hw fun _ => nofun
    unfold beginShut
    split <;> exact ⟨hseals, rfl⟩
  | granted hw hfree => exact ⟨h.setWriter hw fun _ => nofun, rfl⟩
  | put hw hopen =>
    rcases h with hclosed | ⟨-, hnone⟩
    · rw [hopen] at hclosed
      cases hclosed
    · exact absurd hw (hnone _ _)
  | shutBegun => exact ⟨h, rfl⟩
  | shutMoved hs hshuts =>
    exact ⟨h.imp hshuts.stillClosed fun ⟨hflag, hnone⟩ => ⟨hshuts.stillShut hflag, hnone⟩, rfl⟩

theorem Sealed.run (h : Sealed w) (es : List Event) : (w.run es).bytes = w.bytes := by
  induction es generalizing w with
  | nil => rfl
  | cons e es ih =>
    obtain ⟨hnext, hbytes⟩ := h.step (moves_step w e)
    exact (ih hnext).trans hbytes

end Wire

end Rpc.Stream
