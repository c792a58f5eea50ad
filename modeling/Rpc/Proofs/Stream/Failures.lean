import Rpc.Proofs.Stream.Turns

/-! # After a failed write

A writer whose write fails gives the permit back, and only then shuts the stream. Whoever gets the
permit in between finds the stream open and puts its frame behind the one that was cut. Nobody else
can put anything: a writer that was let through before the failure would have had the permit.
-/
namespace Rpc.Stream.Wire

/-- A writer is at the socket, with octets left to put or only to flush. -/
def Puts (w : Wire) (writer : Nat) : Prop := ∃ left, w.writers.lookup writer = some (.putting left)

/-- Once the write of a frame has failed, no octet of any other frame is put on the wire. -/
def NothingFollows (limit : Nat) (es : List Event) : Prop :=
  ∀ front writer back, es = front ++ .fail writer :: back → (run (new limit) front).Puts writer →
    ∀ other, other ≠ writer → (run (new limit) es).out other = (run (new limit) front).out other

/-- Who finds the stream open, at its second look, although a write has failed. -/
def overtakes (w : Wire) : Event → List Nat
  | .advance writer =>
    match w.writers.lookup writer with
    | some (.holding _) => if w.broken && !w.shut then [writer] else []
    | _ => []
  | _ => []

def latecomers (limit : Nat) (es : List Event) : List Nat := notes step overtakes (new limit) es

variable {w w' : Wire} {e : Event} {t other limit : Nat} {es more : List Event}
  {left octets : Bytes} {g : Writing} {turns : List (Nat × Bytes)} {was now : Option Writing}

/-! ## One writer -/

/-- How a writer fares in an event, and the octets that it puts. -/
inductive Goes (w : Wire) (t : Nat) : Event → Option Writing → Option Writing → Bytes → Prop
  | stays (e : Event) (g : Option Writing) : Goes w t e g g []
  | joins {f : Frame} {g : Writing} (hg : g = .refused ∨ ∃ octets, g = .begun octets) :
      Goes w t (.begin t f) none (some g) []
  | passes {e : Event} {before after : Writing} {fails : Bool}
      (hpass : before.Passes w.shut fails after) (hevent : e = before.passing t fails) :
      Goes w t e (some before) (some after) []
  | granted {frame : Bytes} (hfree : w.isFree) :
      Goes w t (.advance t) (some (.waiting frame)) (some (.holding frame)) []
  | puts {left : Bytes} (count : Nat) :
      Goes w t (.put t count) (some (.putting left)) (some (.putting (left.drop count)))
        (left.take count)

theorem goes_setWriter {v : Wire} {writer : Nat} {before after : Writing}
    (hv : v.writers = w.writers) (hw : w.writers.lookup writer = some before)
    (hgoes : Goes w writer e (some before) (some after) []) :
    Goes w t e (w.writers.lookup t) ((v.setWriter writer after).writers.lookup t) [] := by
  rw [← hv] at hw ⊢
  rw [lookup_setWriter hw]
  by_cases ht : t = writer
  · rwa [if_pos ht, ht, hw]
  · rw [if_neg ht]
    exact .stays e _

theorem Moves.goes (h : Moves w e turns w') (t : Nat) :
    ∃ octets, Goes w t e (w.writers.lookup t) (w'.writers.lookup t) octets ∧
      w'.out t = w.out t ++ octets := by
  have hquiet : w'.out t = w.out t → Goes w t e (w.writers.lookup t) (w'.writers.lookup t) [] →
      ∃ octets, Goes w t e (w.writers.lookup t) (w'.writers.lookup t) octets ∧
        w'.out t = w.out t ++ octets :=
    fun hout hgoes => ⟨[], hgoes, hout.trans (List.append_nil _).symm⟩
  cases h with
  | stays => exact hquiet rfl (.stays e _)
  | @joined writer f g hnew hg =>
    refine hquiet rfl ?_
    rw [lookup_concat]
    by_cases ht : t = writer
    · subst ht
      rw [hnew, if_pos rfl]
      exact .joins (hg.imp id fun ⟨octets, _, hbegun⟩ => ⟨octets, hbegun⟩)
    · rw [if_neg ht, Option.or_none]
      exact .stays _ _
  | passed hw hpass hevent => exact hquiet rfl (goes_setWriter rfl hw (.passes hpass hevent))
  | @gaveUp writer hw =>
    have hgoes : Goes w t (.advance writer) (w.writers.lookup t)
        ((w.setWriter writer .failed).writers.lookup t) [] :=
      goes_setWriter rfl hw (.passes .gaveUp rfl)
    unfold beginShut
    split <;> exact ⟨[], hgoes, (List.append_nil _).symm⟩
  | granted hw hfree => exact hquiet rfl (goes_setWriter rfl hw (.granted hfree))
  | @put writer count left hw hopen =>
    rw [lookup_setWriter (w := { w with pieces := (writer, left.take count) :: w.pieces }) hw]
    by_cases ht : t = writer
    · subst ht
      rw [if_pos rfl, hw]
      exact ⟨left.take count, .puts count, by simp [out, setWriter]⟩
    · rw [if_neg ht]
      exact ⟨[], .stays _ _, by simp [out, setWriter, Ne.symm ht]⟩
  | shutBegun | shutMoved => exact hquiet rfl (.stays _ _)

theorem goes_step (w : Wire) (e : Event) (t : Nat) :
    ∃ octets, Goes w t e (w.writers.lookup t) ((w.step e).writers.lookup t) octets ∧
      (w.step e).out t = w.out t ++ octets :=
  (moves_step w e).goes t

/-- A writer has yet to be let through, or to join. -/
def Unheard (w : Wire) (t : Nat) : Prop := ∀ g, w.writers.lookup t = some g → g.frame? ≠ none

theorem Unheard.of_step (h : (w.step e).Unheard t) : w.Unheard t := by
  unfold Unheard at h ⊢
  obtain ⟨octets, hgoes, -⟩ := goes_step w e t
  generalize w.writers.lookup t = was, (w.step e).writers.lookup t = now at h hgoes
  intro g hg
  cases hgoes with
  | stays => exact h g hg
  | joins => cases hg
  | @passes _ _ after _ hpass =>
    cases hg
    obtain ⟨frame, hframe⟩ := Option.ne_none_iff_exists'.mp (h after rfl)
    rw [hpass.pending hframe]
    exact Option.some_ne_none frame
  | granted =>
    cases hg
    exact Option.some_ne_none _
  | puts => exact absurd rfl (h _ rfl)

theorem run_append (w : Wire) (es more : List Event) : w.run (es ++ more) = (w.run es).run more :=
  List.foldl_append

theorem Unheard.of_run (h : ((w.run es).run more).Unheard t) : (w.run es).Unheard t := by
  induction more using List.reverseRecOn with
  | nil => exact h
  | append_singleton more e ih =>
    rw [run_concat] at h
    exact ih h.of_step

theorem out_eq_nil_of_unheard (h : (run (new limit) es).Unheard t) :
    (run (new limit) es).out t = [] := by
  induction es using List.reverseRecOn with
  | nil => rfl
  | append_singleton es e ih =>
    rw [run_concat] at h ⊢
    obtain ⟨octets, hgoes, hout⟩ := goes_step (run (new limit) es) e t
    rw [hout, ih h.of_step, List.nil_append]
    unfold Unheard at h
    generalize (run (new limit) es).writers.lookup t = was,
      ((run (new limit) es).step e).writers.lookup t = now at h hgoes
    cases hgoes with
    | stays | joins | passes | granted => rfl
    | puts => exact absurd rfl (h _ rfl)

theorem puts_of_out_ne (h : (w.step e).out t ≠ w.out t) : w.Puts t := by
  obtain ⟨octets, hgoes, hout⟩ := goes_step w e t
  unfold Puts
  generalize w.writers.lookup t = was, (w.step e).writers.lookup t = now at hgoes
  cases hgoes with
  | @puts left => exact ⟨left, rfl⟩
  | stays | joins | passes | granted => exact absurd (hout.trans (List.append_nil _)) h

theorem out_prefix_run (w : Wire) (es : List Event) (t : Nat) : w.out t <+: (w.run es).out t := by
  induction es using List.reverseRecOn with
  | nil => exact List.prefix_rfl
  | append_singleton es e ih =>
    rw [run_concat]
    obtain ⟨octets, -, hout⟩ := goes_step (w.run es) e t
    exact ih.trans ⟨octets, hout.symm⟩

/-! ## The permit -/

/-- No two writers have the permit. -/
def Exclusive (w : Wire) : Prop := ∀ t t' g g', w.writers.lookup t = some g → g.holds →
  w.writers.lookup t' = some g' → g'.holds → t' = t

/-- Whoever has the permit had it before, or it was free and this was its event. -/
theorem Goes.of_holds (h : Goes w t e was (some g) octets) (hg : g.holds) :
    (∃ before, was = some before ∧ before.holds) ∨ e = .advance t ∧ w.isFree := by
  cases h with
  | stays => exact Or.inl ⟨g, rfl, hg⟩
  | joins hjoins =>
    obtain rfl | ⟨octets, rfl⟩ := hjoins <;> cases hg
  | passes hpass => exact Or.inl ⟨_, rfl, hpass.holds hg⟩
  | granted hfree => exact Or.inr ⟨rfl, hfree⟩
  | puts => exact Or.inl ⟨_, rfl, rfl⟩

theorem Exclusive.step (h : w.Exclusive) (e : Event) : (w.step e).Exclusive := by
  intro t t' g g' ht hg ht' hg'
  obtain ⟨octets, hgoes, -⟩ := goes_step w e t
  obtain ⟨octets', hgoes', -⟩ := goes_step w e t'
  rw [ht] at hgoes
  rw [ht'] at hgoes'
  rcases hgoes.of_holds hg with ⟨before, hw, hholds⟩ | ⟨rfl, hfree⟩
  · rcases hgoes'.of_holds hg' with ⟨before', hw', hholds'⟩ | ⟨-, hfree⟩
    · exact h t t' before before' hw hholds hw' hholds'
    · rw [holds_of_isFree hfree hw] at hholds
      cases hholds
  · rcases hgoes'.of_holds hg' with ⟨before', hw', hholds'⟩ | ⟨hevent, -⟩
    · rw [holds_of_isFree hfree hw'] at hholds'
      cases hholds'
    · cases hevent
      rfl

theorem exclusive_run (limit : Nat) (es : List Event) : (run (new limit) es).Exclusive := by
  induction es using List.reverseRecOn with
  | nil => nofun
  | append_singleton es e ih =>
    rw [run_concat]
    exact ih.step e

/-! ## The failure -/

theorem broken_of_step (h : (w.step e).broken) :
    w.broken ∨ ∃ writer, e = .fail writer ∧ w.Puts writer := by
  have hmoves := moves_step w e
  generalize w.grants e = turns, w.step e = w' at h hmoves
  cases hmoves with
  | @passed e writer before after fails hw hpass hevent =>
    cases hpass with
    | broke left => exact Or.inr ⟨writer, hevent, left, hw⟩
    | _ => exact Or.inl ((Bool.or_false w.broken).symm.trans h)
  | gaveUp =>
    unfold beginShut at h
    split at h <;> exact Or.inl h
  | _ => exact Or.inl h

theorem broken_step (h : w.broken) (e : Event) : (w.step e).broken := by
  have hmoves := moves_step w e
  generalize w.grants e = turns, w.step e = w' at hmoves ⊢
  cases hmoves with
  | passed => exact (congrArg (· || _) h).trans (Bool.true_or _)
  | gaveUp =>
    unfold beginShut
    split <;> exact h
  | _ => exact h

theorem broken_run (h : w.broken) (es : List Event) : (w.run es).broken := by
  induction es using List.reverseRecOn with
  | nil => exact h
  | append_singleton es e ih =>
    rw [run_concat]
    exact broken_step ih e

theorem step_fail (hw : w.writers.lookup t = some (.putting left)) :
    w.step (.fail t) = { w with broken := true }.setWriter t .failing := by
  simp only [step, withWriter, hw]
  rfl

theorem exists_failure (h : (run (new limit) es).broken) : ∃ front writer back,
    es = front ++ .fail writer :: back ∧ (run (new limit) front).Puts writer := by
  induction es using List.reverseRecOn with
  | nil => cases h
  | append_singleton es e ih =>
    rw [run_concat] at h
    rcases broken_of_step h with hbroken | ⟨writer, rfl, hputs⟩
    · obtain ⟨front, writer, back, rfl, hputs⟩ := ih hbroken
      exact ⟨front, writer, back ++ [e], by simp, hputs⟩
    · exact ⟨es, writer, [], rfl, hputs⟩

theorem latecomers_concat (es : List Event) (e : Event) : latecomers limit (es ++ [e]) =
    latecomers limit es ++ overtakes (run (new limit) es) e := notes_concat es e

/-- Whoever puts after a failure has been let through after it. -/
theorem mem_latecomers_of_putting (hbroken : (run (new limit) es).broken)
    (hw : (run (new limit) es).writers.lookup t = some (.putting left)) :
    t ∈ latecomers limit es := by
  induction es using List.reverseRecOn generalizing left with
  | nil => cases hw
  | append_singleton es e ih =>
    have hexclusive := exclusive_run limit es
    rw [run_concat] at hbroken hw
    rw [latecomers_concat]
    generalize run (new limit) es = w at hbroken hw ih hexclusive ⊢
    -- it was at the socket before, so the write that fails can only be its own
    have hbefore : ∀ left', w.writers.lookup t = some (.putting left') →
        t ∈ latecomers limit es ++ overtakes w e := by
      intro left' ht
      rcases broken_of_step hbroken with hbroken | ⟨writer, rfl, left'', hwriter⟩
      · exact List.mem_append_left _ (ih hbroken ht)
      · cases hexclusive writer t _ _ hwriter rfl ht rfl
        rw [step_fail hwriter, lookup_setWriter (w := { w with broken := true }) hwriter,
          if_pos rfl] at hw
        cases hw
    obtain ⟨octets, hgoes, -⟩ := goes_step w e t
    rw [hw] at hgoes
    generalize ht : w.writers.lookup t = was at hgoes
    cases hgoes with
    | stays => exact hbefore left ht
    | puts count => exact hbefore _ ht
    | joins hjoins => obtain h | ⟨_, h⟩ := hjoins <;> cases h
    | passes hpass hevent =>
      obtain ⟨hopen, rfl⟩ := hpass.cleared_of_putting
      cases hevent
      have hfailed : w.broken := (broken_of_step hbroken).resolve_right nofun
      refine List.mem_append_right _ ?_
      simp [overtakes, Writing.passing, ht, hfailed, hopen]

/-- Nobody else puts anything after a failure than those who are let through after it. -/
theorem out_of_not_mem_latecomers (hbroken : (run (new limit) es).broken)
    (hlate : t ∉ latecomers limit (es ++ more)) :
    (run (new limit) (es ++ more)).out t = (run (new limit) es).out t := by
  induction more using List.reverseRecOn with
  | nil => rw [List.append_nil]
  | append_singleton more e ih =>
    rw [← List.append_assoc, latecomers_concat, List.mem_append, not_or] at hlate
    have hfailed : (run (new limit) (es ++ more)).broken :=
      run_append (new limit) es more ▸ broken_run hbroken more
    rw [← List.append_assoc, run_concat]
    refine Eq.trans ?_ (ih hlate.1)
    by_contra hputs
    obtain ⟨left, hw⟩ := puts_of_out_ne hputs
    exact hlate.1 (mem_latecomers_of_putting hfailed hw)

/-- A writer that is let through after a failure had been waiting since before it. -/
theorem exists_failure_of_latecomer (h : t ∈ latecomers limit es) : ∃ front writer back,
    es = front ++ .fail writer :: back ∧ (run (new limit) front).Puts writer ∧ t ≠ writer ∧
      (run (new limit) front).out t = [] := by
  obtain ⟨front', e, back', rfl, hmem⟩ := mem_notes_iff.mp h
  change t ∈ (run (new limit) front').overtakes e at hmem
  unfold overtakes at hmem
  split at hmem
  · split at hmem
    · rename_i writer' frame hw
      split at hmem
      · rename_i hflags
        cases List.mem_singleton.mp hmem
        have hunheard : (run (new limit) front').Unheard t := by
          intro g hg
          cases hw.symm.trans hg
          exact Option.some_ne_none frame
        obtain ⟨front, writer, back, rfl, left, hputs⟩ :=
          exists_failure (Bool.and_eq_true_iff.mp hflags).1
        rw [run_append] at hunheard
        have hbefore := hunheard.of_run
        refine ⟨front, writer, back ++ .advance t :: back', by simp, ⟨left, hputs⟩, ?_,
          out_eq_nil_of_unheard hbefore⟩
        rintro rfl
        exact hbefore _ hputs rfl
      · cases hmem
    · cases hmem
  · cases hmem

/-- Latecomers that put nothing leave the frames in their turns. -/
theorem orderly_of_silent
    (h : ∀ writer ∈ latecomers limit es, (run (new limit) es).out writer = []) :
    Orderly limit es (run (new limit) es) (granted limit es) := by
  induction es using List.reverseRecOn with
  | nil => exact orderly_run trivial
  | append_singleton es e ih =>
    have hsilent : ∀ writer ∈ latecomers limit es, (run (new limit) es).out writer = [] := by
      intro writer hwriter
      have hnow := h writer (latecomers_concat es e ▸ List.mem_append_left _ hwriter)
      have hprefix := out_prefix_run (run (new limit) es) [e] writer
      rw [← run_append, hnow] at hprefix
      exact List.prefix_nil.mp hprefix
    have hput : ∀ writer count left, e = .put writer count →
        (run (new limit) es).writers.lookup writer = some (.putting left) →
        (run (new limit) es).closed = false → left.take count ≠ [] →
        (run (new limit) es).broken = false := by
      rintro writer count left rfl hw hopen hsome
      by_contra hbroken
      have hlate := mem_latecomers_of_putting (Bool.not_eq_false _ ▸ hbroken) hw
      have hout := h writer (latecomers_concat es _ ▸ List.mem_append_left _ hlate)
      rw [run_concat] at hout
      simp [step, withWriter, hw, put, hopen, out, setWriter, hsome] at hout
    rw [run_concat, granted, notes_concat]
    exact orderly_step (ih hsilent) (moves_step _ e) hput

/-- After a failed write nothing of any other frame is put exactly if nobody puts anything who was
let through between the giving back of the permit and the raising of the flag. Then the frames on
the wire are whole, one after the other, up to the one that was cut. -/
theorem nothing_follows_iff (limit : Nat) (es : List Event) :
    (NothingFollows limit es ↔
      ∀ writer ∈ latecomers limit es, (run (new limit) es).out writer = []) ∧
    (NothingFollows limit es → InTurns limit es) := by
  have hiff : NothingFollows limit es ↔
      ∀ writer ∈ latecomers limit es, (run (new limit) es).out writer = [] := by
    constructor
    · intro h t ht
      obtain ⟨front, writer, back, hes, hputs, hne, hout⟩ := exists_failure_of_latecomer ht
      exact (h front writer back hes hputs t hne).trans hout
    · rintro h front writer back rfl ⟨left, hputs⟩ other hne
      by_cases hlate : other ∈ latecomers limit (front ++ .fail writer :: back)
      · have hprefix := out_prefix_run (run (new limit) front) (.fail writer :: back) other
        rw [← run_append, h other hlate] at hprefix
        rw [h other hlate, List.prefix_nil.mp hprefix]
      · have hbroken : (run (new limit) (front ++ [.fail writer])).broken := by
          rw [run_concat, step_fail hputs]
          rfl
        rw [List.append_cons] at hlate ⊢
        rw [out_of_not_mem_latecomers hbroken hlate, run_concat, step_fail hputs]
        rfl
  exact ⟨hiff, fun h => (orderly_of_silent (hiff.mp h)).inTurns⟩

def reply (octets : Bytes) : Frame := .message 2 .response none none octets

/-- A write fails inside its frame while another writer waits. This one gets the permit and looks at
the flag before the first has come to raising it. -/
def overtakingRun : List Event :=
  [.begin 0 (reply [7]), .begin 1 (reply [8, 9]), .advance 0, .advance 0, .advance 0, .advance 1,
    .put 0 5, .fail 0, .advance 1, .advance 1, .put 1 100, .flush 1, .advance 0, .shut 0]

/-- What a reader finds is a part of one frame, and then another frame. -/
theorem overtakingRun_followed :
    (run (new 100) overtakingRun).bytes = (reply [7]).bytes.take 5 ++ (reply [8, 9]).bytes ∧
    ¬ NothingFollows 100 overtakingRun := by
  refine ⟨by decide +kernel, fun h => ?_⟩
  have hputs : (run (new 100) (overtakingRun.take 7)).Puts 0 :=
    ⟨(reply [7]).bytes.drop 5, by decide +kernel⟩
  have hsame := h (overtakingRun.take 7) 0 (overtakingRun.drop 8) rfl hputs 1 (by decide)
  revert hsame
  decide +kernel

/-- The other writer finds the stream open here, too, but the socket is closed before it puts
anything, and a third writer finds the flag up. -/
def closedInTime : List Event :=
  [.begin 0 (reply [7]), .begin 1 (reply [8, 9]), .begin 2 (reply []), .advance 0, .advance 0,
    .advance 0, .advance 1, .put 0 5, .fail 0, .advance 1, .advance 1, .advance 0, .shut 0,
    .advance 2, .shut 0, .shut 0, .put 1 100, .fail 1]

theorem closedInTime_inTurns : latecomers 100 closedInTime = [1] ∧
    NothingFollows 100 closedInTime ∧ InTurns 100 closedInTime := by
  obtain ⟨hiff, hturns⟩ := nothing_follows_iff 100 closedInTime
  have hnothing : NothingFollows 100 closedInTime := hiff.mpr (by decide +kernel)
  exact ⟨by decide +kernel, hnothing, hturns hnothing⟩

end Rpc.Stream.Wire
