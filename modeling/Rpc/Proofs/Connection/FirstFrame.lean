import Rpc.Proofs.Connection.Introduction
import Rpc.Proofs.Connection.Reception
import Rpc.Proofs.Connection.Sequence

/-! # What a client makes of its first frame

The first frame that a client finds decides how its start ends, and a stream that holds no whole
frame decides it too. The octets alone matter, not the chunks in which they come: what is behind the
greeting of the server may have come with it, and the receive loop takes it in all the same, once
and in order.
-/
namespace Rpc

open Message

/-- How a start ends with this frame. -/
def Frame.welcome (f : Frame) : Except TransportError Unit :=
  if f.kind = .control then
    match frameNotice f with
    | .ok (.hello version) =>
      if version = Notice.protocolVersion then .ok ()
      else .error (.protocol (strangeVersion version))
    | .ok (.violation _ details) => .error (.protocol details)
    | .ok .close => .error .connectionClosed
    | .error e => .error (.protocol e.message)
  else .error (.protocol (expectedGreeting f.kind))

/-- How the start of a client ends whose peer sends some octets and then closes its end. -/
def welcome (limit : Nat) (b : Bytes) : Except TransportError Unit :=
  match Frame.read limit b with
  | .frame f _ => f.welcome
  | .refused e _ | .stuck e => .error (.protocol e.message)
  | .incomplete => if b.isEmpty then .error .connectionClosed else .error (.io .cutFrame)

def Incoming.welcome : Incoming → Except TransportError Unit
  | .frame f => f.welcome
  | .malformed e => .error (.protocol e.message)
  | .broken fault => .error (.io fault)
  | .ended => .error .connectionClosed

/-! ## Reading the first frame -/

section Reading

variable {limit : Nat} {b : Bytes} {f : Frame}

theorem Frame.welcome_eq_ok_iff :
    f.welcome = .ok () ↔ f.kind = .control ∧ frameNotice f = .ok .greeting := by
  unfold welcome
  split
  · rename_i hk
    cases frameNotice f with
    | error e => simp
    | ok notice =>
      cases notice with
      | hello version =>
        by_cases hv : version = Notice.protocolVersion <;> simp [hv, hk, Notice.greeting]
      | violation code details => simp [Notice.greeting]
      | close => simp [Notice.greeting]
  · rename_i hk
    simp [hk]

/-- A start succeeds exactly if the first frame decodes, is a control frame, and greets in the
supported version. -/
theorem welcome_eq_ok_iff : welcome limit b = .ok () ↔
    ∃ f rest, Frame.read limit b = .frame f rest ∧ f.kind = .control ∧
      frameNotice f = .ok .greeting := by
  unfold welcome
  cases Frame.read limit b with
  | frame f rest => simp [Frame.welcome_eq_ok_iff]
  | refused e rest => simp
  | stuck e => simp
  | incomplete => by_cases hb : b.isEmpty <;> simp [hb]

theorem expectGreeting_eq (hf : f.WellFormed) : expectGreeting f = f.welcome := by
  unfold expectGreeting Frame.welcome
  by_cases hk : f.kind = .control
  · obtain ⟨content, hcontent⟩ : ∃ content, f.content? .control = some content := by
      unfold Frame.WellFormed at hf
      rw [hk] at hf
      have hroles : f.roles = [.control] := List.mem_singleton.mp hf
      obtain ⟨part, hparts, hrole⟩ := List.map_eq_singleton_iff.mp hroles
      exact ⟨part.content, by simp [Frame.content?, hparts, hrole]⟩
    have hnotice : frameNotice f = Notice.ofBytes content := by rw [frameNotice, hcontent]
    simp only [if_pos hk, hcontent, hnotice]
    cases Notice.ofBytes content with
    | error e => rfl
    | ok notice => cases notice <;> rfl
  · rw [if_neg hk, if_neg hk]

theorem wellFormed_of_read {rest : Bytes} (h : Frame.read limit b = .frame f rest) :
    f.WellFormed := by
  obtain ⟨code, hwrite, -⟩ := Frame.read_eq_frame_iff.mp h
  exact (Frame.write_eq_ok_iff.mp hwrite).1

end Reading

theorem welcome_of_leads {limit : Nat} {octets rest : Bytes} {piece : Incoming}
    (h : piece.Leads limit octets rest) : welcome limit octets = piece.welcome := by
  unfold welcome
  cases piece with
  | frame f =>
    rw [show Frame.read limit octets = .frame f rest from h]
    rfl
  | malformed e =>
    rcases h with hrefused | hstuck
    · rw [hrefused]
      rfl
    · rw [hstuck]
      rfl
  | broken fault =>
    obtain ⟨rfl, hread, hne⟩ := h
    rw [hread]
    exact if_neg fun hempty => hne (List.isEmpty_iff.mp hempty)
  | ended =>
    obtain ⟨hread, rfl⟩ := h
    rw [hread]
    rfl

/-! ## The piece that is found first -/

namespace Connection

variable {σ : Type} {p : Profile σ} {c : Connection σ}

/-- A client that has heard nothing waits for the first piece. -/
theorem Ungreeted.greeted {post : Post} (h : c.Ungreeted post) (hready : c.loop.isReady = true) :
    c.Untouched ∧ c.loop = .greeted ∧ c.phase = .connecting ∧ c.writers = [] := by
  cases h with
  | unwritten hu hloop hphase hw => simp [hloop, Loop.isReady] at hready
  | waiting w hu hloop hphase hw => simp [hloop, Loop.isReady] at hready
  | written hpost hu hloop hphase hw => exact ⟨hu, hloop, hphase, hw⟩

theorem failHandshake_stands (hphase : c.phase = .connecting) (hwriters : c.writers = [])
    (e : TransportError) : (c.failHandshake e).1.Stands .ended := by
  have hover : ¬ c.phase.isOver = true := by
    rw [hphase]
    decide
  unfold failHandshake leave teardown
  rw [if_neg hover]
  exact ⟨rfl, rfl, rfl, by simp [loopWriters, deliver, hwriters]⟩

/-- The first piece ends the start of a client that lacks no certificate; a greeting lets it read
on, and all else closes the connection. -/
theorem Ungreeted.welcomed {post : Post} (h : c.Ungreeted post) (hready : c.loop.isReady = true)
    (hcert : p.certificateMissing = false) {piece : Incoming} {octets rest : Bytes}
    (hleads : piece.Leads p.limit octets rest) :
    (c.arrive p piece).2.filterMap Output.started? = [piece.welcome] ∧
      (piece.welcome = .ok () → (c.arrive p piece).1.Stands .reading) ∧
      ∀ e, piece.welcome = .error e → (c.arrive p piece).1.Stands .ended := by
  obtain ⟨hu, hloop, hphase, hwriters⟩ := h.greeted hready
  have hfails : ∀ e, (c.failHandshake e).2.filterMap Output.started? = [.error e] ∧
      (c.failHandshake e).1.Stands .ended := fun e =>
    ⟨(failHandshake_settles hphase e).2.2, failHandshake_stands hphase hwriters e⟩
  simp only [arrive, hloop]
  cases piece with
  | frame f =>
    have hexpect := expectGreeting_eq (wellFormed_of_read hleads)
    simp only [greet, hexpect, Incoming.welcome]
    cases hwelcome : f.welcome with
    | ok =>
      refine ⟨rfl, fun _ => ⟨rfl, hu.shut, rfl, ?_⟩, fun e he => by cases he⟩
      simp [establish, loopWriters, hwriters]
    | error e =>
      obtain ⟨htells, hstands⟩ := hfails e
      refine ⟨?_, fun hok => (by cases hok), fun _ _ => hstands⟩
      rw [List.filterMap_cons]
      exact htells
  | malformed e =>
    obtain ⟨htells, hstands⟩ := hfails (.protocol e.message)
    exact ⟨htells, fun hok => (by cases hok), fun _ _ => hstands⟩
  | broken fault =>
    obtain rfl := hleads.1
    have hblame : blameRead p.certificateMissing .cutFrame = .io .cutFrame := by
      simp [blameRead, blame, hcert, IoFault.cutFrame]
    obtain ⟨htells, hstands⟩ := hfails (.io .cutFrame)
    simp only [greet, hblame]
    exact ⟨htells, fun hok => (by cases hok), fun _ _ => hstands⟩
  | ended =>
    have hblame : blame p.certificateMissing .connectionClosed = .connectionClosed := by
      simp [blame, hcert]
    obtain ⟨htells, hstands⟩ := hfails .connectionClosed
    simp only [greet, hblame]
    exact ⟨htells, fun hok => (by cases hok), fun _ _ => hstands⟩

end Connection

/-! ## Until something is found -/

namespace Receiver

open Connection

variable {σ : Type} {p : Profile σ} {s : σ} {r : Receiver σ} {es : List Event}

variable (p r es) in
/-- A client goes through some events without taking anything in. -/
structure Awaits (post after : Post) : Prop where
  untaken : r.Untaken p es
  quiet : (r.run p es).2.filterMap Output.started? = []
  ungreeted : (r.run p es).1.connection.Ungreeted after
  unwritten : after = .unwritten → post = .unwritten ∧ Event.own .start ∉ es

theorem Awaits.cons {post mid after : Post} {e : Event}
    (hevent : ∀ incoming, Rpc.Event.arrive incoming ∉ r.eventAt p e)
    (hquiet : (r.step p e).2.filterMap Output.started? = [])
    (hstart : mid = .unwritten → post = .unwritten ∧ e ≠ .own .start)
    (h : Awaits p (r.step p e).1 es mid after) : Awaits p r (e :: es) post after where
  untaken incoming hmem := by
    rcases List.mem_append.mp hmem with hfirst | hrest
    · exact hevent incoming hfirst
    · exact h.untaken incoming hrest
  quiet := by
    rw [run, List.filterMap_append, hquiet, h.quiet]
    rfl
  ungreeted := h.ungreeted
  unwritten hafter := by
    obtain ⟨hmid, hrest⟩ := h.unwritten hafter
    obtain ⟨hpost, hfirst⟩ := hstart hmid
    refine ⟨hpost, fun hmem => ?_⟩
    rcases List.mem_cons.mp hmem with heq | hmem
    · exact hfirst heq.symm
    · exact hrest hmem

/-- A client that has heard nothing goes on so, or takes something in. -/
theorem awaits_step {post : Post} (h : r.connection.Ungreeted post) (hside : p.side = .client)
    (hlimit : 33 ≤ p.limit) {e : Event} (hsmooth : e.isSmooth = true) :
    (∃ mid, (r.step p e).1.connection.Ungreeted mid ∧
      (∀ incoming, Rpc.Event.arrive incoming ∉ r.eventAt p e) ∧
      (r.step p e).2.filterMap Output.started? = [] ∧
      (mid = .unwritten → post = .unwritten ∧ e ≠ .own .start)) ∨
    e = .take ∧ ∃ piece rest, TakesIn p r piece rest := by
  cases e with
  | feed chunk => exact Or.inl ⟨post, h, by simp [eventAt], rfl, fun hpost => ⟨hpost, by simp⟩⟩
  | finish => exact Or.inl ⟨post, h, by simp [eventAt], rfl, fun hpost => ⟨hpost, by simp⟩⟩
  | take =>
    rcases take_cases (p := p) (r := r) with ⟨hevent, hstep⟩ | ⟨piece, rest, htakes⟩
    · rw [hevent, hstep]
      exact Or.inl ⟨post, h, by simp, rfl, fun hpost => ⟨hpost, by simp⟩⟩
    · exact Or.inr ⟨rfl, piece, rest, htakes⟩
  | own e =>
    by_cases harrive : ∃ incoming, e = .arrive incoming
    · obtain ⟨incoming, rfl⟩ := harrive
      exact Or.inl ⟨post, h, by simp [eventAt], rfl, fun hpost => ⟨hpost, by simp⟩⟩
    · have harrive : ∀ incoming, e ≠ .arrive incoming := fun incoming he => harrive ⟨incoming, he⟩
      obtain ⟨mid, hproceeds⟩ := h.step (e := e) hside hlimit hsmooth harrive
      have hevent : r.eventAt p (.own e) = [e] := by
        cases e with
        | arrive incoming => exact absurd rfl (harrive incoming)
        | _ => rfl
      obtain ⟨hstate, houtputs⟩ := step_eq (p := p) (r := r) (.own e)
      rw [hevent, Connection.run_singleton] at hstate houtputs
      refine Or.inl ⟨mid, ?_, ?_, ?_, fun hmid => ?_⟩
      · rw [hstate]
        exact hproceeds.ungreeted
      · intro incoming hmem
        rw [hevent] at hmem
        exact harrive incoming (List.mem_singleton.mp hmem).symm
      · rw [houtputs]
        exact hproceeds.quiet
      · obtain ⟨hpost, hstart⟩ := hproceeds.unwritten hmid
        exact ⟨hpost, fun heq => hstart (Event.own.inj heq)⟩

/-- A client hears nothing in a run, or there is a first piece that it takes in. -/
theorem awaits_run {post : Post} (h : r.connection.Ungreeted post) (hside : p.side = .client)
    (hlimit : 33 ≤ p.limit) (hsmooth : ∀ e ∈ es, e.isSmooth = true) :
    (∃ after, Awaits p r es post after) ∨
    ∃ front back after, es = front ++ .take :: back ∧ Awaits p r front post after ∧
      ∃ piece rest, TakesIn p (r.run p front).1 piece rest := by
  induction es generalizing r post with
  | nil =>
    exact Or.inl ⟨post, fun _ hmem => (by cases hmem), rfl, h, fun hpost => ⟨hpost, by simp⟩⟩
  | cons e es ih =>
    rcases awaits_step h hside hlimit (hsmooth e List.mem_cons_self) with
      ⟨mid, hmid, hevent, hquiet, hstart⟩ | ⟨rfl, htakes⟩
    · rcases ih hmid fun e' he' => hsmooth e' (List.mem_cons_of_mem e he') with
        ⟨after, hawaits⟩ | ⟨front, back, after, rfl, hawaits, htakes⟩
      · exact Or.inl ⟨after, hawaits.cons hevent hquiet hstart⟩
      · exact Or.inr ⟨e :: front, back, after, rfl, hawaits.cons hevent hquiet hstart, htakes⟩
    · refine Or.inr ⟨[], es, post, rfl, ⟨fun _ hmem => (by cases hmem), rfl, h, ?_⟩, htakes⟩
      exact fun hpost => ⟨hpost, by simp⟩

/-! ## The start -/

variable (p s es) in
/-- An application starts a client that lacks no certificate, such as one without TLS. The peer
sends what it likes and then closes its end. Nobody stops the client, no write fails, that of its
greeting included, and it does not wait too long. -/
structure Connects : Prop where
  side : p.side = .client
  plain : p.certificateMissing = false
  greets : ∃ code, greetingFrame.write p.limit = .ok code
  smooth : ∀ e ∈ es, e.isSmooth = true
  started : Event.own .start ∈ es
  closed : ((new p s).run p es).1.intake.ended = true

variable (p s es) in
/-- What has become of a start, given all octets of the peer. -/
structure Welcomed : Prop where
  told : ((new p s).run p es).2.filterMap Output.started? = [welcome p.limit (fed false es)]
  succeeds : welcome p.limit (fed false es) = .ok () ↔ ∃ f rest,
    Frame.read p.limit (fed false es) = .frame f rest ∧ f.kind = .control ∧
      frameNotice f = .ok .greeting
  refused : ∀ cause, welcome p.limit (fed false es) = .error cause → (new p s).met p es = []
  /-- Behind the greeting, the frames up to the one that ends the connection have been taken in. -/
  processed : ∀ f rest, Frame.read p.limit (fed false es) = .frame f rest →
    welcome p.limit (fed false es) = .ok () →
    ((new p s).met p es).map Prod.fst = (story .client p.limit rest).frames
  whole : ∀ f rest fs, Frame.read p.limit (fed false es) = .frame f rest →
    welcome p.limit (fed false es) = .ok () → (Frame.drain p.limit rest).items = fs.map .ok →
    (∀ g ∈ fs, g.finale? .client = none) → ((new p s).met p es).map Prod.fst = fs
  requests : (((new p s).run p es).2.filterMap Output.serve?).map Prod.snd =
    ((new p s).met p es).filterMap (Frame.request? p.stack)
  events : ((new p s).run p es).2.filterMap Output.notify? =
    ((new p s).met p es).filterMap (Frame.event? p.stack)
  replies : (trail p (takes p) (.new p s) (eventsOf p (new p s) es)).filterMap (·.2.reply?) =
    ((new p s).met p es).filterMap (Frame.reply? p.stack)
  ended : ((new p s).run p es).1.connection.phase = .disconnected

theorem Connects.limit (h : Connects p s es) : 33 ≤ p.limit := by
  obtain ⟨code, hcode⟩ := h.greets
  have hsize := (Frame.write_eq_ok_iff.mp hcode).2.1
  rwa [bodySize_greetingFrame] at hsize

theorem ungreeted_new : (new p s).connection.Ungreeted .unwritten :=
  .unwritten ⟨rfl, rfl, rfl⟩ rfl rfl rfl

theorem Awaits.not_rests {after : Post} (h : Awaits p (new p s) es .unwritten after)
    (hstarted : Event.own .start ∈ es) : ¬ Rests p ((new p s).run p es).1 := by
  intro hrests
  have hstate := (run_eq (p := p) (r := new p s) es).1
  have hcallers : (((new p s).run p es).1.connection.calls.map Prod.fst).Nodup := by
    rw [hstate]
    exact callers_run s _
  cases h.ungreeted with
  | unwritten => exact (h.unwritten rfl).2 hstarted
  | waiting w hu hloop hphase hw =>
    have hlookup := hrests.lookup_writers hcallers w
    simp [hw] at hlookup
  | written hpost hu hloop hphase hw =>
    obtain ⟨piece, intake, hnext⟩ := Intake.exists_next p.limit hrests.1
    have hready : ((new p s).run p es).1.connection.loop.isReady = true := by
      rw [hloop]
      rfl
    exact hrests.not_effort_lt (e := .take) rfl (take_effort hready hnext)

theorem story_frames_of_drain {side : Side} {limit : Nat} {b : Bytes} {fs : List Frame}
    (h : (Frame.drain limit b).items = fs.map .ok) (hon : ∀ f ∈ fs, f.finale? side = none) :
    (story side limit b).frames = fs := by
  rw [story, h]
  generalize (Frame.drain limit b).stuck = stuck
  clear h
  induction fs with
  | nil => cases stuck <;> rfl
  | cons f fs ih =>
    have hrest := ih fun g hg => hon g (List.mem_cons_of_mem f hg)
    simp only [List.map_cons, Story.ofItems, hon f List.mem_cons_self]
    exact congrArg (f :: ·) hrest

variable (p s) in
/-- The events in front end with the first piece, which ends the start as all octets of the peer
do. -/
structure Decided (front back : List Event) : Prop where
  unmet : (new p s).met p front = []
  told : ((new p s).run p front).2.filterMap Output.started? =
    [welcome p.limit (fed false (front ++ back))]
  reads : welcome p.limit (fed false (front ++ back)) = .ok () →
    ((new p s).run p front).1.connection.Stands .reading
  leaves : ∀ cause, welcome p.limit (fed false (front ++ back)) = .error cause →
    ((new p s).run p front).1.connection.Stands .ended
  rest : ∀ f rest, Frame.read p.limit (fed false (front ++ back)) = .frame f rest →
    ((new p s).run p front).1.ahead back = rest

theorem Awaits.decided {front : List Event} {after : Post} {piece : Incoming} {behind : Intake}
    (h : Awaits p (new p s) front .unwritten after) (back : List Event)
    (hcert : p.certificateMissing = false)
    (htakes : TakesIn p ((new p s).run p front).1 piece behind) :
    Decided p s (front ++ [.take]) back := by
  have hall : front ++ [.take] ++ back = front ++ .take :: back := by simp
  have hahead := ahead_of_untaken h.untaken (.take :: back)
  have hmet := met_of_untaken h.untaken
  have hquiet := h.quiet
  have hleads := leads_of_next htakes.next back
  obtain ⟨-, hgreeted, -, -⟩ := h.ungreeted.greeted htakes.ready
  obtain ⟨htold, hreads, hleaves⟩ := h.ungreeted.welcomed htakes.ready hcert hleads
  have hrun := run_append (p := p) (r := new p s) front [.take]
  have hmets := met_append (p := p) (r := new p s) front [.take]
  generalize ((new p s).run p front).1 = r at *
  have hstep : r.run p [.take] = (⟨(r.connection.arrive p piece).1, behind⟩,
      (r.connection.arrive p piece).2) := by
    rw [run, run, htakes.step, List.append_nil]
  rw [ahead, fed_take] at hahead
  have hoctets : r.intake.buffer ++ fed r.intake.ended back = fed false (front ++ .take :: back) :=
    hahead
  rw [hoctets] at hleads
  have hwelcome := welcome_of_leads hleads
  refine ⟨?_, ?_, ?_, ?_, ?_⟩
  · have hmeets : r.connection.meets p (.arrive piece) = [] := by
      cases piece with
      | frame f => exact if_neg fun hl => by simp [hgreeted] at hl
      | _ => rfl
    rw [hmets, hmet, met_singleton, htakes.event, Connection.trail_singleton, hmeets]
    rfl
  · rw [hall, hrun, hstep, List.filterMap_append, hquiet, hwelcome]
    exact htold
  · rw [hall, hrun, hstep, hwelcome]
    exact hreads
  · rw [hall, hrun, hstep, hwelcome]
    exact hleaves
  · intro f rest hf
    rw [hall] at hf
    rw [hrun, hstep]
    cases piece with
    | frame f' => exact (Reading.frame.inj (hleads.symm.trans hf)).2
    | malformed e => rcases hleads with hread | hread <;> simp [hread] at hf
    | broken fault => simp [hleads.2.1] at hf
    | ended => simp [hleads.1] at hf

theorem replies_run (r : Receiver σ) (es : List Event) :
    (trail p (takes p) r.connection (eventsOf p r es)).filterMap (·.2.reply?) =
      (r.met p es).filterMap (Frame.reply? p.stack) := by
  rw [met, ← trail_filterMap, ← trail_filterMap]
  congr
  funext c e
  exact (takes_gives e).2.2

theorem Decided.welcomed {front back : List Event} (h : Decided p s front back)
    (hside : p.side = .client) (hsmooth : ∀ e ∈ back, e.isSmooth = true)
    (hrests : Rests p ((new p s).run p (front ++ back)).1) : Welcomed p s (front ++ back) := by
  have hstart : ((new p s).run p front).1.connection =
      (Connection.run p (.new p s) (eventsOf p (new p s) front)).1 := (run_eq front).1
  have hstate : ((new p s).run p (front ++ back)).1.connection =
      (Connection.run p (.new p s) (eventsOf p (new p s) (front ++ back))).1 := (run_eq _).1
  have hrun := run_append (p := p) (r := new p s) front back
  have hw := writersBelow_run (p := p) s (eventsOf p (new p s) front)
  have hplain := speaksPlainly_run (p := p) s (eventsOf p (new p s) front)
  have hw' := writersBelow_run (p := p) s (eventsOf p (new p s) (front ++ back))
  have hcallers := callers_run (p := p) s (eventsOf p (new p s) (front ++ back))
  rw [← hstart] at hw hplain
  rw [← hstate] at hw' hcallers
  obtain ⟨mode, hmode, hreads, hleaves⟩ : ∃ mode : Mode,
      ((new p s).run p front).1.connection.Stands mode ∧
      (welcome p.limit (fed false (front ++ back)) = .ok () → mode = .reading) ∧
      ∀ cause, welcome p.limit (fed false (front ++ back)) = .error cause → mode = .ended := by
    cases hwelcome : welcome p.limit (fed false (front ++ back)) with
    | ok => exact ⟨.reading, h.reads hwelcome, fun _ => rfl, by simp⟩
    | error cause => exact ⟨.ended, h.leaves cause hwelcome, by simp, fun _ _ => rfl⟩
  obtain ⟨mode', hmode', hframes⟩ := frames_run hmode hw hplain hsmooth
  obtain rfl := hrests.mode_eq (by rw [hrun]; exact hmode') hcallers hw'
  have hmet : ((new p s).met p (front ++ back)).map Prod.fst =
      mode.frames p.side p.limit (((new p s).run p front).1.ahead back) := by
    rw [met_append, h.unmet, hframes]
    exact (List.append_nil _).symm
  have hprocessed : ∀ f rest, Frame.read p.limit (fed false (front ++ back)) = .frame f rest →
      welcome p.limit (fed false (front ++ back)) = .ok () →
      ((new p s).met p (front ++ back)).map Prod.fst = (story .client p.limit rest).frames := by
    intro f rest hread hwelcome
    rw [hmet, hreads hwelcome, h.rest f rest hread, hside]
    rfl
  have hsettled : ((((new p s).run p front).1.run p back).2.filterMap Output.started?) = [] := by
    rw [(run_eq back).2]
    refine (settles_run ?_ _).2
    cases mode <;> simp [hmode.2.2.1, Loop.isStarting]
  obtain ⟨hrequests, hevents⟩ := gifts_run (p := p) (new p s) (front ++ back)
  have hreplies := replies_run (p := p) (new p s) (front ++ back)
  refine ⟨?_, welcome_eq_ok_iff, fun cause hwelcome => ?_, hprocessed,
    fun f rest fs hread hwelcome hdrain hon => ?_, hrequests, hevents, hreplies, ?_⟩
  · rw [hrun, List.filterMap_append, h.told, hsettled, List.append_nil]
  · rw [hleaves cause hwelcome] at hmet
    exact List.map_eq_nil_iff.mp hmet
  · rw [hprocessed f rest hread hwelcome, story_frames_of_drain hdrain hon]
  · rw [hrun]
    exact hmode'.1

/-- The start of a client comes to an end, and the end is the one that the octets of the peer call
for, however they are cut. Behind a greeting the receive loop takes in what stands there. -/
theorem start_comes_to (h : Connects p s es) :
    (∃ work, (∀ e ∈ work, e.isWork = true) ∧ Rests p ((new p s).run p (es ++ work)).1) ∧
    (Rests p ((new p s).run p es).1 → Welcomed p s es) := by
  constructor
  · have hcallers : (((new p s).run p es).1.connection.calls.map Prod.fst).Nodup := by
      rw [(run_eq es).1]
      exact callers_run s _
    obtain ⟨work, hwork, hrests⟩ := comes_to_rest hcallers h.closed
    refine ⟨work, hwork, ?_⟩
    rw [run_append]
    exact hrests
  · intro hrests
    rcases awaits_run (r := new p s) ungreeted_new h.side h.limit h.smooth with
      ⟨after, hawaits⟩ | ⟨front, back, after, rfl, hawaits, piece, rest, htakes⟩
    · exact absurd hrests (hawaits.not_rests h.started)
    · have hdecided := hawaits.decided back h.plain htakes
      have hall : front ++ .take :: back = front ++ [.take] ++ back := by simp
      rw [hall] at hrests ⊢
      exact hdecided.welcomed h.side
        (fun e he => h.smooth e (List.mem_append_right _ (List.mem_cons_of_mem _ he))) hrests

/-! ## What comes with the greeting -/

def noteFrame (payload : Bytes) : Frame :=
  .message 2 .event none (some (List.replicate 8 0xff)) payload

/-- The server has sent two events right behind its greeting. -/
def hastyStream : Bytes := greetingFrame.bytes ++ (noteFrame [5]).bytes ++ (noteFrame [6]).bytes

def hastyRun : List Event :=
  [.own .start, .own (.write 0), .feed (hastyStream.take 50), .take, .take,
    .feed (hastyStream.drop 50), .take, .finish, .take, .take]

theorem hastyRun_connects : Connects plainClient () hastyRun where
  side := rfl
  plain := rfl
  greets := ⟨_, rfl⟩
  smooth := by decide +kernel
  started := List.mem_cons_self
  closed := rfl

theorem hastyRun_welcomed :
    Rests plainClient ((new plainClient ()).run plainClient hastyRun).1 ∧
      Welcomed plainClient () hastyRun := by
  have hrests : Rests plainClient ((new plainClient ()).run plainClient hastyRun).1 :=
    rests_of_idle rfl rfl rfl rfl
  exact ⟨hrests, (start_comes_to hastyRun_connects).2 hrests⟩

example : (((new plainClient ()).run plainClient hastyRun).2.filterMap Output.notify?).map
    Delivery.payload = [[5], [6]] := rfl

/-! ## What comes behind a farewell -/

def farewellFrame : Frame := .control (Archive.noticeBytes .close)

/-- The server takes its leave right behind its greeting, and sends an event all the same. -/
def partedStream : Bytes := greetingFrame.bytes ++ farewellFrame.bytes ++ (noteFrame [5]).bytes

def partedRun : List Event :=
  [.own .start, .own (.write 0), .feed (partedStream.take 50), .take, .feed (partedStream.drop 50),
    .finish, .take, .take]

theorem partedRun_connects : Connects plainClient () partedRun where
  side := rfl
  plain := rfl
  greets := ⟨_, rfl⟩
  smooth := by decide +kernel
  started := List.mem_cons_self
  closed := rfl

theorem drain_partedRun : (Frame.drain 200 (fed false partedRun)).items =
    [.ok greetingFrame, .ok farewellFrame, .ok (noteFrame [5])] := by
  have hfirst : Frame.read 200 (fed false partedRun) =
      .frame greetingFrame (partedStream.drop 37) := by decide +kernel
  have hsecond : Frame.read 200 (partedStream.drop 37) =
      .frame farewellFrame (partedStream.drop 74) := by decide +kernel
  have hthird : Frame.read 200 (partedStream.drop 74) = .frame (noteFrame [5]) [] := by
    decide +kernel
  have hend : Frame.read 200 [] = .incomplete := by decide +kernel
  rw [Frame.drain_of_frame hfirst, Frame.drain_of_frame hsecond, Frame.drain_of_frame hthird,
    Frame.drain_of_incomplete hend]

theorem partedRun_unheard :
    Connects plainClient () partedRun ∧
    Rests plainClient ((new plainClient ()).run plainClient partedRun).1 ∧
    ((new plainClient ()).run plainClient partedRun).2.filterMap Output.started? = [.ok ()] ∧
    (Frame.drain 200 (fed false partedRun)).items =
      [.ok greetingFrame, .ok farewellFrame, .ok (noteFrame [5])] ∧
    (Frame.event? plainClient.stack (noteFrame [5], ())).isSome = true ∧
    ((new plainClient ()).run plainClient partedRun).2.filterMap Output.notify? = [] :=
  ⟨partedRun_connects, rests_of_idle rfl rfl rfl rfl, rfl, drain_partedRun, rfl, rfl⟩

end Receiver

end Rpc
