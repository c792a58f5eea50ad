import Rpc.Proofs.Listener.Resting
import Rpc.Tls.Identity

/-! # Who is let in, and who is taken for authenticated

A listener makes a connection for a client exactly when the two are content with each other. A
client that lacks a certificate which the server requires is accepted in the handshake, and learns
from the hang-up that follows what it lacks. What the two ends of a connection hold of the client is
not the same: the server goes by what it was shown, and the client by what it has.
-/
namespace Rpc

open Tls

namespace Encounter

variable {κ σ : Type} {g : Guest κ σ} {v : Encounter σ} {es : List Event} {name : Net.ServerName}

/-! ## Who is let in -/

theorem isOk_iff {ε α : Type} {x : Except ε α} : x.isOk = true ↔ ∃ a, x = .ok a := by
  cases x <;> simp [Except.isOk, Except.toBool]

/-- A client has a connection on both ends of the negotiation. -/
theorem settled_of_made (g : Guest κ σ) (es : List Event)
    (hmade : (((new g).run g es).admission.life? g.socket).isSome = true) :
    ((new g).run g es).client = some g.outcome.client ∧
      ((new g).run g es).server = some g.outcome.server ∧ g.outcome.server.isOk = true := by
  have hc := (kept_run g es).consistent g.socket
  have hstands := stands_run g es
  generalize (new g).run g es = v at hmade hc hstands
  obtain ⟨l, hlife⟩ := Option.isSome_iff_exists.mp hmade
  obtain ⟨place, hplace, -⟩ := hc.exists_of_life hlife
  have hthrough := Admitting.negotiated_of_hasLife ((hc.made_of hplace).symm.trans hmade)
  cases hstands with
  | settled place' hplace' hp hclient hserver =>
    cases hplace.symm.trans hplace'
    rw [hthrough] at hp
    exact ⟨hclient, hserver, (Option.some.inj hp).symm⟩
  | ahead hother =>
    rw [hplace] at hother
    rcases hother with hother | hother <;> cases hother
    cases hthrough
  | dismissed _ hother | negotiating hother =>
    cases hplace.symm.trans hother
    cases hthrough

theorem content_iff (hl : g.library.Sound) (hname : Net.ServerName.parse g.host = .ok name) :
    g.outcome.server.isOk = true ↔ Content g.authority name g.client g.server := by
  rw [isOk_iff]
  constructor
  · rintro ⟨f, hf⟩
    exact ((meet_server hl hname f).mp hf).1
  · intro hcontent
    exact ⟨_, (meet_server hl hname _).mpr ⟨hcontent, rfl⟩⟩

theorem unstopped (hcalm : ∀ e ∈ es, e.isCalm g.socket = true) (task : Nat) :
    .beginStop task ∉ heard g es := by
  intro hmem
  obtain ⟨front, e, back, rfl, hheard⟩ := mem_notes_iff.mp hmem
  have he := hcalm e (List.mem_append_right _ List.mem_cons_self)
  cases e with
  | atListener f =>
    cases f with
    | beginStop => cases he
    | advance socket passes =>
      simp only [hears] at hheard
      split at hheard <;> simp at hheard
    | accept | loopEnds | stop | gather | handle | live =>
      cases List.mem_singleton.mp hheard
  | settle side =>
    cases side with
    | client => cases hheard
    | server =>
      simp only [hears] at hheard
      split at hheard <;> simp at hheard
  | own => cases hheard

theorem isCalm_of_dismissed : (Event.atListener (.advance g.socket false)).isCalm g.socket = false := by
  simp [Event.isCalm]

namespace IsQuiet

theorem atSocket (hq : v.IsQuiet g) {place : Admitting}
    (hplace : v.admission.sockets.lookup g.socket = some place) (hne : place ≠ .negotiating) :
    v.admission.stepSocket g.socket true place = v.admission := by
  have hsame := congrArg admission (hq (.atListener (.advance g.socket true)) ⟨rfl, rfl⟩)
  have hheard : v.hears g (.atListener (.advance g.socket true)) = [.advance g.socket true] := by
    refine if_neg fun hheld => ?_
    have hnegotiating := (isNegotiating_iff v).mp hheld.2
    exact hne (Option.some.inj (hplace.symm.trans hnegotiating))
  rw [admission_step, hheard] at hsame
  simpa only [Admission.run, List.foldl_cons, List.foldl_nil, Admission.step, hplace] using hsame

theorem accepted (hq : v.IsQuiet g) (haccepting : v.admission.accepting = true) :
    v.admission.sockets.lookup g.socket ≠ none := by
  intro hnone
  have hsame := congrArg (fun v => v.admission.sockets)
    (hq (.atListener (.accept g.socket)) rfl)
  have hstep : (v.step g (.atListener (.accept g.socket))).admission.sockets =
      v.admission.sockets ++ [(g.socket, .choosing)] := by
    change (v.admission.step (.accept g.socket)).sockets = _
    simp [Admission.step, haccepting, hnone]
  rw [hstep] at hsame
  simp at hsame

theorem not_negotiating (hq : v.IsQuiet g) (hserver : v.server = none) :
    v.admission.sockets.lookup g.socket ≠ some .negotiating := by
  intro hplace
  have hnegotiating := (isNegotiating_iff v).mpr hplace
  cases hclient : v.client with
  | none =>
    have hsame := congrArg client (hq (.settle .client) trivial)
    simp only [step, hnegotiating, hclient, Option.isNone_none, and_self, if_true] at hsame
    rw [enter_client] at hsame
    cases hsame
  | some r =>
    have hsame := congrArg server (hq (.settle .server) trivial)
    simp only [step, hnegotiating, hclient, Option.isSome_some, and_self, if_true, hserver]
      at hsame
    cases hsame

/-- A client at rest has been counted, or refused. -/
theorem place (hq : ((new g).run g es).IsQuiet g) (hcalm : ∀ e ∈ es, e.isCalm g.socket = true) :
    ∃ place, ((new g).run g es).admission.sockets.lookup g.socket = some place ∧
      (place = .refused ∧ g.outcome.server.isOk = false ∨
        place.isCounted = true ∧ g.outcome.server.isOk = true) ∧
      ((new g).run g es).client = some g.outcome.client ∧
      ((new g).run g es).server = some g.outcome.server := by
  obtain ⟨haccepting, hstopped⟩ := Admission.accepting_run _ (unstopped hcalm)
  rw [← admission_run] at haccepting hstopped
  have hc := (kept_run g es).consistent g.socket
  have hstands := stands_run g es
  generalize (new g).run g es = v at hq haccepting hstopped hc hstands
  have hmoves : ∀ {place after : Admitting} {a' : Admission},
      v.admission.sockets.lookup g.socket = some place → a'.sockets = v.admission.sockets →
        after ≠ place → a'.setSocket g.socket after ≠ v.admission :=
    fun hplace hsame hne => Admission.setSocket_ne hplace hsame hne
  -- Everywhere before the count, the task, an end of the negotiation or the accept loop goes on.
  cases hstands with
  | ahead hplace =>
    have hplace := hplace.resolve_left (hq.accepted haccepting)
    exact absurd (hq.atSocket hplace Admitting.noConfusion)
      (hmoves hplace rfl Admitting.noConfusion)
  | dismissed hmem => cases isCalm_of_dismissed.symm.trans (hcalm _ hmem)
  | negotiating hplace _ hserver => exact absurd hplace (hq.not_negotiating hserver)
  | settled place hplace hp hclient hserver =>
    refine ⟨place, hplace, ?_, hclient, hserver⟩
    have hstays := hq.atSocket hplace
    cases place with
    | choosing | negotiating => cases hp
    | refused => exact Or.inl ⟨rfl, (Option.some.inj hp).symm⟩
    | looking => exact absurd (hstays Admitting.noConfusion) (hmoves hplace rfl (by simp [hstopped]))
    | making | listing | counting =>
      exact absurd (hstays Admitting.noConfusion) (hmoves hplace rfl Admitting.noConfusion)
    | turnedAway => cases hstopped.symm.trans (hc.turnedAway hplace)
    | starting | failing | ending | lookingAgain | stopping | waiting | leaving | gone =>
      exact Or.inr ⟨rfl, (Option.some.inj hp).symm⟩

end IsQuiet

/-! ## A client that lacks its certificate -/

/-- What a client has heard that lacks the certificate which its server requires. -/
inductive Unanswered (g : Guest κ σ) (f : Facts) (v : Encounter σ) : Prop
  | outside : v.client = none → v.connection = .new (g.profile .plain) g.surroundings →
      v.outputs = [] → Unanswered g f v
  | hoping (post : Connection.Post) : v.client = some (.ok f) → post ≠ .unwritten →
      v.connection.Ungreeted post → v.returned = [] → Unanswered g f v
  | turnedDown : v.client = some (.ok f) → v.connection.loop.isStarting = false →
      v.returned = [.error .clientCertificateRequired] → Unanswered g f v

/-- What can happen to a client in a calm run, unless the server has made a connection or objects to
what it was shown. -/
theorem cases_of_bears (hserver : v.server = none ∨
    v.server = some (.error .clientCertificateRequired)) {e : Rpc.Event} (hbears : v.bears e = true)
    (hcalm : (Event.own e).isCalm g.socket = true) :
    e.isHangUp = true ∨ e.isSmooth = true ∧ e ≠ .start ∧ ∀ i, e ≠ .arrive i := by
  cases e with
  | start => cases hbears
  | stop => cases hcalm
  | handshakeTimeout waited => cases hcalm
  | arrive incoming =>
    left
    rcases hserver with hs | hs <;> simp only [bears, hs] at hbears
    · cases hbears
    · cases incoming with
      | ended => rfl
      | broken fault =>
        have hhang : fault.isHangUp = true := by simpa [mayFind] using hbears
        exact hhang
      | frame f => cases hbears
      | malformed cause => cases hbears
  | failWrite w fault =>
    left
    rcases hserver with hs | hs <;> simp only [bears, hs] at hbears
    · cases hbears
    · exact hbears
  | call | advance | expire | cancel | abandon | write | answer =>
    exact Or.inr (by simp [Event.isSmooth])

theorem act_returned (p : Profile σ) (v : Encounter σ) (e : Rpc.Event) :
    (v.act p e).returned =
      v.returned ++ (v.connection.step p e).2.filterMap Output.started? :=
  List.filterMap_append

namespace Unanswered

variable {f : Facts}

theorem enter (h : Unanswered g f v) (houtcome : g.outcome.client = .ok f) (hlimit : 33 ≤ g.limit)
    (hnone : v.client = none) : Unanswered g f (v.enter g) := by
  cases h with
  | hoping _ hc | turnedDown hc =>
    rw [hnone] at hc
    cases hc
  | outside _ hconnection houtputs =>
    have hungreeted : v.connection.Ungreeted .unwritten := by
      rw [hconnection]
      exact .unwritten ⟨rfl, rfl, rfl⟩ rfl rfl rfl
    obtain ⟨after, hproceeds⟩ := hungreeted.start (p := g.profile f) rfl hlimit
    have henter : v.enter g = { v with client := some (.ok f) }.act (g.profile f) .start := by
      simp only [Encounter.enter, houtcome]
    rw [henter]
    refine .hoping after rfl (fun hun => (hproceeds.unwritten hun).2 rfl) hproceeds.ungreeted ?_
    rw [act_returned, hproceeds.quiet, List.append_nil, returned, houtputs]
    rfl

theorem act (h : Unanswered g f v) (hmissing : f.certificateMissing = true) (hlimit : 33 ≤ g.limit)
    (hclient : v.client = some (.ok f)) {e : Rpc.Event}
    (he : e.isHangUp = true ∨ e.isSmooth = true ∧ e ≠ .start ∧ ∀ i, e ≠ .arrive i) :
    Unanswered g f (v.act (g.profile f) e) := by
  cases h with
  | outside hnone =>
    rw [hclient] at hnone
    cases hnone
  | turnedDown _ hloop hreturned =>
    obtain ⟨hloop', hquiet⟩ := Connection.settles_step (p := g.profile f) hloop e
    refine .turnedDown hclient hloop' ?_
    rw [act_returned, hquiet, List.append_nil, hreturned]
  | hoping post _ hpost hungreeted hreturned =>
    rcases he with hhang | ⟨hsmooth, hstart, harrive⟩
    -- A hang-up ends the start, unless the client does not look at the stream yet.
    · rcases hungreeted.turnedDown (p := g.profile f) hmissing hhang with hsame | ⟨hloop, htells⟩
      · refine .hoping post hclient hpost ?_ ?_
        · change (v.connection.step (g.profile f) e).1.Ungreeted post
          rwa [hsame]
        · rw [act_returned, hsame, hreturned]
          rfl
      · refine .turnedDown hclient hloop ?_
        rw [act_returned, htells, hreturned]
        rfl
    · obtain ⟨after, hproceeds⟩ := hungreeted.step (p := g.profile f) rfl hlimit hsmooth harrive
      have hstill : after = .unwritten → _ := fun hun => hpost (hproceeds.unwritten hun).1
      refine .hoping after hclient hstill hproceeds.ungreeted ?_
      rw [act_returned, hproceeds.quiet, hreturned]
      rfl

theorem keep (h : Unanswered g f v) {a : Admission} {server : Option (Except TransportError Facts)} :
    Unanswered g f { v with admission := a, server } := by
  cases h with
  | outside hc hconnection houtputs => exact .outside hc hconnection houtputs
  | hoping post hc hpost hungreeted hreturned => exact .hoping post hc hpost hungreeted hreturned
  | turnedDown hc hloop hreturned => exact .turnedDown hc hloop hreturned

theorem step (h : Unanswered g f v)
    (houtcome : g.outcome = ⟨.ok f, .error .clientCertificateRequired⟩)
    (hmissing : f.certificateMissing = true) (hlimit : 33 ≤ g.limit)
    (hclient : v.client = none ∨ v.client = some g.outcome.client)
    (hserver : v.server = none ∨ v.server = some g.outcome.server) {e : Event}
    (hcalm : e.isCalm g.socket = true) : Unanswered g f (v.step g e) := by
  rw [houtcome] at hclient hserver
  cases e with
  | atListener event => exact h.keep
  | settle side =>
    cases side with
    | client =>
      simp only [Encounter.step]
      split
      · rename_i hready
        exact h.enter (by rw [houtcome]) hlimit (Option.isNone_iff_eq_none.mp hready.2)
      · exact h
    | server =>
      simp only [Encounter.step]
      split
      · exact h.keep
      · exact h
  | own e =>
    simp only [Encounter.step]
    split
    · rename_i f' hf
      split
      · rename_i hbears
        have hsame : f' = f := by
          rcases hclient with hnone | hsome
          · cases hf.symm.trans hnone
          · cases hf.symm.trans hsome
            rfl
        subst hsame
        exact h.act hmissing hlimit hf (cases_of_bears hserver hbears hcalm)
      · exact h
    · exact h

end Unanswered

theorem unanswered_run {f : Facts} (houtcome : g.outcome = ⟨.ok f, .error .clientCertificateRequired⟩)
    (hmissing : f.certificateMissing = true) (hlimit : 33 ≤ g.limit) (es : List Event) :
    (∀ e ∈ es, e.isCalm g.socket = true) → Unanswered g f ((new g).run g es) := by
  induction es using List.reverseRecOn with
  | nil => exact fun _ => .outside rfl rfl rfl
  | append_singleton es e ih =>
    intro hcalm
    have hstands := stands_run g es
    rw [run_concat]
    refine (ih fun e he => hcalm e (List.mem_append_left _ he)).step houtcome hmissing hlimit
      hstands.client hstands.server (hcalm e (List.mem_append_right _ List.mem_cons_self))

/-- A client that a server has refused and that hears nothing has not come to rest. -/
theorem IsQuiet.not_hoping (hq : v.IsQuiet g) {f : Facts} {cause : TransportError}
    (hclient : v.client = some (.ok f)) (hserver : v.server = some (.error cause))
    {post : Connection.Post} (hpost : post ≠ .unwritten) : ¬ v.connection.Ungreeted post := by
  intro hungreeted
  have hstill : ∀ e : Rpc.Event, v.IsDue g (.own e) → v.bears e = true →
      ¬ (v.connection.step (g.profile f) e).1.effort < v.connection.effort := by
    intro e hdue hbears hless
    have hsame := congrArg connection (hq (.own e) hdue)
    simp only [step, hclient, hbears, if_true] at hsame
    refine absurd (congrArg Connection.effort hsame) (Nat.ne_of_lt hless)
  cases hungreeted with
  | unwritten => exact hpost rfl
  | waiting w hu _ _ hw =>
    have hcallers : (v.connection.calls.map Prod.fst).Nodup := by
      rw [hu.calls]
      exact List.nodup_nil
    have hlookup : v.connection.writers.lookup w = some ⟨.greeting, greetingFrame⟩ := by
      rw [hw]
      exact List.lookup_cons_self
    exact hstill (.write w) trivial rfl (Connection.write_effort hcallers hlookup)
  | written _ _ hloop =>
    have hready : v.connection.loop.isReady = true := by
      rw [hloop]
      rfl
    have hbears : v.bears (.arrive .ended) = true := by simp [bears, hserver, mayFind]
    exact hstill (.arrive .ended) ⟨cause, hserver⟩ hbears (Connection.ended_effort hready)

/-- A client at rest that lacks what is required, and nothing else, has been told so. -/
theorem IsQuiet.returned {f : Facts} (hq : ((new g).run g es).IsQuiet g)
    (hcalm : ∀ e ∈ es, e.isCalm g.socket = true)
    (houtcome : g.outcome = ⟨.ok f, .error .clientCertificateRequired⟩)
    (hmissing : f.certificateMissing = true) (hlimit : 33 ≤ g.limit) :
    ((new g).run g es).returned = [.error .clientCertificateRequired] := by
  obtain ⟨-, -, -, hclient, hserver⟩ := hq.place hcalm
  rw [houtcome] at hclient hserver
  cases unanswered_run houtcome hmissing hlimit es hcalm with
  | outside hnone => cases hnone.symm.trans hclient
  | hoping post _ hpost hungreeted => exact absurd hungreeted (hq.not_hoping hclient hserver hpost)
  | turnedDown _ _ hreturned => exact hreturned

/-! ## The outcome -/

/-- What becomes of a client by the time it and its listener are at rest. -/
structure Treated (g : Guest κ σ) (name : Net.ServerName) (es : List Event) : Prop where
  made_iff : (((new g).run g es).admission.life? g.socket).isSome = true ↔
    Content g.authority name g.client g.server
  /-- The listener counts it once, among the accepted or among the refused. -/
  accepted : Content g.authority name g.client g.server →
    Admission.tallyOf g.socket (heard g es) = [(g.socket, .accepted)]
  refused : ¬ Content g.authority name g.client g.server →
    Admission.tallyOf g.socket (heard g es) = [(g.socket, .refused)]
  /-- A client that lacks the required certificate, and nothing else, is told so, unless it cannot
  greet at all. -/
  lacking : (g.client.check g.authority name g.server.certificate).Accepted g.client.validator →
    g.server.required = true → g.client.certificate = none →
      Admission.tallyOf g.socket (heard g es) = [(g.socket, .refused)] ∧
        ((new g).run g es).admission.life? g.socket = none ∧
          (33 ≤ g.limit → ((new g).run g es).returned = [.error .clientCertificateRequired])

theorem treated_of_quiet (hl : g.library.Sound) (hname : Net.ServerName.parse g.host = .ok name)
    (hcalm : ∀ e ∈ es, e.isCalm g.socket = true) (hq : ((new g).run g es).IsQuiet g) :
    Treated g name es := by
  obtain ⟨place, hplace, heither, -, -⟩ := hq.place hcalm
  have htally := Admission.tallyOf_eq g.socket (heard g es)
  rw [← admission_run, hplace, Option.elim_some] at htally
  have hmade := ((kept_run g es).consistent g.socket).made_of hplace
  have hcontent := content_iff hl hname
  rcases heither with ⟨rfl, hok⟩ | ⟨hcounted, hok⟩
  · have hnot : ¬ Content g.authority name g.client g.server := fun h => by
      rw [hcontent.mpr h] at hok
      cases hok
    have hlife : ((new g).run g es).admission.life? g.socket = none :=
      Option.not_isSome_iff_eq_none.mp (by rw [hmade]; exact Bool.false_ne_true)
    refine ⟨iff_of_false ?_ hnot, fun h => absurd h hnot, fun _ => htally, ?_⟩
    · rw [hlife]
      exact Bool.false_ne_true
    · intro haccepted hrequired hnone
      refine ⟨htally, hlife, fun hlimit => ?_⟩
      exact hq.returned hcalm (meet_of_missing hl hname haccepted hrequired hnone) rfl hlimit
  · have hyes := hcontent.mp hok
    have hlife : place.hasLife = true := by cases place <;> first | rfl | cases hcounted
    have hone : place.tally = [.accepted] := if_pos hcounted
    rw [hone] at htally
    refine ⟨iff_of_true (hmade.trans hlife) hyes, fun _ => htally, fun h => absurd hyes h, ?_⟩
    intro haccepted hrequired hnone
    have hpresents := hyes.required hrequired
    rw [ClientPolicy.presents, hnone, ite_self] at hpresents
    cases hpresents

/-- A client and a server with a certificate each, both of which the other one takes for a root. -/
def acquainted : Guest Identity Unit where
  socket := 0
  library := .standard
  authority := Identity.authority
  host := "localhost"
  client := { roots := some [⟨"s", "localhost"⟩], certificate := some ⟨"c", "localhost"⟩ }
  server := ⟨⟨"s", "localhost"⟩, true, some [⟨"c", "localhost"⟩], none, .ofSeconds 10⟩
  limit := 200
  stack := none
  surroundings := ()

/-- The client comes without its certificate. -/
def unprepared : Guest Identity Unit :=
  { acquainted with client := { roots := some [⟨"s", "localhost"⟩] } }

/-- What the two ends of a connection hold of the client. The server goes by what was shown in the
handshake, and the client by what it has; the two differ exactly when a client that has a
certificate was not asked for it. -/
theorem authenticated_of_made (g : Guest κ σ) (name : Net.ServerName) (hl : g.library.Sound)
    (hname : Net.ServerName.parse g.host = .ok name) (es : List Event)
    (hmade : (((new g).run g es).admission.life? g.socket).isSome = true) :
    ∃ f f', ((new g).run g es).client = some (.ok f) ∧
      ((new g).run g es).server = some (.ok f') ∧
      (f'.authenticated = true ↔ (g.handshake name).shown.isSome = true) ∧
      (f.authenticated = true ↔ g.client.certificate.isSome = true) ∧
      (f.authenticated = f'.authenticated ↔
        ¬ (g.client.certificate.isSome = true ∧ g.server.asks = false)) := by
  obtain ⟨hclient, hserver, hok⟩ := settled_of_made g es hmade
  have hcontent := (content_iff hl hname).mp hok
  have hclient' := (meet_client hl hname _).mpr ⟨hcontent.client, rfl⟩
  have hserver' := (meet_server hl hname _).mpr ⟨hcontent, rfl⟩
  have hshown : (g.handshake name).shown = g.client.presents g.server :=
    hl.shown (hl.client_iff.mpr hcontent.client)
  refine ⟨_, _, hclient.trans (congrArg some hclient'), hserver.trans (congrArg some hserver'),
    ?_, Iff.rfl, ?_⟩
  · rw [hshown]
  · unfold ClientPolicy.presents
    cases g.client.certificate <;> cases g.server.asks <;> simp

/-- Until both ends have come out of the negotiation and the connection is made. -/
def admittance : List Event :=
  [.atListener (.accept 0), .atListener (.advance 0 true), .settle .client, .settle .server,
    .atListener (.advance 0 true), .atListener (.advance 0 true)]

theorem acquainted_authenticated : ∃ f f',
    ((new acquainted).run acquainted admittance).client = some (.ok f) ∧
    ((new acquainted).run acquainted admittance).server = some (.ok f') ∧
    f.authenticated = true ∧ f'.authenticated = true := by
  obtain ⟨f, f', hf, hf', hserver, hclient, -⟩ :=
    authenticated_of_made acquainted (.domain "localhost") Library.standard_sound rfl admittance rfl
  exact ⟨f, f', hf, hf', hclient.mpr rfl, hserver.mpr rfl⟩

/-- The client has a certificate, which the server does not ask for. -/
def unasked : Guest Identity Unit :=
  { acquainted with server := { certificate := ⟨"s", "localhost"⟩ } }

theorem not_authenticated_alike : ¬ ∀ (g : Guest Identity Unit) (name : Net.ServerName),
    g.library.Sound → Net.ServerName.parse g.host = .ok name → ∀ es : List Event,
      (((new g).run g es).admission.life? g.socket).isSome = true →
        ∀ f f', ((new g).run g es).client = some (.ok f) →
          ((new g).run g es).server = some (.ok f') →
            f.authenticated = f'.authenticated ∧
              (f.authenticated = true ↔ (g.handshake name).shown.isSome = true) := by
  intro h
  obtain ⟨halike, -⟩ :=
    h unasked (.domain "localhost") Library.standard_sound rfl admittance rfl
      ⟨true, true, false⟩ ⟨true, false, false⟩ rfl rfl
  cases halike

end Encounter

end Rpc
