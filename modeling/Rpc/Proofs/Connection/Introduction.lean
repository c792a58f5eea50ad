import Rpc.Proofs.Connection.Greeting
import Rpc.Proofs.Connection.Owners

/-! # What a client finds first

On a pair that nobody stops and that neither breaks nor waits too long, the start of the client ends
as the first frame of the server says: well, if this is the greeting, and with a violation of the
protocol if the application of the server was faster. The start always comes to an end.
-/
namespace Rpc

open Message

def Event.isCall : Event → Bool
  | .call .. => true
  | _ => false

namespace Connection

variable {σ : Type} {p : Profile σ} {c : Connection σ}

theorem settles_run (hl : c.loop.isStarting = false) (es : List Event) : Settles (run p c es) := by
  induction es generalizing c with
  | nil => exact ⟨hl, rfl⟩
  | cons e es ih =>
    have hfirst := settles_step (p := p) hl e
    have hrest := ih hfirst.1
    refine ⟨hrest.1, ?_⟩
    simp only [run, Progress.andThen, List.filterMap_append]
    exact List.append_eq_nil_iff.mpr ⟨hfirst.2, hrest.2⟩

/-- Only a call brings a call where there was none. -/
theorem isCall_of_step {e : Event} (hnone : c.calls = []) (hsome : (c.step p e).1.calls ≠ []) :
    e.isCall := by
  have hcall : ∀ caller, c.call? caller = none := fun caller => by rw [call?, hnone]; rfl
  have hno : ∀ {caller k}, c.call? caller = some k → False := fun hk => by
    rw [hcall] at hk
    cases hk
  obtain ⟨calls, ended, hmoves, ⟨g, hafter, -⟩, -⟩ := calls_step (p := p) (c := c) e
  rw [hafter] at hsome
  cases hmoves with
  | stay => simp [hnone] at hsome
  | refused => rfl
  | joined => rfl
  | numbered hk => exact (hno hk).elim
  | queued hk => exact (hno hk).elim
  | sent hw hshut hk => exact (hno hk).elim
  | ended hk => exact (hno hk).elim
  | abandoned => simp [hnone] at hsome

theorem called_of_calls (s : σ) (es : List Event) :
    (run p (.new p s) es).1.calls ≠ [] → ∃ e ∈ es, e.isCall := by
  refine run_history (c := .new p s) (I := fun es c => c.calls ≠ [] → ∃ e ∈ es, e.isCall)
    (fun h => absurd rfl h) (fun front e ih hsome => ?_) es
  by_cases hnone : (run p (.new p s) front).1.calls = []
  · exact ⟨e, by simp, isCall_of_step hnone hsome⟩
  · obtain ⟨e', hmem, hcall⟩ := ih hnone
    exact ⟨e', List.mem_append_left _ hmem, hcall⟩

/-- No request and no event is written unless the application has called. -/
theorem called_of_writes (s : σ) (es : List Event) :
    ∀ f ∈ trail p writes (.new p s) es, f.kind.namesMethod = true → ∃ e ∈ es, e.isCall := by
  refine (frames_run es s (Q := fun es f => f.kind.namesMethod = true → ∃ e ∈ es, e.isCall)
    (fun front e f h hname => ?_) fun front e purpose f hf hname => ?_).2
  · obtain ⟨e', hmem, hcall⟩ := h hname
    exact ⟨e', List.mem_append_left _ hmem, hcall⟩
  · have hanswer : ∀ {n : UInt64} {result : Except Fault Bytes} {s : σ},
        (finalAnswer p.stack n result s).1 ≠ some f := fun hf => by
      have hkind := (finalAnswer_isAnswer hf).1
      cases hk : f.kind <;> simp_all [Kind.isAnswer, Kind.namesMethod]
    cases hf with
    | call hk hn hf =>
      have hsome : (run p (.new p s) front).1.calls ≠ [] := fun hnone => by
        rw [call?, hnone] at hk
        cases hk
      obtain ⟨e', hmem, hcall⟩ := called_of_calls s front hsome
      exact ⟨e', List.mem_append_left _ hmem, hcall⟩
    | answer hn hf => exact absurd hf hanswer
    | turnDown hl hr hf => exact absurd hf hanswer
    | notice he hf hp =>
      obtain ⟨code, -, rfl⟩ := noticeFrame_ok hf
      cases hname

end Connection

namespace Pair

open Connection (Post)

variable {σ : Type} {p : PairProfile σ} {pair : Pair σ}

def Event.isSmooth : Event → Bool
  | .own _ e => e.isSmooth
  | .arrive _ => true

variable (p) in
/-- The results that the client tells of its starts, each with the phase it is in then. -/
def returns : Pair σ → List Event → List (Except TransportError Unit × Phase)
  | _, [] => []
  | pair, e :: es =>
    ((outputsAt .client (pair.step p e).2).filterMap Output.started?).map
      (·, (pair.step p e).1.client.phase) ++ returns (pair.step p e).1 es

def sentBy (side : Side) (outputs : List (Side × Output)) : List Frame :=
  (outputsAt side outputs).filterMap Output.frame?

/-- No writer waits for a stream, and no receive loop has anything to take in. -/
def IsIdle (pair : Pair σ) : Prop :=
  (∀ side, (pair.of side).writers = []) ∧
    ∀ side, (pair.of side).loop.isReady = true → pair.inbound side = []

theorem step_own {side : Side} {e : Rpc.Event} (he : ∀ i, e ≠ .arrive i) :
    pair.step p (.own side e) = pair.act p side e := by
  cases e with
  | arrive incoming => exact absurd rfl (he incoming)
  | _ => rfl

theorem returns_of_settled (h : pair.client.loop.isStarting = false) (es : List Event) :
    returns p pair es = [] := by
  induction es generalizing pair with
  | nil => rfl
  | cons e es ih =>
    obtain ⟨hstate, houtputs, -⟩ := stepsAt (p := p) pair .client e
    have hsettles := Connection.settles_run (p := p.client) h (pair.eventAt p .client e)
    have hloop : (pair.step p e).1.client.loop.isStarting = false := by
      change ((pair.step p e).1.of .client).loop.isStarting = false
      rw [hstate]
      exact hsettles.1
    have hquiet : (outputsAt .client (pair.step p e).2).filterMap Output.started? = [] := by
      rw [houtputs]
      exact hsettles.2
    rw [returns, hquiet, ih hloop]
    rfl

/-! ## Until the client hears something -/

/-- The client has heard nothing, its greeting is somewhere, and only early frames are on the way to
it. Neither end has been started that stands at its beginning. -/
structure Meets (front : List Event) (pair : Pair σ) (post : Post) : Prop where
  client : pair.client.Ungreeted post
  toServer : pair.toServer = post.travelling
  server : pair.server.Offers pair.toClient (decide (post = .taken))
  early : ∀ piece ∈ pair.toClient, ∃ f, piece = .frame f ∧ Connection.Early f
  clientStart : post = .unwritten → Event.own .client .start ∉ front
  serverStart : pair.server.loop = .unstarted → Event.own .server .start ∉ front

theorem meets_new (p : PairProfile σ) (s : σ) : Meets [] (new p s) .unwritten where
  client := .unwritten ⟨rfl, rfl, rfl⟩ rfl rfl rfl
  toServer := rfl
  server := .unstarted ⟨rfl, rfl, rfl⟩ rfl rfl rfl
  early := fun _ h => absurd h List.not_mem_nil
  clientStart := fun _ => List.not_mem_nil
  serverStart := fun _ => List.not_mem_nil

/-- A start stands among more events only if it is the last of them or stood there before. -/
theorem start_not_mem {front : List Event} {side : Side} {e : Event}
    (hfront : Event.own side .start ∉ front) (he : e ≠ .own side .start) :
    Event.own side .start ∉ front ++ [e] := by
  intro hmem
  rcases List.mem_append.mp hmem with hmem | hmem
  · exact hfront hmem
  · exact he (List.mem_singleton.mp hmem).symm

variable {front : List Event} {post : Post}

/-- An event that changes nothing, and starts nothing, leaves everything as it was. -/
theorem Meets.stay (h : Meets front pair post) {e : Event} (he : ∀ side, e ≠ .own side .start) :
    Meets (front ++ [e]) pair post :=
  { h with
    clientStart := fun hpost => start_not_mem (h.clientStart hpost) (he .client)
    serverStart := fun hl => start_not_mem (h.serverStart hl) (he .server) }

/-- What a step does while the client hears nothing: its start goes on, and what the server sends is
on its way to it. -/
structure Waits (p : PairProfile σ) (front : List Event) (pair : Pair σ) (e : Event) (after : Post) :
    Prop where
  meets : Meets (front ++ [e]) (pair.step p e).1 after
  quiet : (outputsAt .client (pair.step p e).2).filterMap Output.started? = []
  sent : (pair.step p e).1.toClient.filterMap Travelling.frame? =
    pair.toClient.filterMap Travelling.frame? ++ sentBy .server (pair.step p e).2

theorem Meets.waits_of_eq (h : Meets front pair post) {e : Event}
    (hstep : pair.step p e = (pair, [])) (he : ∀ side, e ≠ .own side .start) :
    Waits p front pair e post := by
  refine ⟨?_, ?_, ?_⟩
  · rw [hstep]
    exact h.stay he
  · rw [hstep]
    rfl
  · rw [hstep]
    exact (List.append_nil _).symm

theorem Meets.ownClient (h : Meets front pair post) (hside : p.client.side = .client)
    (hlimit : 33 ≤ p.client.limit) {e : Rpc.Event} (hsmooth : e.isSmooth)
    (harrive : ∀ i, e ≠ .arrive i) : ∃ after, Waits p front pair (.own .client e) after := by
  obtain ⟨after, hungreeted, hquiet, htravelling, htaken, hunwritten⟩ :=
    h.client.step hside hlimit hsmooth harrive
  refine ⟨after, ?_, ?_, ?_⟩
  · rw [step_own harrive]
    refine ⟨hungreeted, ?_, ?_, h.early, ?_, ?_⟩
    · rw [htravelling, ← h.toServer]
      rfl
    · have hdecide : decide (after = .taken) = decide (post = .taken) := decide_eq_decide.mpr htaken
      rw [hdecide]
      exact h.server
    · intro hpost
      obtain ⟨hbefore, hstart⟩ := hunwritten hpost
      exact start_not_mem (h.clientStart hbefore) (by simpa using hstart)
    · intro hl
      exact start_not_mem (h.serverStart hl) (by simp)
  · rw [step_own harrive, (act_self pair .client e).2.1, outputsAt_self]
    exact hquiet
  · have hnone : outputsAt .server (pair.step p (.own .client e)).2 = [] := by
      rw [step_own harrive, (act_self pair .client e).2.1]
      exact outputsAt_peer .server _
    rw [sentBy, hnone, step_own harrive]
    exact (List.append_nil _).symm

theorem Meets.ownServer (h : Meets front pair post) (hside : p.server.side = .server)
    {e : Rpc.Event} (hsmooth : e.isSmooth) (harrive : ∀ i, e ≠ .arrive i) :
    Waits p front pair (.own .server e) post := by
  obtain ⟨hoffers, hearly, hunstarted⟩ := h.server.step hside hsmooth harrive
  refine ⟨?_, ?_, ?_⟩
  · rw [step_own harrive]
    refine ⟨h.client, h.toServer, hoffers, ?_, ?_, ?_⟩
    · intro piece hpiece
      rcases List.mem_append.mp hpiece with hpiece | hpiece
      · exact h.early piece hpiece
      · exact hearly piece hpiece
    · intro hpost
      exact start_not_mem (h.clientStart hpost) (by simp)
    · intro hl
      obtain ⟨hbefore, hstart⟩ := hunstarted hl
      exact start_not_mem (h.serverStart hbefore) (by simpa using hstart)
  · have hnone : outputsAt .client (pair.step p (.own .server e)).2 = [] := by
      rw [step_own harrive, (act_self pair .server e).2.1]
      exact outputsAt_peer .client _
    rw [hnone]
    rfl
  · rw [step_own harrive, sentBy, (act_self pair .server e).2.1, outputsAt_self,
      ← Travelling.frames_ofOutputs, ← List.filterMap_append]
    rfl

theorem Meets.arriveServer (h : Meets front pair post) (hside : p.server.side = .server)
    (hlimit : 33 ≤ p.server.limit) : ∃ after, Waits p front pair (.arrive .server) after := by
  have hstart : ∀ side, Event.arrive .server ≠ .own side .start := by simp
  by_cases hready : pair.server.loop.isReady = true
  · cases hpost : post with
    | unwritten | waiting | taken =>
      have hnone : pair.toServer = [] := by rw [h.toServer, hpost]; rfl
      exact ⟨post, h.waits_of_eq (by simp only [step, receive, hnone]) hstart⟩
    | underWay =>
      subst hpost
      obtain ⟨hoffers, hpaused, hout⟩ := h.server.hears hside hlimit hready
      have hstep : pair.step p (.arrive .server) =
          act p { pair with toServer := [] } .server (.arrive (.frame greetingFrame)) := by
        have hin : pair.toServer = [.frame greetingFrame] := h.toServer
        simp only [step, receive, hin, if_pos hready, arriving_greetingFrame hlimit]
      refine ⟨.taken, ?_, ?_, ?_⟩
      · rw [hstep]
        refine ⟨?_, rfl, ?_, ?_, by simp, ?_⟩
        · cases h.client with
          | written _ hu hl hphase hw => exact .written (.inr rfl) hu hl hphase hw
        · simp only [act, hout, List.append_nil]
          exact hoffers
        · simp only [act, hout, List.append_nil]
          exact h.early
        · intro hl
          exact absurd (hpaused.symm.trans hl) (by decide)
      · have hnone : outputsAt .client (pair.step p (.arrive .server)).2 = [] := by
          rw [hstep]
          exact outputsAt_peer .client _
        rw [hnone]
        rfl
      · have hsent : sentBy .server (pair.step p (.arrive .server)).2 = [] := by
          rw [hstep, sentBy, (act_self _ .server _).2.1, outputsAt_self,
            ← Travelling.frames_ofOutputs]
          exact congrArg (List.filterMap Travelling.frame?) hout
        rw [hsent, hstep]
        simp only [act, hout, List.append_nil]
  · refine ⟨post, h.waits_of_eq ?_ hstart⟩
    simp only [step, receive]
    split
    · rw [if_neg hready]
    · rfl

/-- What arrives first at the client ends its start. -/
theorem Meets.arriveClient (h : Meets front pair post) (hlimit : 33 ≤ p.client.limit) :
    Waits p front pair (.arrive .client) post ∨
      ∃ f rest, pair.toClient = .frame f :: rest ∧ Connection.Early f ∧
        (pair.step p (.arrive .client)).1.client.loop.isStarting = false ∧
        ((outputsAt .client (pair.step p (.arrive .client)).2).filterMap Output.started?).map
          (·, (pair.step p (.arrive .client)).1.client.phase) =
            [connectResult p.client.limit f] := by
  have hstart : ∀ side, Event.arrive .client ≠ .own side .start := by simp
  cases hin : pair.toClient with
  | nil => exact .inl (h.waits_of_eq (by simp only [step, receive, hin]) hstart)
  | cons piece rest =>
    by_cases hready : pair.client.loop.isReady = true
    · have hfirst : piece ∈ pair.toClient := by
        rw [hin]
        exact List.mem_cons_self
      obtain ⟨f, rfl, hearly⟩ := h.early piece hfirst
      have hstep : pair.step p (.arrive .client) = act p { pair with toClient := rest } .client
          (.arrive ((Travelling.frame f).arriving p.client.limit)) := by
        simp only [step, receive, hin, if_pos hready]
      obtain ⟨hloop, hresult⟩ := h.client.hears hready hlimit hearly
      refine .inr ⟨f, rest, rfl, hearly, ?_, ?_⟩
      · rw [hstep]
        exact hloop
      · rw [hstep, (act_self _ .client _).2.1, outputsAt_self]
        exact hresult
    · exact .inl (h.waits_of_eq (by simp only [step, receive, hin, if_neg hready]) hstart)

/-- How the ends of a pair are made: one is the client, the other the server, and a greeting passes
both limits. -/
structure Fair (p : PairProfile σ) : Prop where
  client : p.client.side = .client
  server : p.server.side = .server
  clientLimit : 33 ≤ p.client.limit
  serverLimit : 33 ≤ p.server.limit

theorem Meets.step (hp : Fair p) (h : Meets front pair post) {e : Event} (he : e.isSmooth) :
    (∃ after, Waits p front pair e after) ∨
      ∃ f rest, pair.toClient = .frame f :: rest ∧ Connection.Early f ∧
        (pair.step p e).1.client.loop.isStarting = false ∧
        ((outputsAt .client (pair.step p e).2).filterMap Output.started?).map
          (·, (pair.step p e).1.client.phase) = [connectResult p.client.limit f] := by
  cases e with
  | own side e =>
    by_cases harrive : ∃ incoming, e = .arrive incoming
    · obtain ⟨incoming, rfl⟩ := harrive
      exact .inl ⟨post, h.waits_of_eq rfl (by simp)⟩
    · have hown : ∀ i, e ≠ .arrive i := fun i hi => harrive ⟨i, hi⟩
      cases side with
      | client => exact .inl (h.ownClient hp.client hp.clientLimit he hown)
      | server => exact .inl ⟨post, h.ownServer hp.server he hown⟩
  | arrive side =>
    cases side with
    | client => exact (h.arriveClient hp.clientLimit).imp_left fun hwaits => ⟨post, hwaits⟩
    | server => exact .inl (h.arriveServer hp.server hp.serverLimit)

/-- Over a whole run the client goes on waiting, or the first frame for it has ended its start. -/
theorem Meets.run (hp : Fair p) (h : Meets front pair post) {es : List Event}
    (hes : ∀ e ∈ es, e.isSmooth) :
    ((∃ after, Meets (front ++ es) (run p pair es).1 after) ∧ returns p pair es = []) ∨
      ∃ f later, pair.toClient.filterMap Travelling.frame? ++ sentBy .server (run p pair es).2 =
        f :: later ∧ Connection.Early f ∧ returns p pair es = [connectResult p.client.limit f] := by
  -- The first frame for the client is on the way already or is the first that the server sends, so
  -- both are taken together.
  induction es generalizing front pair post with
  | nil => exact .inl ⟨⟨post, by rwa [List.append_nil]⟩, rfl⟩
  | cons e es ih =>
    have hsplit : sentBy .server (Pair.run p pair (e :: es)).2 =
        sentBy .server (pair.step p e).2 ++ sentBy .server (Pair.run p (pair.step p e).1 es).2 := by
      simp only [sentBy, outputsAt, Pair.run, List.filterMap_append]
    rw [hsplit]
    rcases h.step hp (hes e List.mem_cons_self) with
      ⟨after, hmeets, hquiet, hsent⟩ | ⟨f, rest, hin, hearly, hloop, hresult⟩
    · have hnone : returns p pair (e :: es) = returns p (pair.step p e).1 es := by
        rw [returns, hquiet]
        rfl
      rw [hnone, ← List.append_assoc, ← hsent]
      rcases ih hmeets (fun e' h' => hes e' (List.mem_cons_of_mem _ h')) with
        ⟨⟨final, hfinal⟩, hreturns⟩ | hended
      · rw [List.append_assoc] at hfinal
        exact .inl ⟨⟨final, hfinal⟩, hreturns⟩
      · exact .inr hended
    · have hone : returns p pair (e :: es) = [connectResult p.client.limit f] := by
        rw [returns, hresult, returns_of_settled hloop]
        rfl
      have hfirst : pair.toClient.filterMap Travelling.frame? =
          f :: rest.filterMap Travelling.frame? := by
        rw [hin]
        rfl
      exact .inr ⟨f, _, by rw [hfirst, List.cons_append], hearly, hone⟩

/-- While the client waits, somebody has something to do. -/
theorem Meets.not_idle (h : Meets front pair post) (hclient : Event.own .client .start ∈ front)
    (hserver : Event.own .server .start ∈ front) : ¬ pair.IsIdle := by
  rintro ⟨hwriters, hinbound⟩
  have hloopWriters : pair.server.loopWriters = [] := by
    have hnone : pair.server.writers = [] := hwriters .server
    rw [Connection.loopWriters, hnone]
    rfl
  -- The greeting is in the client's writer, on its way, or the answer to it is in the server's.
  cases h.client with
  | unwritten => exact h.clientStart rfl hclient
  | waiting w hu hl hphase hw => exact absurd ((hwriters .client).symm.trans hw) (by simp)
  | written hpost hu hl hphase hw =>
    have hready : pair.client.loop.isReady = true := by rw [hl]; rfl
    have hnothing : pair.toClient = [] := hinbound .client hready
    have hoffers := h.server
    rcases hpost with rfl | rfl
    · cases hoffers with
      | unstarted _ hstarted => exact h.serverStart hstarted hserver
      | reading hup hreading hw' =>
        have hnone : pair.toServer = [] := hinbound .server (by
          change pair.server.loop.isReady = true
          rw [hreading]
          rfl)
        rw [h.toServer] at hnone
        cases hnone
    · cases hoffers with
      | answering w hup hpaused hw' => exact absurd (hloopWriters.symm.trans hw') (by simp)
      | answered hup hreading hw' hmem =>
        rw [hnothing] at hmem
        cases hmem

/-! ## From the beginning -/

theorem mem_eventsAt {side : Side} {e : Rpc.Event} {es : List Event} (he : e.isCall = true)
    (h : e ∈ pair.eventsAt p side es) : .own side e ∈ es := by
  induction es generalizing pair with
  | nil => cases h
  | cons e' es ih =>
    rcases List.mem_append.mp h with hnow | hlater
    · have harrive : ∀ {incoming}, e ≠ .arrive incoming := by
        rintro incoming rfl
        cases he
      cases e' with
      | own s e' =>
        by_cases hown : ∃ incoming, e' = .arrive incoming
        · obtain ⟨incoming, rfl⟩ := hown
          cases hnow
        · have hevent : pair.eventAt p side (.own s e') = if s = side then [e'] else [] := by
            cases e' with
            | arrive incoming => exact absurd ⟨incoming, rfl⟩ hown
            | _ => rfl
          rw [hevent] at hnow
          split at hnow
          · rename_i hside
            rw [List.mem_singleton.mp hnow, ← hside]
            exact List.mem_cons_self
          · cases hnow
      | arrive s =>
        simp only [eventAt] at hnow
        split at hnow
        · split at hnow
          · split at hnow
            · exact absurd (List.mem_singleton.mp hnow) harrive
            · cases hnow
          · cases hnow
        · cases hnow
    · exact List.mem_cons_of_mem _ (ih hlater)

theorem called_of_sentBy (s : σ) {side : Side} {es : List Event} {f : Frame}
    (hf : f ∈ sentBy side (run p (new p s) es).2) (hname : f.kind.namesMethod = true) :
    ∃ e, e.isCall = true ∧ .own side e ∈ es := by
  have hnew : (new p s).of side = .new (p.of side) s := by cases side <;> rfl
  rw [sentBy, (run_of _ side es).2, hnew, Connection.frames_eq_trail] at hf
  obtain ⟨e, hmem, hcall⟩ := Connection.called_of_writes s _ f hf hname
  exact ⟨e, hcall, mem_eventsAt hcall hmem⟩

/-- On a pair that nobody stops and that neither breaks nor waits too long, whatever else happens in
which order: the start of the client ends once at most, and as the first frame of the server says,
which is its greeting or a request or event of its application; it has ended when both ends have
been started and nothing is left to do; and it ends well, with the client up, if the application of
the server does not call. -/
theorem connect_returns (hp : Fair p) (s : σ) {es : List Event} (hes : ∀ e ∈ es, e.isSmooth) :
    (returns p (new p s) es = [] ∨
      ∃ f later, sentBy .server (run p (new p s) es).2 = f :: later ∧ Connection.Early f ∧
        returns p (new p s) es = [connectResult p.client.limit f]) ∧
    (.own .client .start ∈ es → .own .server .start ∈ es → (run p (new p s) es).1.IsIdle →
      returns p (new p s) es ≠ []) ∧
    ((∀ e, .own .server e ∈ es → e.isCall = false) →
      returns p (new p s) es = [] ∨ returns p (new p s) es = [(.ok (), .connected)]) := by
  have hrun := (meets_new p s).run hp hes
  refine ⟨?_, ?_, ?_⟩
  · rcases hrun with ⟨-, hnone⟩ | hended
    · exact .inl hnone
    · exact .inr hended
  · intro hclient hserver hidle hnone
    rcases hrun with ⟨⟨after, hmeets⟩, -⟩ | ⟨f, later, -, -, hone⟩
    · exact hmeets.not_idle hclient hserver hidle
    · rw [hnone] at hone
      cases hone
  · intro hsilent
    rcases hrun with ⟨-, hnone⟩ | ⟨f, later, hsent, hearly, hone⟩
    · exact .inl hnone
    · right
      have hmem : f ∈ sentBy .server (run p (new p s) es).2 := by
        have hall : sentBy .server (run p (new p s) es).2 = f :: later := hsent
        rw [hall]
        exact List.mem_cons_self
      have hgreeting : f = greetingFrame := by
        refine hearly.resolve_right fun hname => ?_
        obtain ⟨e, hcall, hown⟩ := called_of_sentBy s hmem hname
        rw [hsilent e hown] at hcall
        cases hcall
      rw [hone, connectResult, if_pos hgreeting]

/-! ## An application that calls at once -/

def rashEnds : PairProfile Unit := ⟨⟨.client, 200, none, false⟩, ⟨.server, 200, none, false⟩⟩

/-- The application of the server sends a request as soon as its end is up. -/
def rashRun : List Event :=
  [.own .server .start, .own .server (.call 0 true {} ⟨0, fun _ => false⟩ "echo" []),
    .own .server (.advance 0), .own .server (.advance 0), .own .client .start,
    .own .client (.write 0), .arrive .server, .own .server (.write 0), .own .server (.write 1),
    .arrive .client]

theorem rashRun_smooth : ∀ e ∈ rashRun ++ [.arrive .server], e.isSmooth := by decide

theorem rashRun_idle :
    (run rashEnds (new rashEnds ()) (rashRun ++ [.arrive .server])).1.IsIdle := by
  constructor
  · intro side
    cases side <;> rfl
  · intro side hready
    cases side <;> cases hready

theorem rashRun_returns :
    (∃ f later, sentBy .server (run rashEnds (new rashEnds ()) rashRun).2 = f :: later ∧
      Connection.Early f ∧ returns rashEnds (new rashEnds ()) rashRun = [connectResult 200 f]) ∧
    returns rashEnds (new rashEnds ()) (rashRun ++ [.arrive .server]) ≠ [] := by
  have hfair : Fair rashEnds := ⟨rfl, rfl, by decide, by decide⟩
  have hsmooth : ∀ e ∈ rashRun, e.isSmooth := fun e he =>
    rashRun_smooth e (List.mem_append_left _ he)
  have hends := (connect_returns hfair () rashRun_smooth).2.1 (by simp [rashRun])
    (by simp [rashRun]) rashRun_idle
  refine ⟨(connect_returns hfair () hsmooth).1.resolve_left fun hnone => ?_, hends⟩
  cases hnone

/-- The greeting of the server comes second, and the client takes the request for a violation. -/
theorem rashRun_fails :
    (sentBy .server (run rashEnds (new rashEnds ()) rashRun).2).map (·.kind) =
      [.request, .control] ∧
    returns rashEnds (new rashEnds ()) rashRun =
      [(.error (.protocol "expected config, got request frame"), .disconnected)] ∧
    (run rashEnds (new rashEnds ()) rashRun).1.server.phase = .connected := by
  refine ⟨by decide +kernel, ?_, by decide +kernel⟩
  rfl

end Pair

end Rpc
