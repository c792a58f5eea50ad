import Rpc.Proofs.Connection.Welcome
import Rpc.Proofs.Listener.Accounts

/-! # Clients of a listener

A client is at the other end of a socket that a listener accepts. Its connection is listed and
counted before the receive loop of the server takes anything in, and only then the server greets
back; so no client is up before its connection is on the list.
-/
namespace Rpc

namespace Admitting

def isPastStart : Admitting → Bool
  | lookingAgain | stopping | waiting | leaving | gone => true
  | _ => false

end Admitting

namespace Admission

variable {a : Admission} {socket : Nat} {g : Admitting} {es : List Event}

def runs (a : Admission) (socket : Nat) : Bool :=
  match a.life? socket with
  | some l => l.starting = .running
  | none => false

def HasStarted (a : Admission) (socket : Nat) : Prop :=
  ∃ g, a.sockets.lookup socket = some g ∧ g.isPastStart = true

theorem hasStarted_of_runs (hkept : Kept a) (h : a.runs socket = true) : a.HasStarted socket := by
  unfold runs at h
  split at h
  · rename_i l hl
    obtain ⟨g, hg, hf⟩ := (hkept.consistent socket).exists_of_life hl
    have hallows := hf.allows
    rw [of_decide_eq_true h] at hallows
    refine ⟨g, hg, ?_⟩
    cases g with
    | lookingAgain | stopping | waiting | leaving | gone => rfl
    | choosing | negotiating | looking | making | listing | counting | starting | failing | ending
    | refused | turnedAway => simp [Admitting.Allows] at hallows
  · cases h

theorem isPastStart_next {g' : Admitting} {passes : Bool} (hpast : g.isPastStart = true)
    (hg' : g' ∈ g.next passes) : g'.isPastStart = true := by
  cases g with
  | lookingAgain | stopping | waiting =>
    simp only [Admitting.next, List.mem_cons, List.not_mem_nil, or_false] at hg'
    rcases hg' with rfl | rfl <;> rfl
  | leaving | gone =>
    rw [List.mem_singleton.mp hg']
    rfl
  | choosing | negotiating | looking | making | listing | counting | starting | failing | ending
  | refused | turnedAway => cases hpast

theorem HasStarted.step (h : a.HasStarted socket) (e : Event) : (a.step e).HasStarted socket := by
  obtain ⟨g, hg, hpast⟩ := h
  have hgoes := goes_step a socket e
  rw [hg] at hgoes
  generalize hafter : (a.step e).sockets.lookup socket = after at hgoes
  cases hgoes with
  | stays => exact ⟨g, hafter, hpast⟩
  | goes passes _ hnext => exact ⟨_, hafter, isPastStart_next hpast hnext⟩

/-- The connection of a socket has been listed and counted, and is listed until it is gone. -/
structure Enrolled (socket : Nat) (es : List Event) : Prop where
  counted : tallyOf socket es = [(socket, .accepted)]
  listed : socket ∈ (new.run es).live ∨
    ∃ l, (new.run es).life? socket = some l ∧ l.phase = .disconnected

theorem HasStarted.enrolled (h : (new.run es).HasStarted socket) : Enrolled socket es := by
  obtain ⟨g, hg, hpast⟩ := h
  have hc := (kept_run es).consistent socket
  have hlisted := hc.listed_of hg
  have htally := tallyOf_eq socket es
  rw [hg] at htally
  cases g with
  | lookingAgain | stopping | waiting | leaving => exact ⟨htally, Or.inl (hlisted.mpr rfl)⟩
  | gone =>
    obtain ⟨l, hl, hf⟩ := hc.exists_life hg rfl
    exact ⟨htally, Or.inr ⟨l, hl, hf.gone rfl⟩⟩
  | choosing | negotiating | looking | making | listing | counting | starting | failing | ending
  | refused | turnedAway => cases hpast

end Admission

/-- A listener and one of its sockets, with the connection between its client and its server. -/
structure Visit (σ : Type) where
  admission : Admission
  pair : Pair σ
  /-- What both ends of the connection have told, in order. -/
  outputs : List (Side × Output)

namespace Visit

inductive Event
  | atListener (event : Admission.Event)
  /-- Something happens on one end of the connection, other than an arrival. -/
  | own (side : Side) (event : Rpc.Event)
  | arrive (side : Side)

variable {σ : Type}

def new (p : PairProfile σ) (s : σ) : Visit σ := ⟨.new, .new p s, []⟩

def act (p : PairProfile σ) (v : Visit σ) (e : Pair.Event) : Visit σ :=
  let q := v.pair.step p e
  { v with pair := q.1, outputs := v.outputs ++ q.2 }

/-- The server is started by the task of the socket, and nothing arrives at it unless its receive
loop runs. -/
def step (p : PairProfile σ) (socket : Nat) (v : Visit σ) : Event → Visit σ
  | .atListener e =>
    let a := v.admission.step e
    if a.runs socket ∧ ¬ v.admission.runs socket then
      { v with admission := a }.act p (.own .server .start)
    else { v with admission := a }
  | .own .server .start => v
  | .own side e => v.act p (.own side e)
  | .arrive .client => v.act p (.arrive .client)
  | .arrive .server =>
    if v.admission.runs socket then
      { v with admission := v.admission.step (.handle socket) }.act p (.arrive .server)
    else v

def run (p : PairProfile σ) (socket : Nat) (v : Visit σ) (es : List Event) : Visit σ :=
  es.foldl (step p socket) v

def heard (socket : Nat) (es : List Event) : List Admission.Event :=
  es.filterMap fun
    | .atListener e => some e
    | .own _ _ => none
    | .arrive .client => none
    | .arrive .server => some (.handle socket)

variable {p : PairProfile σ} {s : σ} {socket : Nat} {v : Visit σ} {es : List Event}

theorem run_concat (v : Visit σ) (es : List Event) (e : Event) :
    v.run p socket (es ++ [e]) = (v.run p socket es).step p socket e := by
  simp [run]

theorem admission_step (v : Visit σ) (e : Event) :
    (v.step p socket e).admission = v.admission.run (heard socket [e]) := by
  cases e with
  | atListener e =>
    simp only [step]
    split <;> rfl
  | own side e => cases side <;> cases e <;> rfl
  | arrive side =>
    cases side with
    | client => rfl
    | server =>
      simp only [step]
      split
      · rfl
      · rename_i hidle
        change v.admission = v.admission.handle socket
        unfold Admission.handle
        split
        · rename_i l hl
          have hne : l.starting ≠ .running := fun hruns => hidle (by simp [Admission.runs, hl, hruns])
          rw [if_neg hne]
        · rfl

theorem admission_run (es : List Event) :
    ((new p s).run p socket es).admission = Admission.new.run (heard socket es) := by
  induction es using List.reverseRecOn with
  | nil => rfl
  | append_singleton es e ih =>
    rw [run_concat, admission_step, ih]
    simp [heard, Admission.run]

/-- What a visit has been to its connection. Something has arrived at the server only if its
connection was started. -/
structure Follows (p : PairProfile σ) (s : σ) (socket : Nat) (v : Visit σ) (es : List Pair.Event) :
    Prop where
  pair : v.pair = (Pair.run p (.new p s) es).1
  outputs : v.outputs = (Pair.run p (.new p s) es).2
  started : ∀ i, .arrive i ∈ (Pair.new p s).eventsAt p .server es → v.admission.HasStarted socket

namespace Follows

variable {fs : List Pair.Event}

theorem listen (h : Follows p s socket v fs) {a : Admission}
    (ha : v.admission.HasStarted socket → a.HasStarted socket) :
    Follows p s socket { v with admission := a } fs :=
  ⟨h.pair, h.outputs, fun i hi => ha (h.started i hi)⟩

/-- The connection goes on; at the server something arrives only once it was started. -/
theorem act (h : Follows p s socket v fs) {e : Pair.Event}
    (he : (∃ i, .arrive i ∈ v.pair.eventAt p .server e) → v.admission.HasStarted socket) :
    Follows p s socket (v.act p e) (fs ++ [e]) := by
  constructor
  · simp only [Visit.act, h.pair, Pair.run_append]
    rfl
  · simp only [Visit.act, h.pair, h.outputs, Pair.run_append, Pair.run, List.append_nil]
  · intro i hi
    rw [Pair.eventsAt_append, ← h.pair] at hi
    rcases List.mem_append.mp hi with hold | hnow
    · exact h.started i hold
    · refine he ⟨i, ?_⟩
      simpa [Pair.eventsAt] using hnow

end Follows

theorem eventAt_own (pair : Pair σ) (side : Side) (e : Rpc.Event) (i : Incoming) :
    .arrive i ∉ pair.eventAt p .server (.own side e) := by
  cases e with
  | arrive incoming => exact List.not_mem_nil
  | _ => cases side <;> simp [Pair.eventAt]

theorem follows_run (p : PairProfile σ) (s : σ) (socket : Nat) (es : List Event) :
    ∃ fs, Follows p s socket ((new p s).run p socket es) fs := by
  induction es using List.reverseRecOn with
  | nil => exact ⟨[], rfl, rfl, fun _ hi => nomatch hi⟩
  | append_singleton es e ih =>
    obtain ⟨fs, h⟩ := ih
    have hkept : Admission.Kept ((new p s).run p socket es).admission := by
      rw [admission_run]
      exact Admission.kept_run _
    rw [run_concat]
    generalize (new p s).run p socket es = v at h hkept
    have hown : ∀ side e, ∃ fs, Follows p s socket (v.act p (.own side e)) fs := fun side e =>
      ⟨_, h.act fun ⟨i, hi⟩ => absurd hi (eventAt_own v.pair side e i)⟩
    cases e with
    | atListener e =>
      have hadmitted : Follows p s socket { v with admission := v.admission.step e } fs :=
        h.listen fun hstarted => hstarted.step e
      simp only [step]
      split
      · exact ⟨_, hadmitted.act fun ⟨i, hi⟩ => absurd hi (eventAt_own v.pair .server .start i)⟩
      · exact ⟨fs, hadmitted⟩
    | own side e =>
      cases side with
      | client => exact hown .client e
      | server =>
        cases e with
        | start => exact ⟨fs, h⟩
        | _ => exact hown .server _
    | arrive side =>
      cases side with
      | client =>
        exact ⟨_, h.act (e := .arrive .client) fun ⟨i, hi⟩ => nomatch hi⟩
      | server =>
        simp only [step]
        split
        · rename_i hruns
          have hstarted := Admission.hasStarted_of_runs hkept hruns
          exact ⟨_, (h.listen fun _ => hstarted.step (.handle socket)).act fun _ =>
            hstarted.step (.handle socket)⟩
        · exact ⟨fs, h⟩

/-- Whatever the tasks of a listener do, in which order ever, its accounts balance; and a client of
it is up only when its connection is listed and counted. -/
theorem accounts_balance (es : List Admission.Event) : Admission.Accounts es ∧
    ∀ {σ : Type} (p : PairProfile σ) (s : σ) (socket : Nat) (visit : List Event),
      p.server.side = .server → heard socket visit = es →
        (.client, .started (.ok ())) ∈ ((new p s).run p socket visit).outputs →
          Admission.Enrolled socket es := by
  refine ⟨Admission.accounts_run es, fun p s socket visit hside hes hup => ?_⟩
  obtain ⟨fs, h⟩ := follows_run p s socket visit
  rw [h.outputs] at hup
  obtain ⟨i, hi⟩ := Pair.heard_of_started hside s fs hup
  have hstarted := h.started i hi
  rw [admission_run, hes] at hstarted
  exact hstarted.enrolled

def plainEnds : PairProfile Unit := ⟨⟨.client, 200, none, false⟩, ⟨.server, 200, none, false⟩⟩

/-- A client greets as soon as its socket is there, and is greeted back. -/
def welcomed : List Event :=
  [.own .client .start, .own .client (.write 0), .atListener (.accept 0)] ++
    List.replicate 9 (.atListener (.advance 0 true)) ++
    [.arrive .server, .own .server (.write 0), .arrive .client]

/-- A listener is stopped while its only connection is up, and everybody comes to an end. -/
def closedDown : List Admission.Event :=
  .accept 0 :: List.replicate 10 (.advance 0 true) ++
    [.beginStop 0, .stop 0, .stop 0, .loopEnds] ++ List.replicate 4 (.stop 0) ++
    List.replicate 13 (.live 0 (.wind (Admission.stopOf 0))) ++
    [.stop 0, .advance 0 true, .advance 0 true, .live 0 (.loopEnds 0),
      .live 0 (.wind (Admission.foreign 0))]

theorem closedDown_quiet : (Admission.new.run closedDown).IsQuiet :=
  Admission.isQuiet_of_done (Admission.kept_run closedDown) rfl (by decide) (by decide) (by decide)

theorem welcomed_and_closedDown :
    ((.client, .started (.ok ())) ∈ ((new plainEnds ()).run plainEnds 0 welcomed).outputs ∧
      Admission.Enrolled 0 (heard 0 welcomed)) ∧
    ((Admission.new.run closedDown).IsQuiet ∧ (Admission.new.run closedDown).live = [] ∧
      ∀ x ∈ (Admission.new.run closedDown).lives, x.2.phase = .disconnected) := by
  have hup : (.client, .started (.ok ())) ∈
      ((new plainEnds ()).run plainEnds 0 welcomed).outputs := by
    refine List.mem_of_getLast? ?_
    rfl
  have hstopped : ∃ task, .beginStop task ∈ closedDown := ⟨0, by simp [closedDown]⟩
  exact ⟨⟨hup, (accounts_balance _).2 plainEnds () 0 welcomed rfl rfl hup⟩, closedDown_quiet,
    (accounts_balance closedDown).1.stopped hstopped closedDown_quiet⟩

end Visit

end Rpc
