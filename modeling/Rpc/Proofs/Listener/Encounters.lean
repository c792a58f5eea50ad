import Rpc.Proofs.Connection.Greeting
import Rpc.Proofs.Listener.Accounts
import Rpc.Proofs.Tls.Decisions

/-! # Secure clients of a listener

A client connects to a listener for a secure stream. While the task of the socket negotiates, the
client comes to an end of it first, and starts its connection at once. Only then does the server
come to its end, and the task goes on or refuses the socket; what the client finds depends on that.
-/
namespace Rpc

open Tls

/-- A client that connects to a listener, and all that their negotiation depends on. -/
structure Guest (κ σ : Type) where
  socket : Nat
  library : Library κ
  authority : Authority κ
  host : String
  client : ClientPolicy κ
  server : ServerPolicy κ
  limit : Nat
  stack : Option (Stack σ)
  surroundings : σ

namespace Guest

variable {κ σ : Type}

/-- What comes to pass in the handshake, by the name that the client makes of its host. -/
def handshake (g : Guest κ σ) (name : Net.ServerName) : Handshake κ :=
  g.library (g.client.part g.authority name) (g.server.part g.authority)

def outcome (g : Guest κ σ) : Tls.Outcome := meet g.library g.authority g.host g.client g.server

def profile (g : Guest κ σ) (f : Facts) : Profile σ :=
  ⟨.client, g.limit, g.stack, f.certificateMissing⟩

end Guest

/-- A listener and one of its clients. -/
structure Encounter (σ : Type) where
  admission : Admission
  /-- How the negotiation has ended for the client, and for the server. -/
  client : Option (Except TransportError Facts)
  server : Option (Except TransportError Facts)
  connection : Connection σ
  /-- What the client has told, in order. -/
  outputs : List Output

namespace Encounter

inductive Event
  | atListener (event : Admission.Event)
  | settle (side : Side)
  | own (event : Rpc.Event)

variable {κ σ : Type}

def new (g : Guest κ σ) : Encounter σ :=
  ⟨.new, none, none, .new (g.profile .plain) g.surroundings, []⟩

/-- What connecting returns, once it does. -/
def returned (v : Encounter σ) : List (Except TransportError Unit) :=
  v.outputs.filterMap Output.started?

/-- Whether the task of the socket negotiates. -/
def isNegotiating (g : Guest κ σ) (v : Encounter σ) : Bool :=
  v.admission.sockets.lookup g.socket = some .negotiating

/-- What an event is to the listener. A task that negotiates goes on as its negotiation ends. -/
def hears (g : Guest κ σ) (v : Encounter σ) : Event → List Admission.Event
  | .atListener (.advance socket passes) =>
    if socket = g.socket ∧ v.isNegotiating g then [] else [.advance socket passes]
  | .atListener e => [e]
  | .settle .server =>
    if v.isNegotiating g ∧ v.client.isSome then [.advance g.socket g.outcome.server.isOk] else []
  | .settle .client | .own _ => []

/-- What a client can find when the server is through with the negotiation. A server that misses a
certificate hangs up; one that has made a connection may send anything. -/
def mayFind : Except TransportError Facts → Incoming → Bool
  | .ok _, _ => true
  | .error _, .ended => true
  | .error e, .broken fault => e ≠ .clientCertificateRequired || fault.isHangUp
  | .error _, _ => false

/-- How a write of the client can fail when the server is through with the negotiation. -/
def mayFail : Except TransportError Facts → IoFault → Bool
  | .error .clientCertificateRequired, fault => fault.isHangUp
  | _, _ => true

/-- Whether something can happen to a connection that has been started. As long as the server is not
through, nothing arrives and no write fails. -/
def bears (v : Encounter σ) : Rpc.Event → Bool
  | .start => false
  | .arrive incoming => v.server.any (mayFind · incoming)
  | .failWrite _ fault => v.server.any (mayFail · fault)
  | _ => true

def act (p : Profile σ) (v : Encounter σ) (e : Rpc.Event) : Encounter σ :=
  let q := v.connection.step p e
  { v with connection := q.1, outputs := v.outputs ++ q.2 }

/-- The client comes out of the negotiation, and starts its connection or gives up. -/
def enter (g : Guest κ σ) (v : Encounter σ) : Encounter σ :=
  match g.outcome.client with
  | .ok f => { v with client := some (.ok f) }.act (g.profile f) .start
  | .error e => { v with client := some (.error e), outputs := v.outputs ++ [.started (.error e)] }

def step (g : Guest κ σ) (v : Encounter σ) (e : Event) : Encounter σ :=
  let after := { v with admission := v.admission.run (v.hears g e) }
  match e with
  | .atListener _ => after
  | .settle .client => if v.isNegotiating g ∧ v.client.isNone then v.enter g else v
  | .settle .server =>
    if v.isNegotiating g ∧ v.client.isSome then { after with server := some g.outcome.server }
    else v
  | .own e =>
    match v.client with
    | some (.ok f) => if v.bears e then v.act (g.profile f) e else v
    | _ => v

def run (g : Guest κ σ) (v : Encounter σ) (es : List Event) : Encounter σ := es.foldl (step g) v

def heard (g : Guest κ σ) (es : List Event) : List Admission.Event :=
  notes (step g) (hears g) (new g) es

/-- Whether an event is one of a listener that is not stopped and has layers for the client, and of
a client that stays and has time. -/
def Event.isCalm (socket : Nat) : Event → Bool
  | .atListener (.beginStop _) => false
  | .atListener (.advance other passes) => other ≠ socket || passes
  | .own .stop | .own (.handshakeTimeout _) => false
  | _ => true

/-- Whether somebody has to take this step sooner or later. -/
def IsDue (g : Guest κ σ) (v : Encounter σ) : Event → Prop
  | .atListener (.accept socket) => socket = g.socket
  | .atListener (.advance socket passes) => socket = g.socket ∧ passes = true
  | .settle _ | .own (.write _) => True
  | .own (.arrive .ended) => ∃ e, v.server = some (.error e)
  | _ => False

def IsQuiet (g : Guest κ σ) (v : Encounter σ) : Prop := ∀ e, v.IsDue g e → v.step g e = v

end Encounter

namespace Admitting

/-- How the negotiation of the stream has ended, if it has. -/
def negotiated? : Admitting → Option Bool
  | choosing | negotiating => none
  | refused => some false
  | _ => some true

theorem negotiated_next {g g' : Admitting} {passes b : Bool} (h : g.negotiated? = some b)
    (hg' : g' ∈ g.next passes) : g'.negotiated? = some b := by
  rw [← h]
  cases g with
  | choosing | negotiating => cases h
  | making | listing | counting | failing | leaving | refused | turnedAway | gone =>
    cases List.mem_singleton.mp hg'
    rfl
  | looking | starting | ending | lookingAgain | stopping | waiting =>
    simp only [next, List.mem_cons, List.not_mem_nil, or_false] at hg'
    rcases hg' with rfl | rfl | rfl <;> rfl

theorem negotiated_of_hasLife {g : Admitting} (h : g.hasLife = true) :
    g.negotiated? = some true := by
  cases g <;> first | rfl | cases h

end Admitting

namespace Encounter

variable {κ σ : Type} {g : Guest κ σ} {v : Encounter σ} {es : List Event} {e : Event}

theorem run_concat (v : Encounter σ) (es : List Event) (e : Event) :
    v.run g (es ++ [e]) = (v.run g es).step g e := by
  simp [run]

/-! ## The listener -/

theorem isNegotiating_iff (v : Encounter σ) :
    v.isNegotiating g = true ↔ v.admission.sockets.lookup g.socket = some .negotiating :=
  decide_eq_true_iff

/-- The listener hears what happens to it, apart from a task that would leave its negotiation. -/
theorem hears_atListener (g : Guest κ σ) (v : Encounter σ) (f : Admission.Event) :
    v.hears g (.atListener f) = [] ∨ v.hears g (.atListener f) = [f] ∧
      ∀ passes, f = .advance g.socket passes → v.isNegotiating g = false := by
  cases f with
  | advance socket passes =>
    simp only [hears]
    split
    · exact Or.inl rfl
    · rename_i hheld
      refine Or.inr ⟨rfl, fun passes' hf => Bool.eq_false_iff.mpr fun hn => hheld ⟨?_, hn⟩⟩
      injection hf
  | accept | loopEnds | beginStop | stop | gather | handle | live =>
    exact Or.inr ⟨rfl, fun _ hf => nomatch hf⟩

theorem enter_admission (g : Guest κ σ) (v : Encounter σ) : (v.enter g).admission = v.admission := by
  unfold enter
  split <;> rfl

theorem enter_client (g : Guest κ σ) (v : Encounter σ) :
    (v.enter g).client = some g.outcome.client := by
  unfold enter
  split <;> simp_all [act]

theorem enter_server (g : Guest κ σ) (v : Encounter σ) : (v.enter g).server = v.server := by
  unfold enter
  split <;> rfl

theorem admission_step (v : Encounter σ) (e : Event) :
    (v.step g e).admission = v.admission.run (v.hears g e) := by
  cases e with
  | atListener f => rfl
  | settle side =>
    cases side with
    | client =>
      simp only [step]
      split
      · exact enter_admission g v
      · rfl
    | server =>
      simp only [step]
      split
      · rfl
      · rename_i hnot
        simp only [hears, if_neg hnot]
        rfl
  | own e =>
    simp only [step]
    split
    · split <;> rfl
    · rfl

theorem admission_run (g : Guest κ σ) (es : List Event) :
    ((new g).run g es).admission = Admission.new.run (heard g es) := by
  induction es using List.reverseRecOn with
  | nil => rfl
  | append_singleton es e ih =>
    rw [run_concat, admission_step, heard, notes_concat, ih]
    exact List.foldl_append.symm

theorem kept_run (g : Guest κ σ) (es : List Event) :
    Admission.Kept ((new g).run g es).admission := by
  rw [admission_run]
  exact Admission.kept_run _

/-! ## How far the two have come -/

/-- Where the negotiation of a client stands. -/
inductive Stands (g : Guest κ σ) (es : List Event) (v : Encounter σ) : Prop
  | ahead : v.admission.sockets.lookup g.socket = none ∨
      v.admission.sockets.lookup g.socket = some .choosing →
      v.client = none → v.server = none → Stands g es v
  | dismissed : .atListener (.advance g.socket false) ∈ es →
      v.admission.sockets.lookup g.socket = some .refused →
      v.client = none → v.server = none → Stands g es v
  | negotiating : v.admission.sockets.lookup g.socket = some .negotiating →
      (v.client = none ∨ v.client = some g.outcome.client) → v.server = none → Stands g es v
  | settled (place : Admitting) : v.admission.sockets.lookup g.socket = some place →
      place.negotiated? = some g.outcome.server.isOk →
      v.client = some g.outcome.client → v.server = some g.outcome.server → Stands g es v

namespace Stands

theorem keep (h : Stands g es v) {v' : Encounter σ}
    (hsocket : v'.admission.sockets.lookup g.socket = v.admission.sockets.lookup g.socket)
    (hclient : v'.client = v.client) (hserver : v'.server = v.server) :
    Stands g (es ++ [e]) v' := by
  cases h with
  | ahead hplace hc hs => exact .ahead (by rwa [hsocket]) (hclient.trans hc) (hserver.trans hs)
  | dismissed hmem hplace hc hs =>
    exact .dismissed (List.mem_append_left _ hmem) (hsocket.trans hplace) (hclient.trans hc)
      (hserver.trans hs)
  | negotiating hplace hc hs =>
    exact .negotiating (hsocket.trans hplace) (by rwa [hclient]) (hserver.trans hs)
  | settled place hplace hp hc hs =>
    exact .settled place (hsocket.trans hplace) hp (hclient.trans hc) (hserver.trans hs)

theorem client (h : Stands g es v) : v.client = none ∨ v.client = some g.outcome.client := by
  cases h with
  | ahead _ hc | dismissed _ _ hc => exact Or.inl hc
  | negotiating _ hc => exact hc
  | settled _ _ _ hc => exact Or.inr hc

theorem server (h : Stands g es v) : v.server = none ∨ v.server = some g.outcome.server := by
  cases h with
  | ahead _ _ hs | dismissed _ _ _ hs | negotiating _ _ hs => exact Or.inl hs
  | settled _ _ _ _ hs => exact Or.inr hs

theorem move (h : Stands g es v) {v' : Encounter σ} {f : Admission.Event}
    (hgoes : Admission.Goes g.socket f (v.admission.sockets.lookup g.socket)
      (v'.admission.sockets.lookup g.socket))
    (hheld : ∀ passes, f = .advance g.socket passes → v.isNegotiating g = false)
    (hclient : v'.client = v.client) (hserver : v'.server = v.server) :
    Stands g (es ++ [.atListener f]) v' := by
  generalize hbefore : v.admission.sockets.lookup g.socket = before at hgoes
  generalize hafter : v'.admission.sockets.lookup g.socket = after at hgoes
  cases hgoes with
  | stays => exact h.keep (hafter.trans hbefore.symm) hclient hserver
  | comes =>
    cases h with
    | ahead _ hc hs => exact .ahead (Or.inr hafter) (hclient.trans hc) (hserver.trans hs)
    | dismissed _ hplace | negotiating hplace | settled _ hplace =>
      cases hbefore.symm.trans hplace
  | goes passes hf hnext =>
    cases h with
    | ahead hplace hc hs =>
      have hchoosing := Option.some.inj (hbefore.symm.trans (hplace.resolve_left (by simp [hbefore])))
      rw [hchoosing] at hnext
      rw [List.mem_singleton.mp hnext] at hafter
      cases passes with
      | true => exact .negotiating hafter (Or.inl (hclient.trans hc)) (hserver.trans hs)
      | false =>
        refine .dismissed ?_ hafter (hclient.trans hc) (hserver.trans hs)
        rw [hf]
        exact List.mem_append_right _ List.mem_cons_self
    | dismissed hmem hplace hc hs =>
      cases hbefore.symm.trans hplace
      rw [List.mem_singleton.mp hnext] at hafter
      exact .dismissed (List.mem_append_left _ hmem) hafter (hclient.trans hc) (hserver.trans hs)
    | negotiating hplace =>
      cases (hheld passes hf).symm.trans ((isNegotiating_iff v).mpr hplace)
    | settled place hplace hp hc hs =>
      cases hbefore.symm.trans hplace
      exact .settled _ hafter (Admitting.negotiated_next hp hnext) (hclient.trans hc)
        (hserver.trans hs)

theorem listen (h : Stands g es v) (f : Admission.Event) :
    Stands g (es ++ [.atListener f]) (v.step g (.atListener f)) := by
  have hadmission := admission_step (g := g) v (.atListener f)
  rcases hears_atListener g v f with hnone | ⟨hone, hheld⟩
  · refine h.keep ?_ rfl rfl
    rw [hadmission, hnone]
    rfl
  · have hgoes := Admission.goes_step v.admission g.socket f
    rw [hone] at hadmission
    refine h.move ?_ hheld rfl rfl
    rw [hadmission]
    exact hgoes

/-- The negotiation ends for the server, and the task of the socket goes on. -/
theorem settleServer (h : Stands g es v) :
    Stands g (es ++ [.settle .server]) (v.step g (.settle .server)) := by
  simp only [Encounter.step]
  split
  · rename_i hready
    have hplace := (isNegotiating_iff v).mp hready.1
    have hheard : v.hears g (.settle .server) = [.advance g.socket g.outcome.server.isOk] :=
      if_pos hready
    have hgoes := Admission.lookup_stepSocket hplace g.outcome.server.isOk
    obtain ⟨after, hnext, hafter⟩ := hgoes
    have hclient : v.client = some g.outcome.client := by
      cases h with
      | negotiating _ hc _ =>
        refine hc.resolve_left fun hnone => ?_
        rw [hnone] at hready
        cases hready.2
      | ahead _ hc _ | dismissed _ _ hc _ =>
        rw [hc] at hready
        cases hready.2
      | settled _ _ _ hc _ => exact hc
    refine .settled after ?_ ?_ hclient rfl
    · change (v.admission.run (v.hears g (.settle .server))).sockets.lookup g.socket = _
      rw [hheard]
      simp only [Admission.run, List.foldl_cons, List.foldl_nil, Admission.step, hplace]
      exact hafter
    · rw [List.mem_singleton.mp hnext]
      cases g.outcome.server.isOk <;> rfl
  · exact h.keep rfl rfl rfl

theorem settleClient (h : Stands g es v) :
    Stands g (es ++ [.settle .client]) (v.step g (.settle .client)) := by
  simp only [Encounter.step]
  split
  · rename_i hready
    have hplace := (isNegotiating_iff v).mp hready.1
    cases h with
    | negotiating _ _ hs =>
      refine .negotiating ?_ (Or.inr (enter_client g v)) ((enter_server g v).trans hs)
      rwa [enter_admission]
    | ahead hother | dismissed _ hother =>
      rw [hplace] at hother
      simp at hother
    | settled place hother hp =>
      cases hplace.symm.trans hother
      cases hp
  · exact h.keep rfl rfl rfl

theorem step (h : Stands g es v) (e : Event) : Stands g (es ++ [e]) (v.step g e) := by
  cases e with
  | atListener f => exact h.listen f
  | settle side =>
    cases side with
    | client => exact h.settleClient
    | server => exact h.settleServer
  | own e =>
    simp only [Encounter.step]
    split
    · split <;> exact h.keep rfl rfl rfl
    · exact h.keep rfl rfl rfl

end Stands

theorem stands_run (g : Guest κ σ) (es : List Event) : Stands g es ((new g).run g es) := by
  induction es using List.reverseRecOn with
  | nil => exact .ahead (Or.inl rfl) rfl rfl
  | append_singleton es e ih =>
    rw [run_concat]
    exact ih.step e

end Encounter

end Rpc
