import Rpc.Proofs.Connection.Effort
import Rpc.Proofs.Listener.Encounters

/-! # A client and its listener come to rest

Each step that somebody has to take leaves fewer of them: the task of the socket gets on, an end
comes out of the negotiation, or the connection of the client does something that it had to do. So
from wherever the two stand, finitely many of these steps leave nothing to do.
-/
namespace Rpc

/-! ## What the task of a socket has ahead -/

/-- How many steps the start of a server's connection has ahead. -/
def Starting.ahead : Starting → Nat
  | .idle => 3
  | .taking => 2
  | .marking => 1
  | .greeting | .running | .ended => 0

/-- How many steps a task has ahead at most. -/
def Admitting.ahead (start : Starting) : Admitting → Nat
  | choosing => 14
  | negotiating => 13
  | looking => 12
  | making => 11
  | listing => 10
  | counting => 9
  | starting => start.ahead + 5
  | lookingAgain => 4
  | stopping => 3
  | waiting | failing => 2
  | ending | leaving => 1
  | refused | turnedAway | gone => 0

theorem Starting.ahead_le (s : Starting) : s.ahead ≤ 3 := by cases s <;> decide

theorem Life.ahead_start {l : Life} (hside : l.side = .server)
    (hs : l.starting = .idle ∨ l.starting = .taking ∨ l.starting = .marking) :
    (l.step .start).starting.ahead < l.starting.ahead := by
  simp only [step, stepStart, hside]
  rcases hs with hs | hs | hs <;> simp only [hs]
  · decide
  · split
    · exact Nat.zero_lt_succ 1
    · exact Nat.lt_succ_self 1
  · exact Nat.zero_lt_succ 0

namespace Admission

variable {a a' : Admission} {socket : Nat} {g after : Admitting} {l : Life}

def ahead (a : Admission) (socket : Nat) : Nat :=
  (a.sockets.lookup socket).elim 15 fun g =>
    g.ahead ((a.life? socket).elim .idle Life.starting)

theorem ahead_setSocket (hg : a.sockets.lookup socket = some g) (hsame : a'.sockets = a.sockets)
    (hless : ∀ s s', after.ahead s < g.ahead s') :
    (a'.setSocket socket after).ahead socket < a.ahead socket := by
  have hafter : (a'.setSocket socket after).sockets.lookup socket = some after := by
    rw [lookup_setSocket, if_pos rfl, hsame, hg]
    rfl
  unfold ahead
  rw [hafter, hg]
  exact hless _ _

/-- The start of a connection gets on, and so does the task of its socket. -/
theorem ahead_goOn (hkept : Kept a) (hg : a.sockets.lookup socket = some .starting) :
    (a.goOn socket).ahead socket < a.ahead socket := by
  obtain ⟨l, hl, hf⟩ := (hkept.consistent socket).exists_life hg rfl
  have hbefore : a.ahead socket = l.starting.ahead + 5 := by
    unfold ahead
    rw [hg, hl]
    rfl
  have hstays : ∀ l' : Life, l'.starting.ahead < l.starting.ahead →
      (a.updateLife socket fun _ => l').ahead socket < a.ahead socket := by
    intro l' hless
    have hlife : (a.updateLife socket fun _ => l').life? socket = some l' := by
      rw [life?_updateLife, if_pos rfl, hl]
      rfl
    have hsocket : (a.updateLife socket fun _ => l').sockets.lookup socket = some .starting := hg
    rw [hbefore, ahead, hsocket, hlife]
    exact Nat.add_lt_add_right hless 5
  have hleaves : ∀ {a' : Admission} {after : Admitting}, a'.sockets = a.sockets →
      (∀ s, after.ahead s ≤ 4) → (a'.setSocket socket after).ahead socket < a.ahead socket :=
    fun hsame hafter => ahead_setSocket hg hsame fun s s' =>
      Nat.lt_of_le_of_lt (hafter s) (Nat.lt_of_lt_of_le (by decide) (Nat.le_add_left 5 _))
  simp only [goOn, hl]
  split
  · exact hleaves rfl fun _ => Nat.le_refl 4
  · exact hleaves rfl fun _ => by simp [Admitting.ahead]
  · exact hstays _ (Life.ahead_start hf.undropped.side hf.allows)

/-- A task that passes everything gets on, or waits for its connection to be gone. -/
theorem ahead_stepSocket (hkept : Kept a) (hg : a.sockets.lookup socket = some g) :
    a.stepSocket socket true g = a ∨ (a.stepSocket socket true g).ahead socket < a.ahead socket := by
  have hset : ∀ {a' : Admission} {after : Admitting}, a'.sockets = a.sockets →
      (∀ s s', after.ahead s < g.ahead s') →
        (a'.setSocket socket after).ahead socket < a.ahead socket := fun hsame hless =>
    ahead_setSocket hg hsame hless
  cases g with
  | choosing | negotiating | making | listing | failing | leaving =>
    exact Or.inr (hset rfl fun _ _ => by simp [Admitting.ahead])
  | looking =>
    refine Or.inr (hset rfl fun _ _ => ?_)
    split <;> simp [Admitting.ahead]
  | counting =>
    refine Or.inr (hset rfl fun s _ => ?_)
    have := s.ahead_le
    simp only [Admitting.ahead]
    omega
  | starting => exact Or.inr (ahead_goOn hkept hg)
  | ending | stopping | waiting =>
    simp only [stepSocket]
    split
    · exact Or.inr (hset rfl fun _ _ => by simp [Admitting.ahead])
    · exact Or.inl rfl
  | lookingAgain =>
    simp only [stepSocket]
    split <;> exact Or.inr (hset rfl fun _ _ => by simp [Admitting.ahead])
  | refused | turnedAway | gone => exact Or.inl rfl

theorem ahead_accept (a : Admission) (socket : Nat) :
    a.step (.accept socket) = a ∨ (a.step (.accept socket)).ahead socket < a.ahead socket := by
  simp only [step]
  split
  · rename_i hfree
    have hnone : a.sockets.lookup socket = none := Option.isNone_iff_eq_none.mp hfree.2
    right
    unfold ahead
    rw [lookup_concat, hnone, if_pos rfl]
    exact Nat.lt_succ_self 14
  · exact Or.inl rfl

end Admission

namespace Encounter

variable {κ σ : Type} {g : Guest κ σ} {v : Encounter σ} {es : List Event} {e : Event}

/-- What the client and the task of its socket have to do at most. -/
def effort (g : Guest κ σ) (v : Encounter σ) : Nat :=
  v.admission.ahead g.socket + (if v.client.isNone then 7 else 0) + v.connection.effort

theorem act_effort {p : Profile σ} {e : Rpc.Event}
    (h : v.connection.step p e = (v.connection, []) ∨
      (v.connection.step p e).1.effort < v.connection.effort) :
    v.act p e = v ∨ (v.act p e).effort g < v.effort g := by
  rcases h with h | h
  · left
    simp only [act, h, List.append_nil]
  · exact Or.inr (Nat.add_lt_add_left h _)

theorem enter_effort (hnone : v.client.isNone = true) : (v.enter g).effort g < v.effort g := by
  have hbefore : v.effort g = v.admission.ahead g.socket + 7 + v.connection.effort := by
    rw [effort, if_pos hnone]
  have hclient : (v.enter g).client.isNone = false := by
    rw [enter_client]
    rfl
  rw [hbefore, effort, enter_admission, hclient, if_neg Bool.false_ne_true]
  have hconnection : (v.enter g).connection.effort ≤ v.connection.effort + 6 := by
    unfold enter
    split
    · exact Connection.start_effort
    · exact Nat.le_add_right _ _
  omega

/-- A task does nothing, or it has less ahead. -/
theorem listen_effort {a : Admission} {server : Option (Except TransportError Tls.Facts)}
    (hless : a.ahead g.socket < v.admission.ahead g.socket) :
    ({ v with admission := a, server } : Encounter σ).effort g < v.effort g :=
  Nat.add_lt_add_right (Nat.add_lt_add_right hless _) _

theorem advance_effort (hkept : Admission.Kept v.admission) :
    v.step g (.atListener (.advance g.socket true)) = v ∨
      (v.step g (.atListener (.advance g.socket true))).effort g < v.effort g := by
  have hstep : v.step g (.atListener (.advance g.socket true)) =
      { v with admission := v.admission.run (v.hears g (.atListener (.advance g.socket true))) } :=
    rfl
  rw [hstep]
  simp only [hears, true_and]
  split
  · exact Or.inl rfl
  · simp only [Admission.run, List.foldl_cons, List.foldl_nil, Admission.step]
    split
    · rename_i place hplace
      rcases Admission.ahead_stepSocket hkept hplace with hsame | hless
      · exact Or.inl (by rw [hsame])
      · exact Or.inr (listen_effort hless)
    · exact Or.inl rfl

theorem accept_effort : v.step g (.atListener (.accept g.socket)) = v ∨
    (v.step g (.atListener (.accept g.socket))).effort g < v.effort g := by
  have hstep : v.step g (.atListener (.accept g.socket)) =
      { v with admission := v.admission.step (.accept g.socket) } := rfl
  rw [hstep]
  rcases Admission.ahead_accept v.admission g.socket with hsame | hless
  · exact Or.inl (by rw [hsame])
  · exact Or.inr (listen_effort hless)

theorem settle_effort (side : Side) :
    v.step g (.settle side) = v ∨ (v.step g (.settle side)).effort g < v.effort g := by
  cases side with
  | client =>
    simp only [step]
    split
    · exact Or.inr (enter_effort (by simp_all))
    · exact Or.inl rfl
  | server =>
    simp only [step]
    split
    · rename_i hready
      right
      have hplace := (isNegotiating_iff v).mp hready.1
      have hheard : v.hears g (.settle .server) = [.advance g.socket g.outcome.server.isOk] :=
        if_pos hready
      refine listen_effort ?_
      simp only [hheard, Admission.run, List.foldl_cons, List.foldl_nil, Admission.step, hplace,
        Admission.stepSocket]
      split
      · exact Admission.ahead_setSocket hplace rfl fun _ _ => by simp [Admitting.ahead]
      · exact Admission.ahead_setSocket hplace rfl fun _ _ => by simp [Admitting.ahead]
    · exact Or.inl rfl

theorem own_effort (hcallers : (v.connection.calls.map Prod.fst).Nodup) {e : Rpc.Event}
    (he : (∃ w, e = .write w) ∨ e = .arrive .ended) :
    v.step g (.own e) = v ∨ (v.step g (.own e)).effort g < v.effort g := by
  simp only [step]
  split
  · split
    · refine act_effort ?_
      rcases he with ⟨w, rfl⟩ | rfl
      · cases hw : v.connection.writers.lookup w with
        | none => exact Or.inl (by simp only [Connection.step, Connection.write, hw])
        | some writer => exact Or.inr (Connection.write_effort hcallers hw)
      · cases hready : v.connection.loop.isReady with
        | true =>
          exact Or.inr (Connection.ended_effort hready)
        | false =>
          left
          simp only [Connection.step, Connection.arrive]
          cases hl : v.connection.loop <;> simp [hl, Loop.isReady] at hready ⊢
    · exact Or.inl rfl
  · exact Or.inl rfl

/-- A step that somebody has to take changes nothing, or leaves less to do. -/
theorem step_effort (hkept : Admission.Kept v.admission)
    (hcallers : (v.connection.calls.map Prod.fst).Nodup) (hdue : v.IsDue g e) :
    e.isCalm g.socket = true ∧ (v.step g e = v ∨ (v.step g e).effort g < v.effort g) := by
  cases e with
  | atListener f =>
    cases f with
    | accept socket =>
      have hsocket : socket = g.socket := hdue
      rw [hsocket]
      exact ⟨rfl, accept_effort⟩
    | advance socket passes =>
      obtain ⟨rfl, rfl⟩ := hdue
      exact ⟨by simp [Event.isCalm], advance_effort hkept⟩
    | loopEnds | beginStop | stop | gather | handle | live => cases hdue
  | settle side => exact ⟨rfl, settle_effort side⟩
  | own e =>
    cases e with
    | write w => exact ⟨rfl, own_effort hcallers (Or.inl ⟨w, rfl⟩)⟩
    | arrive incoming =>
      cases incoming with
      | ended => exact ⟨rfl, own_effort hcallers (Or.inr rfl)⟩
      | frame | malformed | broken => cases hdue
    | start | call | advance | expire | cancel | abandon | failWrite | answer | handshakeTimeout
    | stop => cases hdue

theorem callers_run (g : Guest κ σ) (es : List Event) :
    (((new g).run g es).connection.calls.map Prod.fst).Nodup := by
  induction es using List.reverseRecOn with
  | nil => exact List.nodup_nil
  | append_singleton es e ih =>
    rw [run_concat]
    generalize (new g).run g es = v at ih
    cases e with
    | atListener f => exact ih
    | settle side =>
      cases side with
      | client =>
        simp only [step]
        split
        · unfold enter
          split
          · exact Connection.callers_step (e := .start) ih
          · exact ih
        · exact ih
      | server =>
        simp only [step]
        split <;> exact ih
    | own e =>
      simp only [step]
      split
      · split
        · exact Connection.callers_step ih
        · exact ih
      · exact ih

/-- From wherever a client and its listener stand, they come to rest. -/
theorem exists_quiet (g : Guest κ σ) (es : List Event) :
    ∃ more, (∀ e ∈ more, e.isCalm g.socket = true) ∧
      ((new g).run g (es ++ more)).IsQuiet g := by
  -- Either nothing is left to do, or a step that is due leaves less of it.
  induction heffort : ((new g).run g es).effort g using Nat.strongRecOn generalizing es with
  | ind n ih =>
    by_cases hquiet : ((new g).run g es).IsQuiet g
    · refine ⟨[], ⟨fun _ he => absurd he List.not_mem_nil, ?_⟩⟩
      rwa [List.append_nil]
    · obtain ⟨e, hdue, hmoves⟩ : ∃ e, ((new g).run g es).IsDue g e ∧
          ((new g).run g es).step g e ≠ (new g).run g es := by
        simpa [IsQuiet] using hquiet
      obtain ⟨hcalm, heither⟩ := step_effort (kept_run g es) (callers_run g es) hdue
      have hless := heither.resolve_left hmoves
      rw [← run_concat, heffort] at hless
      obtain ⟨more, hall, hrest⟩ := ih _ hless (es ++ [e]) rfl
      refine ⟨e :: more, ?_, ?_⟩
      · exact List.forall_mem_cons.mpr ⟨hcalm, hall⟩
      · rwa [List.append_cons]

end Encounter

end Rpc
