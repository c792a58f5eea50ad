import Rpc.Listener.Basic

/-! # Starting and stopping a listener

A listener is marked as started before its address is bound, and a bind that fails leaves the mark.
So the first call decides: whether it is a start, and what its bind gives. A later start is refused
as a second one even if the first has failed, so a listener is not as it was after a start that
failed, and cannot be tried again. The calls are taken one after the other; it does not matter
through which clone of the listener they come.
-/
namespace Rpc.Listener

open Net

def Event.isStop : Event → Bool
  | .stop => true
  | .start _ => false

/-- A call has left its mark on the listener. -/
def Settled (l : Listener) : Prop := l.stopped = true ∨ l.started = true

section Run

variable {l : Listener}

theorem run_append (l : Listener) (front back : List Event) :
    l.run (front ++ back) =
      ((l.run front).1 ++ ((l.run front).2.run back).1, ((l.run front).2.run back).2) := by
  induction front generalizing l with
  | nil => rfl
  | cons e front ih => simp only [List.cons_append, run, ih]

theorem length_results (l : Listener) (es : List Event) : (l.run es).1.length = es.length := by
  induction es generalizing l with
  | nil => rfl
  | cons e es ih => rw [run, List.length_cons, List.length_cons, ih]

theorem settled_step (a : Socket) (e : Event) : ((new a).step e).2.Settled := by
  cases e with
  | stop => exact .inl rfl
  | start bind => cases bind <;> exact .inr rfl

theorem Settled.start (h : l.Settled) (bind : Except IoFault Socket) :
    l.start bind =
      (.error (if l.stopped then .connectionClosed else .protocol "listener already started"),
        l) := by
  unfold Listener.start
  by_cases hstopped : l.stopped
  · rw [if_pos hstopped, if_pos hstopped]
  · rw [if_neg hstopped, if_neg hstopped, if_pos (h.resolve_left hstopped)]

theorem Settled.step (h : l.Settled) (e : Event) :
    (l.step e).2 = { l with stopped := l.stopped || e.isStop } := by
  cases e with
  | stop => simp only [Listener.step, stop, Event.isStop, Bool.or_true]
  | start bind => simp only [Listener.step, h.start, Event.isStop, Bool.or_false]

theorem Settled.stopping (h : l.Settled) (b : Bool) :
    Settled { l with stopped := l.stopped || b } :=
  h.imp (fun hstopped => by simp only [hstopped, Bool.true_or]) id

theorem Settled.run (h : l.Settled) (es : List Event) :
    (l.run es).2 = { l with stopped := l.stopped || es.any Event.isStop } := by
  induction es generalizing l with
  | nil => simp only [Listener.run, List.any_nil, Bool.or_false]
  | cons e es ih =>
    rw [Listener.run, h.step, ih (h.stopping _), List.any_cons, Bool.or_assoc]

end Run

def ofBind : Except IoFault Socket → Except TransportError Socket
  | .ok b => .ok b
  | .error fault => .error (.io fault)

/-- What a start returns, told from the calls before it and from what its bind gives. -/
def told (front : List Event) (bind : Except IoFault Socket) : Except TransportError Socket :=
  if front.any Event.isStop then .error .connectionClosed
  else if front.isEmpty then ofBind bind
  else .error (.protocol "listener already started")

section Told

variable {front : List Event} {bind : Except IoFault Socket}

theorem start_after (a : Socket) (front : List Event) (bind : Except IoFault Socket) :
    (((new a).run front).2.start bind).1 = told front bind := by
  cases front with
  | nil => cases bind <;> rfl
  | cons e front =>
    have hsettled := settled_step a e
    have hstopped : ((new a).step e).2.stopped = e.isStop := by
      cases e with
      | stop => rfl
      | start bind => cases bind <;> rfl
    rw [run, hsettled.run front, (hsettled.stopping _).start, hstopped, told, List.any_cons]
    cases e.isStop || front.any Event.isStop <;> rfl

theorem told_eq_ok_iff {b : Socket} : told front bind = .ok b ↔ front = [] ∧ bind = .ok b := by
  cases front with
  | nil => cases bind <;> simp [told, ofBind]
  | cons e front =>
    unfold told
    split <;> simp

theorem of_told_eq_io {fault : IoFault} (h : told front bind = .error (.io fault)) :
    front = [] ∧ bind = .error fault := by
  cases front with
  | nil => cases bind <;> simp_all [told, ofBind]
  | cons e front =>
    unfold told at h
    split at h <;> simp at h

theorem of_told_eq_protocol {text : String} (h : told front bind = .error (.protocol text)) :
    front.any Event.isStop = false ∧ front ≠ [] := by
  cases front with
  | nil => cases bind <;> cases h
  | cons e front =>
    unfold told at h
    split at h
    · cases h
    · rename_i hopen
      exact ⟨Bool.eq_false_iff.mpr hopen, List.cons_ne_nil e front⟩

end Told

/-! ## What callers may expect -/

/-- In this run of a new listener, the start behind these calls returns this. -/
def Returns (a : Socket) (es front : List Event) (bind : Except IoFault Socket)
    (r : Except TransportError Socket) : Prop :=
  (∃ back, es = front ++ .start bind :: back) ∧
    ((new a).run es).1[front.length]? = some (some r)

/-- What callers of a listener may expect who see what its starts return. -/
structure Retriable (a : Socket) (es : List Event) : Prop where
  /-- A start is refused as a second one only behind one that succeeded. -/
  refused : ∀ front bind text, Returns a es front bind (.error (.protocol text)) →
    ∃ earlier first b, earlier.length < front.length ∧ Returns a es earlier first (.ok b)
  /-- A start that can bind succeeds, if no stop came before it and no start that succeeded. -/
  retried : ∀ front b back, es = front ++ .start (.ok b) :: back →
    front.any Event.isStop = false →
    (∀ earlier first c, Returns a es earlier first (.ok c) → front.length ≤ earlier.length) →
    Returns a es front (.ok b) (.ok b)
  once : ∀ front bind b front' bind' b', Returns a es front bind (.ok b) →
    Returns a es front' bind' (.ok b') → front = front'
  closed : ∀ front bind r, Returns a es front bind r → front.any Event.isStop = true →
    r = .error .connectionClosed

/-- What callers of a listener may expect who also look at the listener. -/
structure Obliging (a : Socket) (es : List Event) : Prop extends Retriable a es where
  /-- A start whose bind fails leaves the listener as it was. -/
  unharmed : ∀ front bind fault, Returns a es front bind (.error (.io fault)) →
    ((new a).run (front ++ [.start bind])).2 = ((new a).run front).2

structure Told (a : Socket) (es : List Event) : Prop where
  returns : ∀ front bind back, es = front ++ .start bind :: back →
    Returns a es front bind (told front bind)
  /-- The listener reports the address that the first call bound, if it did, and otherwise the one
  that it was made for. -/
  address : ((new a).run es).2.address =
    match es with
    | .start (.ok b) :: _ => b
    | _ => a

section Expectations

variable {a : Socket} {es front : List Event} {bind : Except IoFault Socket}

theorem returns_iff {r : Except TransportError Socket} :
    Returns a es front bind r ↔
      (∃ back, es = front ++ .start bind :: back) ∧ told front bind = r := by
  refine and_congr_right ?_
  rintro ⟨back, rfl⟩
  have hlength : front.length = ((new a).run front).1.length := (length_results _ _).symm
  rw [run_append, hlength, List.getElem?_append_right (Nat.le_refl _), Nat.sub_self, run,
    List.getElem?_cons_zero, Option.some_inj, step, Option.some_inj, start_after]

theorem returns_told {back : List Event} (h : es = front ++ .start bind :: back) :
    Returns a es front bind (told front bind) := returns_iff.mpr ⟨⟨back, h⟩, rfl⟩

/-- Only the first call can be a start that succeeds. -/
theorem returns_ok_iff {b : Socket} :
    Returns a es front bind (.ok b) ↔
      front = [] ∧ bind = .ok b ∧ ∃ back, es = .start (.ok b) :: back := by
  rw [returns_iff, told_eq_ok_iff]
  constructor
  · rintro ⟨⟨back, rfl⟩, rfl, rfl⟩
    exact ⟨rfl, rfl, back, rfl⟩
  · rintro ⟨rfl, rfl, back, rfl⟩
    exact ⟨⟨back, rfl⟩, rfl, rfl⟩

theorem told_run (a : Socket) (es : List Event) : Told a es := by
  refine ⟨fun front bind back h => returns_told h, ?_⟩
  cases es with
  | nil => rfl
  | cons e es =>
    rw [run, (settled_step a e).run es]
    cases e with
    | stop => rfl
    | start bind => cases bind <;> rfl

/-- The calls do not begin with a start that fails and a second start. -/
def TriedOnce (es : List Event) : Prop :=
  ∀ fault bind rest, es ≠ .start (.error fault) :: .start bind :: rest

/-- If some calls come before a start and none of them is a stop, the first of them has succeeded,
unless it failed and the next one was a start again. -/
theorem TriedOnce.first {back : List Event} (h : TriedOnce es)
    (hes : es = front ++ .start bind :: back) (hopen : front.any Event.isStop = false)
    (hne : front ≠ []) : ∃ b, Returns a es [] (.ok b) (.ok b) := by
  cases front with
  | nil => exact absurd rfl hne
  | cons e front =>
    rw [List.any_cons, Bool.or_eq_false_iff] at hopen
    cases e with
    | stop => cases hopen.1
    | start first =>
      cases first with
      | ok b => exact ⟨b, returns_ok_iff.mpr ⟨rfl, rfl, _, hes⟩⟩
      | error fault =>
        cases front with
        | nil => exact absurd hes (h fault bind back)
        | cons e' front =>
          cases e' with
          | stop => cases hopen.2
          | start second => exact absurd hes (h fault second _)

theorem TriedOnce.retriable (h : TriedOnce es) : Retriable a es := by
  constructor
  case refused =>
    intro front bind text hreturns
    obtain ⟨⟨back, hes⟩, htold⟩ := returns_iff.mp hreturns
    obtain ⟨hopen, hne⟩ := of_told_eq_protocol htold
    obtain ⟨b, hfirst⟩ := h.first (a := a) hes hopen hne
    exact ⟨[], .ok b, b, List.length_pos_iff.mpr hne, hfirst⟩
  case retried =>
    intro front b back hes hopen hnone
    by_cases hnil : front = []
    · subst hnil
      exact returns_ok_iff.mpr ⟨rfl, rfl, back, hes⟩
    · obtain ⟨c, hfirst⟩ := h.first (a := a) hes hopen hnil
      have hzero := hnone [] _ c hfirst
      exact absurd (List.length_eq_zero_iff.mp (Nat.le_zero.mp hzero)) hnil
  case once =>
    intro front bind b front' bind' b' hok hok'
    exact (returns_ok_iff.mp hok).1.trans (returns_ok_iff.mp hok').1.symm
  case closed =>
    intro front bind r hreturns hstop
    rw [← (returns_iff.mp hreturns).2, told, if_pos hstop]

theorem Retriable.triedOnce (h : Retriable a es) : TriedOnce es := by
  rintro fault bind rest rfl
  have hreturns : Returns a (.start (.error fault) :: .start bind :: rest) [.start (.error fault)]
      bind (.error (.protocol "listener already started")) := returns_told rfl
  obtain ⟨earlier, first, b, -, hok⟩ := h.refused _ _ _ hreturns
  obtain ⟨-, -, back, hes⟩ := returns_ok_iff.mp hok
  cases hes

theorem retriable_iff : Retriable a es ↔ TriedOnce es := ⟨Retriable.triedOnce, TriedOnce.retriable⟩

/-- A start whose bind fails sets the mark. -/
theorem obliging_iff_first : Obliging a es ↔ ∀ fault rest, es ≠ .start (.error fault) :: rest := by
  constructor
  · rintro h fault rest rfl
    have hsame := h.unharmed [] (.error fault) fault (returns_told rfl)
    cases congrArg started hsame
  · intro h
    have hretriable : Retriable a es := retriable_iff.mpr fun fault bind rest => h fault _
    refine ⟨hretriable, fun front bind fault hreturns => ?_⟩
    obtain ⟨⟨back, hes⟩, htold⟩ := returns_iff.mp hreturns
    obtain ⟨rfl, rfl⟩ := of_told_eq_io htold
    exact absurd hes (h fault back)

end Expectations

/-- A start returns what the calls before it say: the listener is closed behind a stop, and taken as
started behind any other call; only if there was none does its bind decide. So its callers see what
they may expect exactly if none of them tries again behind a start that failed, and the listener
itself is as they may expect exactly if no start has failed. -/
theorem obliging_iff (a : Socket) (es : List Event) :
    (Obliging a es ↔ ∀ fault rest, es ≠ .start (.error fault) :: rest) ∧
    (Retriable a es ↔ TriedOnce es) ∧ Told a es :=
  ⟨obliging_iff_first, retriable_iff, told_run a es⟩

/-- The address is taken at the first call, and free at the second. -/
def unluckyRun : List Event :=
  [.start (.error ⟨.other, "address in use"⟩), .start (.ok ⟨Ip.loopback, 4000, 0⟩)]

theorem unluckyRun_refused :
    ((new ⟨Ip.loopback, 4000, 0⟩).run unluckyRun).1 =
      [some (.error (.io ⟨.other, "address in use"⟩)),
        some (.error (.protocol "listener already started"))] ∧
    ((new ⟨Ip.loopback, 4000, 0⟩).run unluckyRun).2.bound = none ∧
    ¬ Retriable ⟨Ip.loopback, 4000, 0⟩ unluckyRun := by
  refine ⟨rfl, rfl, fun h => ?_⟩
  exact h.triedOnce _ _ _ rfl

end Rpc.Listener
