import Rpc.Proofs.Archive.ReadBack
import Rpc.Proofs.Connection.Frames
import Rpc.Proofs.Connection.Outputs

/-! # Requests and their answers

Every request that the receive loop takes in opens a conversation, which is closed by the answer of
its handler, or by the answer that turns it down. The account of a run sets the requests on one side
and what became of them on the other: still open, answered on the wire, lost with a failed write,
refused as malformed, or left without an answer that fits the limit. Each step keeps the two sides
equal, number by number.
-/
namespace Rpc

open Message

namespace Frame

def fits (limit : Nat) (f : Frame) : Bool := (f.write limit).isOk

end Frame

namespace Connection

variable {σ : Type} (p : Profile σ) (c : Connection σ)

/-- The answers that an event calls for, each with its conversation: that of a handler, and that to
a request which the layers refused. Where there is no frame, the answer could not be archived. -/
def dueAnswers : Event → List (UInt64 × Option Frame)
  | .answer handler result =>
    match c.serving.lookup handler with
    | some n => [(n, (finalAnswer p.stack n result c.surroundings).1)]
    | none => []
  | .arrive (.frame f) =>
    if c.loop = .reading then
      match react p.side p.stack f c.surroundings with
      | (.turnDown n fault, s) => [(n, (finalAnswer p.stack n (.error fault) s).1)]
      | _ => []
    else []
  | _ => []

def queuedAnswer? (limit : Nat) (d : UInt64 × Option Frame) : Option UInt64 :=
  if d.2.any (·.fits limit) then some d.1 else none

def lostAnswer? (limit : Nat) (d : UInt64 × Option Frame) : Option UInt64 :=
  if d.2.any (·.fits limit) then none else some d.1

/-- The requests among the frames that an event brings to the receive loop. -/
def requests (e : Event) : List UInt64 := (c.takes p e).filterMap (·.1.asked?)

def malformedRequests (e : Event) : List UInt64 :=
  (c.takes p e).filterMap fun t => if t.1.isLegible then none else t.1.asked?

/-- The conversations that the frames of some writers answer. -/
def answersOf (writers : List (Nat × Writer)) : List UInt64 :=
  writers.filterMap (·.2.frame.answered?)

/-- The conversations that wait for their handlers, or for an answer to be written. -/
def openRequests : List UInt64 := c.serving.map (·.2) ++ answersOf c.writers

variable {p c}

theorem count_requests (n : UInt64) (e : Event) :
    (c.requests p e).count n =
      ((c.takes p e).filterMap (·.2.opened?)).count n + (c.malformedRequests p e).count n := by
  unfold requests malformedRequests
  rcases takes_cases (p := p) (c := c) e with htakes | ⟨f, -, -, htakes⟩
  · simp [htakes]
  · simp only [htakes, List.filterMap_cons, List.filterMap_nil, react_opened?]
    cases f.isLegible with
    | true => simp
    | false => simp

/-- A conversation that was open or is opened waits for its handler, or its answer is due. -/
theorem count_serving (n : UInt64) (hs : KeysBelow c.serving c.nextHandler) (e : Event) :
    (c.serving.map (·.2)).count n + ((c.takes p e).filterMap (·.2.opened?)).count n =
      ((c.step p e).1.serving.map (·.2)).count n + ((c.dueAnswers p e).map (·.1)).count n := by
  rw [(handlers_step (p := p) (c := c) e).1]
  cases e with
  | answer handler result =>
    cases h : c.serving.lookup handler with
    | none =>
      simp only [takes, busyHandlers, dueAnswers, h, filter_ne_eq_self h, List.filterMap_nil,
        List.append_nil, List.map_nil]
    | some m =>
      have hperm := ((perm_of_lookup hs.nodup h).map (·.2)).count_eq n
      simp only [takes, busyHandlers, dueAnswers, h, List.filterMap_nil, List.append_nil,
        List.count_nil, List.map_cons, List.map_nil, List.count_cons, hperm]
      omega
  | arrive incoming =>
    cases incoming with
    | frame f =>
      by_cases hl : c.loop = .reading
      · simp only [takes_frame hl, busyHandlers, dueAnswers, if_pos hl]
        obtain ⟨reaction, s⟩ := react p.side p.stack f c.surroundings
        cases reaction <;>
          simp [Reaction.opened?, Reaction.serve?, List.count_append]
      · simp [takes_of_ne_reading hl, busyHandlers, dueAnswers, hl]
    | malformed e => simp [takes, busyHandlers, dueAnswers]
    | broken fault => simp [takes, busyHandlers, dueAnswers]
    | ended => simp [takes, busyHandlers, dueAnswers]
  | _ => simp [takes, busyHandlers, dueAnswers]

theorem count_dueAnswers (n : UInt64) (e : Event) :
    ((c.dueAnswers p e).map (·.1)).count n =
      ((c.dueAnswers p e).filterMap (queuedAnswer? p.limit)).count n +
        ((c.dueAnswers p e).filterMap (lostAnswer? p.limit)).count n := by
  induction c.dueAnswers p e with
  | nil => rfl
  | cons d ds ih =>
    simp only [List.map_cons, List.filterMap_cons, queuedAnswer?, lostAnswer?] at ih ⊢
    cases d.2.any (·.fits p.limit) with
    | true =>
      simp only [if_true, List.count_cons]
      omega
    | false =>
      simp only [Bool.false_eq_true, if_false, List.count_cons]
      omega

theorem not_answered_of_enlists {e : Event} {purpose : Purpose} {f : Frame}
    (h : Enlists p c e purpose f) (hdue : c.dueAnswers p e = []) : f.answered? = none := by
  cases h with
  | call hk hn hf =>
    rename_i k n
    have hkind := (callFrame_kind hf).1
    rw [Frame.answered?, hkind, Call.kind]
    split <;> rfl
  | answer hn hf => simp [dueAnswers, hn] at hdue
  | turnDown hl hr hf => simp [dueAnswers, hl, hr] at hdue
  | notice he hf hp =>
    obtain ⟨code, -, rfl⟩ := noticeFrame_ok hf
    rfl

theorem answersOf_answer {handler : Nat} {n : UInt64} (hn : c.serving.lookup handler = some n)
    (result : Except Fault Bytes) :
    answersOf (c.step p (.answer handler result)).1.writers =
      answersOf c.writers ++
        (c.dueAnswers p (.answer handler result)).filterMap (queuedAnswer? p.limit) := by
  simp only [step, answer, dueAnswers, hn]
  cases hf : (finalAnswer p.stack n result c.surroundings).1 with
  | none => simp [queuedAnswer?]
  | some f =>
    have hanswer := finalAnswer_isAnswer hf
    simp only [enqueue]
    cases hw : f.write p.limit with
    | error e => simp [queuedAnswer?, Frame.fits, hw, Except.isOk, Except.toBool]
    | ok code =>
      simp [queuedAnswer?, Frame.fits, hw, Except.isOk, Except.toBool, answersOf, Frame.answered?,
        hanswer.1, hanswer.2]

theorem answersOf_turnDown {f : Frame} {n : UInt64} {fault : Fault} {s : σ}
    (hl : c.loop = .reading)
    (hr : react p.side p.stack f c.surroundings = (.turnDown n fault, s)) :
    answersOf (c.step p (.arrive (.frame f))).1.writers =
      answersOf c.writers ++
        (c.dueAnswers p (.arrive (.frame f))).filterMap (queuedAnswer? p.limit) := by
  simp only [step, arrive, hl, accept, hr, follow, dueAnswers, if_true]
  cases hf : (finalAnswer p.stack n (.error fault) s).1 with
  | none => simp [queuedAnswer?]
  | some g =>
    have hanswer := finalAnswer_isAnswer hf
    simp only [say, enqueue]
    cases hw : g.write p.limit with
    | error e => simp [queuedAnswer?, Frame.fits, hw, Except.isOk, Except.toBool]
    | ok code =>
      simp [queuedAnswer?, Frame.fits, hw, Except.isOk, Except.toBool, answersOf, Frame.answered?,
        hanswer.1, hanswer.2]

theorem answersOf_step (e : Event) :
    answersOf (c.step p e).1.writers = answersOf (c.waitingWriters e) ++
      (c.dueAnswers p e).filterMap (queuedAnswer? p.limit) := by
  by_cases hdue : c.dueAnswers p e = []
  · rw [hdue, List.filterMap_nil, List.append_nil]
    rcases writers_step (p := p) (c := c) e with ⟨hw, -⟩ | ⟨purpose, f, hf, -, hw, -⟩
    · rw [hw]
    · have hnone := not_answered_of_enlists hf hdue
      simp [hw, hf.waitingWriters_eq, answersOf, hnone]
  · cases e with
    | answer handler result =>
      cases hn : c.serving.lookup handler with
      | none => simp [dueAnswers, hn] at hdue
      | some n => exact answersOf_answer hn result
    | arrive incoming =>
      cases incoming with
      | frame f =>
        by_cases hl : c.loop = .reading
        · cases hr : react p.side p.stack f c.surroundings with
          | mk reaction s =>
            cases reaction with
            | turnDown n fault => exact answersOf_turnDown hl hr
            | _ => simp [dueAnswers, hl, hr] at hdue
        · simp [dueAnswers, hl] at hdue
      | _ => exact absurd rfl hdue
    | _ => exact absurd rfl hdue

theorem count_waitingWriters (n : UInt64) (hw : KeysBelow c.writers c.nextWriter) (e : Event) :
    (answersOf c.writers).count n =
      (answersOf (c.waitingWriters e)).count n + ((c.writes e).filterMap Frame.answered?).count n +
        ((c.failedWrites e).filterMap Frame.answered?).count n := by
  have hperm := ((writers_perm hw e).filterMap Frame.answered?).count_eq n
  simp only [List.filterMap_append, List.filterMap_map, List.count_append] at hperm
  simp only [answersOf]
  exact hperm.trans (Nat.add_assoc _ _ _).symm

/-- The account of a step: what was open or is asked for stays open, or is accounted for. -/
theorem account_step (n : UInt64) (hs : KeysBelow c.serving c.nextHandler)
    (hw : KeysBelow c.writers c.nextWriter) (e : Event) :
    c.openRequests.count n + (c.requests p e).count n =
      (c.step p e).1.openRequests.count n + ((c.writes e).filterMap Frame.answered?).count n +
        ((c.failedWrites e).filterMap Frame.answered?).count n + (c.malformedRequests p e).count n +
          ((c.dueAnswers p e).filterMap (lostAnswer? p.limit)).count n := by
  have hrequests := count_requests (p := p) (c := c) n e
  have hserving := count_serving (p := p) n hs e
  have hdue := count_dueAnswers (p := p) (c := c) n e
  have hwaiting := count_waitingWriters n hw e
  have hqueued := congrArg (List.count n) (answersOf_step (p := p) (c := c) e)
  rw [List.count_append] at hqueued
  simp only [openRequests, List.count_append]
  omega

theorem account_run (n : UInt64) (hs : KeysBelow c.serving c.nextHandler)
    (hw : KeysBelow c.writers c.nextWriter) (es : List Event) :
    c.openRequests.count n + (trail p (requests p) c es).count n =
      (run p c es).1.openRequests.count n +
        ((trail p writes c es).filterMap Frame.answered?).count n +
        ((trail p failedWrites c es).filterMap Frame.answered?).count n +
          (trail p (malformedRequests p) c es).count n +
          ((trail p (dueAnswers p) c es).filterMap (lostAnswer? p.limit)).count n := by
  induction es generalizing c with
  | nil => simp [trail, run]
  | cons e es ih =>
    have hstep := account_step (p := p) n hs hw e
    have hrest := ih (handlersBelow_step (p := p) (e := e) hs) (writersBelow_step hw)
    simp only [trail, run, Progress.andThen, List.filterMap_append, List.count_append]
    omega

/-- The account of a run: every request that was taken in is still open, or was answered, or its
answer failed to be written, or it was malformed, or its answer was lost. -/
theorem requests_perm (s : σ) (es : List Event) :
    (trail p (requests p) (.new p s) es).Perm
      ((run p (.new p s) es).1.openRequests ++
        (((run p (.new p s) es).2.filterMap Output.frame?).filterMap Frame.answered? ++
          ((trail p failedWrites (.new p s) es).filterMap Frame.answered? ++
            (trail p (malformedRequests p) (.new p s) es ++
              (trail p (dueAnswers p) (.new p s) es).filterMap (lostAnswer? p.limit))))) := by
  rw [List.perm_iff_count]
  intro n
  have hrun := account_run (p := p) (c := .new p s) n (.nil _) (.nil _) es
  have hopen : (Connection.new p s).openRequests.count n = 0 := rfl
  rw [frames_eq_trail]
  simp only [List.count_append]
  omega

/-! ## Answers that do not fit -/

/-- The conversation of a due response that is larger than the limit, or than its length word can
tell. -/
def oversizedResponse? (limit : Nat) (d : UInt64 × Option Frame) : Option UInt64 :=
  if d.2.any fun f => f.kind = .response && !(f.bodySize ≤ limit && f.bodySize < 4294967296) then
    some d.1
  else none

theorem dueAnswers_some {e : Event} {d : UInt64 × Option Frame} (hd : d ∈ c.dueAnswers p e)
    {f : Frame} (hf : d.2 = some f) : f.WellFormed := by
  unfold dueAnswers at hd
  split at hd
  · split at hd
    · rw [List.mem_singleton.mp hd] at hf
      exact finalAnswer_wellFormed hf
    · cases hd
  · split at hd
    · split at hd
      · rw [List.mem_singleton.mp hd] at hf
        exact finalAnswer_wellFormed hf
      · cases hd
    · cases hd
  · cases hd

theorem fits_iff (limit : Nat) {f : Frame} (hw : f.WellFormed) :
    f.fits limit = (f.bodySize ≤ limit && f.bodySize < 4294967296) := by
  rw [Bool.eq_iff_iff, Bool.and_eq_true, decide_eq_true_eq, decide_eq_true_eq]
  constructor
  · intro h
    cases hf : f.write limit with
    | error e => simp [Frame.fits, hf, Except.isOk, Except.toBool] at h
    | ok code =>
      obtain ⟨-, hl, hs, -⟩ := Frame.write_eq_ok_iff.mp hf
      exact ⟨hl, hs⟩
  · rintro ⟨hl, hs⟩
    have hf := Frame.write_eq_ok_iff.mpr ⟨hw, hl, hs, rfl⟩
    simp [Frame.fits, hf, Except.isOk, Except.toBool]

/-- If every error can be told, only responses that are too large are lost. -/
theorem lostAnswer?_eq_oversizedResponse? {e : Event} {d : UInt64 × Option Frame}
    (hd : d ∈ c.dueAnswers p e)
    (herror : d.2.any fun f => f.kind = .response || f.fits p.limit) :
    lostAnswer? p.limit d = oversizedResponse? p.limit d := by
  obtain ⟨f, hf⟩ : ∃ f, d.2 = some f := by
    cases h : d.2 with
    | none => simp [h] at herror
    | some f => exact ⟨f, rfl⟩
  have hfits := fits_iff p.limit (dueAnswers_some hd hf)
  simp only [hf, Option.any_some] at herror
  simp only [lostAnswer?, oversizedResponse?, hf, Option.any_some, ← hfits]
  cases h : f.fits p.limit with
  | true => simp
  | false =>
    rw [h, Bool.or_false] at herror
    simp [herror]

/-- When everything is settled, no answer failed to be written and every error could be told, the
requests are those answered and those whose response was too large. Each request has its one answer
exactly if there was no such response. -/
theorem answers_perm_requests_iff (s : σ) (es : List Event)
    (hlegible : ∀ t ∈ trail p (takes p) (.new p s) es, t.1.kind = .request → t.1.isLegible)
    (hwrites : (trail p failedWrites (.new p s) es).filterMap Frame.answered? = [])
    (herrors : ∀ d ∈ trail p (dueAnswers p) (.new p s) es,
      d.2.any fun f => f.kind = .response || f.fits p.limit)
    (hsettled : (run p (.new p s) es).1.openRequests = []) :
    let requests := trail p (requests p) (.new p s) es
    let answers := ((run p (.new p s) es).2.filterMap Output.frame?).filterMap Frame.answered?
    let oversized :=
      (trail p (dueAnswers p) (.new p s) es).filterMap (oversizedResponse? p.limit)
    requests.Perm (answers ++ oversized) ∧ (answers.Perm requests ↔ oversized = []) := by
  intro requests answers oversized
  have hmalformed : trail p (malformedRequests p) (.new p s) es = [] := by
    unfold malformedRequests
    rw [trail_filterMap, List.filterMap_eq_nil_iff]
    intro t ht
    cases hl : t.1.isLegible with
    | true => simp
    | false =>
      have hk : t.1.kind ≠ .request := by
        intro hk
        rw [hlegible t ht hk] at hl
        cases hl
      simp [Frame.asked?, hk]
  have hlost : (trail p (dueAnswers p) (.new p s) es).filterMap (lostAnswer? p.limit) =
      oversized := by
    refine List.filterMap_congr fun d hd => ?_
    obtain ⟨front, e, back, -, hmem⟩ := mem_trail_iff.mp hd
    exact lostAnswer?_eq_oversizedResponse? hmem (herrors d hd)
  have hperm : requests.Perm (answers ++ oversized) := by
    have h := requests_perm (p := p) s es
    rw [hsettled, hwrites, hmalformed, hlost] at h
    exact h
  refine ⟨hperm, fun h => ?_, fun h => ?_⟩
  · have hlength := (h.trans hperm).length_eq
    rw [List.length_append] at hlength
    exact List.length_eq_zero_iff.mp (by omega)
  · rw [h, List.append_nil] at hperm
    exact hperm.symm

def smallServer : Profile Unit := ⟨.server, 100, none, false⟩

def plainRequest (n : UInt64) : Frame := .message n .request none (some (List.replicate 8 0xff)) []

/-- Two requests, of which one is answered and the other's response has a hundred octets. -/
def lopsidedRun : List Event :=
  [.start, .arrive (.frame (plainRequest 1)), .arrive (.frame (plainRequest 3)),
    .answer 0 (.ok [7]), .answer 1 (.ok (List.replicate 100 0)), .write 0]

theorem lopsidedRun_answers :
    let requests := trail smallServer (requests smallServer) (.new smallServer ()) lopsidedRun
    let answers := ((run smallServer (.new smallServer ()) lopsidedRun).2.filterMap
      Output.frame?).filterMap Frame.answered?
    let oversized := (trail smallServer (dueAnswers smallServer) (.new smallServer ())
      lopsidedRun).filterMap (oversizedResponse? smallServer.limit)
    requests.Perm (answers ++ oversized) ∧ (answers.Perm requests ↔ oversized = []) :=
  answers_perm_requests_iff () lopsidedRun (by decide) (by decide) (by decide) (by decide)

/-- The error that would tell of the response that is too large fits, but it is not sent: the second
request stays without an answer on a connection that is up and has nothing left to do. -/
theorem lopsidedRun_unanswered :
    trail smallServer (requests smallServer) (.new smallServer ()) lopsidedRun = [1, 3] ∧
    ((run smallServer (.new smallServer ()) lopsidedRun).2.filterMap
      Output.frame?).filterMap Frame.answered? = [1] ∧
    ¬ [(1 : UInt64)].Perm [1, 3] ∧
    (run smallServer (.new smallServer ()) lopsidedRun).1.openRequests = [] ∧
    (run smallServer (.new smallServer ()) lopsidedRun).1.phase = .connected ∧
    trail smallServer failedWrites (.new smallServer ()) lopsidedRun = [] ∧
    ((faultFor (.codec (.frameTooLarge 117 100))).toBytes.toOption.any fun b =>
      (Frame.message 3 .error none none b).fits smallServer.limit) = true := by
  refine ⟨by decide, by decide, by decide, by decide, by decide, by decide, by decide +kernel⟩

end Connection

end Rpc
