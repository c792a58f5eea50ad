import Rpc.Proofs.Connection.Owners
import Rpc.Proofs.Layer.Walks

/-! # A refusal concerns one message

When a layer refuses a message, its own call fails, or the peer is told so, or nobody is. The
connection stays in its phase, and every other call keeps its place and its number on the table.
-/
namespace Rpc

open Message

def answerKind : Except Fault Bytes → Kind
  | .ok _ => .response
  | .error _ => .error

theorem answerKind_isAnswer (result : Except Fault Bytes) :
    (answerKind result).isAnswer = true := by
  cases result <;> rfl

theorem messageFrame_of_refuses {σ : Type} {stack : Stack σ} {n : UInt64} {s : σ} {k : Kind}
    {b : Baggage} {method : Option String} {payload : Bytes} {r : Refusal}
    (h : Layer.Refuses k stack.layers b s r) :
    (messageFrame (some stack) n k b method payload s).1 = .error r.callError := by
  have hverdict : (stack.send k b s).verdict = .error r := Layer.refuses_iff.mp h
  have hpacked : (packBaggage (some stack) k b s).1 = .error r.callError := by
    simp only [packBaggage, hverdict]
  simp only [messageFrame, hpacked]

namespace Connection

variable {σ : Type} {p : Profile σ} {c after : Connection σ} {stack : Stack σ} {n : UInt64}
  {caller other : Nat} {k k' : Call} {e : Event}

/-! ## Calls that nothing happens to -/

/-- A call is where it was, and its number is on the table if it was. -/
structure Keeps (c after : Connection σ) (caller : Nat) (k : Call) : Prop where
  call : after.call? caller = some k
  waiting : ∀ n, k.number? = some n → (n ∈ after.table.waiting ↔ n ∈ c.table.waiting)

theorem keeps_of_eq (hcalls : after.calls = c.calls) (htable : after.table = c.table)
    (hk : c.call? caller = some k) : Keeps c after caller k where
  call := by rw [call?, hcalls]; exact hk
  waiting n _ := by rw [htable]

/-- A reply under one number concerns no call under another. -/
theorem resolve_keeps (hk : c.call? caller = some k) (hn : k.number? ≠ some n) (reply : Reply) :
    Keeps c (c.resolve n reply) caller k := by
  by_cases hmem : n ∈ c.table.waiting
  · rw [resolve_of_mem c reply n hmem]
    constructor
    · have hreceive : k.receive (· = n) reply = k := by
        unfold Call.receive
        split
        · rename_i m hm _
          have hne : m ≠ n := by
            rintro rfl
            exact hn hm
          rw [if_neg (by simpa using hne)]
        · rfl
      rw [call?, lookup_map, ← call?, hk, Option.map_some, hreceive]
    · intro m hm
      have hne : m ≠ n := by
        rintro rfl
        exact hn hm
      simp only [List.mem_filter, hne, ne_eq, not_false_eq_true, decide_true, and_true]
  · rw [resolve_of_not_mem c reply n hmem]
    exact keeps_of_eq rfl rfl hk

/-- A call that is forgotten takes only its own number off the table. -/
theorem forget_keeps (hk : c.call? caller = some k) (hother : c.call? other = some k')
    (hne : other ≠ caller) (hn : ∀ n, k.number? = some n → k'.number? ≠ some n) :
    Keeps c (c.forget caller) other k' := by
  have hrest : ({ c with calls := c.calls.filter (·.1 ≠ caller) } : Connection σ).call? other =
      some k' := by
    rw [call?, lookup_filter_ne hne]
    exact hother
  unfold forget
  rw [hk, Option.bind_some]
  cases hnumber : k.number? with
  | none => exact ⟨hrest, fun _ _ => Iff.rfl⟩
  | some n =>
    have hkept := resolve_keeps hrest (hn n hnumber) (.error (.transport .connectionClosed))
    exact ⟨hkept.call, hkept.waiting⟩

@[simp] theorem resolve_closed (n : UInt64) (reply : Reply) :
    (c.resolve n reply).table.closed = c.table.closed := by
  by_cases hmem : n ∈ c.table.waiting
  · rw [resolve_of_mem c reply n hmem]
  · rw [resolve_of_not_mem c reply n hmem]

@[simp] theorem forget_closed (caller : Nat) :
    (c.forget caller).table.closed = c.table.closed := by
  unfold forget
  cases (c.call? caller).bind Call.number? with
  | none => rfl
  | some n => exact resolve_closed n _

/-! ## Refusals -/

variable (p stack c) in
/-- A layer refuses a message in a step, which is the business of some calls only. -/
inductive Rebuffs : Event → (Nat → Call → Prop) → Prop
  | call {caller : Nat} {k : Call} {n : UInt64} {r : Refusal} (hk : c.call? caller = some k)
      (hn : k.stage = .numbered n)
      (hr : Layer.Refuses k.kind stack.layers k.context.baggage c.surroundings r) :
      Rebuffs (.advance caller) fun other _ => other = caller
  | answer {handler : Nat} {n : UInt64} {result : Except Fault Bytes} {r : Refusal}
      (hn : c.serving.lookup handler = some n)
      (hr : Layer.Refuses (answerKind result) stack.layers .empty c.surroundings r) :
      Rebuffs (.answer handler result) fun _ _ => False
  | message {f : Frame} {b : Baggage} {h : Heading} {r : Refusal} (hl : c.loop = .reading)
      (hk : f.kind = .request ∨ f.kind = .event) (hb : frameBaggage f = .ok b)
      (hh : frameHeading f = .ok h)
      (hr : Layer.TurnsAway f.kind b stack.layers.reverse c.surroundings r) :
      Rebuffs (.arrive (.frame f)) fun _ _ => False
  | reply {f : Frame} {b : Baggage} {result : Except Fault Bytes} {r : Refusal}
      (hl : c.loop = .reading) (hk : f.kind.isAnswer = true) (hb : frameBaggage f = .ok b)
      (hresult : frameResult f = .ok result)
      (hr : Layer.TurnsAway f.kind b stack.layers.reverse c.surroundings r) :
      Rebuffs (.arrive (.frame f)) fun _ k => k.number? = some f.conversation

/-- A step leaves the connection in its phase, and keeps all calls but some, and but those whose
number was given out `again`. -/
structure Spares (c after : Connection σ) (own : Nat → Call → Prop) (again : UInt64 → Prop) :
    Prop where
  phase : after.phase = c.phase
  shut : after.shut = c.shut
  closed : after.table.closed = c.table.closed
  others : ∀ caller k, c.call? caller = some k → ¬own caller k →
    (∀ n, k.number? = some n → ¬again n) → Keeps c after caller k

/-- A state is another one, but for what waits to be written, the loop, the handlers and the
layers. -/
structure SameCalls (c after : Connection σ) : Prop where
  phase : after.phase = c.phase
  shut : after.shut = c.shut
  table : after.table = c.table
  calls : after.calls = c.calls

theorem SameCalls.spares {own : Nat → Call → Prop} {again : UInt64 → Prop}
    (h : SameCalls c after) : Spares c after own again where
  phase := h.phase
  shut := h.shut
  closed := by rw [h.table]
  others _ _ hk _ _ := keeps_of_eq h.calls h.table hk

theorem enqueue_sameCalls {purpose : Purpose} {f : Frame} {queued : Connection σ}
    (h : c.enqueue p purpose f = .ok queued) : SameCalls c queued := by
  obtain ⟨-, rfl⟩ := enqueue_ok h
  exact ⟨rfl, rfl, rfl, rfl⟩

theorem answer_sameCalls (handler : Nat) (result : Except Fault Bytes) :
    SameCalls c (c.answer p handler result).1 := by
  unfold answer
  split
  · exact ⟨rfl, rfl, rfl, rfl⟩
  · dsimp only
    split
    · exact ⟨rfl, rfl, rfl, rfl⟩
    · split
      · rename_i hq
        obtain ⟨hphase, hshut, htable, hcalls⟩ := enqueue_sameCalls hq
        exact ⟨hphase, hshut, htable, hcalls⟩
      · exact ⟨rfl, rfl, rfl, rfl⟩

theorem turnDown_sameCalls (n : UInt64) (fault : Fault) :
    SameCalls c (c.follow p (.turnDown n fault)).1 := by
  simp only [follow]
  split
  · unfold say
    dsimp only
    split
    · exact ⟨rfl, rfl, rfl, rfl⟩
    · rename_i hq
      obtain ⟨hphase, hshut, htable, hcalls⟩ := enqueue_sameCalls hq
      exact ⟨hphase, hshut, htable, hcalls⟩
  · exact ⟨rfl, rfl, rfl, rfl⟩

/-! ## What becomes of a refused message -/

theorem advance_of_refuses {r : Refusal} (hstack : p.stack = some stack)
    (hk : c.call? caller = some k) (hn : k.stage = .numbered n)
    (hr : Layer.Refuses k.kind stack.layers k.context.baggage c.surroundings r) :
    ∃ s, (c.step p (.advance caller)).1 = ({ c with surroundings := s }).forget caller := by
  have hframe : (messageFrame (some stack) n k.kind k.context.baggage (some k.method) k.payload
      c.surroundings).1 = .error r.callError := messageFrame_of_refuses hr
  unfold Call.kind at hframe
  refine ⟨(messageFrame (some stack) n (if k.expectsAnswer then .request else .event)
    k.context.baggage (some k.method) k.payload c.surroundings).2, ?_⟩
  simp only [step, advance, hk, hn, frame, hstack, hframe]
  rfl

/-- A request that is refused is turned down, and an event that is refused is dropped. -/
theorem react_of_turnsAway {f : Frame} {b : Baggage} {h : Heading} {r : Refusal} {s : σ}
    (hk : f.kind = .request ∨ f.kind = .event) (hb : frameBaggage f = .ok b)
    (hh : frameHeading f = .ok h)
    (hr : Layer.TurnsAway f.kind b stack.layers.reverse s r) :
    (react p.side (some stack) f s).1 =
      if f.kind = .request then .turnDown f.conversation r.fault else .readOn := by
  have hverdict : (inspect (some stack) f.kind b s).verdict = .error r :=
    Layer.turnsAway_iff.mp hr
  have hreact : (react p.side (some stack) f s).1 = (reactToMessage (some stack) f s).1 := by
    unfold react
    rcases hk with hk | hk <;> rw [hk]
  rw [hreact]
  simp only [reactToMessage, hb, hh, hverdict]

theorem react_of_turnsAway_answer {f : Frame} {b : Baggage} {result : Except Fault Bytes}
    {r : Refusal} {s : σ} (hk : f.kind.isAnswer = true) (hb : frameBaggage f = .ok b)
    (hresult : frameResult f = .ok result)
    (hr : Layer.TurnsAway f.kind b stack.layers.reverse s r) :
    (react p.side (some stack) f s).1 = .complete f.conversation (.error r.callError) := by
  have hverdict : (inspect (some stack) f.kind b s).verdict = .error r :=
    Layer.turnsAway_iff.mp hr
  have hreact : (react p.side (some stack) f s).1 = (reactToAnswer (some stack) f s).1 := by
    unfold react
    cases hkind : f.kind with
    | response => rfl
    | error => rfl
    | _ =>
      rw [hkind] at hk
      cases hk
  rw [hreact]
  simp only [reactToAnswer, hb, hresult, hverdict]

theorem arrive_frame (hl : c.loop = .reading) (f : Frame) :
    (c.step p (.arrive (.frame f))).1 =
      (({ c with surroundings := (react p.side p.stack f c.surroundings).2 }).follow p
        (react p.side p.stack f c.surroundings).1).1 := by
  simp only [step, arrive, hl, accept]

/-- A refusal spares the connection and all calls that it is not about. -/
theorem Rebuffs.spares {own : Nat → Call → Prop} {again : UInt64 → Prop}
    (h : Rebuffs c stack e own) (hstack : p.stack = some stack)
    (hunique : ∀ caller k other k' n, c.call? caller = some k → k.number? = some n →
      c.call? other = some k' → k'.number? = some n → ¬again n → other = caller) :
    Spares c (c.step p e).1 own again := by
  cases h with
  | call hk hn hr =>
    rename_i caller k n r
    obtain ⟨s, hstep⟩ := advance_of_refuses hstack hk hn hr
    rw [hstep]
    refine ⟨forget_phase _ _, forget_shut _ _, forget_closed _, ?_⟩
    intro other k' hother hne hagain
    have halone : ∀ m, k.number? = some m → k'.number? ≠ some m := fun m hm hm' =>
      hne (hunique _ _ _ _ m hk hm hother hm' (hagain m hm'))
    obtain ⟨hcall, hwaiting⟩ :=
      forget_keeps (c := { c with surroundings := s }) hk hother hne halone
    exact ⟨hcall, hwaiting⟩
  | answer hn hr => exact (answer_sameCalls _ _).spares
  | message hl hk hb hh hr =>
    rename_i f b heading r
    rw [arrive_frame hl, hstack, react_of_turnsAway hk hb hh hr]
    by_cases hrequest : f.kind = .request
    · rw [if_pos hrequest]
      obtain ⟨hphase, hshut, htable, hcalls⟩ := turnDown_sameCalls (p := p)
        (c := { c with surroundings := (react p.side (some stack) f c.surroundings).2 })
        f.conversation r.fault
      exact SameCalls.spares ⟨hphase, hshut, htable, hcalls⟩
    · rw [if_neg hrequest]
      exact SameCalls.spares ⟨rfl, rfl, rfl, rfl⟩
  | reply hl hk hb hresult hr =>
    rename_i f b result r
    rw [arrive_frame hl, hstack, react_of_turnsAway_answer hk hb hresult hr]
    refine ⟨resolve_phase _ _ _, resolve_shut _ _ _, resolve_closed _ _, ?_⟩
    intro caller k hk hne _
    obtain ⟨hcall, hwaiting⟩ := resolve_keeps
      (c := { c with surroundings := (react p.side (some stack) f c.surroundings).2 }) hk hne
      (.error r.callError)
    exact ⟨hcall, hwaiting⟩

end Connection

end Rpc
