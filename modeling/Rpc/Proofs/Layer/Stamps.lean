import Rpc.Layer.Stock
import Rpc.Layer.Tracing
import Rpc.Proofs.Layer.Joins

/-! # Stamps on outgoing messages

Any number of tracing layers may stand in a stack, among layers that leave the two entries of tracing
alone. On its way out a request or an event is then stamped once: the first tracing layer sees to
it that there is a trace id, and those behind it, in this stack or on another hop, find one. The last
of them leaves its name. As they touch nothing else, the other entries are what the other layers would
have left without them.
-/
namespace Rpc.Layer

open Message

/-- Where fresh trace ids come from: the ids in the order in which they will be drawn, and how many
were drawn already. -/
structure IdSource where
  ids : Nat → TraceId
  drawn : Nat

def IdSource.draw (p : IdSource) : TraceId × IdSource :=
  (p.ids p.drawn, { p with drawn := p.drawn + 1 })

/-- A layer of a stack that traces. The other layers have a state of their own, from which they may
draw ids as well. -/
inductive Member (σ : Type)
  | tracing (service : String)
  | other (l : Layer σ)

variable {σ τ : Type}

def Member.layer : Member σ → Layer (σ × IdSource)
  | tracing service => Layer.tracing (fun s => (s.2.draw.1, s.1, s.2.draw.2)) service
  | other l => l.beside id

/-- The names of the tracing layers, from the bottom to the top. -/
def services : List (Member σ) → List String
  | [] => []
  | .tracing service :: ms => service :: services ms
  | .other _ :: ms => services ms

def others : List (Member σ) → List (Layer σ)
  | [] => []
  | .tracing _ :: ms => others ms
  | .other l :: ms => l :: others ms

def marks : List String := [traceKey, serviceKey]

/-- Two baggages with the same entries apart from those of tracing. -/
def Alike (a b : Baggage) : Prop := ∀ key, key ∉ marks → a.get? key = b.get? key

/-- A layer lets every message of a kind out and changes no entry of tracing. -/
structure KeepsMarks (k : Kind) (l : Layer σ) : Prop where
  passes : ∀ b s, (l.send k b s).verdict = .ok ()
  keeps : ∀ b s, ∀ key ∈ marks, (l.send k b s).baggage.get? key = b.get? key

/-- A layer does not look at the entries of tracing. -/
structure OverlooksMarks (k : Kind) (l : Layer σ) : Prop where
  baggage : ∀ a b s, Alike a b → Alike (l.send k a s).baggage (l.send k b s).baggage
  state : ∀ a b s, Alike a b → (l.send k a s).state = (l.send k b s).state

/-! ## One layer -/

/-- The trace entry of a message and the source of ids behind a layer that traces. -/
def stamp (k : Kind) (b : Baggage) (p : IdSource) : Option Bytes × IdSource :=
  if k.namesMethod ∧ traceId? b = none then (some p.draw.1.octets, p.draw.2)
  else (b.get? traceKey, p)

section Stamp

variable {k : Kind} {a b : Baggage} {p q : IdSource} {t : TraceId}

theorem traceId?_congr (h : a.get? traceKey = b.get? traceKey) : traceId? a = traceId? b := by
  rw [traceId?, traceId?, h]

theorem traceId?_of_get? (h : b.get? traceKey = some t.octets) : traceId? b = some t := by
  rw [traceId?, h]
  exact TraceId.ofBytes?_octets t

theorem get?_of_traceId? (h : traceId? b = some t) : b.get? traceKey = some t.octets := by
  obtain ⟨v, hv, ht⟩ := Option.bind_eq_some_iff.mp h
  rw [hv, TraceId.ofBytes?_eq_some_iff.mp ht]

theorem stamp_of_traceId? (h : traceId? b = some t) : stamp k b p = (b.get? traceKey, p) := by
  apply if_neg
  rintro ⟨-, hnone⟩
  rw [h] at hnone
  cases hnone

theorem stamp_again (h : (a.get? traceKey, q) = stamp k b p) : stamp k a q = stamp k b p := by
  by_cases hfresh : k.namesMethod ∧ traceId? b = none
  · have hdrawn : stamp k b p = (some p.draw.1.octets, p.draw.2) := if_pos hfresh
    rw [hdrawn] at h
    obtain ⟨hkey, -⟩ := Prod.mk.inj h
    rw [stamp_of_traceId? (traceId?_of_get? hkey), hdrawn]
    exact h
  · have hkept : stamp k b p = (b.get? traceKey, p) := if_neg hfresh
    rw [hkept] at h ⊢
    obtain ⟨hkey, hsource⟩ := Prod.mk.inj h
    rw [← h]
    apply if_neg
    rwa [traceId?_congr hkey]

end Stamp

structure Stamps (service : String) (k : Kind) (b : Baggage) (s : σ) (p : IdSource)
    (d : Departure (σ × IdSource)) : Prop where
  verdict : d.verdict = .ok ()
  state : d.state.1 = s
  trace : (d.baggage.get? traceKey, d.state.2) = stamp k b p
  service : d.baggage.get? serviceKey = some (Bytes.ofText service)
  others : Alike d.baggage b

theorem stamps_tracing (service : String) (k : Kind) (b : Baggage) (s : σ) (p : IdSource) :
    Stamps service k b s p ((Member.tracing service).layer.send k b (s, p)) := by
  have htrace : serviceKey ≠ traceKey := by decide
  by_cases hfresh : k.namesMethod ∧ traceId? b = none
  · have hsend : (Member.tracing service).layer.send k b (s, p) = ⟨.ok (),
        (b.insert traceKey p.draw.1.octets).insert serviceKey (Bytes.ofText service),
        (s, p.draw.2)⟩ := by
      simp only [Member.layer, tracing, if_pos hfresh]
    rw [hsend]
    refine ⟨rfl, rfl, ?_, ?_, fun key hkey => ?_⟩
    · rw [stamp, if_pos hfresh, Baggage.get?_insert, if_neg htrace, Baggage.get?_insert,
        if_pos rfl]
    · rw [Baggage.get?_insert, if_pos rfl]
    · simp only [marks, List.mem_cons, List.not_mem_nil, or_false, not_or] at hkey
      rw [Baggage.get?_insert, if_neg (Ne.symm hkey.2), Baggage.get?_insert,
        if_neg (Ne.symm hkey.1)]
  · have hsend : (Member.tracing service).layer.send k b (s, p) =
        ⟨.ok (), b.insert serviceKey (Bytes.ofText service), (s, p)⟩ := by
      simp only [Member.layer, tracing, if_neg hfresh]
    rw [hsend]
    refine ⟨rfl, rfl, ?_, ?_, fun key hkey => ?_⟩
    · rw [stamp, if_neg hfresh, Baggage.get?_insert, if_neg htrace]
    · rw [Baggage.get?_insert, if_pos rfl]
    · simp only [marks, List.mem_cons, List.not_mem_nil, or_false, not_or] at hkey
      rw [Baggage.get?_insert, if_neg (Ne.symm hkey.2)]

/-! ## All layers -/

/-- The marks of a message behind some members of a stack. -/
structure Marked (ms : List (Member σ)) (k : Kind) (b : Baggage) (p : IdSource)
    (d : Departure (σ × IdSource)) : Prop where
  verdict : d.verdict = .ok ()
  trace : (d.baggage.get? traceKey, d.state.2) =
    if services ms = [] then (b.get? traceKey, p) else stamp k b p
  service : d.baggage.get? serviceKey =
    ((services ms).getLast?.map Bytes.ofText).or (b.get? serviceKey)

section Members

variable {ms : List (Member σ)} {k : Kind}

/-- The first tracing layer stamps a message and the last one leaves its name. -/
theorem marked_sendAll (halone : ∀ l ∈ others ms, KeepsMarks k l) (b : Baggage) (s : σ)
    (p : IdSource) : Marked ms k b p (sendAll (ms.map Member.layer) k b (s, p)) := by
  induction ms generalizing b s p with
  | nil => exact ⟨rfl, rfl, rfl⟩
  | cons m ms ih =>
    rw [List.map_cons, sendAll_cons]
    cases m with
    | tracing service =>
      have hstamps := stamps_tracing service k b s p
      generalize (Member.tracing service).layer.send k b (s, p) = d at hstamps ⊢
      rw [Departure.andThen_of_ok hstamps.verdict]
      have hrest := ih halone d.baggage d.state.1 d.state.2
      refine ⟨hrest.verdict, ?_, ?_⟩
      · rw [hrest.trace, stamp_again hstamps.trace, hstamps.trace, ite_self]
        exact (if_neg (List.cons_ne_nil service (services ms))).symm
      · rw [hrest.service, hstamps.service, services, List.getLast?_cons]
        cases (services ms).getLast? <;> rfl
    | other l =>
      have hl : KeepsMarks k l := halone l List.mem_cons_self
      have hcall : (Member.other l).layer.send k b (s, p) = (l.send k b s).beside p := rfl
      have hpass : ((l.send k b s).beside p).verdict = .ok () := hl.passes b s
      rw [hcall, Departure.andThen_of_ok hpass]
      have hrest := ih (fun l' hl' => halone l' (List.mem_cons_of_mem _ hl'))
        (l.send k b s).baggage (l.send k b s).state p
      have htrace : (l.send k b s).baggage.get? traceKey = b.get? traceKey :=
        hl.keeps b s traceKey (by decide)
      have hservice : (l.send k b s).baggage.get? serviceKey = b.get? serviceKey :=
        hl.keeps b s serviceKey (by decide)
      refine ⟨hrest.verdict, ?_, ?_⟩
      · have hstamp : stamp k (l.send k b s).baggage p = stamp k b p := by
          rw [stamp, stamp, traceId?_congr htrace, htrace]
        rw [← htrace, ← hstamp]
        exact hrest.trace
      · rw [← hservice]
        exact hrest.service

/-- Layers that do not look at the marks do as if nobody traced. -/
theorem alike_sendAll (halone : ∀ l ∈ others ms, KeepsMarks k l)
    (hover : ∀ l ∈ others ms, OverlooksMarks k l) {a b : Baggage} (hab : Alike a b) (s : σ)
    (p : IdSource) :
    Alike (sendAll (ms.map Member.layer) k a (s, p)).baggage (sendAll (others ms) k b s).baggage ∧
      (sendAll (ms.map Member.layer) k a (s, p)).state.1 = (sendAll (others ms) k b s).state := by
  induction ms generalizing a b s p with
  | nil => exact ⟨hab, rfl⟩
  | cons m ms ih =>
    rw [List.map_cons, sendAll_cons]
    cases m with
    | tracing service =>
      have hstamps := stamps_tracing service k a s p
      generalize (Member.tracing service).layer.send k a (s, p) = d at hstamps ⊢
      rw [Departure.andThen_of_ok hstamps.verdict]
      have halike : Alike d.baggage b := fun key hkey =>
        (hstamps.others key hkey).trans (hab key hkey)
      have hrest := ih halone hover halike d.state.1 d.state.2
      rw [hstamps.state] at hrest
      rw [← hstamps.state] at hrest ⊢
      exact hrest
    | other l =>
      have hl : KeepsMarks k l := halone l List.mem_cons_self
      have hblind : OverlooksMarks k l := hover l List.mem_cons_self
      have hcall : (Member.other l).layer.send k a (s, p) = (l.send k a s).beside p := rfl
      have hpass : ((l.send k a s).beside p).verdict = .ok () := hl.passes a s
      rw [hcall, Departure.andThen_of_ok hpass, others, sendAll_cons,
        Departure.andThen_of_ok (hl.passes b s), ← hblind.state a b s hab]
      exact ih (fun l' hl' => halone l' (List.mem_cons_of_mem _ hl'))
        (fun l' hl' => hover l' (List.mem_cons_of_mem _ hl')) (hblind.baggage a b s hab)
        (l.send k a s).state p

end Members

/-! ## Layers that leave the marks alone -/

section Set

variable {key : String} {value : Bytes}

theorem keepsMarks_set (hkey : key ∉ marks) (k : Kind) : KeepsMarks k (Layer.set key value) := by
  refine ⟨fun b s => rfl, fun b s mark hmark => ?_⟩
  have hne : key ≠ mark := fun heq => hkey (heq ▸ hmark)
  exact (Baggage.get?_insert b key mark value).trans (if_neg hne)

theorem overlooksMarks_set (k : Kind) : OverlooksMarks k (Layer.set key value) := by
  refine ⟨fun a b s hab mark hmark => ?_, fun a b s _ => rfl⟩
  have hinsert : ∀ c : Baggage, ((Layer.set key value).send k c s).baggage.get? mark =
      if key = mark then some value else c.get? mark := fun c => Baggage.get?_insert c key mark value
  rw [hinsert, hinsert, hab mark hmark]

end Set

end Rpc.Layer

namespace Rpc.Stack

open Message Layer

variable {σ τ : Type}

def ofMembers (ms : List (Member σ)) : Stack (σ × IdSource) := ⟨ms.map Member.layer⟩

def withoutTracing (ms : List (Member σ)) : Stack σ := ⟨others ms⟩

structure Traces (ms : List (Member σ)) (hms : services ms ≠ []) (k : Kind) (b : Baggage) (s : σ)
    (p : IdSource) (d : Departure (σ × IdSource)) : Prop where
  verdict : d.verdict = .ok ()
  /-- A request or an event has a trace id then, its own if it had one. -/
  traced : k.namesMethod = true → ∃ v, d.baggage.get? traceKey = some v ∧ v.length = 16 ∧
    ∀ w, b.get? traceKey = some w → w.length = 16 → v = w
  untraced : k.namesMethod = false → d.baggage.get? traceKey = b.get? traceKey
  /-- One id is drawn at most, and only for a message that lacks one. -/
  drawn : d.state.2 = p ∨ d.state.2 = p.draw.2 ∧ k.namesMethod = true ∧ traceId? b = none ∧
    d.baggage.get? traceKey = some p.draw.1.octets
  service : d.baggage.get? serviceKey = some (Bytes.ofText ((services ms).getLast hms))
  /-- The other layers do as they would do alone, unless they look at the marks. -/
  others : (∀ l ∈ others ms, OverlooksMarks k l) →
    Alike d.baggage ((withoutTracing ms).send k b s).baggage ∧
      d.state.1 = ((withoutTracing ms).send k b s).state

theorem traces_ofMembers {ms : List (Member σ)} (hms : services ms ≠ []) {k : Kind}
    (halone : ∀ l ∈ others ms, KeepsMarks k l) (b : Baggage) (s : σ) (p : IdSource) :
    Traces ms hms k b s p ((ofMembers ms).send k b (s, p)) := by
  obtain ⟨hverdict, htrace, hservice⟩ := marked_sendAll halone b s p
  rw [if_neg hms] at htrace
  rw [List.getLast?_eq_some_getLast hms] at hservice
  by_cases hfresh : k.namesMethod ∧ traceId? b = none
  · rw [stamp, if_pos hfresh] at htrace
    obtain ⟨hkey, hsource⟩ := Prod.mk.inj htrace
    refine ⟨hverdict, fun _ => ?_, fun hk => ?_, .inr ⟨hsource, hfresh.1, hfresh.2, hkey⟩, hservice,
      fun hover => alike_sendAll halone hover (fun _ _ => rfl) s p⟩
    · refine ⟨_, hkey, p.draw.1.length_octets, fun w hw hlength => ?_⟩
      have hsome : traceId? b = some ⟨w, hlength⟩ := traceId?_of_get? hw
      rw [hfresh.2] at hsome
      cases hsome
    · rw [hk] at hfresh
      cases hfresh.1
  · rw [stamp, if_neg hfresh] at htrace
    obtain ⟨hkey, hsource⟩ := Prod.mk.inj htrace
    refine ⟨hverdict, fun hk => ?_, fun _ => hkey, .inl hsource, hservice,
      fun hover => alike_sendAll halone hover (fun _ _ => rfl) s p⟩
    cases ht : traceId? b with
    | none => exact absurd ⟨hk, ht⟩ hfresh
    | some t =>
      have hown := get?_of_traceId? ht
      refine ⟨t.octets, hkey.trans hown, t.length_octets, fun w hw _ => ?_⟩
      rw [hown] at hw
      exact Option.some.inj hw

theorem traceId?_ofMembers {ms : List (Member σ)} {k : Kind}
    (halone : ∀ l ∈ others ms, KeepsMarks k l) {b : Baggage} (s : σ) (p : IdSource) {t : TraceId}
    (ht : traceId? b = some t) : traceId? ((ofMembers ms).send k b (s, p)).baggage = some t := by
  have htrace := (marked_sendAll halone b s p).trace
  rw [stamp_of_traceId? ht, ite_self] at htrace
  rw [← ht]
  exact traceId?_congr (Prod.mk.inj htrace).1

/-- A message that goes out through a stack that traces, of any kind and with any baggage, is stamped
once: a request or an event has a trace id then, which is its own if it had one, and else the next
fresh one; it names the last tracing layer; and all else is as the other layers leave it alone. On
further hops it keeps its trace id. -/
theorem traced_once {ms : List (Member σ)} (hms : services ms ≠ []) {k : Kind}
    (halone : ∀ l ∈ others ms, KeepsMarks k l) (b : Baggage) (s : σ) (p : IdSource) :
    Traces ms hms k b s p ((ofMembers ms).send k b (s, p)) ∧
    ∀ (further : List (Member τ)) (k' : Kind), (∀ l ∈ others further, KeepsMarks k' l) →
      ∀ (s' : τ) (p' : IdSource) (t : TraceId),
        traceId? ((ofMembers ms).send k b (s, p)).baggage = some t →
        traceId? ((ofMembers further).send k' ((ofMembers ms).send k b (s, p)).baggage
          (s', p')).baggage = some t :=
  ⟨traces_ofMembers hms halone b s p, fun _ _ hfurther s' p' _ ht =>
    traceId?_ofMembers hfurther s' p' ht⟩

/-- A gate and a shop that trace, with a layer between them that colours the message. -/
def gateAndShop : List (Member Journal) :=
  [.tracing "gate", .other (Layer.set "hue" [7]), .tracing "shop"]

def numberedIds : IdSource :=
  ⟨fun n => ⟨List.replicate 16 (UInt8.ofNat n), List.length_replicate⟩, 3⟩

def badlyTraced : Baggage := .ofList [("trace-id", [1])]

theorem gateAndShop_traces : ∃ hms : services gateAndShop ≠ [],
    (∀ l ∈ others gateAndShop, KeepsMarks .request l) ∧
    (∀ l ∈ others gateAndShop, OverlooksMarks .request l) ∧
    Traces gateAndShop hms .request badlyTraced [] numberedIds
      ((ofMembers gateAndShop).send .request badlyTraced ([], numberedIds)) ∧
    ((ofMembers gateAndShop).send .request badlyTraced ([], numberedIds)).baggage =
      .ofList [("trace-id", List.replicate 16 3), ("service", Bytes.ofText "shop"), ("hue", [7])] := by
  have hms : services gateAndShop ≠ [] := List.cons_ne_nil _ _
  have hother : ∀ l ∈ others gateAndShop, l = Layer.set "hue" [7] := fun l hl =>
    List.mem_singleton.mp hl
  have halone : ∀ l ∈ others gateAndShop, KeepsMarks .request l := fun l hl =>
    hother l hl ▸ keepsMarks_set (by decide) .request
  have hover : ∀ l ∈ others gateAndShop, OverlooksMarks .request l := fun l hl =>
    hother l hl ▸ overlooksMarks_set .request
  have htraced := traced_once (τ := Journal) hms halone badlyTraced [] numberedIds
  exact ⟨hms, halone, hover, htraced.1, by decide +kernel⟩

end Rpc.Stack
