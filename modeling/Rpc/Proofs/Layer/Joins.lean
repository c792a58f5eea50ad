import Rpc.Proofs.Layer.Walks

/-! # Stacks on top of each other

A walk through a stack that lies on another one is a walk through one of them and then, unless it was
refused there, through the other: upwards on the way out, downwards on the way in. A single layer is
a stack as well, so a walk calls its layers one after the other up to the first that refuses, and no
layer behind that one. Which layers are called is seen by letting each put down its name.
-/
namespace Rpc

open Message

variable {σ ν : Type}

namespace Departure

/-- Goes on from where a departure left the message, unless it was refused. -/
def andThen (d : Departure σ) (next : Baggage → σ → Departure σ) : Departure σ :=
  match d.verdict with
  | .ok () => next d.baggage d.state
  | .error _ => d

def beside {ρ : Type} (d : Departure σ) (r : ρ) : Departure (σ × ρ) :=
  ⟨d.verdict, d.baggage, (d.state, r)⟩

theorem andThen_of_ok {d : Departure σ} (h : d.verdict = .ok ())
    (next : Baggage → σ → Departure σ) : d.andThen next = next d.baggage d.state := by
  simp only [andThen, h]

theorem andThen_of_error {d : Departure σ} {r : Refusal} (h : d.verdict = .error r)
    (next : Baggage → σ → Departure σ) : d.andThen next = d := by
  simp only [andThen, h]

theorem andThen_assoc (d : Departure σ) (f g : Baggage → σ → Departure σ) :
    (d.andThen f).andThen g = d.andThen fun b s => (f b s).andThen g := by
  cases h : d.verdict with
  | ok u => rw [andThen_of_ok h, andThen_of_ok h]
  | error r => rw [andThen_of_error h, andThen_of_error h, andThen_of_error h]

end Departure

namespace Arrival

/-- Goes on with the state that an arrival left, unless it was refused. -/
def andThen (a : Arrival σ) (next : σ → Arrival σ) : Arrival σ :=
  match a.verdict with
  | .ok () => next a.state
  | .error _ => a

def beside {ρ : Type} (a : Arrival σ) (r : ρ) : Arrival (σ × ρ) := ⟨a.verdict, (a.state, r)⟩

theorem andThen_of_ok {a : Arrival σ} (h : a.verdict = .ok ()) (next : σ → Arrival σ) :
    a.andThen next = next a.state := by
  simp only [andThen, h]

theorem andThen_of_error {a : Arrival σ} {r : Refusal} (h : a.verdict = .error r)
    (next : σ → Arrival σ) : a.andThen next = a := by
  simp only [andThen, h]

theorem andThen_assoc (a : Arrival σ) (f g : σ → Arrival σ) :
    (a.andThen f).andThen g = a.andThen fun s => (f s).andThen g := by
  cases h : a.verdict with
  | ok u => rw [andThen_of_ok h, andThen_of_ok h]
  | error r => rw [andThen_of_error h, andThen_of_error h, andThen_of_error h]

end Arrival

namespace Layer

variable {k : Kind} {b b' : Baggage} {s s' : σ} {l : Layer σ} {ls rest : List (Layer σ)}

theorem sendAll_cons (l : Layer σ) (ls : List (Layer σ)) (k : Kind) (b : Baggage) (s : σ) :
    sendAll (l :: ls) k b s = (l.send k b s).andThen (sendAll ls k) := by
  cases h : (l.send k b s).verdict with
  | ok u =>
    rw [Departure.andThen_of_ok h]
    simp only [sendAll, h]
  | error r =>
    rw [Departure.andThen_of_error h]
    simp only [sendAll, h]
    rw [← h]

theorem receiveAll_cons (l : Layer σ) (ls : List (Layer σ)) (k : Kind) (b : Baggage) (s : σ) :
    receiveAll (l :: ls) k b s = (l.receive k b s).andThen (receiveAll ls k b) := by
  cases h : (l.receive k b s).verdict with
  | ok u =>
    rw [Arrival.andThen_of_ok h]
    simp only [receiveAll, h]
  | error r =>
    rw [Arrival.andThen_of_error h]
    simp only [receiveAll, h]
    rw [← h]

theorem sendAll_append (ls ms : List (Layer σ)) (k : Kind) (b : Baggage) (s : σ) :
    sendAll (ls ++ ms) k b s = (sendAll ls k b s).andThen (sendAll ms k) := by
  induction ls generalizing b s with
  | nil => rfl
  | cons l ls ih =>
    rw [List.cons_append, sendAll_cons, sendAll_cons, Departure.andThen_assoc]
    apply congrArg
    funext b s
    exact ih b s

theorem receiveAll_append (ls ms : List (Layer σ)) (k : Kind) (b : Baggage) (s : σ) :
    receiveAll (ls ++ ms) k b s = (receiveAll ls k b s).andThen (receiveAll ms k b) := by
  induction ls generalizing s with
  | nil => rfl
  | cons l ls ih =>
    rw [List.cons_append, receiveAll_cons, receiveAll_cons, Arrival.andThen_assoc]
    apply congrArg
    funext s
    exact ih s

/-! ## Which layers are called -/

/-- A layer beside which something is changed at each of its calls. -/
def beside {ρ : Type} (change : ρ → ρ) (l : Layer σ) : Layer (σ × ρ) where
  send k b s := (l.send k b s.1).beside (change s.2)
  receive k b s := (l.receive k b s.1).beside (change s.2)

/-- Layers that put down their names when they are called. -/
def noted (named : List (ν × Layer σ)) : List (Layer (σ × List ν)) :=
  named.map fun x => x.2.beside (· ++ [x.1])

/-- How a walk out ends that calls some layers in this order and leaves others out: all let the
message pass and none is left out, or the last one called is the first that refuses. -/
inductive GoesOut (k : Kind) (b : Baggage) (s : σ) :
    (called skipped : List (Layer σ)) → Departure σ → Prop
  | passed {ls : List (Layer σ)} {b' : Baggage} {s' : σ} (hls : Passes k ls b s b' s') :
      GoesOut k b s ls [] ⟨.ok (), b', s'⟩
  | refused {ls rest : List (Layer σ)} {l : Layer σ} {b' : Baggage} {s' : σ} {r : Refusal}
      (hls : Passes k ls b s b' s') (hl : (l.send k b' s').verdict = .error r) :
      GoesOut k b s (ls ++ [l]) rest
        ⟨.error r, (l.send k b' s').baggage, (l.send k b' s').state⟩

/-- How a walk in ends that calls some layers in this order and leaves others out. -/
inductive ComesIn (k : Kind) (b : Baggage) (s : σ) :
    (called skipped : List (Layer σ)) → Arrival σ → Prop
  | admitted {ls : List (Layer σ)} {s' : σ} (hls : Admits k b ls s s') :
      ComesIn k b s ls [] ⟨.ok (), s'⟩
  | refused {ls rest : List (Layer σ)} {l : Layer σ} {s' : σ} {r : Refusal}
      (hls : Admits k b ls s s') (hl : (l.receive k b s').verdict = .error r) :
      ComesIn k b s (ls ++ [l]) rest ⟨.error r, (l.receive k b s').state⟩

theorem GoesOut.cons {called skipped : List (Layer σ)} {d : Departure σ}
    (hl : (l.send k b s).verdict = .ok ())
    (h : GoesOut k (l.send k b s).baggage (l.send k b s).state called skipped d) :
    GoesOut k b s (l :: called) skipped d := by
  cases h with
  | passed hls => exact .passed (.cons hl hls)
  | refused hls hr =>
    rw [← List.cons_append]
    exact .refused (.cons hl hls) hr

theorem ComesIn.cons {called skipped : List (Layer σ)} {a : Arrival σ}
    (hl : (l.receive k b s).verdict = .ok ())
    (h : ComesIn k b (l.receive k b s).state called skipped a) :
    ComesIn k b s (l :: called) skipped a := by
  cases h with
  | admitted hls => exact .admitted (.cons hl hls)
  | refused hls hr =>
    rw [← List.cons_append]
    exact .refused (.cons hl hls) hr

/-- A walk out calls the layers up to the first that refuses, each once and in order. -/
theorem sendAll_noted (named : List (ν × Layer σ)) (k : Kind) (b : Baggage) (s : σ) :
    ∃ called skipped, named = called ++ skipped ∧
      GoesOut k b s (called.map Prod.snd) (skipped.map Prod.snd)
        (sendAll (named.map Prod.snd) k b s) ∧
      ∀ journal, sendAll (noted named) k b (s, journal) =
        (sendAll (named.map Prod.snd) k b s).beside (journal ++ called.map Prod.fst) := by
  induction named generalizing b s with
  | nil =>
    refine ⟨[], [], rfl, .passed (.nil b s), fun journal => ?_⟩
    simp only [noted, List.map_nil, List.append_nil, sendAll, Departure.beside]
  | cons x named ih =>
    obtain ⟨name, l⟩ := x
    have hcall : ∀ journal, (l.beside (· ++ [name])).send k b (s, journal) =
        (l.send k b s).beside (journal ++ [name]) := fun _ => rfl
    simp only [noted, List.map_cons, sendAll_cons, hcall]
    cases hl : (l.send k b s).verdict with
    | ok u =>
      obtain ⟨called, skipped, hnamed, hout, hnoted⟩ :=
        ih (l.send k b s).baggage (l.send k b s).state
      refine ⟨(name, l) :: called, skipped, congrArg _ hnamed, ?_, fun journal => ?_⟩
      · rw [Departure.andThen_of_ok hl]
        exact hout.cons hl
      · have hbeside : ((l.send k b s).beside (journal ++ [name])).verdict = .ok () := hl
        rw [Departure.andThen_of_ok hl, Departure.andThen_of_ok hbeside, List.map_cons,
          List.append_cons journal name (called.map Prod.fst)]
        exact hnoted (journal ++ [name])
    | error r =>
      refine ⟨[(name, l)], named, rfl, ?_, fun journal => ?_⟩
      · rw [Departure.andThen_of_error hl]
        have hend : GoesOut k b s [l] (named.map Prod.snd) _ := .refused (.nil b s) hl
        rwa [← hl] at hend
      · have hbeside : ((l.send k b s).beside (journal ++ [name])).verdict = .error r := hl
        rw [Departure.andThen_of_error hl, Departure.andThen_of_error hbeside]
        rfl

/-- A walk in calls the layers up to the first that refuses, each once and in order. -/
theorem receiveAll_noted (named : List (ν × Layer σ)) (k : Kind) (b : Baggage) (s : σ) :
    ∃ called skipped, named = called ++ skipped ∧
      ComesIn k b s (called.map Prod.snd) (skipped.map Prod.snd)
        (receiveAll (named.map Prod.snd) k b s) ∧
      ∀ journal, receiveAll (noted named) k b (s, journal) =
        (receiveAll (named.map Prod.snd) k b s).beside (journal ++ called.map Prod.fst) := by
  induction named generalizing s with
  | nil =>
    refine ⟨[], [], rfl, .admitted (.nil s), fun journal => ?_⟩
    simp only [noted, List.map_nil, List.append_nil, receiveAll, Arrival.beside]
  | cons x named ih =>
    obtain ⟨name, l⟩ := x
    have hcall : ∀ journal, (l.beside (· ++ [name])).receive k b (s, journal) =
        (l.receive k b s).beside (journal ++ [name]) := fun _ => rfl
    simp only [noted, List.map_cons, receiveAll_cons, hcall]
    cases hl : (l.receive k b s).verdict with
    | ok u =>
      obtain ⟨called, skipped, hnamed, hin, hnoted⟩ := ih (l.receive k b s).state
      refine ⟨(name, l) :: called, skipped, congrArg _ hnamed, ?_, fun journal => ?_⟩
      · rw [Arrival.andThen_of_ok hl]
        exact hin.cons hl
      · have hbeside : ((l.receive k b s).beside (journal ++ [name])).verdict = .ok () := hl
        rw [Arrival.andThen_of_ok hl, Arrival.andThen_of_ok hbeside, List.map_cons,
          List.append_cons journal name (called.map Prod.fst)]
        exact hnoted (journal ++ [name])
    | error r =>
      refine ⟨[(name, l)], named, rfl, ?_, fun journal => ?_⟩
      · rw [Arrival.andThen_of_error hl]
        have hend : ComesIn k b s [l] (named.map Prod.snd) _ := .refused (.nil s) hl
        rwa [← hl] at hend
      · have hbeside : ((l.receive k b s).beside (journal ++ [name])).verdict = .error r := hl
        rw [Arrival.andThen_of_error hl, Arrival.andThen_of_error hbeside]
        rfl

end Layer

namespace Stack

def ofNamed (named : List (ν × Layer σ)) : Stack σ := ⟨named.map Prod.snd⟩

/-- The same stack, where each layer puts down its name when it is called. -/
def noted (named : List (ν × Layer σ)) : Stack (σ × List ν) := ⟨Layer.noted named⟩

theorem send_append (lower upper : Stack σ) (k : Kind) (b : Baggage) (s : σ) :
    (lower ++ upper).send k b s = (lower.send k b s).andThen (upper.send k) :=
  Layer.sendAll_append lower.layers upper.layers k b s

theorem receive_append (lower upper : Stack σ) (k : Kind) (b : Baggage) (s : σ) :
    (lower ++ upper).receive k b s = (upper.receive k b s).andThen (lower.receive k b) := by
  have hlayers : (lower ++ upper).layers.reverse = upper.layers.reverse ++ lower.layers.reverse :=
    List.reverse_append
  rw [receive, hlayers]
  exact Layer.receiveAll_append upper.layers.reverse lower.layers.reverse k b s

/-- What the walks through a stack of named layers call. -/
structure CallsInTurn (named : List (ν × Layer σ)) (k : Kind) (b : Baggage) (s : σ) : Prop where
  /-- On the way out the layers are called from the bottom up to the first that refuses. Its
  refusal, and the baggage and the state as it left them, is the outcome. -/
  send : ∃ called skipped, named = called ++ skipped ∧
    Layer.GoesOut k b s (called.map Prod.snd) (skipped.map Prod.snd)
      ((ofNamed named).send k b s) ∧
    ∀ journal, (noted named).send k b (s, journal) =
      ((ofNamed named).send k b s).beside (journal ++ called.map Prod.fst)
  /-- On the way in they are called from the top down to the first that refuses. -/
  receive : ∃ called skipped, named.reverse = called ++ skipped ∧
    Layer.ComesIn k b s (called.map Prod.snd) (skipped.map Prod.snd)
      ((ofNamed named).receive k b s) ∧
    ∀ journal, (noted named).receive k b (s, journal) =
      ((ofNamed named).receive k b s).beside (journal ++ called.map Prod.fst)

theorem callsInTurn (named : List (ν × Layer σ)) (k : Kind) (b : Baggage) (s : σ) :
    CallsInTurn named k b s := by
  constructor
  · exact Layer.sendAll_noted named k b s
  · have hwalk := Layer.receiveAll_noted named.reverse k b s
    simp only [Layer.noted, List.map_reverse] at hwalk
    exact hwalk

/-- A walk through two stacks, one on the other, is one walk and then, if that was not refused, the
other with what it left: first the lower one on the way out, first the upper one on the way in. So a
walk calls its layers in turn, each once, up to the first that refuses, and ends as that one did. -/
theorem walks_in_turn :
    (∀ (lower upper : Stack σ) (k : Kind) (b : Baggage) (s : σ),
      (lower ++ upper).send k b s = (lower.send k b s).andThen (upper.send k)) ∧
    (∀ (lower upper : Stack σ) (k : Kind) (b : Baggage) (s : σ),
      (lower ++ upper).receive k b s = (upper.receive k b s).andThen (lower.receive k b)) ∧
    ∀ (named : List (ν × Layer σ)) (k : Kind) (b : Baggage) (s : σ), CallsInTurn named k b s :=
  ⟨send_append, receive_append, callsInTurn⟩

end Stack

end Rpc
