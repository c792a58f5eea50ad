import Rpc.Layer.Basic

/-! # Walks through the layers

A walk is complete if every layer was shown the message in turn and let it pass, each in the state,
and on the way out with the baggage, that the one before it left. A walk that is not complete ends
at the first layer that refuses.
-/
namespace Rpc.Layer

open Message

variable {σ : Type}

/-- All layers let a message in, one after the other. -/
inductive Admits (k : Kind) (b : Baggage) : List (Layer σ) → σ → σ → Prop
  | nil (s : σ) : Admits k b [] s s
  | cons {l : Layer σ} {ls : List (Layer σ)} {s s' : σ}
      (hl : (l.receive k b s).verdict = .ok ())
      (hls : Admits k b ls (l.receive k b s).state s') : Admits k b (l :: ls) s s'

/-- A layer refuses a message on its way in, after those before it let it in. -/
inductive TurnsAway (k : Kind) (b : Baggage) : List (Layer σ) → σ → Refusal → Prop
  | here {l : Layer σ} {ls : List (Layer σ)} {s : σ} {r : Refusal}
      (hl : (l.receive k b s).verdict = .error r) : TurnsAway k b (l :: ls) s r
  | later {l : Layer σ} {ls : List (Layer σ)} {s : σ} {r : Refusal}
      (hl : (l.receive k b s).verdict = .ok ())
      (hls : TurnsAway k b ls (l.receive k b s).state r) : TurnsAway k b (l :: ls) s r

/-- All layers let a message out, each with the baggage that the one before it left. -/
inductive Passes (k : Kind) : List (Layer σ) → Baggage → σ → Baggage → σ → Prop
  | nil (b : Baggage) (s : σ) : Passes k [] b s b s
  | cons {l : Layer σ} {ls : List (Layer σ)} {b b' : Baggage} {s s' : σ}
      (hl : (l.send k b s).verdict = .ok ())
      (hls : Passes k ls (l.send k b s).baggage (l.send k b s).state b' s') :
      Passes k (l :: ls) b s b' s'

/-- A layer refuses a message on its way out, after those before it let it pass. -/
inductive Refuses (k : Kind) : List (Layer σ) → Baggage → σ → Refusal → Prop
  | here {l : Layer σ} {ls : List (Layer σ)} {b : Baggage} {s : σ} {r : Refusal}
      (hl : (l.send k b s).verdict = .error r) : Refuses k (l :: ls) b s r
  | later {l : Layer σ} {ls : List (Layer σ)} {b : Baggage} {s : σ} {r : Refusal}
      (hl : (l.send k b s).verdict = .ok ())
      (hls : Refuses k ls (l.send k b s).baggage (l.send k b s).state r) : Refuses k (l :: ls) b s r

variable {k : Kind} {ls : List (Layer σ)} {b b' : Baggage} {s s' : σ} {r : Refusal}

theorem admits_iff : Admits k b ls s s' ↔ receiveAll ls k b s = ⟨.ok (), s'⟩ := by
  constructor
  · intro h
    induction h with
    | nil s => rfl
    | cons hl hls ih => simp only [receiveAll, hl, ih]
  · intro h
    induction ls generalizing s with
    | nil =>
      cases h
      exact .nil _
    | cons l ls ih =>
      simp only [receiveAll] at h
      cases hl : (l.receive k b s).verdict with
      | ok u =>
        rw [hl] at h
        exact .cons hl (ih h)
      | error r =>
        rw [hl] at h
        cases h

theorem turnsAway_iff : TurnsAway k b ls s r ↔ (receiveAll ls k b s).verdict = .error r := by
  constructor
  · intro h
    induction h with
    | here hl => simp only [receiveAll, hl]
    | later hl hls ih => simp only [receiveAll, hl, ih]
  · intro h
    induction ls generalizing s with
    | nil => cases h
    | cons l ls ih =>
      simp only [receiveAll] at h
      cases hl : (l.receive k b s).verdict with
      | ok u =>
        rw [hl] at h
        exact .later hl (ih h)
      | error r' =>
        rw [hl] at h
        cases h
        exact .here hl

theorem passes_iff : Passes k ls b s b' s' ↔ sendAll ls k b s = ⟨.ok (), b', s'⟩ := by
  constructor
  · intro h
    induction h with
    | nil b s => rfl
    | cons hl hls ih => simp only [sendAll, hl, ih]
  · intro h
    induction ls generalizing b s with
    | nil =>
      cases h
      exact .nil _ _
    | cons l ls ih =>
      simp only [sendAll] at h
      cases hl : (l.send k b s).verdict with
      | ok u =>
        rw [hl] at h
        exact .cons hl (ih h)
      | error r =>
        rw [hl] at h
        cases h

theorem refuses_iff : Refuses k ls b s r ↔ (sendAll ls k b s).verdict = .error r := by
  constructor
  · intro h
    induction h with
    | here hl => simp only [sendAll, hl]
    | later hl hls ih => simp only [sendAll, hl, ih]
  · intro h
    induction ls generalizing b s with
    | nil => cases h
    | cons l ls ih =>
      simp only [sendAll] at h
      cases hl : (l.send k b s).verdict with
      | ok u =>
        rw [hl] at h
        exact .later hl (ih h)
      | error r' =>
        rw [hl] at h
        cases h
        exact .here hl

end Rpc.Layer

namespace Rpc.Stack

open Message

variable {σ : Type} {stack : Stack σ} {k : Kind} {b : Baggage} {s : σ}

/-- A stack admits a message if all its layers do, from the top to the bottom. -/
theorem admits_of_verdict (h : (stack.receive k b s).verdict = .ok ()) :
    Layer.Admits k b stack.layers.reverse s (stack.receive k b s).state := by
  refine Layer.admits_iff.mpr ?_
  have heta : stack.receive k b s =
      ⟨(stack.receive k b s).verdict, (stack.receive k b s).state⟩ := rfl
  rw [h] at heta
  exact heta

/-- A stack lets a message out if all its layers do, from the bottom to the top. -/
theorem passes_of_verdict (h : (stack.send k b s).verdict = .ok ()) :
    Layer.Passes k stack.layers b s (stack.send k b s).baggage (stack.send k b s).state := by
  refine Layer.passes_iff.mpr ?_
  have heta : stack.send k b s = ⟨(stack.send k b s).verdict, (stack.send k b s).baggage,
      (stack.send k b s).state⟩ := rfl
  rw [h] at heta
  exact heta

end Rpc.Stack
