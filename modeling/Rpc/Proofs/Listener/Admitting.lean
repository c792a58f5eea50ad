import Rpc.Listener.Admission
import Rpc.Proofs.Keyed
import Rpc.Proofs.Listener.Lives

/-! # What the tasks of a listener keep

The task of each socket stands for what has become of its connection: whether one has been made,
whether it is listed, how far its start has come, and whether somebody is about to tear it down. No
step of another task changes that, wherever a stop of the listener stands.
-/
namespace Rpc

namespace Admitting

def hasLife : Admitting → Bool
  | listing | counting | starting | failing | ending | lookingAgain | stopping | waiting | leaving
  | gone => true
  | _ => false

def isListed : Admitting → Bool
  | counting | starting | failing | lookingAgain | stopping | waiting | leaving => true
  | _ => false

def isEarly : Admitting → Bool
  | listing | counting | starting | lookingAgain => true
  | _ => false

/-- Whether the task has begun a teardown that is still to come to its end. -/
def isEnding : Admitting → Bool
  | failing | ending | stopping => true
  | _ => false

def hasSeenGone : Admitting → Bool
  | leaving | gone => true
  | _ => false

/-- Where the task can stand after its next step. -/
def next (passes : Bool) : Admitting → List Admitting
  | choosing => [if passes then negotiating else refused]
  | negotiating => [if passes then looking else refused]
  | looking => [turnedAway, making]
  | making => [listing]
  | listing => [counting]
  | counting => [starting]
  | starting => [starting, lookingAgain, failing]
  | failing => [ending]
  | ending => [ending, gone]
  | lookingAgain => [stopping, waiting]
  | stopping => [stopping, waiting]
  | waiting => [waiting, leaving]
  | leaving => [gone]
  | refused => [refused]
  | turnedAway => [turnedAway]
  | gone => [gone]

/-- How far the start of the connection may have come. -/
def Allows : Admitting → Starting → Prop
  | listing, s | counting, s => s = .idle
  | starting, s => s = .idle ∨ s = .taking ∨ s = .marking
  | failing, s | ending, s => s = .ended
  | lookingAgain, s | stopping, s | waiting, s | leaving, s | gone, s => s = .running ∨ s = .ended
  | _, _ => False

end Admitting

namespace Halting

def Holds (socket : Nat) : Halting → Prop
  | raising | taking | joining | collecting => False
  | gathering _ found => socket ∈ found
  | stopping found => socket ∈ found
  | done => True

/-- Whether the stop will stop this connection if it stays on the list. -/
def Awaits (socket : Nat) : Halting → Prop
  | raising | taking | joining | collecting => True
  | gathering ahead found => socket ∈ ahead ∧ socket ∉ found
  | stopping _ | done => False

end Halting

namespace Admission

variable {a a' : Admission} {socket task k : Nat} {g g' : Admitting} {h h' : Halting} {l : Life}
  {passes : Bool}

/-! ## The lists -/

theorem lookup_setSocket (a : Admission) (socket k : Nat) (after : Admitting) :
    (a.setSocket socket after).sockets.lookup k =
      if k = socket then (a.sockets.lookup k).map fun _ => after else a.sockets.lookup k :=
  lookup_modify (fun _ => after) a.sockets socket k

theorem lookup_setHalt (a : Admission) (task k : Nat) (after : Halting) :
    (a.setHalt task after).halts.lookup k =
      if k = task then (a.halts.lookup k).map fun _ => after else a.halts.lookup k :=
  lookup_modify (fun _ => after) a.halts task k

theorem life?_updateLife (a : Admission) (socket k : Nat) (f : Life → Life) :
    (a.updateLife socket f).life? k = if k = socket then (a.life? k).map f else a.life? k :=
  lookup_modify f a.lives socket k

theorem keys_updateLife (a : Admission) (socket : Nat) (f : Life → Life) :
    (a.updateLife socket f).lives.map Prod.fst = a.lives.map Prod.fst :=
  keys_modify f a.lives socket

/-! ## The numbers of teardowns -/

theorem stopOf_ne_startTask (task : Nat) : stopOf task ≠ Life.startTask := by
  unfold stopOf Life.startTask
  omega

theorem stopOf_ne_ownStop (task : Nat) : stopOf task ≠ ownStop := by
  unfold stopOf ownStop
  omega

theorem stopOf_injective {task other : Nat} (h : stopOf task = stopOf other) : task = other := by
  unfold stopOf at h
  omega

theorem foreign_ne (task : Nat) : foreign task ≠ Life.startTask ∧ foreign task ≠ ownStop ∧
    ∀ other, foreign task ≠ stopOf other := by
  unfold foreign Life.startTask ownStop stopOf
  exact ⟨by omega, by omega, fun other => by omega⟩

/-! ## One connection -/

/-- What the place of its task tells of a connection. -/
structure Fits (halts : List (Nat × Halting)) (socket : Nat) (g : Admitting) (l : Life) : Prop where
  undropped : Life.Undropped l
  allows : g.Allows l.starting
  early : g.isEarly = true → l.teardowns.lookup Life.startTask = none ∧
    l.teardowns.lookup ownStop = none
  fresh : ∀ task, (∀ h, halts.lookup task = some h → ¬ h.Holds socket) →
    l.teardowns.lookup (stopOf task) = none
  ending : g.isEnding = true → Life.Doomed l
  /-- Whoever waits is torn down by somebody, or every stop will find it. -/
  waiting : g = .waiting → Life.Doomed l ∨ ∀ task h, halts.lookup task = some h → h.Awaits socket
  gone : g.hasSeenGone = true → l.phase = .disconnected

namespace Fits

variable {halts halts' : List (Nat × Halting)}

theorem started (hf : Fits halts socket g l) (hg : g.isEnding ∨ g = .waiting ∨ g.hasSeenGone) :
    l.starting = .running ∨ l.starting = .ended := by
  have hallows := hf.allows
  cases g with
  | failing | ending => exact Or.inr hallows
  | lookingAgain | stopping | waiting | leaving | gone => exact hallows
  | choosing | negotiating | looking | making | listing | counting | starting | refused
  | turnedAway => simp [Admitting.isEnding, Admitting.hasSeenGone] at hg

/-- What happens beside the start leaves the task where it is, if all that is brought is brought by
others than the task. -/
theorem step (hf : Fits halts socket g l) {e : Life.Event} (he : e.IsBeside)
    (hbrings : ∀ k, e.brings? = some k → k ≠ Life.startTask ∧ k ≠ ownStop ∧
      ∀ task, k = stopOf task → ∃ h, halts'.lookup task = some h ∧ h.Holds socket)
    (hholds : ∀ task h, halts.lookup task = some h → h.Holds socket →
      ∃ h', halts'.lookup task = some h' ∧ h'.Holds socket)
    (hwaiting : g = .waiting → (∀ task h, halts.lookup task = some h → h.Awaits socket) →
      Life.Doomed (l.step e) ∨ ∀ task h, halts'.lookup task = some h → h.Awaits socket) :
    Fits halts' socket g (l.step e) := by
  have hallows : g.Allows (l.step e).starting := by
    have hallows := hf.allows
    rcases Life.starting_step (l := l) he with hsame | ⟨hruns, hends⟩
    · rw [hsame]
      exact hallows
    · rw [hruns] at hallows
      rw [hends]
      cases g <;> first | exact Or.inr rfl | simp [Admitting.Allows] at hallows
  constructor
  · exact hf.undropped.step he.ne_drop
  · exact hallows
  · intro hg
    obtain ⟨hstart, hown⟩ := hf.early hg
    exact ⟨Life.lookup_step_none hstart fun hb => (hbrings _ hb).1 rfl,
      Life.lookup_step_none hown fun hb => (hbrings _ hb).2.1 rfl⟩
  · intro task hnone
    refine Life.lookup_step_none (hf.fresh task ?_) ?_
    · intro h hh hholding
      obtain ⟨h', hh', hholding'⟩ := hholds task h hh hholding
      exact hnone h' hh' hholding'
    · intro hb
      obtain ⟨h, hh, hholding⟩ := (hbrings _ hb).2.2 task rfl
      exact hnone h hh hholding
  · intro hg
    exact (hf.ending hg).step (hf.started (Or.inl hg)) he.ne_drop
  · intro hg
    rcases hf.waiting hg with hdoomed | hawaits
    · exact Or.inl (hdoomed.step (hf.started (Or.inr (Or.inl hg))) he.ne_drop)
    · exact hwaiting hg hawaits
  · intro hg
    exact Life.gone_step (hf.gone hg) (hf.started (Or.inr (Or.inr hg))) e

theorem rehalt (hf : Fits halts socket g l)
    (hholds : ∀ task h, halts.lookup task = some h → h.Holds socket →
      ∃ h', halts'.lookup task = some h' ∧ h'.Holds socket)
    (hwaiting : g = .waiting → (∀ task h, halts.lookup task = some h → h.Awaits socket) →
      ∀ task h, halts'.lookup task = some h → h.Awaits socket) : Fits halts' socket g l where
  undropped := hf.undropped
  allows := hf.allows
  early := hf.early
  fresh task hnone := by
    refine hf.fresh task fun h hh hholding => ?_
    obtain ⟨h', hh', hholding'⟩ := hholds task h hh hholding
    exact hnone h' hh' hholding'
  ending := hf.ending
  waiting hg := (hf.waiting hg).imp_right (hwaiting hg)
  gone := hf.gone

theorem move (hf : Fits halts socket g l) (hallows : g'.Allows l.starting)
    (hearly : g'.isEarly = true → g.isEarly = true)
    (hending : g'.isEnding = true → Life.Doomed l)
    (hwaiting : g' = .waiting →
      Life.Doomed l ∨ ∀ task h, halts.lookup task = some h → h.Awaits socket)
    (hgone : g'.hasSeenGone = true → l.phase = .disconnected) : Fits halts socket g' l :=
  ⟨hf.undropped, hallows, fun hg => hf.early (hearly hg), hf.fresh, hending, hwaiting, hgone⟩

end Fits

theorem fits_new (halts : List (Nat × Halting)) (socket : Nat) :
    Fits halts socket .listing (Life.new .server) where
  undropped := ⟨[], rfl, fun _ hmem => nomatch hmem⟩
  allows := rfl
  early _ := ⟨rfl, rfl⟩
  fresh _ _ := rfl
  ending hg := by cases hg
  waiting hg := by cases hg
  gone hg := by cases hg

/-- What the place of the task of a socket tells of the lists. -/
structure Consistent (a : Admission) (socket : Nat) : Prop where
  made : (a.life? socket).isSome = (a.sockets.lookup socket).any Admitting.hasLife
  listed : socket ∈ a.live ↔ (a.sockets.lookup socket).any Admitting.isListed = true
  turnedAway : a.sockets.lookup socket = some .turnedAway → a.stopped = true
  fits : ∀ g l, a.sockets.lookup socket = some g → a.life? socket = some l →
    Fits a.halts socket g l

/-- Two states tell the same of a socket. -/
structure SameAt (a a' : Admission) (socket : Nat) : Prop where
  sockets : a'.sockets.lookup socket = a.sockets.lookup socket
  life : a'.life? socket = a.life? socket
  live : socket ∈ a'.live ↔ socket ∈ a.live

namespace SameAt

theorem refl (a : Admission) (k : Nat) : SameAt a a k := ⟨rfl, rfl, Iff.rfl⟩

theorem setSocket (h : SameAt a a' k) (hne : k ≠ socket) (after : Admitting) :
    SameAt a (a'.setSocket socket after) k :=
  ⟨by rw [lookup_setSocket, if_neg hne, h.sockets], h.life, h.live⟩

theorem updateLife (h : SameAt a a' k) (hne : k ≠ socket) (f : Life → Life) :
    SameAt a (a'.updateLife socket f) k :=
  ⟨h.sockets, by rw [life?_updateLife, if_neg hne, h.life], h.live⟩

end SameAt

namespace Consistent

theorem update (h : Consistent a k) {f : Life → Life}
    (hsockets : a'.sockets.lookup k = a.sockets.lookup k) (hlife : a'.life? k = (a.life? k).map f)
    (hlive : k ∈ a'.live ↔ k ∈ a.live) (hstopped : a.stopped → a'.stopped)
    (hfits : ∀ g l, a.sockets.lookup k = some g → a.life? k = some l → Fits a.halts k g l →
      Fits a'.halts k g (f l)) : Consistent a' k where
  made := by rw [hlife, Option.isSome_map, hsockets, h.made]
  listed := by rw [hlive, hsockets, h.listed]
  turnedAway := by
    rw [hsockets]
    exact fun hg => hstopped (h.turnedAway hg)
  fits g l hg hl := by
    rw [hsockets] at hg
    rw [hlife] at hl
    obtain ⟨l', hl', rfl⟩ := Option.map_eq_some_iff.mp hl
    exact hfits g l' hg hl' (h.fits g l' hg hl')

theorem rehalt (h : Consistent a k) (hsame : SameAt a a' k) (hstopped : a.stopped → a'.stopped)
    (hholds : ∀ task h, a.halts.lookup task = some h → h.Holds k →
      ∃ h', a'.halts.lookup task = some h' ∧ h'.Holds k)
    (hwaiting : a.sockets.lookup k = some .waiting →
      (∀ task h, a.halts.lookup task = some h → h.Awaits k) →
        ∀ task h, a'.halts.lookup task = some h → h.Awaits k) : Consistent a' k :=
  h.update (f := id) hsame.sockets (by rw [Option.map_id, hsame.life]; rfl) hsame.live hstopped
    fun _ _ hg _ hf => hf.rehalt hholds fun heq => hwaiting (heq ▸ hg)

theorem congr (h : Consistent a k) (hsame : SameAt a a' k) (hstopped : a.stopped → a'.stopped)
    (hhalts : a'.halts = a.halts) : Consistent a' k :=
  h.rehalt hsame hstopped (fun _ q hq hk => ⟨q, hhalts ▸ hq, hk⟩)
    fun _ hall task q hq => hall task q (hhalts ▸ hq)

theorem made_of (h : Consistent a socket) (hg : a.sockets.lookup socket = some g) :
    (a.life? socket).isSome = g.hasLife := by
  rw [h.made, hg]
  rfl

theorem listed_of (h : Consistent a socket) (hg : a.sockets.lookup socket = some g) :
    socket ∈ a.live ↔ g.isListed = true := by
  rw [h.listed, hg]
  rfl

theorem lifeless (h : Consistent a socket) (hg : a.sockets.lookup socket = some g)
    (hnone : g.hasLife = false) : a.life? socket = none := by
  have hmade := h.made_of hg
  rw [hnone] at hmade
  exact Option.not_isSome_iff_eq_none.mp (by rw [hmade]; exact Bool.false_ne_true)

theorem exists_of_life (h : Consistent a socket) (hl : a.life? socket = some l) :
    ∃ g, a.sockets.lookup socket = some g ∧ Fits a.halts socket g l := by
  have hmade := h.made
  rw [hl] at hmade
  cases hg : a.sockets.lookup socket with
  | none =>
    rw [hg] at hmade
    cases hmade
  | some g => exact ⟨g, rfl, h.fits g l hg hl⟩

theorem exists_life (h : Consistent a socket) (hg : a.sockets.lookup socket = some g)
    (hmade : g.hasLife = true) : ∃ l, a.life? socket = some l ∧ Fits a.halts socket g l := by
  obtain ⟨l, hl⟩ := Option.isSome_iff_exists.mp ((h.made_of hg).trans hmade)
  exact ⟨l, hl, h.fits g l hg hl⟩

theorem go (hg : a.sockets.lookup socket = some g) (hl : a.life? socket = some l)
    (hmade : g'.hasLife = true) (hlisted : socket ∈ a.live ↔ g'.isListed = true)
    (hf : Fits a.halts socket g' l) : Consistent (a.setSocket socket g') socket := by
  have hlookup : (a.setSocket socket g').sockets.lookup socket = some g' := by
    rw [lookup_setSocket, if_pos rfl, hg]
    rfl
  have hlife : (a.setSocket socket g').life? socket = some l := hl
  constructor
  · rw [hlookup, hlife]
    exact hmade.symm
  · rw [hlookup]
    exact hlisted
  · rw [hlookup]
    intro heq
    cases heq
    cases hmade
  · intro g'' l' hg'' hl'
    rw [hlookup] at hg''
    rw [hlife] at hl'
    cases hg''
    cases hl'
    exact hf

theorem stay (h : Consistent a socket) (hg : a.sockets.lookup socket = some g)
    (hnone : g.hasLife = false) (hnone' : g'.hasLife = false) (hlisted : g.isListed = g'.isListed)
    (hturned : g' = .turnedAway → a.stopped = true) : Consistent (a.setSocket socket g') socket := by
  have hlookup : (a.setSocket socket g').sockets.lookup socket = some g' := by
    rw [lookup_setSocket, if_pos rfl, hg]
    rfl
  have hlife : (a.setSocket socket g').life? socket = none := h.lifeless hg hnone
  constructor
  · rw [hlookup, hlife]
    exact hnone'.symm
  · rw [hlookup]
    change socket ∈ a.live ↔ g'.isListed = true
    rw [← hlisted]
    exact h.listed_of hg
  · rw [hlookup]
    exact fun heq => hturned (Option.some.inj heq)
  · intro g'' l _ hl
    rw [hlife] at hl
    cases hl

end Consistent

/-- What holds of a listener wherever its tasks stand. -/
structure Kept (a : Admission) : Prop where
  keys : (a.lives.map Prod.fst).Nodup
  raised : ∀ task h, a.halts.lookup task = some h → h ≠ .raising → a.stopped = true
  consistent : ∀ socket, Consistent a socket
  handled : ∀ x ∈ a.handled, x.listed = true ∨ x.phase = .disconnected

theorem kept_new : Kept new where
  keys := List.nodup_nil
  raised _ _ hh := by cases hh
  consistent socket :=
    ⟨rfl, iff_of_false List.not_mem_nil Bool.false_ne_true, (fun hg => nomatch hg),
      fun _ _ hg => nomatch hg⟩
  handled x hx := by cases hx

/-! ## The tasks of sockets -/

theorem stepSocket_sameAt (a : Admission) (hne : k ≠ socket) (passes : Bool) (g : Admitting) :
    SameAt a (a.stepSocket socket passes g) k := by
  have hsame := SameAt.refl a k
  have hset : ∀ {a' : Admission} {after : Admitting},
      a'.sockets.lookup k = a.sockets.lookup k → a'.life? k = a.life? k →
        (k ∈ a'.live ↔ k ∈ a.live) → SameAt a (a'.setSocket socket after) k :=
    fun hsockets hlife hlive => SameAt.setSocket ⟨hsockets, hlife, hlive⟩ hne _
  have hlist : k ∈ a.live ++ [socket] ↔ k ∈ a.live := by simp [hne]
  have hunlist : k ∈ a.live.filter (· ≠ socket) ↔ k ∈ a.live := by simp [hne]
  cases g with
  | choosing | negotiating =>
    simp only [stepSocket, refuse]
    split
    · exact hsame.setSocket hne _
    · exact hset rfl rfl Iff.rfl
  | looking => exact hsame.setSocket hne _
  | making =>
    refine hset rfl ?_ Iff.rfl
    change (a.lives ++ [(socket, _)]).lookup k = _
    rw [lookup_concat, if_neg hne, Option.or_none]
    rfl
  | listing => exact hset rfl rfl hlist
  | counting => exact hset rfl rfl Iff.rfl
  | starting =>
    simp only [stepSocket, goOn]
    split
    · split
      · exact (hsame.updateLife hne _).setSocket hne _
      · exact (hsame.updateLife hne _).setSocket hne _
      · exact hsame.updateLife hne _
    · exact hsame
  | failing | leaving => exact hset rfl rfl hunlist
  | ending | stopping | waiting =>
    simp only [stepSocket]
    split
    · exact hsame.setSocket hne _
    · exact hsame
  | lookingAgain =>
    simp only [stepSocket]
    split
    · exact (hsame.updateLife hne _).setSocket hne _
    · exact hsame.setSocket hne _
  | refused | turnedAway | gone => exact hsame

theorem lookup_stepSocket (hg : a.sockets.lookup socket = some g) (passes : Bool) :
    ∃ g' ∈ g.next passes, (a.stepSocket socket passes g).sockets.lookup socket = some g' := by
  have hset : ∀ {a' : Admission} {after : Admitting}, a'.sockets = a.sockets →
      after ∈ g.next passes →
        ∃ g' ∈ g.next passes, (a'.setSocket socket after).sockets.lookup socket = some g' := by
    intro a' after hsame hafter
    refine ⟨after, hafter, ?_⟩
    rw [lookup_setSocket, if_pos rfl, hsame, hg]
    rfl
  cases g with
  | choosing | negotiating =>
    simp only [stepSocket, refuse]
    split
    · exact hset rfl (by simp [Admitting.next, *])
    · exact hset rfl (by simp [Admitting.next, *])
  | looking =>
    refine hset rfl ?_
    split <;> simp [Admitting.next]
  | making | listing | counting | failing | leaving => exact hset rfl List.mem_cons_self
  | starting =>
    simp only [stepSocket, goOn]
    split
    · split
      · exact hset rfl (by simp [Admitting.next])
      · exact hset rfl (by simp [Admitting.next])
      · exact ⟨_, List.mem_cons_self, hg⟩
    · exact ⟨_, List.mem_cons_self, hg⟩
  | ending | stopping | waiting =>
    simp only [stepSocket]
    split
    · exact hset rfl (by simp [Admitting.next])
    · exact ⟨_, List.mem_cons_self, hg⟩
  | lookingAgain =>
    simp only [stepSocket]
    split <;> exact hset rfl (by simp [Admitting.next])
  | refused | turnedAway | gone => exact ⟨_, List.mem_cons_self, hg⟩

theorem stepSocket_frame (a : Admission) (socket : Nat) (passes : Bool) (g : Admitting) :
    (a.stepSocket socket passes g).halts = a.halts ∧
      (a.stepSocket socket passes g).stopped = a.stopped ∧
        (a.stepSocket socket passes g).handled = a.handled := by
  cases g with
  | starting =>
    simp only [stepSocket, goOn]
    split
    · split <;> exact ⟨rfl, rfl, rfl⟩
    · exact ⟨rfl, rfl, rfl⟩
  | choosing | negotiating | ending | lookingAgain | stopping | waiting =>
    simp only [stepSocket]
    split <;> exact ⟨rfl, rfl, rfl⟩
  | looking | making | listing | counting | failing | leaving | refused | turnedAway | gone =>
    exact ⟨rfl, rfl, rfl⟩

theorem isGone_iff (hl : a.life? socket = some l) :
    a.isGone socket = true ↔ l.phase = .disconnected := by
  simp [isGone, hl]

theorem Consistent.goOn (h : Consistent a socket) (hg : a.sockets.lookup socket = some .starting) :
    Consistent (a.goOn socket) socket := by
  obtain ⟨l, hl, hf⟩ := h.exists_life hg rfl
  obtain ⟨hstart, hown⟩ := hf.early rfl
  have hlife : (a.updateLife socket fun _ => l.step .start).life? socket = some (l.step .start) := by
    rw [life?_updateLife, if_pos rfl, hl]
    rfl
  have hundropped : Life.Undropped (l.step .start) :=
    hf.undropped.step fun _ => Life.Event.noConfusion
  have hfresh : ∀ task, (∀ h, a.halts.lookup task = some h → ¬ h.Holds socket) →
      (l.step .start).teardowns.lookup (stopOf task) = none := by
    intro task hnone
    refine Life.lookup_step_none (hf.fresh task hnone) fun hbrings => ?_
    exact stopOf_ne_startTask task (Option.some.inj hbrings).symm
  have hset : ∀ {g' : Admitting}, g'.hasLife = true → g'.isListed = true →
      Fits a.halts socket g' (l.step .start) →
        Consistent ((a.updateLife socket fun _ => l.step .start).setSocket socket g') socket := by
    intro g' hmade hlisted hf'
    refine .go hg hlife hmade ?_ hf'
    rw [hlisted]
    exact h.listed_of hg
  simp only [Admission.goOn, hl]
  rcases hf.undropped.stepStart hf.allows hstart with ⟨hgoes, hsame⟩ | ⟨hends, hdoomed⟩
  · have hearly : (l.step .start).teardowns.lookup Life.startTask = none ∧
        (l.step .start).teardowns.lookup ownStop = none := by
      rw [hsame]
      exact ⟨hstart, hown⟩
    have hkeep : (l.step .start).starting = .taking ∨ (l.step .start).starting = .marking →
        Consistent (a.updateLife socket fun _ => l.step .start) socket := by
      intro hs
      refine h.update (f := fun _ => l.step .start) rfl ?_ Iff.rfl id fun g' l' hg' _ _ => ?_
      · rw [life?_updateLife, if_pos rfl]
      · cases hg.symm.trans hg'
        exact ⟨hundropped, Or.inr hs, fun _ => hearly, hfresh, nofun, nofun, nofun⟩
    rcases hgoes with hs | hs | hs
    · simp only [hs]
      exact hkeep (Or.inl hs)
    · simp only [hs]
      exact hkeep (Or.inr hs)
    · simp only [hs]
      exact hset rfl rfl ⟨hundropped, Or.inl hs, fun _ => hearly, hfresh, nofun, nofun, nofun⟩
  · simp only [hends]
    exact hset rfl rfl ⟨hundropped, hends, nofun, hfresh, fun _ => hdoomed, nofun, nofun⟩

/-- Whoever finds the listener stopped stops its connection; otherwise no stop has gone through the
list yet. -/
theorem Consistent.lookAgain (h : Kept a) (hg : a.sockets.lookup socket = some .lookingAgain) :
    Consistent (a.stepSocket socket passes .lookingAgain) socket := by
  have hlisted := (h.consistent socket).listed_of hg
  obtain ⟨l, hl, hf⟩ := (h.consistent socket).exists_life hg rfl
  simp only [stepSocket]
  split
  · have hlife : (a.updateLife socket fun l => l.step (.beginStop ownStop)).life? socket =
        some (l.step (.beginStop ownStop)) := by
      rw [life?_updateLife, if_pos rfl, hl]
      rfl
    have hne : ∀ task, Life.Event.brings? (.beginStop ownStop) ≠ some (stopOf task) :=
      fun task hbrings => stopOf_ne_ownStop task (Option.some.inj hbrings).symm
    exact .go hg hlife rfl hlisted
      ⟨hf.undropped.step fun _ => Life.Event.noConfusion, Life.started_step hf.allows _, nofun,
        fun task hnone => Life.lookup_step_none (hf.fresh task hnone) (hne task),
        fun _ => Life.doomed_beginStop (hf.early rfl).2 (by decide), nofun, nofun⟩
  · rename_i hruns
    refine .go hg hl rfl hlisted
      (hf.move hf.allows nofun nofun (fun _ => Or.inr fun task h' hh' => ?_) nofun)
    by_cases hraises : h' = .raising
    · rw [hraises]
      trivial
    · exact absurd (h.raised task h' hh' hraises) hruns

/-- Each step of the task of a socket keeps what its place tells. -/
theorem Consistent.advance (h : Kept a) (hg : a.sockets.lookup socket = some g) :
    Consistent (a.stepSocket socket passes g) socket := by
  have hc := h.consistent socket
  have hlisted := hc.listed_of hg
  have hunlisted : ∀ {live : List Nat}, socket ∈ live.filter (· ≠ socket) ↔ false = true := by
    simp
  cases g with
  | choosing | negotiating =>
    simp only [stepSocket, refuse]
    split
    · exact hc.stay hg rfl rfl rfl Admitting.noConfusion
    · exact Consistent.stay (a := { a with refused := a.refused + 1 })
        (hc.congr ⟨rfl, rfl, Iff.rfl⟩ id rfl) hg rfl rfl rfl Admitting.noConfusion
  | looking =>
    simp only [stepSocket]
    split
    · exact hc.stay hg rfl rfl rfl fun _ => ‹_›
    · exact hc.stay hg rfl rfl rfl Admitting.noConfusion
  | making =>
    have hlife : (a.lives ++ [(socket, Life.new .server)]).lookup socket =
        some (Life.new .server) := by
      have hnone : a.lives.lookup socket = none := hc.lifeless hg rfl
      rw [lookup_concat, hnone, if_pos rfl]
      rfl
    exact Consistent.go (a := { a with lives := a.lives ++ [(socket, Life.new .server)] })
      hg hlife rfl hlisted (fits_new a.halts socket)
  | listing =>
    obtain ⟨l, hl, hf⟩ := hc.exists_life hg rfl
    have hlisted' : socket ∈ a.live ++ [socket] ↔ true = true := by simp
    exact Consistent.go (a := { a with live := a.live ++ [socket] }) hg hl rfl hlisted'
      (hf.move hf.allows id nofun nofun nofun)
  | counting =>
    obtain ⟨l, hl, hf⟩ := hc.exists_life hg rfl
    exact Consistent.go (a := { a with accepted := a.accepted + 1 }) hg hl rfl hlisted
      (hf.move (Or.inl hf.allows) id nofun nofun nofun)
  | starting => exact hc.goOn hg
  | failing =>
    obtain ⟨l, hl, hf⟩ := hc.exists_life hg rfl
    exact Consistent.go (a := { a with live := a.live.filter (· ≠ socket) }) hg hl rfl hunlisted
      (hf.move hf.allows nofun (fun _ => hf.ending rfl) nofun nofun)
  | ending =>
    obtain ⟨l, hl, hf⟩ := hc.exists_life hg rfl
    simp only [stepSocket]
    split
    · rename_i hgone
      exact .go hg hl rfl hlisted
        (hf.move (Or.inr hf.allows) nofun nofun nofun fun _ => (isGone_iff hl).mp hgone)
    · exact hc
  | lookingAgain => exact Consistent.lookAgain h hg
  | stopping =>
    obtain ⟨l, hl, hf⟩ := hc.exists_life hg rfl
    simp only [stepSocket]
    split
    · exact .go hg hl rfl hlisted
        (hf.move hf.allows nofun nofun (fun _ => Or.inl (hf.ending rfl)) nofun)
    · exact hc
  | waiting =>
    obtain ⟨l, hl, hf⟩ := hc.exists_life hg rfl
    simp only [stepSocket]
    split
    · rename_i hgone
      exact .go hg hl rfl hlisted
        (hf.move hf.allows nofun nofun nofun fun _ => (isGone_iff hl).mp hgone)
    · exact hc
  | leaving =>
    obtain ⟨l, hl, hf⟩ := hc.exists_life hg rfl
    exact Consistent.go (a := { a with live := a.live.filter (· ≠ socket) }) hg hl rfl hunlisted
      (hf.move hf.allows nofun nofun nofun fun _ => hf.gone rfl)
  | refused | turnedAway | gone => exact hc

theorem stepSocket_keys (h : Consistent a socket) (hg : a.sockets.lookup socket = some g)
    (hkeys : (a.lives.map Prod.fst).Nodup) :
    ((a.stepSocket socket passes g).lives.map Prod.fst).Nodup := by
  have hupdate : ∀ {a' : Admission} (f : Life → Life), a'.lives = (a.updateLife socket f).lives →
      (a'.lives.map Prod.fst).Nodup := by
    intro a' f hsame
    rw [hsame, keys_updateLife]
    exact hkeys
  cases g with
  | making =>
    have hnone : a.lives.lookup socket = none := h.lifeless hg rfl
    change ((a.lives ++ [(socket, Life.new .server)]).map Prod.fst).Nodup
    rw [List.map_append, List.nodup_append]
    refine ⟨hkeys, List.nodup_singleton socket, ?_⟩
    intro x hx y hy
    obtain ⟨z, hz, rfl⟩ := List.mem_map.mp hx
    rw [List.mem_singleton.mp hy]
    exact ne_of_lookup_eq_none hnone hz
  | starting =>
    simp only [stepSocket, goOn]
    split
    · split <;> exact hupdate (fun _ => _) rfl
    · exact hkeys
  | lookingAgain =>
    simp only [stepSocket]
    split
    · exact hupdate (·.step (.beginStop ownStop)) rfl
    · exact hkeys
  | choosing | negotiating | ending | stopping | waiting =>
    simp only [stepSocket]
    split <;> exact hkeys
  | looking | listing | counting | failing | leaving | refused | turnedAway | gone => exact hkeys

theorem Kept.advance (h : Kept a) (socket : Nat) (passes : Bool) :
    Kept (a.step (.advance socket passes)) := by
  simp only [step]
  split
  · rename_i g hg
    obtain ⟨hhalts, hstopped, hhandled⟩ := stepSocket_frame a socket passes g
    constructor
    · exact stepSocket_keys (h.consistent socket) hg h.keys
    · rw [hhalts, hstopped]
      exact h.raised
    · intro k
      by_cases hk : k = socket
      · rw [hk]
        exact Consistent.advance h hg
      · exact (h.consistent k).congr (stepSocket_sameAt a hk passes g) (hstopped ▸ id) hhalts
    · rw [hhandled]
      exact h.handled
  · exact h

/-! ## Stops of the listener -/

theorem Kept.begin (h : Kept a) (task : Nat) :
    Kept { a with halts := a.halts ++ [(task, .raising)] } := by
  have hlookup : ∀ k h', (a.halts ++ [(task, Halting.raising)]).lookup k = some h' →
      a.halts.lookup k = some h' ∨ h' = .raising := by
    intro k h' hh'
    rw [lookup_concat, Option.or_eq_some_iff] at hh'
    rcases hh' with hold | ⟨-, hnew⟩
    · exact Or.inl hold
    · split at hnew
      · exact Or.inr (Option.some.inj hnew).symm
      · cases hnew
  constructor
  · exact h.keys
  · intro k h' hh' hne
    exact h.raised k h' ((hlookup k h' hh').resolve_right hne) hne
  · intro k
    refine (h.consistent k).rehalt ⟨rfl, rfl, Iff.rfl⟩ id ?_ ?_
    · intro task' h' hh' hholds
      exact ⟨h', by rw [lookup_concat, hh', Option.some_or], hholds⟩
    · intro _ hawaits task' h' hh'
      rcases hlookup task' h' hh' with hold | rfl
      · exact hawaits task' h' hold
      · trivial
  · exact h.handled

theorem lookup_setHalt_of (hh : a.halts.lookup task = some h) (after : Halting) (k : Nat) :
    (a.setHalt task after).halts.lookup k = if k = task then some after else a.halts.lookup k := by
  rw [lookup_setHalt]
  split
  · rename_i hk
    rw [hk, hh]
    rfl
  · rfl

/-- What a stop holds when it goes on, it holds from then on. -/
theorem holds_setHalt (hh : a.halts.lookup task = some h) (hholds : h.Holds k → h'.Holds k)
    (other : Nat) (q : Halting) (hq : a.halts.lookup other = some q) (hk : q.Holds k) :
    ∃ q', (a.setHalt task h').halts.lookup other = some q' ∧ q'.Holds k := by
  rw [lookup_setHalt_of hh]
  by_cases htask : other = task
  · subst htask
    cases hh.symm.trans hq
    exact ⟨h', if_pos rfl, hholds hk⟩
  · exact ⟨q, by rw [if_neg htask, hq], hk⟩

theorem awaits_setHalt (hh : a.halts.lookup task = some h) (hawaits : h.Awaits k → h'.Awaits k)
    (hall : ∀ task h, a.halts.lookup task = some h → h.Awaits k) (other : Nat) (q : Halting)
    (hq : (a.setHalt task h').halts.lookup other = some q) : q.Awaits k := by
  rw [lookup_setHalt_of hh] at hq
  split at hq
  · cases hq
    exact hawaits (hall task h hh)
  · exact hall other q hq

theorem Kept.setHalt (hkept : Kept a) (hh : a.halts.lookup task = some h)
    (hholds : ∀ k, h.Holds k → h'.Holds k)
    (hawaits : ∀ k, a.sockets.lookup k = some .waiting → h.Awaits k → h'.Awaits k)
    (hstopped : a.stopped = true) : Kept (a.setHalt task h') where
  keys := hkept.keys
  raised _ _ _ _ := hstopped
  consistent k := (hkept.consistent k).rehalt ⟨rfl, rfl, Iff.rfl⟩ id (holds_setHalt hh (hholds k))
    fun hg => awaits_setHalt hh (hawaits k hg)
  handled := hkept.handled

theorem isBeside_beginStop (task : Nat) : (Life.Event.beginStop task).IsBeside :=
  ⟨Life.Event.noConfusion, fun _ => Life.Event.noConfusion, fun _ => Life.Event.noConfusion⟩

section Find

variable {before ahead found : List Nat}

/-- The stop that comes by a connection for the first time holds it now. -/
theorem Fits.find (hf : Fits a.halts socket g l)
    (hh : a.halts.lookup task = some (.gathering before found)) (hnew : socket ∉ found) :
    Fits (a.setHalt task (.gathering ahead (found ++ [socket]))).halts socket g
      (l.step (.beginStop (stopOf task))) := by
  have hfree : l.teardowns.lookup (stopOf task) = none := by
    refine hf.fresh task fun h hh' hholding => ?_
    cases hh.symm.trans hh'
    exact hnew hholding
  refine hf.step (isBeside_beginStop _) ?_ ?_ ?_
  · intro k hbrings
    cases hbrings
    refine ⟨stopOf_ne_startTask task, stopOf_ne_ownStop task, fun other heq => ?_⟩
    cases stopOf_injective heq
    exact ⟨_, (lookup_setHalt_of hh _ task).trans (if_pos rfl),
      List.mem_append_right _ List.mem_cons_self⟩
  · exact holds_setHalt hh (List.mem_append_left _)
  · intro _ _
    exact Or.inl (Life.doomed_beginStop hfree (stopOf_ne_startTask task))

/-- A stop comes by a connection, which is the only one that it may leave behind. -/
theorem Kept.find (hkept : Kept a)
    (hh : a.halts.lookup task = some (.gathering before found))
    (hahead : ∀ k, k ≠ socket → k ∈ before → k ∈ ahead) : Kept (a.find task socket ahead found) := by
  have hstopped := hkept.raised task _ hh Halting.noConfusion
  unfold Admission.find
  split
  · rename_i hnew
    have hlife := fun k => life?_updateLife a socket k (·.step (.beginStop (stopOf task)))
    constructor
    · have hkeys := hkept.keys
      rw [← keys_updateLife a socket (·.step (.beginStop (stopOf task)))] at hkeys
      exact hkeys
    · exact fun _ _ _ _ => hstopped
    · intro k
      have hc := hkept.consistent k
      by_cases hk : k = socket
      · subst hk
        exact hc.update rfl ((hlife k).trans (if_pos rfl)) Iff.rfl id fun g l _ _ hf =>
          hf.find hh hnew.2
      · refine hc.rehalt ⟨rfl, (hlife k).trans (if_neg hk), Iff.rfl⟩ id ?_ fun _ => ?_
        · exact holds_setHalt hh (List.mem_append_left _)
        · refine awaits_setHalt hh ?_
          rintro ⟨hbefore, hfound⟩
          exact ⟨hahead k hk hbefore, by simp [hfound, hk]⟩
    · exact hkept.handled
  · rename_i hold
    refine hkept.setHalt hh (fun _ hholding => hholding) (fun k hg hawaits => ?_) hstopped
    obtain ⟨hbefore, hfound⟩ := hawaits
    refine ⟨hahead k ?_ hbefore, hfound⟩
    rintro rfl
    exact hold ⟨((hkept.consistent k).listed_of hg).mpr rfl, hfound⟩

end Find

/-- What a listener keeps does not tell of the accept loop or the counts. -/
theorem Kept.congr (h : Kept a) (hsockets : a'.sockets = a.sockets) (hlives : a'.lives = a.lives)
    (hlive : a'.live = a.live) (hstopped : a.stopped → a'.stopped) (hhalts : a'.halts = a.halts)
    (hhandled : a'.handled = a.handled) : Kept a' where
  keys := hlives ▸ h.keys
  raised := by
    rw [hhalts]
    exact fun task h' hh' hne => hstopped (h.raised task h' hh' hne)
  consistent k := by
    refine (h.consistent k).congr ⟨by rw [hsockets], ?_, by rw [hlive]⟩ hstopped hhalts
    unfold life?
    rw [hlives]
  handled := hhandled ▸ h.handled

/-- Each step of a stop keeps what the others stand for. -/
theorem Kept.halt (hkept : Kept a) (hh : a.halts.lookup task = some h) :
    Kept (a.stepHalt task h) := by
  have hstopped : h ≠ .raising → a.stopped = true := hkept.raised task h hh
  have hpass : ∀ {a' : Admission} {h' : Halting}, Kept a' → a'.halts = a.halts →
      a'.stopped = true → (∀ k, ¬ h.Holds k) → (∀ k, h'.Awaits k) → Kept (a'.setHalt task h') :=
    fun hkept' hhalts hstopped' hholds hawaits =>
      hkept'.setHalt (hhalts ▸ hh) (fun k hk => absurd hk (hholds k)) (fun k _ _ => hawaits k)
        hstopped'
  cases h with
  | raising =>
    have hraised : Kept { a with stopped := true } :=
      hkept.congr rfl rfl rfl (fun _ => rfl) rfl rfl
    exact hpass hraised rfl rfl (fun _ => id) fun _ => trivial
  | taking =>
    simp only [stepHalt]
    split
    · exact hpass hkept rfl (hstopped Halting.noConfusion) (fun _ => id) fun _ => trivial
    · have htaken : Kept { a with loopTaken := true } := hkept.congr rfl rfl rfl id rfl rfl
      exact hpass htaken rfl (hstopped Halting.noConfusion) (fun _ => id) fun _ => trivial
  | joining =>
    simp only [stepHalt]
    split
    · exact hkept
    · exact hpass hkept rfl (hstopped Halting.noConfusion) (fun _ => id) fun _ => trivial
  | collecting =>
    refine hkept.setHalt hh (fun _ => False.elim) (fun k hg _ => ?_) (hstopped Halting.noConfusion)
    exact ⟨((hkept.consistent k).listed_of hg).mpr rfl, List.not_mem_nil⟩
  | gathering ahead found =>
    cases ahead with
    | nil =>
      refine hkept.setHalt hh (fun _ => id) (fun k _ hawaits => ?_) (hstopped Halting.noConfusion)
      exact absurd hawaits.1 List.not_mem_nil
    | cons socket ahead =>
      exact hkept.find hh fun k hne hmem => (List.mem_cons.mp hmem).resolve_left hne
  | stopping connections =>
    simp only [stepHalt]
    split
    · exact hkept.setHalt hh (fun _ _ => trivial) (fun _ _ => id) (hstopped Halting.noConfusion)
    · exact hkept
  | done => exact hkept

/-! ## What happens beside -/

/-- Nothing else brings a teardown under a number of the listener. -/
theorem disturb_eq (l : Life) (e : Life.Event) : disturb l e = l ∨ ∃ e' : Life.Event,
    disturb l e = l.step e' ∧ e'.IsBeside ∧ ∀ k, e'.brings? = some k → ∃ task, k = foreign task := by
  have hstep : ∀ e' : Life.Event, disturb l e = l.step e' → e'.IsBeside →
      (∀ k, e'.brings? = some k → ∃ task, k = foreign task) → disturb l e = l ∨ ∃ e' : Life.Event,
        disturb l e = l.step e' ∧ e'.IsBeside ∧
          ∀ k, e'.brings? = some k → ∃ task, k = foreign task :=
    fun e' hsame hbeside hforeign => Or.inr ⟨e', hsame, hbeside, hforeign⟩
  have hbrought : ∀ {task k : Nat}, some (foreign task) = some k → ∃ task, k = foreign task :=
    fun {task k} hk => ⟨task, (Option.some.inj hk).symm⟩
  cases e with
  | loopEnds task =>
    exact hstep (.loopEnds (foreign task)) rfl ⟨nofun, nofun, nofun⟩ fun _ => hbrought
  | beginStop task =>
    exact hstep (.beginStop (foreign task)) rfl ⟨nofun, nofun, nofun⟩ fun _ => hbrought
  | writeFails task =>
    exact hstep (.writeFails (foreign task)) rfl ⟨nofun, nofun, nofun⟩ fun _ => hbrought
  | wind task => exact hstep (.wind task) rfl ⟨nofun, nofun, nofun⟩ nofun
  | call task => exact hstep (.call task) rfl ⟨nofun, nofun, nofun⟩ nofun
  | race q => exact hstep (.race q) rfl ⟨nofun, nofun, nofun⟩ nofun
  | start | greeted | drop => exact Or.inl rfl

theorem Fits.disturb {halts : List (Nat × Halting)} (hf : Fits halts socket g l) (e : Life.Event) :
    Fits halts socket g (disturb l e) := by
  rcases disturb_eq l e with hsame | ⟨e', he', hbeside, hforeign⟩
  · rw [hsame]
    exact hf
  · rw [he']
    refine hf.step hbeside ?_ (fun _ h hh hholding => ⟨h, hh, hholding⟩) fun _ => Or.inr
    intro k hk
    obtain ⟨task, rfl⟩ := hforeign k hk
    obtain ⟨hstart, hown, hstop⟩ := foreign_ne task
    exact ⟨hstart, hown, fun other heq => absurd heq (hstop other)⟩

theorem Kept.live (h : Kept a) (socket : Nat) (e : Life.Event) :
    Kept (a.step (.live socket e)) := by
  have hlife := fun k => life?_updateLife a socket k (Admission.disturb · e)
  constructor
  · have hkeys := h.keys
    rw [← keys_updateLife a socket (Admission.disturb · e)] at hkeys
    exact hkeys
  · exact h.raised
  · intro k
    have hc := h.consistent k
    by_cases hk : k = socket
    · subst hk
      exact hc.update rfl ((hlife k).trans (if_pos rfl)) Iff.rfl id fun g l _ _ hf => hf.disturb e
    · exact hc.congr ⟨rfl, (hlife k).trans (if_neg hk), Iff.rfl⟩ id rfl
  · exact h.handled

theorem Kept.accept (h : Kept a) (hnone : a.sockets.lookup socket = none) :
    Kept { a with sockets := a.sockets ++ [(socket, .choosing)] } := by
  refine ⟨h.keys, h.raised, fun k => ?_, h.handled⟩
  have hc := h.consistent k
  by_cases hk : k = socket
  · subst hk
    have hlookup : (a.sockets ++ [(k, Admitting.choosing)]).lookup k = some .choosing := by
      rw [lookup_concat, hnone, if_pos rfl]
      rfl
    have hlife : a.life? k = none := by
      have hmade := hc.made
      rw [hnone] at hmade
      exact Option.not_isSome_iff_eq_none.mp (by rw [hmade]; exact Bool.false_ne_true)
    have hlisted := hc.listed
    rw [hnone] at hlisted
    constructor
    · change (a.life? k).isSome = ((a.sockets ++ [(k, Admitting.choosing)]).lookup k).any _
      rw [hlife, hlookup]
      rfl
    · change k ∈ a.live ↔ ((a.sockets ++ [(k, Admitting.choosing)]).lookup k).any _ = true
      rw [hlookup]
      exact hlisted
    · intro hg
      cases hlookup.symm.trans hg
    · intro g l _ hl
      cases hlife.symm.trans hl
  · refine hc.congr ⟨?_, rfl, Iff.rfl⟩ id rfl
    change (a.sockets ++ [(socket, Admitting.choosing)]).lookup k = _
    rw [lookup_concat, if_neg hk, Option.or_none]

/-- Whoever handles a frame is listed, or was seen gone. -/
theorem Kept.handle (h : Kept a) (socket : Nat) : Kept (a.handle socket) := by
  unfold Admission.handle
  split
  · rename_i l hl
    split
    · rename_i hruns
      refine ⟨h.keys, h.raised, fun k => (h.consistent k).congr ⟨rfl, rfl, Iff.rfl⟩ id rfl, ?_⟩
      intro x hx
      rcases List.mem_cons.mp hx with rfl | hx
      · obtain ⟨g, hg, hf⟩ := (h.consistent socket).exists_of_life hl
        have hlisted := (h.consistent socket).listed_of hg
        have hallows := hf.allows
        rw [hruns] at hallows
        cases g with
        | lookingAgain | stopping | waiting | leaving =>
          exact Or.inl (List.contains_iff_mem.mpr (hlisted.mpr rfl))
        | gone => exact Or.inr (hf.gone rfl)
        | choosing | negotiating | looking | making | listing | counting | starting | failing
        | ending | refused | turnedAway => simp [Admitting.Allows] at hallows
      · exact h.handled x hx
    · exact h
  · exact h

theorem Kept.step (h : Kept a) (e : Event) : Kept (a.step e) := by
  cases e with
  | accept socket =>
    simp only [Admission.step]
    split
    · rename_i hfree
      exact h.accept (Option.isNone_iff_eq_none.mp hfree.2)
    · exact h
  | advance socket passes => exact h.advance socket passes
  | loopEnds =>
    simp only [Admission.step]
    split
    · exact h.congr rfl rfl rfl id rfl rfl
    · exact h
  | beginStop task =>
    simp only [Admission.step]
    split
    · exact h
    · exact h.begin task
  | stop task =>
    simp only [Admission.step]
    split
    · exact h.halt ‹_›
    · exact h
  | gather task socket =>
    simp only [Admission.step]
    split
    · exact h.find ‹_› fun _ _ => id
    · exact h
  | handle socket => exact h.handle socket
  | live socket e => exact h.live socket e

theorem run_concat (a : Admission) (es : List Event) (e : Event) :
    a.run (es ++ [e]) = (a.run es).step e := by
  simp [run]

theorem kept_run (es : List Event) : Kept (new.run es) := by
  induction es using List.reverseRecOn with
  | nil => exact kept_new
  | append_singleton es e ih =>
    rw [run_concat]
    exact ih.step e

end Admission

end Rpc
