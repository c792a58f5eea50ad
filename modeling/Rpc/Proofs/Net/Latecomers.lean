import Mathlib.Data.List.Induction
import Rpc.Net.Resolver.Race
import Rpc.Proofs.Net.Recall

/-! # Answers that come after the cache was told to forget

Dropping a host removes what is remembered of it, and does not touch the lookups that are under
way. So an answer that was asked for before and comes late is remembered as if nothing had
happened, and later resolutions get it. This goes no further: what they get comes from a lookup
that starts after the drop, or from one that was under way at that moment, and the latter only
until its time, which counts from before its lookup, has run out.

Whose lookup an address comes from is noted on the side of a race.
-/
namespace Rpc.Net

namespace CacheRace

variable {r : CacheRace} {e : Event} {task k : Nat} {host : String} {asked : Instant} {ip : Ip}
  {g g' : Resolving}

/-! ## How tasks move on -/

/-- The task has not gone to the resolver behind the cache, and is perhaps not there yet. -/
inductive Unasked : Option Resolving → Prop
  | absent : Unasked none
  | begun (host : String) : Unasked (some (.begun host))
  | missed (host : String) (asked : Instant) : Unasked (some (.missed host asked))

/-- The lookup of the task is under way, or its answer is not yet remembered. -/
inductive Waiting (host : String) (asked : Instant) : Option Resolving → Prop
  | asking : Waiting host asked (some (.asking host asked))
  | answered (ip : Ip) : Waiting host asked (some (.answered host asked ip))

/-- An event moves a task on. -/
inductive Turn (r : CacheRace) (task : Nat) : Event → Option Resolving → Resolving → Prop
  | begin (host : String) : Turn r task (.begin task host) none (.begun host)
  | hit {host : String} {ip : Ip} (h : r.cache.remembered r.now host = some ip) :
      Turn r task (.look task) (some (.begun host)) (.done host (.ok ip))
  | miss {host : String} (h : r.cache.remembered r.now host = none) :
      Turn r task (.look task) (some (.begun host)) (.missed host r.now)
  | ask {host : String} {asked : Instant} :
      Turn r task (.ask task) (some (.missed host asked)) (.asking host asked)
  | answer {host : String} {asked : Instant} (ip : Ip) :
      Turn r task (.answer task (.ok ip)) (some (.asking host asked)) (.answered host asked ip)
  | fail {host : String} {asked : Instant} (e : LookupError) :
      Turn r task (.answer task (.error e)) (some (.asking host asked)) (.done host (.error e))
  | remember {host : String} {asked : Instant} {ip : Ip} {after : Cache}
      (h : r.cache.remember asked host ip = some after) :
      Turn r task (.remember task) (some (.answered host asked ip)) (.done host (.ok ip))
  | breakOff {host : String} {asked : Instant} {ip : Ip} :
      Turn r task (.remember task) (some (.answered host asked ip)) (.overflow host)

theorem lookup_setTask (r : CacheRace) (task k : Nat) (after : Resolving) :
    (r.setTask task after).tasks.lookup k =
      if k = task then (r.tasks.lookup k).map fun _ => after else r.tasks.lookup k :=
  lookup_modify (fun _ => after) r.tasks task k

/-- The task is left where it is, or moved on by the event. -/
def MovesOn (r : CacheRace) (e : Event) (k : Nat) (after : CacheRace) : Prop :=
  after.tasks.lookup k = r.tasks.lookup k ∨
    ∃ g, Turn r k e (r.tasks.lookup k) g ∧ after.tasks.lookup k = some g

theorem movesOn_setTask {after : Resolving} (hg : r.tasks.lookup task = some g)
    (hturn : Turn r task e (some g) after) : r.MovesOn e k (r.setTask task after) := by
  rw [MovesOn, lookup_setTask]
  by_cases hk : k = task
  · subst hk
    rw [if_pos rfl, hg]
    exact Or.inr ⟨after, hturn, rfl⟩
  · exact Or.inl (if_neg hk)

theorem movesOn_withTask {f : Resolving → CacheRace}
    (hf : ∀ g, r.tasks.lookup task = some g → r.MovesOn e k (f g)) :
    r.MovesOn e k (r.withTask task f) := by
  rw [withTask]
  cases hg : r.tasks.lookup task with
  | none => exact Or.inl rfl
  | some g => exact hf g hg

theorem movesOn_step (r : CacheRace) (e : Event) (k : Nat) : r.MovesOn e k (r.step e) := by
  cases e with
  | begin task host =>
    rw [step]
    split
    · exact Or.inl rfl
    · next hnone =>
      rw [Option.not_isSome_iff_eq_none] at hnone
      rw [MovesOn, lookup_concat]
      by_cases hk : k = task
      · subst hk
        rw [hnone, if_pos rfl]
        exact Or.inr ⟨_, .begin host, rfl⟩
      · rw [if_neg hk, Option.or_none]
        exact Or.inl rfl
  | look task =>
    refine movesOn_withTask fun g hg => ?_
    cases g with
    | begun host =>
      dsimp only
      cases hmemory : r.cache.remembered r.now host with
      | some ip => exact movesOn_setTask hg (.hit hmemory)
      | none => exact movesOn_setTask hg (.miss hmemory)
    | missed | asking | answered | done | overflow => exact Or.inl rfl
  | ask task =>
    refine movesOn_withTask fun g hg => ?_
    cases g with
    | missed host asked => exact movesOn_setTask hg .ask
    | begun | asking | answered | done | overflow => exact Or.inl rfl
  | answer task result =>
    refine movesOn_withTask fun g hg => ?_
    cases g with
    | asking host asked =>
      cases result with
      | ok ip => exact movesOn_setTask hg (.answer ip)
      | error e => exact movesOn_setTask hg (.fail e)
    | begun | missed | answered | done | overflow => exact Or.inl rfl
  | remember task =>
    refine movesOn_withTask fun g hg => ?_
    cases g with
    | answered host asked ip =>
      dsimp only
      cases hcache : r.cache.remember asked host ip with
      | some after =>
        -- the tasks of the race do not depend on its cache
        exact (movesOn_setTask hg (.remember hcache) : r.MovesOn _ k (r.setTask task _))
      | none => exact movesOn_setTask hg .breakOff
    | begun | missed | asking | done | overflow => exact Or.inl rfl
  | forget | clear | tick => exact Or.inl rfl

theorem run_concat (r : CacheRace) (es : List Event) (e : Event) :
    r.run (es ++ [e]) = (r.run es).step e := by
  rw [run, List.foldl_append]
  rfl

section Turn

variable {before : Option Resolving}

theorem Turn.unasked (h : Turn r k e before g) (hg : Unasked (some g)) : Unasked before := by
  cases h with
  | «begin» => exact .absent
  | hit | miss => exact .begun _
  | ask => exact .missed _ _
  | answer | fail | remember | breakOff => cases hg

theorem Turn.waiting (h : Turn r k e before g) (hg : Waiting host asked (some g)) :
    Waiting host asked before ∨ Unasked before := by
  cases h with
  | ask => exact Or.inr (.missed _ _)
  | answer ip =>
    cases hg
    exact Or.inl .asking
  | «begin» | hit | miss | fail | remember | breakOff => cases hg

end Turn

theorem unasked_of_step (h : Unasked ((r.step e).tasks.lookup k)) :
    Unasked (r.tasks.lookup k) := by
  rcases r.movesOn_step e k with hsame | ⟨g, hturn, hg⟩
  · rwa [hsame] at h
  · exact hturn.unasked (hg ▸ h)

theorem waiting_of_step (h : Waiting host asked ((r.step e).tasks.lookup k)) :
    Waiting host asked (r.tasks.lookup k) ∨ Unasked (r.tasks.lookup k) := by
  rcases r.movesOn_step e k with hsame | ⟨g, hturn, hg⟩
  · exact Or.inl (hsame ▸ h)
  · exact hturn.waiting (hg ▸ h)

theorem unasked_of_run {es : List Event} (h : Unasked ((r.run es).tasks.lookup k)) :
    Unasked (r.tasks.lookup k) := by
  induction es using List.reverseRecOn with
  | nil => exact h
  | append_singleton es e ih =>
    rw [run_concat] at h
    exact ih (unasked_of_step h)

theorem waiting_of_run {es : List Event} (h : Waiting host asked ((r.run es).tasks.lookup k)) :
    Waiting host asked (r.tasks.lookup k) ∨ Unasked (r.tasks.lookup k) := by
  induction es using List.reverseRecOn with
  | nil => exact Or.inl h
  | append_singleton es e ih =>
    rw [run_concat] at h
    rcases waiting_of_step h with hwaits | hunasked
    · exact ih hwaits
    · exact Or.inr (unasked_of_run hunasked)

theorem done_step {result : Lookup} (h : r.tasks.lookup k = some (.done host result)) :
    (r.step e).tasks.lookup k = some (.done host result) := by
  rcases r.movesOn_step e k with hsame | ⟨g, hturn, -⟩
  · rw [hsame, h]
  · rw [h] at hturn
    cases hturn

theorem done_of_remember {after : Cache} (h : r.tasks.lookup k = some (.answered host asked ip))
    (hcache : r.cache.remember asked host ip = some after) :
    (r.step (.remember k)).tasks.lookup k = some (.done host (.ok ip)) := by
  simp only [step, withTask, h, hcache]
  rw [lookup_setTask, if_pos rfl, h]
  rfl

/-! ## What is remembered -/

theorem cache_withTask {f : Resolving → CacheRace} (hf : ∀ g, (f g).cache = r.cache) :
    (r.withTask task f).cache = r.cache := by
  rw [withTask]
  cases r.tasks.lookup task with
  | none => rfl
  | some g => exact hf g

/-- Whether the event puts the answer of the task into the cache, which becomes another one. -/
def Stores (r : CacheRace) (e : Event) (k : Nat) (host : String) (asked : Instant) (ip : Ip)
    (after : Cache) : Prop :=
  e = .remember k ∧ r.tasks.lookup k = some (.answered host asked ip) ∧
    r.cache.remember asked host ip = some after

theorem cache_of_stores {after : Cache} (h : r.Stores e k host asked ip after) :
    (r.step e).cache = after := by
  obtain ⟨rfl, hk, hafter⟩ := h
  simp only [step, withTask, hk, hafter, setTask]

theorem cache_step (r : CacheRace) (e : Event) :
    (r.step e).cache = r.cache ∨
    (∃ k host asked ip, r.Stores e k host asked ip (r.step e).cache) ∨
    (∃ host, e = .forget host ∧ (r.step e).cache = r.cache.forget host) ∨
    (e = .clear ∧ (r.step e).cache = r.cache.clear) := by
  cases e with
  | «begin» task host =>
    refine Or.inl ?_
    rw [step]
    split <;> rfl
  | look task =>
    refine Or.inl (cache_withTask fun g => ?_)
    cases g with
    | begun host =>
      dsimp only
      cases r.cache.remembered r.now host <;> rfl
    | missed | asking | answered | done | overflow => rfl
  | ask task =>
    refine Or.inl (cache_withTask fun g => ?_)
    cases g <;> rfl
  | answer task result =>
    refine Or.inl (cache_withTask fun g => ?_)
    cases g with
    | asking host asked => cases result <;> rfl
    | begun | missed | answered | done | overflow => rfl
  | remember task =>
    cases hg : r.tasks.lookup task with
    | none => exact Or.inl (by rw [step, withTask, hg])
    | some g =>
      cases g with
      | answered host asked ip =>
        cases hcache : r.cache.remember asked host ip with
        | some after =>
          have hstores : r.Stores (.remember task) task host asked ip after := ⟨rfl, hg, hcache⟩
          refine Or.inr (Or.inl ⟨task, host, asked, ip, ?_⟩)
          rwa [cache_of_stores hstores]
        | none => exact Or.inl (by simp only [step, withTask, hg, hcache, setTask])
      | begun | missed | asking | done | overflow =>
        exact Or.inl (by rw [step, withTask, hg])
  | forget host => exact Or.inr (Or.inr (Or.inl ⟨host, rfl, rfl⟩))
  | clear => exact Or.inr (Or.inr (Or.inr ⟨rfl, rfl⟩))
  | tick span => exact Or.inl rfl

theorem lifetime_step (r : CacheRace) (e : Event) :
    (r.step e).cache.lifetime = r.cache.lifetime := by
  rcases r.cache_step e with h | ⟨k, host, asked, ip, -, -, h⟩ | ⟨host, -, h⟩ | ⟨-, h⟩
  · rw [h]
  · exact Cache.lifetime_remember h
  · rw [h]
    rfl
  · rw [h]
    rfl

theorem lifetime_run (r : CacheRace) (es : List Event) :
    (r.run es).cache.lifetime = r.cache.lifetime := by
  induction es using List.reverseRecOn with
  | nil => rfl
  | append_singleton es e ih => rw [run_concat, lifetime_step, ih]

/-- What is remembered after a step was so before, or is the answer that the step puts in. -/
theorem lookup_step {m : Memory} (h : (r.step e).cache.memories.lookup host = some m) :
    (r.cache.memories.lookup host = some m ∧ ∀ k asked ip after,
      ¬ r.Stores e k host asked ip after) ∨
    ∃ k asked, r.Stores e k host asked m.ip (r.step e).cache ∧
      asked.later? r.cache.lifetime = some m.expires := by
  by_cases hstores : ∃ k asked ip after, r.Stores e k host asked ip after
  · obtain ⟨k, asked, ip, after, hstores⟩ := hstores
    obtain rfl := cache_of_stores hstores
    rcases (Cache.lookup_remember_eq_some_iff hstores.2.2).mp h with ⟨-, hip, hlater⟩ | ⟨hne, -⟩
    · exact Or.inr ⟨k, asked, hip ▸ hstores, hlater⟩
    · exact absurd rfl hne
  · refine Or.inl ⟨?_, fun k asked ip after hk => hstores ⟨k, asked, ip, after, hk⟩⟩
    rcases r.cache_step e with hcache | ⟨k, other, asked, ip, hk⟩ | ⟨other, -, hcache⟩ | ⟨-, hcache⟩
    · rwa [hcache] at h
    · rcases (Cache.lookup_remember_eq_some_iff hk.2.2).mp h with ⟨rfl, -, -⟩ | ⟨-, hm⟩
      · exact absurd ⟨k, asked, ip, _, hk⟩ hstores
      · exact hm
    · rw [hcache, Cache.lookup_forget] at h
      split at h
      · cases h
      · exact h
    · rw [hcache] at h
      cases h

/-- The host, perhaps among all others, is dropped from the cache. -/
def Drops (e : Event) (host : String) : Prop := e = .forget host ∨ e = .clear

theorem lookup_of_drops (h : Drops e host) : (r.step e).cache.memories.lookup host = none := by
  rcases h with rfl | rfl
  · exact (Cache.lookup_forget _ _ _).trans (if_pos rfl)
  · rfl

theorem tasks_of_drops (h : Drops e host) : (r.step e).tasks = r.tasks := by
  rcases h with rfl | rfl
  · rfl
  · rfl

end CacheRace

/-! ## Whose lookup an address comes from -/

/-- A race with notes on the side. -/
structure Traced where
  race : CacheRace
  /-- The task whose answer was put into the cache last, for each host. -/
  writer : String → Option Nat
  /-- The task whose lookup a task has its address from, itself or another. -/
  source : Nat → Option Nat

namespace Traced

open CacheRace

def new (lifetime : Nat) : Traced := ⟨.new lifetime, fun _ => none, fun _ => none⟩

def step (t : Traced) (e : CacheRace.Event) : Traced where
  race := t.race.step e
  writer host := match e with
    | .remember task => match t.race.tasks.lookup task with
      | some (.answered other asked ip) =>
        if other = host ∧ (t.race.cache.remember asked other ip).isSome then some task
        else t.writer host
      | _ => t.writer host
    | _ => t.writer host
  source k := match e, t.race.tasks.lookup k with
    | .look task, some (.begun host) =>
      if task = k ∧ (t.race.cache.remembered t.race.now host).isSome then t.writer host
      else t.source k
    | .ask task, some (.missed _ _) => if task = k then some k else t.source k
    | _, _ => t.source k

def run (t : Traced) (es : List CacheRace.Event) : Traced := es.foldl step t

variable {t : Traced} {e drop : CacheRace.Event} {es : List CacheRace.Event} {k b : Nat}
  {host : String} {asked : Instant} {ip : Ip} {m : Memory}

theorem run_concat (t : Traced) (es : List CacheRace.Event) (e : CacheRace.Event) :
    t.run (es ++ [e]) = (t.run es).step e := by
  rw [run, List.foldl_append]
  rfl

theorem run_append (t : Traced) (es fs : List CacheRace.Event) :
    t.run (es ++ fs) = (t.run es).run fs := List.foldl_append

theorem race_run (t : Traced) (es : List CacheRace.Event) : (t.run es).race = t.race.run es := by
  induction es using List.reverseRecOn with
  | nil => rfl
  | append_singleton es e ih => rw [run_concat, CacheRace.run_concat, step, ih]

theorem writer_of_stores {after : Cache} (h : t.race.Stores e k host asked ip after) :
    (t.step e).writer host = some k := by
  obtain ⟨rfl, hk, hafter⟩ := h
  simp only [step, hk, hafter, Option.isSome_some, and_self, if_true]

theorem writer_of_not_stores (h : ∀ k asked ip after, ¬ t.race.Stores e k host asked ip after) :
    (t.step e).writer host = t.writer host := by
  cases e with
  | remember task =>
    simp only [step]
    cases hg : t.race.tasks.lookup task with
    | none => rfl
    | some g =>
      cases g with
      | answered other asked ip =>
        refine if_neg ?_
        rintro ⟨rfl, hsome⟩
        obtain ⟨after, hafter⟩ := Option.isSome_iff_exists.mp hsome
        exact h task asked ip after ⟨rfl, hg, hafter⟩
      | begun | missed | asking | done | overflow => rfl
  | «begin» | look | ask | answer | forget | clear | tick => rfl

theorem source_of_hit (hk : t.race.tasks.lookup k = some (.begun host))
    (h : t.race.cache.remembered t.race.now host = some ip) :
    (t.step (.look k)).source k = t.writer host := by
  simp only [step, hk, h, Option.isSome_some, and_self, if_true]

theorem source_of_ask (hk : t.race.tasks.lookup k = some (.missed host asked)) :
    (t.step (.ask k)).source k = some k := by
  simp only [step, hk, if_true]

/-- Once a lookup was asked for, or an address found, the source stays. -/
theorem source_step (hk : ¬ Unasked (t.race.tasks.lookup k)) :
    (t.step e).source k = t.source k := by
  simp only [step]
  split
  · next hg => exact absurd (hg ▸ .begun _) hk
  · next hg => exact absurd (hg ▸ .missed _ _) hk
  · rfl

theorem not_unasked_of_waiting {g : Option Resolving} (h : Waiting host asked g) : ¬ Unasked g := by
  cases h with
  | asking | answered =>
    intro hunasked
    cases hunasked

/-- A task whose lookup is under way will have its own address. -/
def Owned (t : Traced) : Prop :=
  ∀ k host asked, Waiting host asked (t.race.tasks.lookup k) → t.source k = some k

theorem owned_new (lifetime : Nat) : (new lifetime).Owned := by
  intro k host asked h
  cases h

theorem Owned.step (ht : t.Owned) (e : CacheRace.Event) : (t.step e).Owned := by
  intro k host asked h
  rcases t.race.movesOn_step e k with hsame | ⟨g, hturn, hg⟩
  · rw [Traced.step, hsame] at h
    rw [source_step (not_unasked_of_waiting h)]
    exact ht k host asked h
  · generalize hbefore : t.race.tasks.lookup k = before at hturn
    rw [Traced.step, hg] at h
    cases hturn with
    | ask => exact source_of_ask hbefore
    | answer ip =>
      cases h
      have hwaits : Waiting host asked (t.race.tasks.lookup k) := hbefore ▸ .asking
      rw [source_step (not_unasked_of_waiting hwaits)]
      exact ht k host asked hwaits
    | «begin» | hit | miss | fail | remember | breakOff => cases h

theorem Owned.run (ht : t.Owned) (es : List CacheRace.Event) : (t.run es).Owned := by
  induction es using List.reverseRecOn with
  | nil => exact ht
  | append_singleton es e ih =>
    rw [run_concat]
    exact ih.step e

/-! ## After a drop -/

/-- What is remembered of a host after it was dropped was put in since then, by a task whose lookup
had not started at the drop, or was under way. -/
theorem writer_after_drop (hdrop : Drops drop host)
    (hm : (t.run (drop :: es)).race.cache.memories.lookup host = some m) :
    ∃ k, (t.run (drop :: es)).writer host = some k ∧
      (t.run (drop :: es)).race.tasks.lookup k = some (.done host (.ok m.ip)) ∧ .remember k ∈ es ∧
      (Unasked (t.race.tasks.lookup k) ∨ ∃ asked, Waiting host asked (t.race.tasks.lookup k) ∧
        (m.expires : Nat) = asked + t.race.cache.lifetime) := by
  induction es using List.reverseRecOn generalizing m with
  | nil =>
    have hnone : (t.run [drop]).race.cache.memories.lookup host = none := lookup_of_drops hdrop
    rw [hnone] at hm
    cases hm
  | append_singleton es e ih =>
    rw [← List.cons_append, run_concat] at hm ⊢
    -- the answer was in the cache before the last event, or is the one that the event puts in
    rcases lookup_step hm with ⟨hkept, hstores⟩ | ⟨k, asked, hstores, hexpires⟩
    · obtain ⟨k, hwriter, hdone, hmem, hlate⟩ := ih hkept
      refine ⟨k, ?_, done_step hdone, List.mem_append_left _ hmem, hlate⟩
      rw [writer_of_not_stores hstores, hwriter]
    · have hwriter := writer_of_stores hstores
      obtain ⟨rfl, hk, hcache⟩ := hstores
      refine ⟨k, hwriter, done_of_remember hk hcache, by simp, ?_⟩
      rw [race_run] at hk hexpires
      rw [lifetime_run, Instant.later?_eq_some_iff] at hexpires
      have hwaits : Waiting host asked ((t.race.run (drop :: es)).tasks.lookup k) :=
        hk ▸ .answered m.ip
      -- a task keeps the instant at which it asked, so its time counts from what it was at the drop
      rcases waiting_of_run hwaits with hwaits | hunasked
      · exact Or.inr ⟨asked, hwaits, hexpires⟩
      · exact Or.inl hunasked

/-- The lookup of a task is under way at the drop, its answer is remembered after that, and another
task finds it in the cache before its time has run out. -/
def ComesLate (r : CacheRace) (drop : CacheRace.Event) (es : List CacheRace.Event) (host : String)
    (k b : Nat) : Prop :=
  ∃ asked front back, Waiting host asked (r.tasks.lookup k) ∧ es = front ++ .look b :: back ∧
    .remember k ∈ front ∧ (r.run (drop :: front)).now < asked + r.cache.lifetime

theorem ComesLate.concat {r : CacheRace} (h : ComesLate r drop es host k b)
    (e : CacheRace.Event) : ComesLate r drop (es ++ [e]) host k b := by
  obtain ⟨asked, front, back, hwaits, rfl, hrest⟩ := h
  exact ⟨asked, front, back ++ [e], hwaits, by simp, hrest⟩

/-- A task that begins after its host was dropped has its address from a lookup that had not
started then, or from one that comes late. -/
theorem source_after_drop (ht : t.Owned) (hdrop : Drops drop host)
    (hb : t.race.tasks.lookup b = none)
    (hdone : (t.run (drop :: es)).race.tasks.lookup b = some (.done host (.ok ip))) :
    ∃ k, (t.run (drop :: es)).source b = some k ∧
      (t.run (drop :: es)).race.tasks.lookup k = some (.done host (.ok ip)) ∧
      (Unasked (t.race.tasks.lookup k) ∨ ComesLate t.race drop es host k b) := by
  induction es using List.reverseRecOn with
  | nil =>
    have hnone : (t.run [drop]).race.tasks.lookup b = none := by
      rw [race_run, CacheRace.run, List.foldl_cons, List.foldl_nil, tasks_of_drops hdrop, hb]
    rw [hnone] at hdone
    cases hdone
  | append_singleton es e ih =>
    rw [← List.cons_append, run_concat] at hdone ⊢
    rcases (t.run (drop :: es)).race.movesOn_step e b with hsame | ⟨g, hturn, hg⟩
    · rw [step, hsame] at hdone
      obtain ⟨k, hsource, hk, hlate⟩ := ih hdone
      have hover : ¬ Unasked ((t.run (drop :: es)).race.tasks.lookup b) := by
        rw [hdone]
        intro h
        cases h
      refine ⟨k, (source_step hover).trans hsource, done_step hk, ?_⟩
      exact hlate.imp id fun h => h.concat e
    · generalize hbefore : (t.run (drop :: es)).race.tasks.lookup b = before at hturn
      rw [step, hg] at hdone
      cases hturn with
      | hit hmemory =>
        cases hdone
        obtain ⟨m, hm, hfresh, rfl⟩ := Cache.remembered_eq_some_iff.mp hmemory
        obtain ⟨k, hwriter, hk, hmem, hlate⟩ := writer_after_drop hdrop hm
        refine ⟨k, (source_of_hit hbefore hmemory).trans hwriter, done_step hk, ?_⟩
        refine hlate.imp id fun ⟨asked, hwaits, hexpires⟩ => ?_
        rw [Fin.lt_def, hexpires, race_run] at hfresh
        exact ⟨asked, es, [], hwaits, rfl, hmem, hfresh⟩
      | @remember _ asked _ _ hcache =>
        cases hdone
        have hwaits : Waiting host asked ((t.run (drop :: es)).race.tasks.lookup b) :=
          hbefore ▸ .answered ip
        refine ⟨b, ?_, done_of_remember hbefore hcache, Or.inl (hb ▸ .absent)⟩
        rw [source_step (not_unasked_of_waiting hwaits)]
        exact ht.run _ b host asked hwaits
      | «begin» | miss | ask | answer | fail | breakOff => cases hdone

end Traced

/-- A resolution that begins after its host was dropped from the cache has its address from a
lookup that had not started at the drop. Only if a lookup was under way at that moment, and its
answer was put into the cache afterwards, it may have that one, before its time has run out. -/
theorem CacheRace.source_of_begun_after (lifetime : Nat) (pre post : List CacheRace.Event)
    (drop : CacheRace.Event) (host : String) (b : Nat) (ip : Ip) (hdrop : Drops drop host)
    (hb : ((new lifetime).run pre).tasks.lookup b = none)
    (hdone : ((new lifetime).run (pre ++ drop :: post)).tasks.lookup b =
      some (.done host (.ok ip))) :
    ∃ k, ((Traced.new lifetime).run (pre ++ drop :: post)).source b = some k ∧
      ((new lifetime).run (pre ++ drop :: post)).tasks.lookup k = some (.done host (.ok ip)) ∧
      (Unasked (((new lifetime).run pre).tasks.lookup k) ∨
        Traced.ComesLate ((new lifetime).run pre) drop post host k b) := by
  have hrace : ∀ es, ((Traced.new lifetime).run es).race = (new lifetime).run es :=
    fun es => Traced.race_run _ es
  have howned := (Traced.owned_new lifetime).run pre
  rw [← hrace] at hb hdone ⊢
  rw [← hrace pre]
  rw [Traced.run_append] at hdone ⊢
  exact Traced.source_after_drop howned hdrop hb hdone

namespace CacheRace

def asking : List Event := [.begin 1 "svc", .look 1, .ask 1]

def answering : List Event :=
  [.answer 1 (.ok Counted.firstAddress), .remember 1, .begin 2 "svc", .look 2]

/-- With a drop in between, the second task has the address that was asked for before the drop. -/
theorem late_answer_recalled :
    let before := (new 60).run asking
    let es := asking ++ .forget "svc" :: answering
    before.tasks.lookup 1 = some (.asking "svc" 0) ∧ before.tasks.lookup 2 = none ∧
    ((new 60).run es).tasks.lookup 2 = some (.done "svc" (.ok Counted.firstAddress)) ∧
    ((Traced.new 60).run es).source 2 = some 1 := ⟨rfl, rfl, rfl, rfl⟩

theorem late_answer_source :
    ∃ k, ((Traced.new 60).run (asking ++ .forget "svc" :: answering)).source 2 = some k ∧
      (Unasked (((new 60).run asking).tasks.lookup k) ∨
        Traced.ComesLate ((new 60).run asking) (.forget "svc") answering "svc" k 2) := by
  have hdone : ((new 60).run (asking ++ .forget "svc" :: answering)).tasks.lookup 2 =
      some (.done "svc" (.ok Counted.firstAddress)) := rfl
  obtain ⟨k, hsource, -, hlate⟩ :=
    source_of_begun_after 60 asking answering (.forget "svc") "svc" 2 _ (Or.inl rfl) rfl hdone
  exact ⟨k, hsource, hlate⟩

end CacheRace

end Rpc.Net
