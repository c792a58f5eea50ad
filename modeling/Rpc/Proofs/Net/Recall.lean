import Mathlib.Data.List.Induction
import Rpc.Net.Resolver.Basic
import Rpc.Proofs.Keyed
import Rpc.Proofs.Notes

/-! # What a cache recalls

Operations on a cache and on the table behind it follow each other. A record is kept of each: what
it answered, and how often the table was asked for it. What the cache remembers of a host is what
the last lookup on record found for it, if the cache was not told to forget the host since. So the
record alone tells whether a host is looked up anew, and the record of one host is the same
whatever happens to others. What a lookup finds is the answer as long as the clock can show until
when it is to be remembered; otherwise the resolution breaks off and nothing is remembered.
-/
namespace Rpc.Net

namespace HostTable

theorem lookup_remove (t : HostTable) (host asked : String) :
    (t.remove host).hosts.lookup asked = if asked = host then none else t.hosts.lookup asked := by
  split
  · next heq =>
    rw [heq]
    exact lookup_filter_self t.hosts host
  · next hne => exact lookup_filter_ne hne t.hosts

theorem lookup_add (t : HostTable) (host asked : String) (ip : Ip) :
    (t.add host ip).hosts.lookup asked =
      if asked = host then some ip else t.hosts.lookup asked := by
  rw [add]
  split
  · next heq => rw [heq, List.lookup_cons_self]
  · next hne =>
    rw [List.lookup_cons, beq_eq_false_iff_ne.mpr hne]
    exact (lookup_remove t host asked).trans (if_neg hne)

end HostTable

namespace Cache

theorem lookup_forget (c : Cache) (host asked : String) :
    (c.forget host).memories.lookup asked =
      if asked = host then none else c.memories.lookup asked := by
  split
  · next heq =>
    rw [heq]
    exact lookup_filter_self c.memories host
  · next hne => exact lookup_filter_ne hne c.memories

section Remember

variable {c c' after : Cache} {asked expires : Instant} {host other : String} {ip : Ip} {m : Memory}

theorem remember_eq_some_iff : c.remember asked host ip = some after ↔
    ∃ expires, asked.later? c.lifetime = some expires ∧
      after = { c with memories := (host, ⟨ip, expires⟩) :: (c.forget host).memories } := by
  rw [remember, Option.map_eq_some_iff]
  exact exists_congr fun expires => and_congr_right fun _ => eq_comm

theorem lifetime_remember (h : c.remember asked host ip = some after) :
    after.lifetime = c.lifetime := by
  obtain ⟨expires, -, rfl⟩ := remember_eq_some_iff.mp h
  rfl

theorem lookup_remember_eq_some_iff (h : c.remember asked host ip = some after) :
    after.memories.lookup other = some m ↔
      (other = host ∧ m.ip = ip ∧ asked.later? c.lifetime = some m.expires) ∨
      (other ≠ host ∧ c.memories.lookup other = some m) := by
  obtain ⟨expires, hexpires, rfl⟩ := remember_eq_some_iff.mp h
  obtain ⟨ip', expires'⟩ := m
  by_cases heq : other = host
  · subst heq
    rw [List.lookup_cons_self, hexpires]
    simp [eq_comm]
  · rw [List.lookup_cons, beq_eq_false_iff_ne.mpr heq]
    dsimp only
    rw [lookup_forget, if_neg heq]
    simp [heq]

theorem take_of_later (h : c.remember asked host ip = some after) :
    c.take asked host (.ok ip) = (.answer (.ok ip), after) := by
  rw [take, h]

theorem take_of_end (h : asked.later? c.lifetime = none) :
    c.take asked host (.ok ip) = (.overflow, c) := by
  rw [take, remember, h]
  rfl

theorem lifetime_take (c : Cache) (asked : Instant) (host : String) (result : Lookup) :
    (c.take asked host result).2.lifetime = c.lifetime := by
  cases result with
  | error e => rfl
  | ok ip =>
    cases h : c.remember asked host ip with
    | none => rw [take, h]
    | some after =>
      rw [take_of_later h]
      exact lifetime_remember h

theorem take_congr (h : c.lifetime = c'.lifetime) (result : Lookup) :
    (c.take asked host result).1 = (c'.take asked host result).1 := by
  cases result with
  | error e => rfl
  | ok ip =>
    rw [take, take, remember, remember, h]
    cases asked.later? c'.lifetime with
    | none => rfl
    | some expires => rfl

end Remember

theorem remembered_eq_some_iff {c : Cache} {now : Instant} {host : String} {ip : Ip} :
    c.remembered now host = some ip ↔
      ∃ m, c.memories.lookup host = some m ∧ now < m.expires ∧ m.ip = ip := by
  rw [remembered]
  cases c.memories.lookup host with
  | none => simp
  | some m => simp

end Cache

namespace Counted

/-- Clearing the cache concerns every host. -/
def Op.concerns : Op → String → Bool
  | .resolve host, asked | .ask host, asked | .add host _, asked | .remove host, asked
  | .forget host, asked => host = asked
  | .clear, _ => true

/-- An operation and what came of it. -/
structure Record where
  time : Instant
  op : Op
  result : Option Resolution
  /-- How often the table was asked for it. -/
  lookups : Nat

namespace Record

/-- The host was looked up for the cache, and found. -/
def Finds (r : Record) (host : String) (ip : Ip) : Prop :=
  r.op = .resolve host ∧ r.lookups = 1 ∧ r.result = some (.answer (.ok ip))

def Drops (r : Record) (host : String) : Prop := r.op = .forget host ∨ r.op = .clear

/-- What was found before does not matter any more. -/
def Settles (r : Record) (host : String) : Prop := (∃ ip, r.Finds host ip) ∨ r.Drops host

section Mk

variable {time : Instant} {op : Op} {result : Option Resolution} {lookups : Nat} {host : String}
  {ip : Ip}

@[simp] theorem finds_mk : (mk time op result lookups).Finds host ip ↔
    op = .resolve host ∧ lookups = 1 ∧ result = some (.answer (.ok ip)) := Iff.rfl

@[simp] theorem drops_mk : (mk time op result lookups).Drops host ↔
    op = .forget host ∨ op = .clear := Iff.rfl

@[simp] theorem settles_mk : (mk time op result lookups).Settles host ↔
    (op = .resolve host ∧ lookups = 1 ∧ ∃ ip, result = some (.answer (.ok ip))) ∨
      op = .forget host ∨ op = .clear := by
  simp [Settles]

end Mk

end Record

/-- The last lookup for the cache that found a host, and nothing dropped the host since. -/
def LastFound (log : List Record) (host : String) (asked : Instant) (ip : Ip) : Prop :=
  ∃ front r back, log = front ++ r :: back ∧ r.time = asked ∧ r.Finds host ip ∧
    ∀ later ∈ back, ¬ later.Settles host

section LastFound

variable {log : List Record} {r : Record} {host : String} {asked : Instant} {ip : Ip}

theorem not_lastFound_nil : ¬ LastFound [] host asked ip := by
  rintro ⟨front, r, back, h, -⟩
  cases front <;> cases h

theorem lastFound_concat : LastFound (log ++ [r]) host asked ip ↔
    (r.time = asked ∧ r.Finds host ip) ∨ (¬ r.Settles host ∧ LastFound log host asked ip) := by
  constructor
  · rintro ⟨front, r', back, hlog, htime, hfinds, hback⟩
    rcases List.eq_nil_or_concat back with rfl | ⟨mid, last, rfl⟩
    · obtain ⟨-, hr⟩ := List.append_inj' hlog rfl
      cases hr
      exact Or.inl ⟨htime, hfinds⟩
    · rw [List.concat_eq_append, ← List.cons_append, ← List.append_assoc] at hlog
      obtain ⟨hfront, hr⟩ := List.append_inj' hlog rfl
      cases hr
      refine Or.inr ⟨hback r (by simp), front, r', mid, hfront, htime, hfinds, ?_⟩
      exact fun later hlater => hback later (by simp [hlater])
  · rintro (⟨htime, hfinds⟩ | ⟨hr, front, r', back, rfl, htime, hfinds, hback⟩)
    · exact ⟨log, r, [], rfl, htime, hfinds, fun later h => absurd h List.not_mem_nil⟩
    · refine ⟨front, r', back ++ [r], by simp, htime, hfinds, fun later hlater => ?_⟩
      rcases List.mem_append.mp hlater with hlater | hlater
      · exact hback later hlater
      · rw [List.mem_singleton.mp hlater]
        exact hr

end LastFound

/-! ## Operations one after the other -/

def start (table : HostTable) (lifetime : Nat) : Counted := ⟨table, .new lifetime, 0⟩

def advance (c : Counted) (step : Instant × Op) : Counted := (c.perform step.1 step.2).2

def record (c : Counted) (step : Instant × Op) : Record where
  time := step.1
  op := step.2
  result := (c.perform step.1 step.2).1
  lookups := (c.advance step).lookups - c.lookups

def after (c : Counted) (steps : List (Instant × Op)) : Counted := steps.foldl advance c

/-- The records of all operations in order. -/
def log (c : Counted) (steps : List (Instant × Op)) : List Record :=
  notes advance (fun c step => [c.record step]) c steps

variable {c c' : Counted} {step : Instant × Op} {now : Instant} {host : String} {m : Memory}

theorem after_concat (c : Counted) (steps : List (Instant × Op)) (step : Instant × Op) :
    c.after (steps ++ [step]) = (c.after steps).advance step := by
  rw [after, List.foldl_append]
  rfl

theorem log_concat (c : Counted) (steps : List (Instant × Op)) (step : Instant × Op) :
    c.log (steps ++ [step]) = c.log steps ++ [(c.after steps).record step] :=
  notes_concat steps step

/-! ## A single resolution -/

theorem resolve_of_fresh (hm : c.cache.memories.lookup host = some m) (hfresh : now < m.expires) :
    c.resolve now host = (.answer (.ok m.ip), c) := by
  have hcache := Cache.remembered_eq_some_iff.mpr ⟨m, hm, hfresh, rfl⟩
  simp only [resolve, Cache.resolve, hcache]
  rfl

/-- Nothing that still counts is remembered. -/
def Misses (c : Counted) (now : Instant) (host : String) : Prop :=
  ∀ m, c.cache.memories.lookup host = some m → m.expires ≤ now

theorem resolve_of_misses (h : c.Misses now host) : c.resolve now host =
    ((c.cache.take now host (c.table.resolve host)).1,
      { c with
        cache := (c.cache.take now host (c.table.resolve host)).2
        lookups := c.lookups + 1 }) := by
  have hcache : c.cache.remembered now host = none := by
    rw [Option.eq_none_iff_forall_ne_some]
    intro ip hip
    obtain ⟨m, hm, hfresh, -⟩ := Cache.remembered_eq_some_iff.mp hip
    exact absurd (h m hm) (Fin.not_le.mpr hfresh)
  simp only [resolve, Cache.resolve, hcache, if_true]

theorem fresh_or_misses (c : Counted) (now : Instant) (host : String) :
    (∃ m, c.cache.memories.lookup host = some m ∧ now < m.expires) ∨ c.Misses now host := by
  by_cases h : ∃ m, c.cache.memories.lookup host = some m ∧ now < m.expires
  · exact Or.inl h
  · exact Or.inr fun m hm => Fin.not_lt.mp fun hlt => h ⟨m, hm, hlt⟩

/-! ## What one operation changes -/

theorem lifetime_advance (c : Counted) (step : Instant × Op) :
    (c.advance step).cache.lifetime = c.cache.lifetime := by
  obtain ⟨now, op⟩ := step
  cases op with
  | resolve host =>
    rcases c.fresh_or_misses now host with ⟨m, hm, hfresh⟩ | hmiss
    · rw [advance, perform, resolve_of_fresh hm hfresh]
    · rw [advance, perform, resolve_of_misses hmiss]
      exact c.cache.lifetime_take now host _
  | ask _ | add _ _ | remove _ | forget _ | clear => rfl

theorem record_of_fresh (hm : c.cache.memories.lookup host = some m) (hfresh : now < m.expires) :
    c.record (now, .resolve host) = ⟨now, .resolve host, some (.answer (.ok m.ip)), 0⟩ := by
  simp only [record, advance, perform, resolve_of_fresh hm hfresh, Nat.sub_self]

theorem record_of_misses (h : c.Misses now host) :
    c.record (now, .resolve host) =
      ⟨now, .resolve host, some (c.cache.take now host (c.table.resolve host)).1, 1⟩ := by
  simp only [record, advance, perform, resolve_of_misses h, Nat.add_sub_cancel_left]

/-- A host is remembered from the operation that found it to the one that drops it. -/
theorem lookup_advance (c : Counted) (step : Instant × Op) (host : String) (m : Memory) :
    (c.advance step).cache.memories.lookup host = some m ↔
      ((c.record step).Finds host m.ip ∧ step.1.later? c.cache.lifetime = some m.expires) ∨
      (¬ (c.record step).Settles host ∧ c.cache.memories.lookup host = some m) := by
  obtain ⟨now, op⟩ := step
  cases op with
  | resolve other =>
    rcases c.fresh_or_misses now other with ⟨m', hm', hfresh⟩ | hmiss
    -- an answer from the cache is no lookup, so it does not settle anything
    · have hsame : c.advance (now, .resolve other) = c := by
        rw [advance, perform, resolve_of_fresh hm' hfresh]
      rw [hsame, record_of_fresh hm' hfresh]
      simp
    · rw [record_of_misses hmiss, advance, perform, resolve_of_misses hmiss]
      cases c.table.resolve other with
      | error e => simp [Cache.take]
      | ok ip =>
        cases hremember : c.cache.remember now other ip with
        | none => simp [Cache.take, hremember]
        | some after =>
          rw [Cache.take_of_later hremember]
          dsimp only
          rw [Cache.lookup_remember_eq_some_iff hremember]
          by_cases hhost : host = other
          · simp [hhost, eq_comm]
          · simp [hhost, Ne.symm hhost]
  | forget other =>
    have hlookup := c.cache.lookup_forget other host
    simp only [advance, record, perform, hlookup]
    by_cases hhost : host = other
    · simp [hhost]
    · simp [hhost, Ne.symm hhost]
  | clear => simp [advance, record, perform, Cache.clear]
  | ask _ | add _ _ | remove _ =>
    simp [advance, record, perform, ask]

theorem lookup_table_advance (c : Counted) (step : Instant × Op) (host : String) :
    (c.advance step).table.hosts.lookup host = match step.2 with
      | .add other ip => if host = other then some ip else c.table.hosts.lookup host
      | .remove other => if host = other then none else c.table.hosts.lookup host
      | _ => c.table.hosts.lookup host := by
  obtain ⟨now, op⟩ := step
  cases op with
  | add other ip => exact c.table.lookup_add other host ip
  | remove other => exact c.table.lookup_remove other host
  | resolve | ask | forget | clear => rfl

/-! ## What the record tells -/

theorem lifetime_after (c : Counted) (steps : List (Instant × Op)) :
    (c.after steps).cache.lifetime = c.cache.lifetime := by
  induction steps using List.reverseRecOn with
  | nil => rfl
  | append_singleton steps step ih => rw [after_concat, lifetime_advance, ih]

/-- The cache remembers what the last lookup found. -/
theorem lookup_after (table : HostTable) (lifetime : Nat) (steps : List (Instant × Op))
    (host : String) (m : Memory) :
    ((start table lifetime).after steps).cache.memories.lookup host = some m ↔
      ∃ asked, LastFound ((start table lifetime).log steps) host asked m.ip ∧
        asked.later? lifetime = some m.expires := by
  induction steps using List.reverseRecOn with
  | nil =>
    constructor
    · intro h
      cases h
    · rintro ⟨asked, hfound, -⟩
      exact absurd hfound not_lastFound_nil
  | append_singleton steps step ih =>
    have hlifetime := lifetime_after (start table lifetime) steps
    rw [after_concat, log_concat, lookup_advance, ih, hlifetime]
    constructor
    · rintro (⟨hfinds, hm⟩ | ⟨hkeeps, asked, hfound, hm⟩)
      · exact ⟨step.1, lastFound_concat.mpr (Or.inl ⟨rfl, hfinds⟩), hm⟩
      · exact ⟨asked, lastFound_concat.mpr (Or.inr ⟨hkeeps, hfound⟩), hm⟩
    · rintro ⟨asked, hfound, hm⟩
      rcases lastFound_concat.mp hfound with ⟨rfl, hfinds⟩ | ⟨hkeeps, hfound⟩
      · exact Or.inl ⟨hfinds, hm⟩
      · exact Or.inr ⟨hkeeps, asked, hfound, hm⟩

/-- What was found, the clock could show until when to remember. -/
theorem later_of_finds {ip : Ip} (h : (c.record step).Finds host ip) :
    ∃ expires, step.1.later? c.cache.lifetime = some expires := by
  obtain ⟨now, op⟩ := step
  obtain ⟨rfl, hlookups, hresult⟩ := h
  rcases c.fresh_or_misses now host with ⟨m, hm, hfresh⟩ | hmiss
  · rw [record_of_fresh hm hfresh] at hlookups
    cases hlookups
  · rw [record_of_misses hmiss] at hresult
    cases hlater : now.later? c.cache.lifetime with
    | some expires => exact ⟨expires, rfl⟩
    | none =>
      cases htable : c.table.resolve host with
      | ok ip' =>
        rw [htable, Cache.take_of_end hlater] at hresult
        cases hresult
      | error e =>
        rw [htable] at hresult
        cases hresult

/-! ## One host among others -/

/-- All that the resolution of a host depends on. -/
structure Alike (host : String) (c c' : Counted) : Prop where
  table : c.table.hosts.lookup host = c'.table.hosts.lookup host
  memory : c.cache.memories.lookup host = c'.cache.memories.lookup host
  lifetime : c.cache.lifetime = c'.cache.lifetime

theorem concerns_of_settles {r : Record} (h : r.Settles host) : r.op.concerns host = true := by
  rcases h with ⟨ip, hop, -⟩ | hop | hop
  · simp [hop, Op.concerns]
  · simp [hop, Op.concerns]
  · simp [hop, Op.concerns]

theorem alike_advance (h : step.2.concerns host = false) : Alike host (c.advance step) c where
  table := by
    rw [lookup_table_advance]
    cases hop : step.2 with
    | add other ip | remove other =>
      have hne : host ≠ other := by
        rintro rfl
        simp [hop, Op.concerns] at h
      exact if_neg hne
    | resolve | ask | forget | clear => rfl
  -- what is remembered of a host changes only where the record says so
  memory := by
    have hkeeps : ¬ (c.record step).Settles host := by
      intro hsettles
      have hconcerns : step.2.concerns host = true := concerns_of_settles hsettles
      rw [h] at hconcerns
      cases hconcerns
    refine Option.ext fun m => ?_
    rw [lookup_advance]
    constructor
    · rintro (⟨hfinds, -⟩ | ⟨-, hm⟩)
      · exact absurd (Or.inl ⟨m.ip, hfinds⟩) hkeeps
      · exact hm
    · exact fun hm => Or.inr ⟨hkeeps, hm⟩
  lifetime := c.lifetime_advance step

namespace Alike

theorem resolve_table (h : Alike host c c') : c.table.resolve host = c'.table.resolve host := by
  rw [HostTable.resolve, HostTable.resolve, h.table]

theorem record (h : Alike host c c') (hstep : step.2.concerns host = true) :
    c.record step = c'.record step := by
  obtain ⟨now, op⟩ := step
  cases op with
  | resolve other =>
    obtain rfl : other = host := of_decide_eq_true hstep
    rcases c.fresh_or_misses now other with ⟨m, hm, hfresh⟩ | hmiss
    · rw [record_of_fresh hm hfresh, record_of_fresh (h.memory ▸ hm) hfresh]
    · have hmiss' : c'.Misses now other := fun m hm => hmiss m (h.memory ▸ hm)
      rw [record_of_misses hmiss, record_of_misses hmiss', h.resolve_table,
        Cache.take_congr h.lifetime]
  | ask other =>
    obtain rfl : other = host := of_decide_eq_true hstep
    simp only [Counted.record, advance, perform, ask, h.resolve_table, Nat.add_sub_cancel_left]
  | add _ _ | remove _ | forget _ | clear =>
    simp only [Counted.record, advance, perform, Nat.sub_self]

theorem advance (h : Alike host c c') (hstep : step.2.concerns host = true) :
    Alike host (c.advance step) (c'.advance step) where
  table := by rw [lookup_table_advance, lookup_table_advance, h.table]
  memory := by
    refine Option.ext fun m => ?_
    rw [lookup_advance, lookup_advance, h.record hstep, h.memory, h.lifetime]
  lifetime := by rw [lifetime_advance, lifetime_advance, h.lifetime]

/-- Without the operations on other hosts the record of a host is the same. -/
theorem log_filter {steps : List (Instant × Op)} (h : Alike host c c') :
    (c.log steps).filter (·.op.concerns host) =
      c'.log (steps.filter (·.2.concerns host)) := by
  induction steps generalizing c c' with
  | nil => rfl
  | cons step steps ih =>
    rw [log, notes, List.singleton_append, List.filter_cons, List.filter_cons]
    have hop : (c.record step).op.concerns host = step.2.concerns host := rfl
    rw [hop]
    cases hstep : step.2.concerns host with
    | true =>
      rw [if_pos rfl, if_pos rfl, log, notes, List.singleton_append, h.record hstep]
      exact congrArg _ (ih (h.advance hstep))
    | false =>
      rw [if_neg (by simp), if_neg (by simp)]
      have hsame := alike_advance (c := c) hstep
      exact ih ⟨hsame.table.trans h.table, hsame.memory.trans h.memory,
        hsame.lifetime.trans h.lifetime⟩

end Alike

/-! ## What a resolution answers -/

section Answers

variable {table : HostTable} {lifetime : Nat} {steps : List (Instant × Op)} {asked : Instant}
  {ip : Ip}

theorem exists_step_of_lastFound (h : LastFound (c.log steps) host asked ip) :
    ∃ front step back, steps = front ++ step :: back ∧ step.1 = asked ∧
      ((c.after front).record step).Finds host ip := by
  obtain ⟨before, r, rest, hlog, rfl, hfinds, -⟩ := h
  have hr : r ∈ c.log steps := by
    rw [hlog]
    simp
  obtain ⟨front, step, back, rfl, hnote⟩ := mem_notes_iff.mp hr
  obtain rfl := List.mem_singleton.mp hnote
  exact ⟨front, step, back, rfl, rfl, hfinds⟩

theorem later_of_lastFound (h : LastFound ((start table lifetime).log steps) host asked ip) :
    ∃ expires, asked.later? lifetime = some expires := by
  obtain ⟨front, step, back, -, rfl, hfinds⟩ := exists_step_of_lastFound h
  obtain ⟨expires, hexpires⟩ := later_of_finds hfinds
  rw [lifetime_after] at hexpires
  exact ⟨expires, hexpires⟩

theorem resolve_of_lastFound (h : LastFound ((start table lifetime).log steps) host asked ip)
    (hfresh : now < asked + lifetime) :
    ((start table lifetime).after steps).resolve now host =
      (.answer (.ok ip), (start table lifetime).after steps) := by
  obtain ⟨expires, hexpires⟩ := later_of_lastFound h
  have hm := (lookup_after table lifetime steps host ⟨ip, expires⟩).mpr ⟨asked, h, hexpires⟩
  refine resolve_of_fresh hm (Fin.lt_def.mpr ?_)
  rwa [Instant.later?_eq_some_iff.mp hexpires]

theorem misses_of_lastFound
    (h : ∀ asked ip, LastFound ((start table lifetime).log steps) host asked ip →
      asked + lifetime ≤ now) :
    ((start table lifetime).after steps).Misses now host := by
  intro m hm
  obtain ⟨asked, hfound, hexpires⟩ := (lookup_after table lifetime steps host m).mp hm
  rw [Fin.le_def, Instant.later?_eq_some_iff.mp hexpires]
  exact h asked m.ip hfound

end Answers

/-- The table is asked once, and what it says is the answer. -/
def LooksUp (c : Counted) (now : Instant) (host : String) : Prop :=
  (c.resolve now host).1 = .answer (c.ask host).1 ∧
    (c.resolve now host).2.lookups = c.lookups + 1

theorem looksUp_of_misses (h : c.Misses now host) (hlater : now + c.cache.lifetime < clockEnd) :
    c.LooksUp now host := by
  rw [LooksUp, resolve_of_misses h, ask]
  refine ⟨?_, rfl⟩
  cases c.table.resolve host with
  | error e => rfl
  | ok ip =>
    have hsome : now.later? c.cache.lifetime = some ⟨_, hlater⟩ := dif_pos hlater
    rw [Cache.take_of_later (Cache.remember_eq_some_iff.mpr ⟨_, hsome, rfl⟩)]

/-- The address is lost, and nothing is remembered. -/
theorem resolve_of_end {ip : Ip} (h : c.Misses now host) (hip : (c.ask host).1 = .ok ip)
    (hend : clockEnd ≤ now + c.cache.lifetime) :
    c.resolve now host = (.overflow, (c.ask host).2) := by
  have htable : c.table.resolve host = .ok ip := hip
  rw [resolve_of_misses h, htable, Cache.take_of_end (Instant.later?_eq_none_iff.mpr hend), ask]

theorem looksUp_of_error {e : LookupError} (h : c.Misses now host)
    (he : (c.ask host).1 = .error e) : c.LooksUp now host := by
  have htable : c.table.resolve host = .error e := he
  rw [LooksUp, resolve_of_misses h, ask, htable]
  exact ⟨rfl, rfl⟩

/-- A lookup that is due gives its answer, unless that is an address whose time the clock cannot
show. -/
theorem looksUp_iff_of_misses (h : c.Misses now host) : c.LooksUp now host ↔
    ∀ ip, (c.ask host).1 = .ok ip → now + c.cache.lifetime < clockEnd := by
  constructor
  · intro hlooks ip hip
    by_contra hend
    have hanswer := hlooks.1
    rw [resolve_of_end h hip (Nat.not_lt.mp hend)] at hanswer
    cases hanswer
  · intro hlater
    cases hask : (c.ask host).1 with
    | ok ip => exact looksUp_of_misses h (hlater ip hask)
    | error e => exact looksUp_of_error h hask

theorem resolve_of_not_looksUp (h : c.Misses now host) (hlooks : ¬ c.LooksUp now host) :
    c.resolve now host = (.overflow, (c.ask host).2) := by
  rw [looksUp_iff_of_misses h] at hlooks
  obtain ⟨ip, hlooks⟩ := not_forall.mp hlooks
  obtain ⟨hip, hend⟩ := Classical.not_imp.mp hlooks
  exact resolve_of_end h hip (Nat.not_lt.mp hend)

theorem resolve_of_error {e : LookupError} (h : (c.resolve now host).1 = .answer (.error e)) :
    c.resolve now host = (.answer (c.ask host).1, (c.ask host).2) := by
  rcases c.fresh_or_misses now host with ⟨m, hm, hfresh⟩ | hmiss
  · rw [resolve_of_fresh hm hfresh] at h
    cases h
  · cases htable : c.table.resolve host with
    | error e' => rw [resolve_of_misses hmiss, ask, htable, Cache.take]
    | ok ip =>
      rw [resolve_of_misses hmiss, htable] at h
      dsimp only at h
      rw [Cache.take] at h
      cases hremember : c.cache.remember now host ip with
      | none =>
        rw [hremember] at h
        cases h
      | some after =>
        rw [hremember] at h
        cases h

/-- As long as its time lasts, the last lookup on record that found a host answers for it, and the
table is not asked. Otherwise the table is asked, and what it says is the answer, except for an
address that is to be remembered beyond the end of the clock: then there is no answer. That and a
failure leave the cache as it was. Operations on other hosts make no difference. If answers last for
no time, the table is asked each time. -/
theorem resolves_by_record (table : HostTable) (lifetime : Nat) (steps : List (Instant × Op))
    (now : Instant) (host : String) :
    let c := (start table lifetime).after steps
    let log := (start table lifetime).log steps
    (∀ asked ip, LastFound log host asked ip → now < asked + lifetime →
      c.resolve now host = (.answer (.ok ip), c)) ∧
    ((∀ asked ip, LastFound log host asked ip → asked + lifetime ≤ now) →
      (c.LooksUp now host ↔ ∀ ip, (c.ask host).1 = .ok ip → now + lifetime < clockEnd) ∧
      (¬ c.LooksUp now host → c.resolve now host = (.overflow, (c.ask host).2))) ∧
    (∀ e, (c.resolve now host).1 = .answer (.error e) →
      c.resolve now host = (.answer (c.ask host).1, (c.ask host).2)) ∧
    log.filter (·.op.concerns host) =
      (start table lifetime).log (steps.filter (·.2.concerns host)) ∧
    (lifetime = 0 → (∀ step ∈ steps, step.1 ≤ now) → c.LooksUp now host) := by
  intro c log
  have hlifetime : c.cache.lifetime = lifetime := lifetime_after (start table lifetime) steps
  refine ⟨fun asked ip => resolve_of_lastFound, fun h => ?_, fun e => resolve_of_error,
    Alike.log_filter ⟨rfl, rfl, rfl⟩, ?_⟩
  · have hmiss : c.Misses now host := misses_of_lastFound h
    have hlooks := looksUp_iff_of_misses hmiss
    rw [hlifetime] at hlooks
    exact ⟨hlooks, resolve_of_not_looksUp hmiss⟩
  · rintro rfl hpast
    refine looksUp_of_misses (misses_of_lastFound fun asked ip hfound => ?_) ?_
    · obtain ⟨front, step, back, rfl, rfl, -⟩ := exists_step_of_lastFound hfound
      exact hpast step (by simp)
    · rw [hlifetime]
      exact now.isLt

def firstAddress : Ip := .v4 ⟨10, 0, 0, 1⟩

def secondAddress : Ip := .v4 ⟨10, 0, 0, 2⟩

/-- A host that moves to another address after it was looked up, among lookups of another host. -/
def moving : List (Instant × Op) :=
  [(1, .resolve "svc"), (2, .resolve "db"), (3, .add "svc" secondAddress)]

theorem lastFound_moving :
    LastFound ((start (.ofList [("svc", firstAddress)]) 60).log moving) "svc" 1 firstAddress := by
  refine ⟨[], ⟨1, .resolve "svc", some (.answer (.ok firstAddress)), 1⟩,
    [⟨2, .resolve "db", some (.answer (.error (.notFound "db"))), 1⟩,
      ⟨3, .add "svc" secondAddress, none, 0⟩], ?_, rfl, ⟨rfl, rfl, rfl⟩, ?_⟩
  · rfl
  · simp

theorem moving_resolves :
    let table : HostTable := .ofList [("svc", firstAddress)]
    let c := (start table 60).after moving
    let dropped := (start table 60).after (moving ++ [(4, .forget "svc")])
    let brief := (start table 0).after moving
    c.resolve 5 "svc" = (.answer (.ok firstAddress), c) ∧
    (c.ask "svc").1 = .ok secondAddress ∧ c.LooksUp 63 "svc" ∧ dropped.LooksUp 5 "svc" ∧
    c.resolve 5 "db" = (.answer (c.ask "db").1, (c.ask "db").2) ∧ brief.LooksUp 3 "svc" := by
  intro table c dropped brief
  have hdropped : ∀ asked ip, ¬ LastFound ((start table 60).log (moving ++ [(4, .forget "svc")]))
      "svc" asked ip := by
    intro asked ip hfound
    rw [log_concat] at hfound
    rcases lastFound_concat.mp hfound with ⟨-, hop, -⟩ | ⟨hsettles, -⟩
    · cases hop
    · exact hsettles (Or.inr (Or.inl rfl))
  have hlast : ∀ asked ip, LastFound ((start table 60).log moving) "svc" asked ip →
      (asked : Nat) + 60 ≤ 63 := by
    intro asked ip h
    obtain ⟨front, step, back, hsteps, rfl, -⟩ := exists_step_of_lastFound h
    have htime : ∀ step ∈ moving, (step.1 : Nat) ≤ 3 := by decide
    exact Nat.add_le_add_right (htime step (by simp [hsteps])) 60
  obtain ⟨hrecall, -, -, -, -⟩ := resolves_by_record table 60 moving 5 "svc"
  obtain ⟨-, hlate, -, -, -⟩ := resolves_by_record table 60 moving 63 "svc"
  obtain ⟨-, hagain, -, -, -⟩ :=
    resolves_by_record table 60 (moving ++ [(4, .forget "svc")]) 5 "svc"
  obtain ⟨-, -, herror, -, -⟩ := resolves_by_record table 60 moving 5 "db"
  obtain ⟨-, -, -, -, hbrief⟩ := resolves_by_record table 0 moving 3 "svc"
  refine ⟨hrecall 1 firstAddress lastFound_moving (by decide), rfl, ?_, ?_, ?_, ?_⟩
  · exact (hlate hlast).1.mpr fun ip _ => by decide
  · exact (hagain fun asked ip h => absurd h (hdropped asked ip)).1.mpr fun ip _ => by decide
  · exact herror (.notFound "db") rfl
  · exact hbrief rfl (by decide)

/-- If answers are to last as long as any span does, a host that is in the table gets no answer, and
each further resolution asks the table again. -/
theorem endless_breaks_off :
    let c := start (.ofList [("svc", firstAddress)]) Span.longest.nanos
    let again := (c.resolve 1 "svc").2
    (∀ asked ip, ¬ LastFound (c.log []) "svc" asked ip) ∧ (c.ask "svc").1 = .ok firstAddress ∧
    (c.resolve 1 "svc").1 = .overflow ∧ (again.resolve 2 "svc").1 = .overflow ∧
    (again.resolve 2 "svc").2.lookups = 2 := by
  intro c again
  exact ⟨fun asked ip => not_lastFound_nil, rfl, rfl, rfl, rfl⟩

end Counted

end Rpc.Net
