import Rpc.Net.Resolver.Basic

/-! # Many tasks at one cache

A task that resolves a host looks into the cache, asks the resolver behind it if nothing is there,
waits for the answer, and remembers it. While it waits, others may change what the resolver says,
or make the cache forget. Each of these is one step, and steps of different tasks come in any order.
-/
namespace Rpc.Net

inductive Resolving
  | begun (host : String)
  /-- Nothing was in the cache; the resolver behind it is asked next. -/
  | missed (host : String) (asked : Instant)
  | asking (host : String) (asked : Instant)
  | answered (host : String) (asked : Instant) (ip : Ip)
  | done (host : String) (result : Lookup)
  /-- Broken off, since the clock ends before the time of the answer. -/
  | overflow (host : String)

structure CacheRace where
  cache : Cache
  now : Instant
  tasks : List (Nat × Resolving)

namespace CacheRace

inductive Event
  | begin (task : Nat) (host : String)
  | look (task : Nat)
  | ask (task : Nat)
  | answer (task : Nat) (result : Lookup)
  | remember (task : Nat)
  | forget (host : String)
  | clear
  /-- Time passes, as long as there is any. -/
  | tick (span : Nat)

def new (lifetime : Nat) : CacheRace := ⟨.new lifetime, 0, []⟩

def setTask (r : CacheRace) (task : Nat) (after : Resolving) : CacheRace :=
  { r with tasks := r.tasks.map fun e => if e.1 = task then (task, after) else e }

def withTask (r : CacheRace) (task : Nat) (f : Resolving → CacheRace) : CacheRace :=
  match r.tasks.lookup task with
  | some g => f g
  | none => r

def step (r : CacheRace) : Event → CacheRace
  | .begin task host =>
    if (r.tasks.lookup task).isSome then r
    else { r with tasks := r.tasks ++ [(task, .begun host)] }
  | .look task => r.withTask task fun
    | .begun host =>
      match r.cache.remembered r.now host with
      | some ip => r.setTask task (.done host (.ok ip))
      | none => r.setTask task (.missed host r.now)
    | _ => r
  | .ask task => r.withTask task fun
    | .missed host asked => r.setTask task (.asking host asked)
    | _ => r
  | .answer task result => r.withTask task fun
    | .asking host asked =>
      match result with
      | .ok ip => r.setTask task (.answered host asked ip)
      | .error e => r.setTask task (.done host (.error e))
    | _ => r
  | .remember task => r.withTask task fun
    | .answered host asked ip =>
      match r.cache.remember asked host ip with
      | some cache => { r with cache }.setTask task (.done host (.ok ip))
      | none => r.setTask task (.overflow host)
    | _ => r
  | .forget host => { r with cache := r.cache.forget host }
  | .clear => { r with cache := r.cache.clear }
  | .tick span => { r with now := (r.now.later? span).getD r.now }

def run (r : CacheRace) (es : List Event) : CacheRace := es.foldl step r

end CacheRace

end Rpc.Net
