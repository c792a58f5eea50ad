import Rpc.Call.Table

/-! # Calls and their answers

Beside the table of waiting calls stand the boxes in which callers look for their answers. An
answer goes into the box of its own call only, the first answer wins, and a caller that has gone
leaves no box.
-/
namespace Rpc

inductive Box
  | empty
  | holding (reply : Reply)
  | spent

structure Exchange where
  table : CallTable
  boxes : List (UInt64 × Box)

inductive Found
  | reply (reply : Reply)
  | pending
  /-- Nothing is there and nothing can come. -/
  | abandoned
  | noBox

namespace Exchange

def new (side : Side) : Exchange := ⟨.new side, []⟩

def box? (x : Exchange) (n : UInt64) : Option Box := x.boxes.lookup n

/-- Puts a reply into the boxes of the given calls that still stand empty. -/
def deliver (under : UInt64 → Bool) (reply : Reply) (boxes : List (UInt64 × Box)) :
    List (UInt64 × Box) :=
  boxes.map fun (n, b) =>
    match b with
    | .empty => if under n then (n, .holding reply) else (n, b)
    | b => (n, b)

def register (x : Exchange) : Except TransportError UInt64 × Exchange :=
  let r := x.table.register
  match r.1 with
  | .ok n => (.ok n, ⟨r.2, (n, .empty) :: x.boxes.filter (·.1 ≠ n)⟩)
  | .error e => (.error e, { x with table := r.2 })

def allocate (x : Exchange) : UInt64 × Exchange :=
  let r := x.table.allocate
  (r.1, { x with table := r.2 })

/-- Answers a waiting call; nobody is told of an answer that no call waits for. -/
def complete (x : Exchange) (n : UInt64) (reply : Reply) : Bool × Exchange :=
  let r := x.table.remove n
  if r.1 then (true, ⟨r.2, deliver (· = n) reply x.boxes⟩) else (false, { x with table := r.2 })

def remove (x : Exchange) (n : UInt64) : Bool × Exchange :=
  let r := x.table.remove n
  (r.1, { x with table := r.2 })

/-- Fails all waiting calls and takes no further ones. -/
def close (x : Exchange) (cause : CallError) : Exchange :=
  ⟨x.table.close, deliver (· ∈ x.table.waiting) (.error cause) x.boxes⟩

def poll (x : Exchange) (n : UInt64) : Found × Exchange :=
  match x.box? n with
  | none => (.noBox, x)
  | some .empty => (if n ∈ x.table.waiting then .pending else .abandoned, x)
  | some .spent => (.abandoned, x)
  | some (.holding reply) =>
    (.reply reply, { x with boxes := x.boxes.map fun b => if b.1 = n then (n, .spent) else b })

/-- The caller goes away; the call stays on the table. -/
def drop (x : Exchange) (n : UInt64) : Bool × Exchange :=
  ((x.box? n).isSome, { x with boxes := x.boxes.filter (·.1 ≠ n) })

end Exchange

end Rpc
