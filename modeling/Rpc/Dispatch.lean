import Rpc.Message.Content
import Rpc.Message.Baggage

/-! # Dispatchers

What the application does with the messages that reach it. A request is answered at once, or held
until the application releases it; an event gets no answer.
-/
namespace Rpc

open Message

/-- A request or event that passed the layers. -/
structure Delivery where
  method : String
  payload : Bytes
  baggage : Baggage
  deriving DecidableEq, Repr

inductive Handling
  | answer (result : Except Fault Bytes)
  /-- Answers with the payload once that payload is released. -/
  | hold

structure Dispatcher where
  handle : Delivery → Handling
  /-- Whether the application keeps a log of what it is given. -/
  logs : Bool

namespace Dispatcher

def noHandler (method : String) : Fault :=
  .ofText Fault.unimplemented ("no handler for method '" ++ method ++ "'")

/-- Stands in where the application gave no dispatcher: every request is answered all the same. -/
def absent : Dispatcher where
  handle d := .answer (.error (noHandler d.method))
  logs := false

/-- A method is a name and an argument, split at the first colon. -/
def splitMethod (method : String) : String × String :=
  let cs := method.toList
  (String.ofList (cs.takeWhile (· ≠ ':')), String.ofList ((cs.dropWhile (· ≠ ':')).drop 1))

/-- Reads an unsigned decimal number, perhaps behind a plus sign. -/
def number? (s : String) : Option Nat :=
  let cs := match s.toList with
    | '+' :: cs => cs
    | cs => cs
  if cs.isEmpty ∨ ¬ cs.all Char.isDigit then none
  else some (cs.foldl (fun n c => 10 * n + (c.toNat - 48)) 0)

/-- The code that an argument spells; anything but a 32-bit number counts as zero. -/
def codeOf (arg : String) : UInt32 :=
  match number? arg with
  | some n => if n < 4294967296 then UInt32.ofNat n else 0
  | none => 0

def probe (d : Delivery) : Handling :=
  let (name, arg) := splitMethod d.method
  match name with
  | "echo" => .answer (.ok d.payload)
  | "fail" => .answer (.error (.ofText (codeOf arg) (Bytes.lossyText d.payload)))
  | "faild" => .answer (.error ⟨codeOf arg, "with details", some d.payload⟩)
  | "layer" => .answer (.ok ((d.baggage.get? arg).getD []))
  | "big" => .answer (.ok (List.replicate ((number? arg).getD 0) 0x5a))
  | "hold" => .hold
  | _ => .answer (.error (.ofText Fault.unimplemented ("unknown method " ++ name)))

/-- Answers in a way that its methods ask for, to try out connections. -/
def probing : Dispatcher := ⟨probe, true⟩

end Dispatcher

end Rpc
