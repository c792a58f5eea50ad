import Rpc.Net.Domain.Folding
import Rpc.Text.Blank
import Rpc.Text.Direction
import Rpc.Text.Joining
import Rpc.Text.Normal
import Rpc.Text.Pieces
import Rpc.Text.Punycode

/-! # Domains

A domain is a row of labels with full stops between them. It is folded and brought into normal
form before its labels are looked at. A label may stand for text beyond ASCII; that text has to be
as it would be read. What is left is checked label by label, and as a whole if any of it runs
leftward.
-/
namespace Rpc.Net.Domain

open Rpc.Text

/-! ## Characters -/

/-- Characters of ASCII that no domain holds. -/
def isReserved (c : Char) : Bool :=
  c.toNat ≤ 0x20 ∨ c.toNat = 0x7f ∨
    ['%', '#', '/', ':', '<', '>', '?', '@', '[', '\\', ']', '^', '|'].contains c

/-- Asks that two letters be not joined. -/
def nonJoiner : Char := Char.ofNat 0x200c

/-- Asks that two letters be joined. -/
def joiner : Char := Char.ofNat 0x200d

/-- Characters that show and yet are in no domain: forms that hold a full stop, descriptions of
ideographs, and stand-ins for characters that are missing. -/
def unfit : Ranges :=
  [(0x2024, 0x2026), (0x2488, 0x249b), (0x2ff0, 0x2fff), (0x31ef, 0x31ef), (0x33c2, 0x33c2),
   (0x33c7, 0x33c7), (0x33d8, 0x33d8), (0xfe12, 0xfe12), (0xfe19, 0xfe19), (0xfe30, 0xfe30),
   (0xfe52, 0xfe52), (0xfffc, 0xfffd), (0x1f100, 0x1f100)]

/-- Whether a domain may hold the folded character. -/
def isAllowed (c : Char) : Bool :=
  if c.toNat < 0x80 then !isReserved c
  else (!blank.holds c || c = nonJoiner || c = joiner) && !unfit.holds c

def isAscii (cs : List Char) : Bool := cs.all (·.toNat < 0x80)

/-! ## Labels -/

/-- Whether a joiner of either kind has a place between what is before it, in reverse order, and
what is behind it. Both may follow a mark that joins its base to the next letter; between other
letters there is something to ask for only if both would be joined. -/
def joinerFits (c : Char) (before behind : List Char) : Bool :=
  match before with
  | [] => false
  | b :: _ => combiningClass b = 9 ∨
      (c = nonJoiner ∧ Joining.reaches Joining.onward before ∧
        Joining.reaches Joining.backward behind)

def joinersFit (before : List Char) : List Char → Bool
  | [] => true
  | c :: cs =>
    (if c = nonJoiner ∨ c = joiner then joinerFits c before cs else true) &&
      joinersFit (c :: before) cs

def maxLength : Nat := 1000

def maxEncodedLength : Nat := 2000

/-- A label begins with no mark. -/
def isSound (label : List Char) : Bool :=
  label.all isAllowed && !(label.take 1).any isMark && joinersFit [] label &&
    (isAscii label || label.length ≤ maxLength)

/-- The text that a label stands for, behind the mark of such labels. Folding and normal form would
leave it as it is. -/
def decode? (cs : List Char) : Option (List Char) :=
  if isAscii cs ∧ cs.length ≤ maxEncodedLength ∧ cs ≠ [] ∧ cs.getLast? ≠ some '-' then
    (Punycode.decode? cs).filter fun label =>
      label.all (fun c => (fold? c).isNone) ∧ normal label = label
  else none

def label? (cs : List Char) : Option (List Char) :=
  let text := match cs with
    | 'x' :: 'n' :: '-' :: '-' :: rest => decode? rest
    | cs => some cs
  text.filter isSound

/-! ## Directions -/

def runsLeftward (label : List Char) : Bool :=
  label.any fun c => Direction.ofChar c = .leftward ∨ Direction.ofChar c = .arabicNumber

/-- Whether a label can be told apart from its neighbours where some of the domain runs leftward:
it begins with a letter and ends with a letter or a number, of one direction, and holds numbers of
one kind if it runs leftward. Marks at the end do not count. -/
def directionFits (label : List Char) : Bool :=
  let ds := label.map Direction.ofChar
  let last := (ds.reverse.dropWhile (· = .nonspacing)).head?
  let only (allowed : List Direction) := ds.all fun d => allowed.contains d
  match ds with
  | [] => true
  | .rightward :: _ =>
    only [.rightward, .europeanNumber, .neutral, .nonspacing] &&
      (last = some .rightward || last = some .europeanNumber)
  | .leftward :: _ =>
    only [.leftward, .europeanNumber, .arabicNumber, .neutral, .nonspacing] &&
      last ≠ some .neutral && !(ds.contains .europeanNumber && ds.contains .arabicNumber)
  | _ => false

/-! ## Whole domains -/

def labels? (cs : List Char) : Option (List (List Char)) :=
  ((pieces '.' (normal (fold cs))).mapM label?).filter fun labels =>
    !labels.any runsLeftward || labels.all directionFits

def read? (cs : List Char) : Option (List Char) :=
  (labels? cs).map fun labels => ['.'].intercalate labels

end Rpc.Net.Domain
