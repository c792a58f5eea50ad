import Rpc.Text.Mark

/-! # Quoted text

Text is quoted for diagnostics between double quotes. A quote, a backslash and the common controls
get a backslash; any other character that does not show is written as its number in hexadecimal. A
character shows if it leaves a mark of its own: it is neither blank nor attached to the one before.
-/
namespace Rpc.Text

def shows (c : Char) : Bool := !isBlank c && !isAttached c

/-- The short escape of a character, if it has one. -/
def escapeLetter? (c : Char) : Option Char :=
  if c = '\x00' then some '0' else if c = '\t' then some 't' else if c = '\r' then some 'r'
  else if c = '\n' then some 'n' else if c = '\\' then some '\\' else if c = '"' then some '"'
  else none

def quotedChar (c : Char) : List Char :=
  match escapeLetter? c with
  | some l => ['\\', l]
  | none =>
    if shows c then [c]
    else '\\' :: 'u' :: '\x7b' :: Nat.toDigits 16 c.toNat ++ ['\x7d']

def quoted (s : String) : String :=
  String.ofList ('"' :: s.toList.flatMap quotedChar ++ ['"'])

end Rpc.Text
