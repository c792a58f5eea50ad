/-! # Numbers in text

Plain numerals: decimal or hexadecimal digits without sign. Reading tells the length limit and
whether zeros may lead apart from the base.
-/
namespace Rpc.Text

def decimalDigit? (c : Char) : Option Nat :=
  if '0' ≤ c ∧ c ≤ '9' then some (c.toNat - 48) else none

def hexDigit? (c : Char) : Option Nat :=
  if '0' ≤ c ∧ c ≤ '9' then some (c.toNat - 48)
  else if 'a' ≤ c ∧ c ≤ 'f' then some (c.toNat - 87)
  else if 'A' ≤ c ∧ c ≤ 'F' then some (c.toNat - 55)
  else none

/-- The number that the digits write on, behind `acc`. -/
def digits? (base : Nat) (value : Char → Option Nat) : (acc : Nat) → List Char → Option Nat
  | acc, [] => some acc
  | acc, c :: cs =>
    match value c with
    | some d => digits? base value (acc * base + d) cs
    | none => none

/-- A numeral of at least one decimal digit; zeros may lead. -/
def decimal? (cs : List Char) : Option Nat :=
  if cs.isEmpty then none else digits? 10 decimalDigit? 0 cs

/-- A numeral of one to four hexadecimal digits. -/
def hexGroup? (cs : List Char) : Option Nat :=
  if cs.isEmpty ∨ 4 < cs.length then none else digits? 16 hexDigit? 0 cs

/-- A decimal numeral that writes its number the only way. -/
def plainDecimal? (cs : List Char) : Option Nat :=
  if cs.head? = some '0' ∧ cs ≠ ['0'] then none else decimal? cs

def decimalBelow? (bound : Nat) (cs : List Char) : Option Nat :=
  (decimal? cs).filter (· < bound)

end Rpc.Text
