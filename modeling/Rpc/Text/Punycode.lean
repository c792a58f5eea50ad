import Rpc.Text.Digits

/-! # Text as letters, digits and hyphens

Characters beyond ASCII are written behind the others, in ascending order, each as the distance to
the one before it. A distance counts places and numbers of characters at once. It is written with
digits to base thirty-six, the least one first; how great the last digit may be depends on the
place of the digit and on how great the distances were so far.
-/
namespace Rpc.Text.Punycode

def base : Nat := 36

/-- The number from which a digit at a place is not the last one. -/
def threshold (bias place : Nat) : Nat :=
  if place ≤ bias then 1 else if bias + 26 ≤ place then 26 else place - bias

def initialBias : Nat := 72

/-- Distances are kept below this. -/
def limit : Nat := 4294967296

/-- The digits that reading a great distance takes, and what is left of it. -/
def shrink (d k : Nat) : Nat × Nat :=
  if 455 < d then shrink (d / 35) (k + base) else (d, k)
termination_by d
decreasing_by omega

/-- The bias behind a distance in a text that now has some length. -/
def adapt (distance length : Nat) (first : Bool) : Nat :=
  let d := if first then distance / 700 else distance / 2
  let (d, k) := shrink (d + d / length) 0
  k + base * d / (d + 38)

/-- Letters of either case, then digits. -/
def digit? (c : Char) : Option Nat :=
  if c.isLower then some (c.toNat - 97)
  else if c.isUpper then some (c.toNat - 65)
  else (decimalDigit? c).map (· + 26)

/-- Adds a distance to a sum, and what follows it. -/
def distance? (bias place weight sum : Nat) : List Char → Option (Nat × List Char)
  | [] => none
  | c :: cs =>
    match digit? c with
    | none => none
    | some d =>
      let sum := sum + d * weight
      let t := threshold bias place
      if limit ≤ sum then none
      else if d < t then some (sum, cs)
      else if limit ≤ weight * (base - t) then none
      else distance? bias (place + base) (weight * (base - t)) sum cs

theorem length_of_distance? {bias place weight sum : Nat} {cs : List Char} {r : Nat × List Char}
    (h : distance? bias place weight sum cs = some r) : r.2.length < cs.length := by
  induction cs generalizing place weight sum with
  | nil => simp [distance?] at h
  | cons c cs ih =>
    simp only [distance?] at h
    split at h
    · simp at h
    · split at h
      · simp at h
      · split at h
        · simp only [Option.some.injEq] at h
          simp [← h]
        · split at h
          · simp at h
          · exact Nat.lt_succ_of_lt (ih h)

def char? (n : Nat) : Option Char := if n.isValidChar then some (Char.ofNat n) else none

/-- Puts the characters that are written as distances to their places in a text. -/
def insert? (bias number place : Nat) (text cs : List Char) : Option (List Char) :=
  match cs with
  | [] => some text
  | c :: rest =>
    match _h : distance? bias base 1 place (c :: rest) with
    | none => none
    | some (sum, behind) =>
      let length := text.length + 1
      let number := number + sum / length
      match char? number with
      | none => none
      | some x =>
        insert? (adapt (sum - place) length (place = 0)) number (sum % length + 1)
          (text.insertIdx (sum % length) x) behind
termination_by cs.length
decreasing_by exact length_of_distance? ‹_›

/-- The text before the last hyphen and the one behind it. A hyphen with nothing before it does not
separate. -/
def cut (cs : List Char) : List Char × List Char :=
  let n := (cs.reverse.takeWhile (· ≠ '-')).length
  if cs.length ≤ n + 1 then ([], cs) else (cs.take (cs.length - n - 1), cs.drop (cs.length - n))

def decode? (cs : List Char) : Option (List Char) :=
  let (plain, distances) := cut cs
  insert? initialBias 0x80 0 plain distances

end Rpc.Text.Punycode
