import Rpc.Text.Combining
import Rpc.Text.Composite

/-! # Normal form

Text that looks the same may be written with composites or with marks of their own, and with marks
in different orders. Its normal form takes composites apart, puts the marks on a base in the order
of their classes, and joins each mark to its base where there is a composite for both.
-/
namespace Rpc.Text

/-- Takes a character apart. No composite is nested deeper than three times. -/
def decompose (depth : Nat) (c : Char) : List Char :=
  match depth, split? c with
  | d + 1, some (base, mark) => decompose d base ++ [mark]
  | _, _ => [c]

/-- Puts a mark in front of the marks of a greater class that end a text. The text stands in
reverse order. -/
def placeMark (c : Char) : List Char → List Char
  | [] => [c]
  | x :: xs =>
    if 0 < combiningClass c ∧ combiningClass c < combiningClass x then x :: placeMark c xs
    else c :: x :: xs

def reorder (cs : List Char) : List Char := (cs.foldl (fun done c => placeMark c done) []).reverse

/-- Joins marks to their base. Between a base and a mark that it takes there is none of the same
or a greater class. The marks passed so far stand in reverse order. -/
def join (base : Option Char) (passed : List Char) : List Char → List Char
  | [] => base.toList ++ passed.reverse
  | c :: cs =>
    let joined := match base, passed with
      | some b, [] => composite? b c
      | some b, m :: _ => if combiningClass m < combiningClass c then composite? b c else none
      | none, _ => none
    match joined with
    | some d => join (some d) passed cs
    | none =>
      if combiningClass c = 0 then base.toList ++ passed.reverse ++ join (some c) [] cs
      else join base (c :: passed) cs

def normal (cs : List Char) : List Char := join none [] (reorder (cs.flatMap (decompose 4)))

end Rpc.Text
