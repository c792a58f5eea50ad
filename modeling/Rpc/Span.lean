/-! # Instants and spans of time

An instant is what a clock can show, and a clock has an end: an instant too far ahead cannot be
told. A span is a whole number of nanoseconds. It is shown in the largest unit that gives it a
non-zero whole part, with only as many decimals as it needs.
-/
namespace Rpc

structure Span where
  nanos : Nat
  deriving DecidableEq, Repr

namespace Span

def zero : Span := ⟨0⟩

/-- The seconds of a span have 64 bits. -/
def longest : Span := ⟨Nat.pow 2 64 * 1000000000 - 1⟩

def ofSeconds (n : Nat) : Span := ⟨n * 1000000000⟩
def ofMillis (n : Nat) : Span := ⟨n * 1000000⟩

def toMillis (s : Span) : Nat := s.nanos / 1000000

def isZero (s : Span) : Bool := s.nanos = 0

/-- The decimals of a fraction of `10 ^ places`, without trailing zeros. -/
def decimals (places fraction : Nat) : List Char :=
  let digits := (Nat.toDigits 10 fraction)
  let padded := List.replicate (places - digits.length) '0' ++ digits
  (padded.reverse.dropWhile (· = '0')).reverse

def scaled (nanos places : Nat) (symbol : String) : String :=
  let tail := decimals places (nanos % Nat.pow 10 places)
  toString (nanos / Nat.pow 10 places) ++
    String.ofList (if tail.isEmpty then [] else '.' :: tail) ++ symbol

def render (s : Span) : String :=
  if 1000000000 ≤ s.nanos then scaled s.nanos 9 "s"
  else if 1000000 ≤ s.nanos then scaled s.nanos 6 "ms"
  else if 1000 ≤ s.nanos then scaled s.nanos 3 "µs"
  else scaled s.nanos 0 "ns"

end Span

/-- The nanoseconds that a clock counts: its seconds have 63 bits. -/
def clockEnd : Nat := Nat.pow 2 63 * 1000000000

theorem clockEnd_pos : 0 < clockEnd := by decide

/-- Nanoseconds on a clock that only moves forward. -/
abbrev Instant := Fin clockEnd

instance (nanos : Nat) : OfNat Instant nanos := ⟨⟨nanos % clockEnd, Nat.mod_lt nanos clockEnd_pos⟩⟩

namespace Instant

/-- The instant some nanoseconds later, unless the clock ends before. -/
def later? (t : Instant) (nanos : Nat) : Option Instant :=
  if h : t + nanos < clockEnd then some ⟨t + nanos, h⟩ else none

/-- How long an instant comes after another one. -/
def since (t start : Instant) : Span := ⟨t - start⟩

variable {t later : Instant} {nanos : Nat}

theorem later?_eq_some_iff : t.later? nanos = some later ↔ (later : Nat) = t + nanos := by
  rw [later?]
  split
  · next h =>
    rw [Option.some.injEq, Fin.ext_iff]
    exact eq_comm
  · next h =>
    constructor
    · intro hnone
      cases hnone
    · exact fun hsum => absurd (hsum ▸ later.isLt) h

theorem later?_eq_none_iff : t.later? nanos = none ↔ clockEnd ≤ t + nanos := by
  rw [later?]
  split
  · next h =>
    constructor
    · intro hsome
      cases hsome
    · exact fun hend => absurd h (Nat.not_lt.mpr hend)
  · next h => exact iff_of_true rfl (Nat.not_lt.mp h)

end Instant

end Rpc
