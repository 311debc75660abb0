import HomeEntities.Decimal.Binary64

/-!
# Shortest decimals

The fewest decimal digits that read back as a given double, and of those the nearest to it. A
decimal reads back if it lies in the interval of numbers that round to the double; the ends of
the interval belong to it if the significand is even. All arithmetic is exact: a decimal is a
quotient of whole numbers, and the interval is measured in quarters of a unit. Of two decimals
equally near, a tie rule takes one.

* `Interval.ofUnits`: the numbers that round to a double.
* `Tie`: which of two decimals equally near is taken.
* `shortest`: the digits and the power of ten of the shortest decimal.
-/

namespace HomeEntities.Decimal

/-- The numbers that round to one double, in quarters of a unit. -/
structure Interval where
  low : Nat
  high : Nat
  closed : Bool

/-- The numbers that round to a magnitude of `units`. Below a power of two the doubles lie twice
as close as above it. -/
def Interval.ofUnits (units : Nat) : Interval :=
  let gap := spacing units
  let below := if units = Nat.pow 2 52 * gap ∧ gap ≠ 1 then gap else 2 * gap
  ⟨4 * units - below, 4 * units + 2 * gap, units / gap % 2 == 0⟩

/-- Whether the quotient `num / den`, in units, lies in the interval. -/
def Interval.holds (interval : Interval) (num den : Nat) : Bool :=
  let low := interval.low * den
  let high := interval.high * den
  (low < 4 * num && 4 * num < high) || (interval.closed && (low == 4 * num || 4 * num == high))

/-- A decimal `digits · 10 ^ exponent`. -/
structure Numeral where
  digits : Nat
  exponent : Int
deriving Repr, DecidableEq

/-- The decimal in units, as a quotient. -/
def Numeral.inUnits (d : Numeral) : Nat × Nat :=
  (d.digits * Nat.pow 10 d.exponent.toNat * one, Nat.pow 10 (-d.exponent).toNat)

/-- How many digits a number has. -/
def digitCount (n : Nat) : Nat := (Nat.toDigits 10 n).length

/-- Multiply by ten until the number of units reaches one; the count of steps, negated. -/
def exponentBelowOne (units : Nat) : Nat → Nat → Int
  | 0, steps => -steps
  | fuel + 1, steps =>
    if one ≤ units then -steps else exponentBelowOne (units * 10) fuel (steps + 1)

/-- The power of ten of the first digit of a positive magnitude. -/
def leadingExponent (units : Nat) : Int :=
  if one ≤ units then (digitCount (units / one) : Int) - 1 else exponentBelowOne units 324 0

/-- The decimal of the given exponent next below the magnitude. -/
def decimalBelow (units : Nat) (exponent : Int) : Numeral :=
  ⟨units * Nat.pow 10 (-exponent).toNat / (one * Nat.pow 10 exponent.toNat), exponent⟩

/-- The distance between a decimal and a magnitude, both as multiples of one common part. -/
def distance (units : Nat) (d : Numeral) : Nat :=
  let (num, den) := d.inUnits
  (num - units * den) + (units * den - num)

/-- Which of two neighbouring decimals is taken when a magnitude lies halfway between them. -/
inductive Tie where
  /-- The one with an even last digit. -/
  | toEven
  /-- The greater one, away from zero. -/
  | away
deriving Repr, DecidableEq

/-- Whether the lower of two neighbours is taken, given its digits. -/
def Tie.takesLower : Tie → Nat → Bool
  | toEven, digits => digits % 2 == 0
  | away, _ => false

/-- The decimal of the given exponent nearest to the magnitude among those that read back. -/
def nearestDecimal? (tie : Tie) (units : Nat) (exponent : Int) : Option Numeral :=
  let interval := Interval.ofUnits units
  let below := decimalBelow units exponent
  let above : Numeral := ⟨below.digits + 1, exponent⟩
  match interval.holds below.inUnits.1 below.inUnits.2,
      interval.holds above.inUnits.1 above.inUnits.2 with
  | true, true =>
    if distance units below < distance units above then some below
    else if distance units above < distance units below then some above
    else if tie.takesLower below.digits then some below else some above
  | true, false => some below
  | false, true => some above
  | false, false => none

/-- Drop the zeros at the end of a decimal's digits. -/
def Numeral.trim : Nat → Numeral → Numeral
  | 0, d => d
  | fuel + 1, d =>
    if d.digits ≠ 0 ∧ d.digits % 10 = 0 then trim fuel ⟨d.digits / 10, d.exponent + 1⟩ else d

/-- Try decimals of the given exponent, then of ever smaller ones. -/
def shortestFrom (tie : Tie) (units : Nat) : Nat → Int → Numeral
  | 0, exponent => decimalBelow units exponent
  | fuel + 1, exponent =>
    match nearestDecimal? tie units exponent with
    | some d => d
    | none => shortestFrom tie units fuel (exponent - 1)

/-- The shortest decimal that reads back as a magnitude, without zeros at its end. -/
def shortest (tie : Tie) (units : Nat) : Numeral :=
  if units = 0 then ⟨0, 0⟩
  else
    let lead := leadingExponent units
    (shortestFrom tie units 17 lead).trim 20

end HomeEntities.Decimal
