import HomeEntities.Decimal.Binary64

/-!
# Reading decimal literals

A literal is read with 64 bits of significand: leading digits are taken while they fit, later
digits before the point only count as powers of ten, and later digits after it do not count. The
significand is rounded to a double and then multiplied or divided, once, by the double nearest to
the power of ten. Powers beyond `10 ^ 308` are divided out in steps.

* `takeDigits`: the significand of a run of digits and how many digits were left out.
* `Binary64.ofLiteral`: the double that a literal stands for, infinite if it is too large.
-/

namespace HomeEntities.Decimal

/-- The largest significand that is kept. -/
def maxSignificand : Nat := 18446744073709551615

/-- Append digits to a significand while it fits; also the number of digits left out. -/
def takeDigits (significand : Nat) : List Nat → Nat × Nat
  | [] => (significand, 0)
  | d :: ds =>
    let next := significand * 10 + d
    if next ≤ maxSignificand then takeDigits next ds else (significand, ds.length + 1)

/-- The value of a run of digits. -/
def digitsValue (digits : List Nat) : Nat := digits.foldl (fun n d => n * 10 + d) 0

/-- The double nearest to `10 ^ n`, in units. -/
def powerOfTen (n : Nat) : Nat := roundRatio (Nat.pow 10 n * one) 1

namespace Binary64

/-- Multiply a double by a power of ten; infinite if the power is above `10 ^ 308`. -/
def scaleTen (x : Binary64) (exponent : Int) : Binary64 :=
  if x.isZero then x
  else if exponent < -308 then scaleTen (x.scaleDown (powerOfTen 308)) (exponent + 308)
  else if exponent < 0 then x.scaleDown (powerOfTen (-exponent).toNat)
  else if exponent ≤ 308 then x.scaleUp (powerOfTen exponent.toNat)
  else infinite false
termination_by (-exponent).toNat
decreasing_by omega

/-- The double that a literal stands for: digits before the point, digits after it, and the
power of ten that follows. -/
def ofLiteral (negative : Bool) (whole fraction : List Nat) (exponent : Int) : Binary64 :=
  let (head, unused) := takeDigits 0 whole
  let (significand, unread) := takeDigits head fraction
  let shift : Int := unused - (fraction.length - unread : Nat) + exponent
  let magnitude := scaleTen (ofRatio false significand 1) shift
  if negative then magnitude.neg else magnitude

/-- The double nearest to `digits · 10 ^ exponent`. Powers so large or so small that the answer is
plain are not computed. -/
def ofDecimal (negative : Bool) (digits : Nat) (exponent : Int) : Binary64 :=
  let lead := exponent + (Nat.toDigits 10 digits).length
  if digits = 0 ∨ lead < -400 then ofRatio negative 0 1
  else if 400 < lead then infinite negative
  else ofRatio negative (digits * Nat.pow 10 exponent.toNat) (Nat.pow 10 (-exponent).toNat)

end Binary64

end HomeEntities.Decimal
