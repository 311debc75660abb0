import HomeEntities.Decimal.Shortest

/-!
# Written numbers

Two ways to write a double with its shortest digits.

* `Binary64.plain`: all digits in place, whole numbers without a point, however long; the greater
  of two decimals equally near.
* `Binary64.literal`: at least one digit after the point, and a power of ten for numbers from
  `1e+16` on and for those below `0.00001`; the even one of two decimals equally near.
-/

namespace HomeEntities.Decimal

/-- The digits of a number. -/
def digitChars (n : Nat) : List Char := Nat.toDigits 10 n

/-- The part of a decimal before its point and the part after it. -/
def Numeral.places (d : Numeral) : List Char × List Char :=
  let digits := digitChars d.digits
  if 0 ≤ d.exponent then (digits ++ List.replicate d.exponent.toNat '0', [])
  else
    let after := (-d.exponent).toNat
    let padded := List.replicate (after + 1 - digits.length) '0' ++ digits
    padded.splitAt (padded.length - after)

/-- The exponent of a decimal's first digit. -/
def Numeral.lead (d : Numeral) : Int := d.exponent + digitCount d.digits - 1

/-- A decimal with one digit before the point and a power of ten. -/
def Numeral.scientific (d : Numeral) : List Char :=
  let mantissa := match digitChars d.digits with
    | [] => []
    | [c] => [c]
    | c :: rest => c :: '.' :: rest
  let sign := if d.lead < 0 then '-' else '+'
  mantissa ++ 'e' :: sign :: digitChars d.lead.natAbs

/-- A decimal in place, with `.0` after a whole number. -/
def Numeral.pointed (d : Numeral) : List Char :=
  let (whole, fraction) := d.places
  whole ++ '.' :: (if fraction.isEmpty then ['0'] else fraction)

namespace Binary64

/-- Write a minus sign in front of a negative number's digits. -/
def signed (negative : Bool) (digits : List Char) : String :=
  String.ofList (if negative then '-' :: digits else digits)

/-- A number with all its digits in place. -/
def plain : Binary64 → String
  | nan => "NaN"
  | infinite negative => signed negative ['i', 'n', 'f']
  | finite negative units _ =>
    let (whole, fraction) := (shortest .away units).places
    signed negative (if fraction.isEmpty then whole else whole ++ '.' :: fraction)

/-- A finite number as a literal that is never taken for a whole number; other numbers are
`null`. -/
def literal : Binary64 → String
  | finite negative units _ =>
    let d := shortest .toEven units
    signed negative (if -5 ≤ d.lead ∧ d.lead ≤ 15 then d.pointed else d.scientific)
  | _ => "null"

end Binary64

end HomeEntities.Decimal
