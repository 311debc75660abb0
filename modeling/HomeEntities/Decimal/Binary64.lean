/-!
# Double-precision numbers

A finite double is a whole number of *units* of `2 ^ -1074`, the least positive double, together
with a sign. Near a magnitude of `n` units the doubles are the multiples of `spacing n`, so that
they carry 53 binary digits.

* `roundRatio`: the double nearest to a quotient, ties to the even significand; the result is
  always a double or too large (`spacing_dvd_roundRatio`).
* `Binary64`: doubles with infinities and not-a-number, compared by value.
* `Binary64.clamp`, `Binary64.round`: a number held between bounds, and the nearest whole number.
* `Binary64.toInt64`, `Binary64.toByte`: the whole part, held within 64 signed bits or 8 bits.
-/

namespace HomeEntities.Decimal

/-- The number one in units. -/
def one : Nat := Nat.pow 2 1074

/-- The least magnitude in units that is too large for a double. -/
def limit : Nat := Nat.pow 2 2098

/-- The distance in units between the doubles near a magnitude of `n` units. -/
def spacing (n : Nat) : Nat := Nat.pow 2 (n.log2 - 52)

/-- Whether a magnitude in units is that of a finite double. -/
def IsDouble (n : Nat) : Prop := spacing n ∣ n ∧ n < limit

instance (n : Nat) : Decidable (IsDouble n) := inferInstanceAs (Decidable (_ ∧ _))

/-- A quotient rounded to the nearest whole number, a half to the even neighbour. -/
def roundHalfEven (n d : Nat) : Nat :=
  let q := n / d
  let r := n % d
  if d < 2 * r ∨ (2 * r = d ∧ q % 2 = 1) then q + 1 else q

/-- The multiple of the spacing nearest to the quotient `n / d` in units. -/
def roundRatio (n d : Nat) : Nat :=
  let s := spacing (n / d)
  roundHalfEven n (d * s) * s

theorem roundHalfEven_le (n d : Nat) : roundHalfEven n d ≤ n / d + 1 := by
  unfold roundHalfEven
  dsimp only
  split <;> omega

theorem spacing_dvd_roundRatio (n d : Nat) : spacing (roundRatio n d) ∣ roundRatio n d := by
  have hk : ∃ k, spacing (n / d) = 2 ^ k ∧ (n / d).log2 ≤ 52 + k := ⟨_, rfl, by omega⟩
  obtain ⟨k, hs, hlog⟩ := hk
  have hround : roundRatio n d = roundHalfEven n (d * 2 ^ k) * 2 ^ k := by
    unfold roundRatio; rw [hs]
  rw [hround]
  generalize hq : roundHalfEven n (d * 2 ^ k) = q
  have hq_le : q ≤ 2 ^ 53 := by
    have h1 := roundHalfEven_le n (d * 2 ^ k)
    rw [hq, ← Nat.div_div_eq_div_mul] at h1
    have h2 : n / d < 2 ^ (53 + k) := by
      by_cases h0 : n / d = 0
      · rw [h0]; exact Nat.two_pow_pos _
      · exact (Nat.log2_lt h0).1 (by omega)
    have h3 : n / d / 2 ^ k < 2 ^ 53 := by
      rw [Nat.div_lt_iff_lt_mul (Nat.two_pow_pos k), ← Nat.pow_add]
      exact h2
    omega
  by_cases h0 : q * 2 ^ k = 0
  · rw [h0]; exact Nat.dvd_zero _
  rcases Nat.lt_or_eq_of_le hq_le with hlt | heq
  · have hlt' : q * 2 ^ k < 2 ^ (53 + k) := by
      rw [Nat.pow_add]; exact Nat.mul_lt_mul_of_pos_right hlt (Nat.two_pow_pos k)
    have hlog' := (Nat.log2_lt h0).2 hlt'
    exact Nat.dvd_trans (Nat.pow_dvd_pow 2 (by omega)) (Nat.dvd_mul_left _ _)
  · subst heq
    rw [← Nat.pow_add] at *
    unfold spacing
    rw [Nat.log2_two_pow]
    exact Nat.pow_dvd_pow 2 (by omega)

/-- A double-precision number. -/
inductive Binary64 where
  | nan
  | infinite (negative : Bool)
  | finite (negative : Bool) (units : Nat) (isDouble : IsDouble units)
deriving DecidableEq

namespace Binary64

/-- The double nearest to the quotient of two whole numbers, infinite if that is too large. -/
def ofRatio (negative : Bool) (num den : Nat) : Binary64 :=
  let units := roundRatio (num * one) den
  if h : units < limit then finite negative units ⟨spacing_dvd_roundRatio _ _, h⟩
  else infinite negative

/-- The double nearest to a whole number. -/
def ofInt (i : Int) : Binary64 := ofRatio (decide (i < 0)) i.natAbs 1

def isFinite : Binary64 → Bool
  | finite .. => true
  | _ => false

def isZero : Binary64 → Bool
  | finite _ units _ => units == 0
  | _ => false

def neg : Binary64 → Binary64
  | nan => nan
  | infinite negative => infinite (!negative)
  | finite negative units h => finite (!negative) units h

/-- A finite double as a whole number of units. -/
def signedUnits (negative : Bool) (units : Nat) : Int := if negative then -units else units

/-- Comparison by value; not-a-number compares with nothing. -/
def le : Binary64 → Binary64 → Bool
  | nan, _ => false
  | _, nan => false
  | infinite true, _ => true
  | _, infinite false => true
  | infinite false, _ => false
  | _, infinite true => false
  | finite s m _, finite t n _ => signedUnits s m ≤ signedUnits t n

/-- Whether a number is less than another by value. -/
def lt (x y : Binary64) : Bool := x.le y && !y.le x

/-- A number held between two bounds; not-a-number stays. -/
def clamp (x low high : Binary64) : Binary64 :=
  let x := if x.lt low then low else x
  if high.lt x then high else x

/-- The nearest whole number, a half away from zero. -/
def round : Binary64 → Binary64
  | finite negative units _ => ofRatio negative ((2 * units + one) / (2 * one)) 1
  | x => x

/-- The product of two magnitudes, rounded. -/
def scaleUp (x : Binary64) (y : Nat) : Binary64 :=
  match x with
  | finite negative units _ => ofRatio negative (units * y) (one * one)
  | x => x

/-- The quotient of two magnitudes, rounded. -/
def scaleDown (x : Binary64) (y : Nat) : Binary64 :=
  match x with
  | finite negative units _ => ofRatio negative units y
  | x => x

/-- The least whole number of 64 signed bits. -/
def minInt64 : Int := -9223372036854775808

/-- The greatest whole number of 64 signed bits. -/
def maxInt64 : Int := 9223372036854775807

/-- The whole part of a number, held within 64 signed bits. -/
def toInt64 : Binary64 → Int
  | nan => 0
  | infinite true => minInt64
  | infinite false => maxInt64
  | finite negative units _ =>
    max minInt64 (min maxInt64 (signedUnits negative (units / one)))

/-- The whole part of a number, held within 8 bits without a sign. -/
def toByte : Binary64 → Nat
  | nan => 0
  | infinite negative => if negative then 0 else 255
  | finite negative units _ => if negative then 0 else min 255 (units / one)

end Binary64

end HomeEntities.Decimal
