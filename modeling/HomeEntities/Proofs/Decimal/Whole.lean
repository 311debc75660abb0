import HomeEntities.Decimal.Binary64
import Mathlib.Algebra.Group.Nat.Defs
import Mathlib.Data.Nat.Basic
import Mathlib.Tactic.Common

/-! # Whole numbers among doubles

The whole part of a double is a double (`isDouble_whole`), since it lies between the same powers of
two and is a multiple of the same spacing. So a double that is cut down to a whole number of 64 bits
and read again comes back with its fraction cut off, towards zero (`ofInt_toInt64`).

The `percent` of a number is what it comes to when it is held between 0 and 100, rounded and cut
down to 8 bits (`toByte_round_clamp`); a percentage comes back as it was (`percent_ofInt`). -/

namespace HomeEntities.Decimal

/-- Numbers are counted in units of a power of two, and the limit is much larger than one. -/
theorem one_eq_pow : ∃ k l, one = 2 ^ k ∧ limit = 2 ^ l ∧ 53 + k ≤ l := by
  unfold one limit
  generalize hk : 1074 = k
  generalize hl : 2098 = l
  exact ⟨k, l, rfl, rfl, by omega⟩

theorem one_pos : 0 < one := by
  obtain ⟨k, -, h, -⟩ := one_eq_pow
  rw [h]
  exact Nat.two_pow_pos k

/-! ### Spacings -/

theorem spacing_pos (n : Nat) : 0 < spacing n := Nat.two_pow_pos _

/-- Between two neighbouring multiples of a power of two the exponent does not change. -/
theorem log2_eq_add {t k n : Nat} (ht : t ≠ 0) (hle : t * 2 ^ k ≤ n) (hlt : n < (t + 1) * 2 ^ k) :
    n.log2 = t.log2 + k := by
  have hpos : 0 < t * 2 ^ k := Nat.mul_pos (Nat.pos_of_ne_zero ht) (Nat.two_pow_pos k)
  obtain ⟨hlow, hhigh⟩ := (Nat.log2_eq_iff ht).mp rfl
  refine (Nat.log2_eq_iff (by omega)).mpr ⟨?_, ?_⟩
  · rw [Nat.pow_add]
    exact le_trans (Nat.mul_le_mul_right _ hlow) hle
  · have hnext : (t + 1) * 2 ^ k ≤ 2 ^ (t.log2 + 1) * 2 ^ k := Nat.mul_le_mul_right _ hhigh
    rw [← Nat.pow_add] at hnext
    rw [Nat.add_right_comm]
    exact lt_of_lt_of_le hlt hnext

theorem spacing_whole {n : Nat} (h : n / one ≠ 0) : spacing (n / one * one) = spacing n := by
  have hle := Nat.div_mul_le_self n one
  have hlt : n < (n / one + 1) * one := Nat.lt_mul_of_div_lt (Nat.lt_succ_self _) one_pos
  have hself : n / one * one < (n / one + 1) * one :=
    Nat.mul_lt_mul_of_pos_right (Nat.lt_succ_self _) one_pos
  obtain ⟨k, -, hk, -⟩ := one_eq_pow
  rw [hk] at h hle hlt hself ⊢
  unfold spacing
  rw [log2_eq_add h hle hlt, log2_eq_add h (le_refl _) hself]

theorem spacing_dvd_one_or (n : Nat) : spacing n ∣ one ∨ one ∣ spacing n := by
  obtain ⟨k, -, hk, -⟩ := one_eq_pow
  rw [hk]
  rcases Nat.le_total (n.log2 - 52) k with h | h
  · exact Or.inl (Nat.pow_dvd_pow 2 h)
  · exact Or.inr (Nat.pow_dvd_pow 2 h)

/-- **The whole part of a double** is a double. -/
theorem isDouble_whole {n : Nat} (h : IsDouble n) : IsDouble (n / one * one) := by
  obtain ⟨hdvd, hlt⟩ := h
  refine ⟨?_, lt_of_le_of_lt (Nat.div_mul_le_self n one) hlt⟩
  by_cases ht : n / one = 0
  · rw [ht, Nat.zero_mul]; exact Nat.dvd_zero _
  rw [spacing_whole ht]
  rcases spacing_dvd_one_or n with hs | hs
  · exact Nat.dvd_mul_left_of_dvd hs _
  · rwa [Nat.div_mul_cancel (Nat.dvd_trans hs hdvd)]

/-- Numbers of at most 53 binary digits are doubles. -/
theorem isDouble_mul_one {m : Nat} (h : m < 2 ^ 53) : IsDouble (m * one) := by
  obtain ⟨k, l, hk, hl, hkl⟩ := one_eq_pow
  constructor
  · by_cases h0 : m = 0
    · rw [h0, Nat.zero_mul]; exact Nat.dvd_zero _
    have hself : m * 2 ^ k < (m + 1) * 2 ^ k :=
      Nat.mul_lt_mul_of_pos_right (Nat.lt_succ_self _) (Nat.two_pow_pos k)
    have hlog : m.log2 < 53 := (Nat.log2_lt h0).mpr h
    rw [hk]
    unfold spacing
    rw [log2_eq_add h0 (le_refl _) hself]
    exact Nat.dvd_mul_left_of_dvd (Nat.pow_dvd_pow 2 (by omega)) m
  · have hlt : m * 2 ^ k < 2 ^ 53 * 2 ^ k := Nat.mul_lt_mul_of_pos_right h (Nat.two_pow_pos k)
    rw [← Nat.pow_add] at hlt
    rw [hk, hl]
    exact lt_of_lt_of_le hlt (Nat.pow_le_pow_right (by decide) hkl)

/-! ### Numbers that need no rounding -/

theorem roundHalfEven_of_dvd {n d : Nat} (hd : 0 < d) (h : d ∣ n) : roundHalfEven n d = n / d := by
  unfold roundHalfEven
  simp only [Nat.mod_eq_zero_of_dvd h]
  rw [if_neg (by omega)]

theorem roundRatio_of_dvd {n : Nat} (h : spacing n ∣ n) : roundRatio n 1 = n := by
  unfold roundRatio
  simp only [Nat.div_one, Nat.one_mul]
  rw [roundHalfEven_of_dvd (spacing_pos n) h, Nat.div_mul_cancel h]

namespace Binary64

theorem ofInt_eq {i : Int} (h : IsDouble (i.natAbs * one)) :
    ofInt i = finite (decide (i < 0)) (i.natAbs * one) h := by
  have hround := roundRatio_of_dvd h.1
  unfold ofInt ofRatio
  simp only [hround]
  exact dif_pos h.2

/-- The number without its fraction. Zero has no sign. -/
def truncated : Binary64 → Binary64
  | finite negative units h =>
    finite (negative && units / one != 0) (units / one * one) (isDouble_whole h)
  | x => x

/-- The magnitude is below that of the least whole number of 64 bits. -/
def FitsInt64 : Binary64 → Prop
  | finite _ units _ => units < 2 ^ 63 * one
  | _ => False

theorem toInt64_of_fits {negative : Bool} {units : Nat} {hd : IsDouble units}
    (h : (finite negative units hd).FitsInt64) :
    (finite negative units hd).toInt64 = signedUnits negative (units / one) := by
  have ht : units / one < 2 ^ 63 := (Nat.div_lt_iff_lt_mul one_pos).mpr h
  show max minInt64 (min maxInt64 (signedUnits negative (units / one))) = _
  generalize units / one = t at ht
  unfold minInt64 maxInt64 signedUnits
  cases negative <;> simp only [Bool.false_eq_true, if_false, if_true] <;> omega

/-- **A number cut down to 64 bits** is read again without its fraction. -/
theorem ofInt_toInt64 {x : Binary64} (h : x.FitsInt64) : ofInt x.toInt64 = x.truncated := by
  cases x with
  | nan | infinite => cases h
  | finite negative units hd =>
    have habs : ∀ t, (signedUnits negative t).natAbs = t := by
      intro t
      unfold signedUnits
      split <;> omega
    have hsign : ∀ t, decide (signedUnits negative t < 0) = (negative && t != 0) := by
      intro t
      cases negative with
      | false => exact decide_eq_false (by unfold signedUnits; simp)
      | true => by_cases h0 : t = 0 <;> simp [signedUnits, h0, Nat.pos_iff_ne_zero]
    rw [toInt64_of_fits h, ofInt_eq (by rw [habs]; exact isDouble_whole hd)]
    simp only [habs, hsign, truncated]

/-! ### Percentages -/

/-- The nearest whole number from 0 to 100, a half away from zero. -/
def percent : Binary64 → Nat
  | nan => 0
  | infinite negative => if negative then 0 else 100
  | finite negative units _ =>
    if negative then 0 else min 100 ((2 * units + one) / (2 * one))

theorem ofInt_natCast {m : Nat} (h : m < 2 ^ 53) :
    ofInt m = finite false (m * one) (isDouble_mul_one h) := by
  have hd : IsDouble ((m : Int).natAbs * one) := isDouble_mul_one h
  have hnn : decide ((m : Int) < 0) = false := decide_eq_false (by omega)
  rw [ofInt_eq hd]
  simp only [hnn, Int.natAbs_natCast]

/-- **A percentage** is read again as it was. -/
theorem percent_ofInt {b : Nat} (h : b ≤ 100) : (ofInt b).percent = b := by
  have hone := one_pos
  have hdiv : (2 * (b * one) + one) / (2 * one) = b := by
    refine Nat.div_eq_of_lt_le ?_ ?_
    · rw [Nat.mul_left_comm]; omega
    · rw [Nat.add_mul, Nat.mul_left_comm]; omega
  rw [ofInt_natCast (by omega)]
  simp only [percent, hdiv, Bool.false_eq_true, if_false]
  exact Nat.min_eq_right h

theorem percent_le (x : Binary64) : x.percent ≤ 100 := by
  unfold percent
  split
  · exact Nat.zero_le 100
  · split <;> decide
  · split
    · exact Nat.zero_le 100
    · exact Nat.min_le_left 100 _

theorem percent_of_below {negative : Bool} {units : Nat} {hd : IsDouble units}
    (h : signedUnits negative units < 0) : (finite negative units hd).percent = 0 := by
  cases negative with
  | true => rfl
  | false => simp only [signedUnits, Bool.false_eq_true, if_false] at h; omega

theorem percent_of_above {negative : Bool} {units : Nat} {hd : IsDouble units}
    (h : ((100 * one : Nat) : Int) < signedUnits negative units) :
    (finite negative units hd).percent = 100 := by
  have hone := one_pos
  cases negative with
  | true => simp only [signedUnits, if_true] at h; omega
  | false =>
    simp only [signedUnits, Bool.false_eq_true, if_false] at h
    have hle : 100 ≤ (2 * units + one) / (2 * one) :=
      (Nat.le_div_iff_mul_le (by omega)).mpr (by omega)
    rw [percent, if_neg Bool.false_ne_true, Nat.min_eq_left hle]

theorem toByte_ofRatio {negative : Bool} {q : Nat} (h : q ≤ 100) :
    (ofRatio negative q 1).toByte = if negative then 0 else q := by
  have hq : IsDouble (q * one) := isDouble_mul_one (by omega)
  have hround : ofRatio negative q 1 = finite negative (q * one) hq := by
    have hexact := roundRatio_of_dvd hq.1
    unfold ofRatio
    simp only [hexact]
    exact dif_pos hq.2
  rw [hround]
  simp only [toByte, Nat.mul_div_cancel q one_pos]
  rw [Nat.min_eq_right (by omega)]

/-- Within the bounds of a percentage rounding is all there is to do. -/
theorem toByte_round {negative : Bool} {units : Nat} {hd : IsDouble units}
    (h : units ≤ 100 * one) : (finite negative units hd).round.toByte =
      (finite negative units hd).percent := by
  have hone := one_pos
  have hle : (2 * units + one) / (2 * one) ≤ 100 := by
    refine Nat.lt_succ_iff.mp ((Nat.div_lt_iff_lt_mul (by omega)).mpr ?_)
    omega
  show (ofRatio negative ((2 * units + one) / (2 * one)) 1).toByte = _
  rw [toByte_ofRatio hle, percent, Nat.min_eq_right hle]

theorem lt_finite {s t : Bool} {m n : Nat} {hm : IsDouble m} {hn : IsDouble n} :
    (finite s m hm).lt (finite t n hn) = decide (signedUnits s m < signedUnits t n) := by
  rw [Bool.eq_iff_iff]
  simp only [lt, le, Bool.and_eq_true, Bool.not_eq_true', decide_eq_true_eq,
    decide_eq_false_iff_not]
  omega

theorem lt_zero_eq_false {bound : Nat} {hhigh : IsDouble bound} {hlow : IsDouble 0} :
    (finite false bound hhigh).lt (finite false 0 hlow) = false := by
  rw [lt_finite]
  simp [signedUnits]

theorem clamp_infinite {negative : Bool} {bound : Nat} (hlow : IsDouble 0)
    (hhigh : IsDouble bound) :
    (infinite negative).clamp (finite false 0 hlow) (finite false bound hhigh) =
      if negative then finite false 0 hlow else finite false bound hhigh := by
  cases negative with
  | true =>
    show (if (finite false bound hhigh).lt (finite false 0 hlow) then _ else _) = _
    rw [lt_zero_eq_false]
    rfl
  | false => rfl

theorem clamp_finite {negative : Bool} {units bound : Nat} (hd : IsDouble units)
    (hlow : IsDouble 0) (hhigh : IsDouble bound) :
    (finite negative units hd).clamp (finite false 0 hlow) (finite false bound hhigh) =
      if signedUnits negative units < 0 then finite false 0 hlow
      else if (bound : Int) < signedUnits negative units then finite false bound hhigh
      else finite negative units hd := by
  have hbelow : (finite negative units hd).lt (finite false 0 hlow) =
      decide (signedUnits negative units < 0) := lt_finite
  have habove : (finite false bound hhigh).lt (finite negative units hd) =
      decide ((bound : Int) < signedUnits negative units) := lt_finite
  unfold clamp
  by_cases h : signedUnits negative units < 0
  · simp [hbelow, lt_zero_eq_false, h]
  · simp [hbelow, habove, h]

theorem toByte_round_ofInt {m : Nat} (h : m ≤ 100) : (ofInt m).round.toByte = m := by
  rw [ofInt_natCast (by omega), toByte_round (Nat.mul_le_mul_right one h),
    ← ofInt_natCast (by omega), percent_ofInt h]

/-- **Held between 0 and 100, then rounded**, any number is at its percentage. -/
theorem toByte_round_clamp (x : Binary64) :
    (x.clamp (ofInt 0) (ofInt 100)).round.toByte = x.percent := by
  have hlow := ofInt_natCast (m := 0) (by omega)
  have hhigh := ofInt_natCast (m := 100) (by omega)
  have hround_low := toByte_round_ofInt (m := 0) (by omega)
  have hround_high := toByte_round_ofInt (m := 100) (by omega)
  simp only [Int.cast_ofNat_Int, Nat.zero_mul] at hlow hhigh hround_low hround_high
  rw [hlow] at hround_low
  rw [hhigh] at hround_high
  rw [hlow, hhigh]
  cases x with
  | nan => rfl
  | infinite negative =>
    rw [clamp_infinite]
    cases negative with
    | true => exact hround_low
    | false => exact hround_high
  | finite negative units hd =>
    rw [clamp_finite]
    split_ifs with hbelow habove
    · rw [hround_low, percent_of_below hbelow]
    · rw [hround_high, percent_of_above habove]
    · refine toByte_round ?_
      cases negative with
      | true => simp only [signedUnits, if_true] at hbelow; omega
      | false => simp only [signedUnits, Bool.false_eq_true, if_false] at habove; omega

end Binary64

end HomeEntities.Decimal
