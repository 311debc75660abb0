import HomeEntities.Proofs.Decimal.Whole

/-! # The order of whole parts

Cutting doubles down to whole numbers of 64 bits keeps their order (`toInt64_mono`). A double is at
most its own whole part if it is not positive or a whole number of 64 bits itself
(`atMost_toInt64_iff`), and at least its own whole part if it is not negative or such a number
(`atLeast_toInt64_iff`). Comparisons with whole numbers are exact here (`AtMost`, `AtLeast`), since
a whole number need not be a double. -/

namespace HomeEntities.Decimal

namespace Binary64

/-! ### Comparisons with whole numbers -/

/-- The number is at most a whole number. -/
def AtMost (i : Int) : Binary64 → Prop
  | nan => False
  | infinite negative => negative = true
  | finite negative units _ => signedUnits negative units ≤ i * one

/-- The number is at least a whole number. -/
def AtLeast (i : Int) : Binary64 → Prop
  | nan => False
  | infinite negative => negative = false
  | finite negative units _ => i * one ≤ signedUnits negative units

instance (i : Int) : DecidablePred (AtMost i)
  | nan => instDecidableFalse
  | infinite negative => inferInstanceAs (Decidable (negative = true))
  | finite .. => inferInstanceAs (Decidable (_ ≤ _))

instance (i : Int) : DecidablePred (AtLeast i)
  | nan => instDecidableFalse
  | infinite negative => inferInstanceAs (Decidable (negative = false))
  | finite .. => inferInstanceAs (Decidable (_ ≤ _))

/-- The number is a whole number of 64 signed bits. -/
def IsInt64 (x : Binary64) : Prop :=
  ∃ i : Int, minInt64 ≤ i ∧ i ≤ maxInt64 ∧ x.AtMost i ∧ x.AtLeast i

theorem AtMost.trans {x : Binary64} {i j : Int} (h : x.AtMost i) (hij : i ≤ j) : x.AtMost j := by
  cases x with
  | nan => exact h
  | infinite => exact h
  | finite negative units hd =>
    exact Int.le_trans h (Int.mul_le_mul_of_nonneg_right hij (Int.natCast_nonneg one))

theorem AtLeast.trans {x : Binary64} {i j : Int} (h : x.AtLeast i) (hji : j ≤ i) :
    x.AtLeast j := by
  cases x with
  | nan => exact h
  | infinite => exact h
  | finite negative units hd =>
    exact Int.le_trans (Int.mul_le_mul_of_nonneg_right hji (Int.natCast_nonneg one)) h

theorem atMost_or_atLeast_zero {x : Binary64} (h : x ≠ nan) : x.AtMost 0 ∨ x.AtLeast 0 := by
  cases x with
  | nan => exact absurd rfl h
  | infinite negative => cases negative <;> simp [AtMost, AtLeast]
  | finite negative units hd =>
    simp only [AtMost, AtLeast, Int.zero_mul]
    exact Int.le_total _ _

/-! ### Whole parts -/

theorem minInt64_le_toInt64 (x : Binary64) : minInt64 ≤ x.toInt64 := by
  unfold toInt64
  split
  · decide
  · exact Int.le_refl _
  · decide
  · exact Int.le_max_left _ _

theorem toInt64_le_maxInt64 (x : Binary64) : x.toInt64 ≤ maxInt64 := by
  have hle : minInt64 ≤ maxInt64 := by decide
  unfold toInt64
  split
  · decide
  · exact hle
  · exact Int.le_refl _
  · exact Int.max_le.mpr ⟨hle, Int.min_le_left _ _⟩

theorem signedUnits_div_mono {s t : Bool} {a b : Nat} (h : signedUnits s a ≤ signedUnits t b) :
    signedUnits s (a / one) ≤ signedUnits t (b / one) := by
  unfold signedUnits at *
  cases s <;> cases t <;> simp only [Bool.false_eq_true, if_false, if_true] at *
  · have hdiv := @Nat.div_le_div_right a b one (Int.ofNat_le.mp h)
    omega
  · have ha : a = 0 := by omega
    have hb : b = 0 := by omega
    rw [ha, hb, Nat.zero_div]
    decide
  · generalize a / one = p
    generalize b / one = q
    omega
  · have hba : b ≤ a := by omega
    have hdiv := @Nat.div_le_div_right b a one hba
    omega

/-- **Whole parts keep the order.** -/
theorem toInt64_mono {x y : Binary64} (h : x.le y = true) : x.toInt64 ≤ y.toInt64 := by
  cases x with
  | nan => cases h
  | infinite negative =>
    cases negative with
    | true => exact minInt64_le_toInt64 y
    | false =>
      cases y with
      | infinite negative => cases negative with
        | true => cases h
        | false => exact Int.le_refl _
      | _ => cases h
  | finite s a ha =>
    cases y with
    | nan => cases h
    | infinite negative => cases negative with
      | true => cases h
      | false => exact toInt64_le_maxInt64 _
    | finite t b hb =>
      have hdiv := signedUnits_div_mono (of_decide_eq_true h)
      simp only [toInt64]
      omega

theorem atMost_toInt64_of_nonpos {x : Binary64} (h : x.AtMost 0) : x.AtMost x.toInt64 := by
  cases x with
  | nan => exact h
  | infinite => exact h
  | finite negative units hd =>
    have hle := Nat.div_mul_le_self units one
    have hwhole : signedUnits negative (units / one) ≤ 0 ∧
        signedUnits negative units ≤ signedUnits negative (units / one) * one := by
      simp only [AtMost, Int.zero_mul] at h
      unfold signedUnits at *
      cases negative with
      | false =>
        have hu : units = 0 := by simpa using h
        simp only [hu, Nat.zero_div, Bool.false_eq_true, if_false, Int.natCast_zero, Int.zero_mul,
          Int.le_refl, and_self]
      | true =>
        simp only [if_true]
        rw [Int.neg_mul, ← Int.natCast_mul]
        exact ⟨Int.neg_nonpos_of_nonneg (Int.natCast_nonneg _), by omega⟩
    have hclamp : signedUnits negative (units / one) ≤ (finite negative units hd).toInt64 := by
      have hmax : (0 : Int) ≤ maxInt64 := by decide
      simp only [toInt64]
      omega
    exact Int.le_trans hwhole.2
      (Int.mul_le_mul_of_nonneg_right hclamp (Int.natCast_nonneg one))

theorem atLeast_toInt64_of_nonneg {x : Binary64} (h : x.AtLeast 0) : x.AtLeast x.toInt64 := by
  cases x with
  | nan => exact h
  | infinite => exact h
  | finite negative units hd =>
    have hle := Nat.div_mul_le_self units one
    have hwhole : 0 ≤ signedUnits negative (units / one) ∧
        signedUnits negative (units / one) * one ≤ signedUnits negative units := by
      simp only [AtLeast, Int.zero_mul] at h
      unfold signedUnits at *
      cases negative with
      | true =>
        have hu : units = 0 := by simpa using h
        simp only [hu, Nat.zero_div, if_true, Int.natCast_zero, Int.neg_zero, Int.zero_mul,
          Int.le_refl, and_self]
      | false =>
        simp only [Bool.false_eq_true, if_false]
        rw [← Int.natCast_mul]
        exact ⟨Int.natCast_nonneg _, Int.ofNat_le.mpr hle⟩
    have hclamp : (finite negative units hd).toInt64 ≤ signedUnits negative (units / one) := by
      have hmin : minInt64 ≤ 0 := by decide
      simp only [toInt64]
      omega
    exact Int.le_trans (Int.mul_le_mul_of_nonneg_right hclamp (Int.natCast_nonneg one)) hwhole.2

theorem toInt64_eq {x : Binary64} {i : Int} (hmin : minInt64 ≤ i) (hmax : i ≤ maxInt64)
    (hle : x.AtMost i) (hge : x.AtLeast i) : x.toInt64 = i := by
  cases x with
  | nan => cases hle
  | infinite negative => cases hle.symm.trans hge
  | finite negative units hd =>
    have heq : signedUnits negative units = i * one := Int.le_antisymm hle hge
    have hone : (one : Int) ≠ 0 := Int.natCast_ne_zero.mpr (Nat.pos_iff_ne_zero.mp one_pos)
    have hwhole : signedUnits negative (units / one) = i := by
      unfold signedUnits at *
      cases negative with
      | false =>
        simp only [Bool.false_eq_true, if_false] at *
        rw [Int.natCast_ediv, heq]
        exact Int.mul_ediv_cancel i hone
      | true =>
        simp only [if_true] at *
        have hneg : (units : Int) = -i * one := by rw [Int.neg_mul, ← heq, Int.neg_neg]
        rw [Int.natCast_ediv, hneg,
          Int.mul_ediv_cancel (-i) hone, Int.neg_neg]
    simp only [toInt64, hwhole]
    omega

/-- **Which lower bounds** contain their whole parts. -/
theorem atMost_toInt64_iff (x : Binary64) : x.AtMost x.toInt64 ↔ x.AtMost 0 ∨ x.IsInt64 := by
  constructor
  · intro h
    have hnan : x ≠ nan := by rintro rfl; exact h
    rcases atMost_or_atLeast_zero hnan with hneg | hpos
    · exact Or.inl hneg
    · exact Or.inr ⟨x.toInt64, x.minInt64_le_toInt64, x.toInt64_le_maxInt64, h,
        atLeast_toInt64_of_nonneg hpos⟩
  · rintro (h | ⟨i, hmin, hmax, hle, hge⟩)
    · exact atMost_toInt64_of_nonpos h
    · rw [toInt64_eq hmin hmax hle hge]
      exact hle

/-- **Which upper bounds** contain their whole parts. -/
theorem atLeast_toInt64_iff (x : Binary64) : x.AtLeast x.toInt64 ↔ x.AtLeast 0 ∨ x.IsInt64 := by
  constructor
  · intro h
    have hnan : x ≠ nan := by rintro rfl; exact h
    rcases atMost_or_atLeast_zero hnan with hneg | hpos
    · exact Or.inr ⟨x.toInt64, x.minInt64_le_toInt64, x.toInt64_le_maxInt64,
        atMost_toInt64_of_nonpos hneg, h⟩
    · exact Or.inl hpos
  · rintro (h | ⟨i, hmin, hmax, hle, hge⟩)
    · exact atLeast_toInt64_of_nonneg h
    · rw [toInt64_eq hmin hmax hle hge]
      exact hge

/-! ### Bounds -/

theorem le_trans {x y z : Binary64} (h : x.le y = true) (h' : y.le z = true) : x.le z = true := by
  cases x with
  | nan => cases h
  | infinite s =>
    cases s with
    | true => cases z with
      | nan => cases y <;> cases h'
      | _ => rfl
    | false =>
      cases y with
      | infinite t => cases t with
        | true => cases h
        | false => exact h'
      | _ => cases h
  | finite s a ha =>
    cases y with
    | nan => cases h
    | infinite t => cases t with
      | true => cases h
      | false => cases z with
        | infinite u => cases u with
          | true => cases h'
          | false => rfl
        | _ => cases h'
    | finite t b hb =>
      cases z with
      | nan => cases h'
      | infinite u => cases u with
        | true => cases h'
        | false => rfl
      | finite u c hc =>
        exact decide_eq_true (Int.le_trans (of_decide_eq_true h) (of_decide_eq_true h'))

theorem le_refl_of_isFinite {x : Binary64} (h : x.isFinite = true) : x.le x = true := by
  cases x with
  | nan | infinite => cases h
  | finite negative units hd => exact decide_eq_true (Int.le_refl _)

/-- What lies below a finite number is finite, or less than all of them. -/
theorem isFinite_or_of_le {m x : Binary64} (hx : x.isFinite = true) (h : m.le x = true) :
    m.isFinite = true ∨ m = infinite true := by
  cases m with
  | nan => cases h
  | infinite negative => cases negative with
    | true => exact Or.inr rfl
    | false => cases x with
      | finite => cases h
      | _ => cases hx
  | finite => exact Or.inl rfl

theorem isFinite_or_of_ge {m x : Binary64} (hx : x.isFinite = true) (h : x.le m = true) :
    m.isFinite = true ∨ m = infinite false := by
  cases x with
  | nan | infinite => cases hx
  | finite => cases m with
    | nan => cases h
    | infinite negative => cases negative with
      | true => cases h
      | false => exact Or.inr rfl
    | finite => exact Or.inl rfl

end Binary64

end HomeEntities.Decimal
