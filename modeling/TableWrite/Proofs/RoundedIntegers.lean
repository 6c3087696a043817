import TableWrite.Value

set_option autoImplicit false

namespace TableWrite

theorem twoTo_add (m n : Nat) : twoTo (m + n) = twoTo m * twoTo n := Nat.pow_add 2 m n

theorem twoTo_mul_twoTo {m n k : Nat} (sum : m + n = k) : twoTo m * twoTo n = twoTo k := by
  rw [← sum, twoTo_add]

theorem twoTo_dvd_twoTo {m n : Nat} (le : m ≤ n) : twoTo m ∣ twoTo n := Nat.pow_dvd_pow 2 le

theorem twoTo_le_twoTo {m n : Nat} (le : m ≤ n) : twoTo m ≤ twoTo n :=
  Nat.pow_le_pow_right (by decide) le

theorem le_log2_iff {m n : Nat} (nonzero : n ≠ 0) : m ≤ n.log2 ↔ twoTo m ≤ n :=
  Nat.le_log2 nonzero

theorem log2_lt_iff {m n : Nat} (nonzero : n ≠ 0) : n.log2 < m ↔ n < twoTo m :=
  Nat.log2_lt nonzero

namespace Double

/-- Is the double finite, and of this sign and magnitude? -/
structure Holds (x : Double) (negative : Bool) (magnitude : Nat) : Prop where
  finite : x.isFinite = true
  sign : x.isNegative = negative
  units : x.units = magnitude

theorem Holds.signedUnits {x : Double} {negative : Bool} {magnitude : Nat}
    (holds : x.Holds negative magnitude) :
    x.signedUnits = if negative then -(magnitude : Int) else magnitude := by
  rw [Double.signedUnits, holds.sign, holds.units]

/-- Do the bits of a double hold the magnitude `significand * 2 ^ shift`? Only the least shift has
significands of less than 53 bits. -/
structure Fits (shift significand : Nat) : Prop where
  short : significand < twoTo 53
  full : shift = 0 ∨ twoTo 52 ≤ significand
  bounded : shift ≤ 2045

section Fitting

variable {shift significand : Nat}

theorem Fits.shift_eq (fits : Fits shift significand) :
    (significand * twoTo shift).log2 - 52 = shift := by
  have step := twoTo_pos shift
  have upper : significand * twoTo shift < twoTo (53 + shift) := by
    rw [twoTo_add]
    exact Nat.mul_lt_mul_of_pos_right fits.short step
  by_cases zero : significand * twoTo shift = 0
  · have none : significand = 0 := by
      rcases Nat.mul_eq_zero.mp zero with none | none
      · exact none
      · omega
    rcases fits.full with rfl | full
    · rw [zero]
      rfl
    · have := twoTo_pos 52
      omega
  · have high := (log2_lt_iff zero).mpr upper
    rcases fits.full with rfl | full
    · omega
    · have lower : twoTo (52 + shift) ≤ significand * twoTo shift := by
        rw [twoTo_add]
        exact Nat.mul_le_mul_right _ full
      have low := (le_log2_iff zero).mpr lower
      omega

theorem Fits.bits_ofUnits (fits : Fits shift significand) (negative : Bool) :
    (ofUnits negative (significand * twoTo shift)).bits.toNat =
      signBits negative + (shift * twoTo 52 + significand) := by
  have short := fits.short
  have bounded := fits.bounded
  have lowPart : twoTo 52 = 4503599627370496 := rfl
  have significands : twoTo 53 = 9007199254740992 := rfl
  have signs : signBits negative ≤ 9223372036854775808 := by cases negative <;> decide
  have below : shift * twoTo 52 + significand ≤ 2047 * twoTo 52 := by
    rw [lowPart]
    omega
  unfold ofUnits
  simp only [fits.shift_eq, Nat.mul_div_cancel _ (twoTo_pos shift), Nat.min_eq_left below]
  rw [UInt64.toNat_ofNat']
  apply Nat.mod_eq_of_lt
  rw [lowPart]
  omega

/-- A magnitude that fits into a double is held by it. -/
theorem Fits.holds_ofUnits (fits : Fits shift significand) (negative : Bool) :
    (ofUnits negative (significand * twoTo shift)).Holds negative (significand * twoTo shift) := by
  have bits := fits.bits_ofUnits negative
  have short := fits.short
  have full := fits.full
  have bounded := fits.bounded
  have lowPart : twoTo 52 = 4503599627370496 := rfl
  have significands : twoTo 53 = 9007199254740992 := rfl
  have exponents : twoTo 11 = 2048 := rfl
  have signPart : twoTo 63 = 9223372036854775808 := rfl
  rw [lowPart] at bits full
  rw [significands] at short
  generalize ofUnits negative (significand * twoTo shift) = x at bits
  have fields : x.fraction = significand % 4503599627370496 ∧
      x.exponentField = shift + significand / 4503599627370496 ∧ x.isNegative = negative := by
    unfold Double.fraction exponentField isNegative
    rw [lowPart, exponents, signPart]
    cases negative with
    | false =>
        have none : signBits false = 0 := rfl
        rw [none] at bits
        refine ⟨by omega, by omega, ?_⟩
        rw [decide_eq_false_iff_not]
        omega
    | true =>
        have set : signBits true = 9223372036854775808 := rfl
        rw [set] at bits
        refine ⟨by omega, by omega, ?_⟩
        rw [decide_eq_true_eq]
        omega
  obtain ⟨fraction, exponent, sign⟩ := fields
  refine ⟨?_, sign, ?_⟩
  · unfold isFinite
    rw [decide_eq_true_eq, exponent]
    omega
  · unfold units
    split
    · rename_i least
      have unshifted : shift = 0 := by omega
      have one : twoTo 0 = 1 := rfl
      rw [fraction, unshifted, one]
      omega
    · rename_i higher
      have whole : twoTo 52 + x.fraction = significand := by
        rw [lowPart, fraction]
        omega
      have shifted : x.exponentField - 1 = shift := by omega
      rw [whole, shifted]

end Fitting

theorem roundHalfEven_cases (num den : Nat) :
    roundHalfEven num den = num / den ∨ roundHalfEven num den = num / den + 1 := by
  unfold roundHalfEven
  dsimp only
  split
  · exact .inl rfl
  · exact .inr rfl

theorem roundHalfEven_of_dvd {num den : Nat} (positive : 0 < den) (divides : den ∣ num) :
    roundHalfEven num den = num / den := by
  have rest := Nat.mod_eq_zero_of_dvd divides
  unfold roundHalfEven
  simp only [rest, Nat.mul_zero, positive, decide_true, Bool.true_or, ↓reduceIte]

/-- The distance between the doubles around `num / den` units. -/
def roundingStep (num den : Nat) : Nat := twoTo ((num / den).log2 - 52)

theorem roundingStep_pos (num den : Nat) : 0 < roundingStep num den := twoTo_pos _

/-- A rounded magnitude is a multiple of the distance between doubles, and fits into one. -/
theorem holds_roundUnits (negative : Bool) {num den : Nat} (bounded : (num / den).log2 ≤ 2096) :
    (roundUnits negative num den).Holds negative
      (roundHalfEven num (den * roundingStep num den) * roundingStep num den) := by
  have step := roundingStep_pos num den
  have significands : twoTo 53 = 2 * twoTo 52 := rfl
  have cut : num / (den * roundingStep num den) = num / den / roundingStep num den :=
    (Nat.div_div_eq_div_mul _ _ _).symm
  have short : num / den / roundingStep num den < twoTo 53 := by
    by_cases zero : num / den = 0
    · rw [zero, Nat.zero_div]
      exact twoTo_pos 53
    · rw [Nat.div_lt_iff_lt_mul step, roundingStep, ← twoTo_add]
      exact (log2_lt_iff zero).mp (by omega)
  have full : (num / den).log2 - 52 = 0 ∨ twoTo 52 ≤ num / den / roundingStep num den := by
    by_cases small : (num / den).log2 ≤ 52
    · exact .inl (by omega)
    · right
      have nonzero : num / den ≠ 0 := by
        intro zero
        rw [zero] at small
        exact small (Nat.zero_le 52)
      rw [Nat.le_div_iff_mul_le step, roundingStep, ← twoTo_add]
      exact (le_log2_iff nonzero).mp (by omega)
  have rounded := roundHalfEven_cases num (den * roundingStep num den)
  rw [cut] at rounded
  change (ofUnits negative
    (roundHalfEven num (den * roundingStep num den) * roundingStep num den)).Holds _ _
  generalize roundHalfEven num (den * roundingStep num den) = significand at rounded
  by_cases carried : significand = twoTo 53
  · -- One bit too many, and so half as many steps that are twice as wide.
    have wider : significand * roundingStep num den =
        twoTo 52 * twoTo ((num / den).log2 - 52 + 1) := by
      have double : twoTo ((num / den).log2 - 52 + 1) = 2 * roundingStep num den := Nat.pow_succ'
      rw [carried, significands, double, Nat.mul_comm 2, Nat.mul_assoc]
    rw [wider]
    have positive := twoTo_pos 52
    exact Fits.holds_ofUnits ⟨by omega, .inr (Nat.le_refl _), by omega⟩ negative
  · exact Fits.holds_ofUnits ⟨by omega, by omega, by omega⟩ negative

/-- The magnitude of the double nearest to an integer of this magnitude. -/
def roundedWhole (n : Nat) : Nat :=
  roundHalfEven (n * unitsPerOne) (1 * roundingStep (n * unitsPerOne) 1) *
    roundingStep (n * unitsPerOne) 1

theorem unitsPerOne_pos : 0 < unitsPerOne := twoTo_pos 1074

theorem twoTo_mul_unitsPerOne (k : Nat) : twoTo k * unitsPerOne = twoTo (k + 1074) :=
  (twoTo_add k 1074).symm

/-- A magnitude of so many ones has so many bits more. -/
theorem log2_mul_unitsPerOne_lt {n k : Nat} (small : n < twoTo k) :
    (n * unitsPerOne).log2 < k + 1074 := by
  by_cases zero : n * unitsPerOne = 0
  · rw [zero]
    exact Nat.lt_add_left k (by decide)
  · rw [log2_lt_iff zero, ← twoTo_mul_unitsPerOne]
    exact Nat.mul_lt_mul_of_pos_right small unitsPerOne_pos

/-- An integer of at most 53 bits is a double. -/
theorem roundedWhole_of_lt {n : Nat} (small : n < twoTo 53) :
    roundedWhole n = n * unitsPerOne := by
  have bits := log2_mul_unitsPerOne_lt small
  have divides : roundingStep (n * unitsPerOne) 1 ∣ n * unitsPerOne := by
    have one : roundingStep (n * unitsPerOne) 1 ∣ unitsPerOne := by
      refine twoTo_dvd_twoTo ?_
      rw [Nat.div_one]
      omega
    exact Nat.dvd_trans one (Nat.dvd_mul_left _ _)
  unfold roundedWhole
  rw [Nat.one_mul, roundHalfEven_of_dvd (roundingStep_pos _ _) divides, Nat.div_mul_cancel divides]

theorem roundedWhole_of_le {n : Nat} (large : twoTo 53 ≤ n) :
    unitsPerOne ∣ roundedWhole n ∧ twoTo 53 * unitsPerOne ≤ roundedWhole n := by
  have lower := Nat.mul_le_mul_right unitsPerOne large
  have nonzero : n * unitsPerOne ≠ 0 := by
    have := Nat.mul_pos (twoTo_pos 53) unitsPerOne_pos
    omega
  rw [twoTo_mul_unitsPerOne] at lower
  have bits := (le_log2_iff nonzero).mpr lower
  have leading : twoTo 52 * roundingStep (n * unitsPerOne) 1 =
      twoTo (n * unitsPerOne).log2 := by
    rw [roundingStep, Nat.div_one, ← twoTo_add, Nat.add_sub_of_le (by omega)]
  have atLeast : twoTo 52 ≤ n * unitsPerOne / (1 * roundingStep (n * unitsPerOne) 1) := by
    rw [Nat.one_mul, Nat.le_div_iff_mul_le (roundingStep_pos _ _), leading]
    exact (le_log2_iff nonzero).mp (Nat.le_refl _)
  have rounded := roundHalfEven_cases (n * unitsPerOne) (1 * roundingStep (n * unitsPerOne) 1)
  unfold roundedWhole
  constructor
  · have one : unitsPerOne ∣ roundingStep (n * unitsPerOne) 1 := by
      refine twoTo_dvd_twoTo ?_
      rw [Nat.div_one]
      omega
    exact Nat.dvd_trans one (Nat.dvd_mul_left _ _)
  · calc twoTo 53 * unitsPerOne
        = twoTo (53 + 1074) := twoTo_mul_unitsPerOne 53
      _ ≤ twoTo (n * unitsPerOne).log2 := twoTo_le_twoTo bits
      _ = twoTo 52 * roundingStep (n * unitsPerOne) 1 := leading.symm
      _ ≤ _ := Nat.mul_le_mul_right _ (by omega)

theorem holds_ofInt {i : Int} (small : i.natAbs < twoTo 64) :
    (ofInt i).Holds (i < 0) (roundedWhole i.natAbs) := by
  refine holds_roundUnits _ ?_
  have bits := log2_mul_unitsPerOne_lt small
  rw [Nat.div_one]
  omega

end Double

namespace Value

variable (i : Int64)

theorem natAbs_toInt_le : i.toInt.natAbs ≤ twoTo 63 := by
  have low : -9223372036854775808 ≤ i.toInt := i.minValue_le_toInt
  have high : i.toInt ≤ 9223372036854775807 := i.toInt_le
  have signPart : twoTo 63 = 9223372036854775808 := rfl
  omega

theorem holds_doubleOf : (doubleOf i).Holds (i.toInt < 0) (Double.roundedWhole i.toInt.natAbs) := by
  have small := natAbs_toInt_le i
  have bits : twoTo 64 = 2 * twoTo 63 := rfl
  have positive := twoTo_pos 63
  exact Double.holds_ofInt (by omega)

/-- An integer of at most 53 bits stands at its own place. -/
theorem signedUnits_doubleOf_of_lt (small : i.toInt.natAbs < twoTo 53) :
    (doubleOf i).signedUnits = i.toInt * Double.unitsPerOne := by
  rw [(holds_doubleOf i).signedUnits, Double.roundedWhole_of_lt small]
  by_cases negative : i.toInt < 0
  · have magnitude : (i.toInt.natAbs : Int) = -i.toInt := by omega
    simp only [negative, decide_true, ↓reduceIte]
    rw [Int.natCast_mul, magnitude, Int.neg_mul, Int.neg_neg]
  · have magnitude : (i.toInt.natAbs : Int) = i.toInt := by omega
    simp only [negative, decide_false, Bool.false_eq_true, ↓reduceIte]
    rw [Int.natCast_mul, magnitude]

/-- Every other one stands at a double that is no smaller. -/
theorem units_doubleOf_of_le (large : twoTo 53 ≤ i.toInt.natAbs) :
    twoTo 53 * Double.unitsPerOne ≤ (doubleOf i).units := by
  rw [(holds_doubleOf i).units]
  exact (Double.roundedWhole_of_le large).2

theorem unitsPerOne_dvd_doubleOf : Double.unitsPerOne ∣ (doubleOf i).units := by
  rw [(holds_doubleOf i).units]
  by_cases small : i.toInt.natAbs < twoTo 53
  · rw [Double.roundedWhole_of_lt small]
    exact Nat.dvd_mul_left _ _
  · exact (Double.roundedWhole_of_le (Nat.le_of_not_lt small)).1

end Value
end TableWrite
