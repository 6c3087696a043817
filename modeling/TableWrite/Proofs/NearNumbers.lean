import TableWrite.Proofs.RoundedIntegers

set_option autoImplicit false

namespace TableWrite

namespace Double

/-- The units of the greatest double below one. -/
def belowOne : Nat := unitsPerOne - twoTo 1021

variable {x y z : Double}

theorem near_iff : x.near y = true ↔ x.isFinite = true ∧ y.isFinite = true ∧
    (x.signedUnits - y.signedUnits).natAbs < nearBound := by
  simp only [near, Bool.and_eq_true, decide_eq_true_eq, and_assoc]

theorem nearBound_lt : nearBound < 2 * twoTo 1021 := by
  have two : twoTo 1 = 2 := rfl
  have power : 2 * twoTo 1021 = twoTo 54 * twoTo 968 := by
    rw [← two, twoTo_mul_twoTo rfl, twoTo_mul_twoTo rfl]
  rw [power]
  exact Nat.mul_lt_mul_of_pos_right (by decide) (twoTo_pos 968)

theorem unitsPerOne_eq : unitsPerOne = 9007199254740992 * twoTo 1021 := by
  have leading : twoTo 53 = 9007199254740992 := rfl
  rw [← leading, twoTo_mul_twoTo rfl]
  rfl

theorem signedUnits_cases (x : Double) :
    x.signedUnits = x.units ∨ x.signedUnits = -(x.units : Int) := by
  unfold signedUnits
  split
  · exact .inr rfl
  · exact .inl rfl

/-- A large magnitude is a whole number of large steps. -/
theorem twoTo_dvd_units {k : Nat} (large : twoTo (52 + k) ≤ x.units) : twoTo k ∣ x.units := by
  have fraction := x.fraction_lt
  unfold units at large ⊢
  split at large
  · have low : twoTo 52 ≤ twoTo (52 + k) := twoTo_le_twoTo (Nat.le_add_right 52 k)
    omega
  · rename_i normal
    have bits : twoTo 52 + x.fraction < twoTo 53 := by
      have double : twoTo 53 = 2 * twoTo 52 := rfl
      omega
    have bound := Nat.mul_lt_mul_of_pos_right bits (twoTo_pos (x.exponentField - 1))
    rw [← twoTo_add] at bound
    have less : 52 + k < 53 + (x.exponentField - 1) :=
      (Nat.pow_lt_pow_iff_right (by decide)).mp (Nat.lt_of_le_of_lt large bound)
    rw [if_neg normal]
    exact Nat.dvd_trans (twoTo_dvd_twoTo (by omega)) (Nat.dvd_mul_left _ _)

/-- From one on, magnitudes are multiples of twice the distance between the doubles below one. -/
theorem dvd_units_of_one_le (large : unitsPerOne ≤ x.units) : 2 * twoTo 1021 ∣ x.units := by
  have two : twoTo 1 = 2 := rfl
  rw [← two, twoTo_mul_twoTo rfl]
  exact twoTo_dvd_units large

theorem dvd_units_of_half_le (large : 4503599627370496 * twoTo 1021 ≤ x.units) :
    twoTo 1021 ∣ x.units := by
  have leading : twoTo 52 = 4503599627370496 := rfl
  refine twoTo_dvd_units ?_
  rw [twoTo_add, leading]
  exact large

/-- Multiples of a step that are less than two steps apart are the same, or neighbours. -/
theorem neighbours_of_lt {step a b : Nat} (left : step * a < step * b + 2 * step)
    (right : step * b < step * a + 2 * step) : a = b ∨ a = b + 1 ∨ b = a + 1 := by
  rw [Nat.mul_comm 2, ← Nat.mul_add] at left right
  have after := Nat.lt_of_mul_lt_mul_left left
  have before := Nat.lt_of_mul_lt_mul_left right
  omega

/-- What is near a number of one or above is that number, or one is near the double below it. -/
theorem eq_of_near_of_one_le (close : x.near y = true) (large : unitsPerOne ≤ x.units) :
    x.signedUnits = y.signedUnits ∨ x.units = unitsPerOne ∧ y.units = belowOne := by
  have distance := (near_iff.mp close).2.2
  have bound := nearBound_lt
  have one := unitsPerOne_eq
  have positive := twoTo_pos 1021
  have wide := dvd_units_of_one_le large
  have wideBack (high : unitsPerOne ≤ y.units) := dvd_units_of_one_le high
  have narrow (high : 4503599627370496 * twoTo 1021 ≤ y.units) := dvd_units_of_half_le high
  unfold belowOne
  generalize twoTo 1021 = step at *
  have signs : x.signedUnits = x.units ∧ y.signedUnits = y.units ∨
      x.signedUnits = -(x.units : Int) ∧ y.signedUnits = -(y.units : Int) := by
    rcases x.signedUnits_cases with sx | sx <;> rcases y.signedUnits_cases with sy | sy <;>
      rw [sx, sy] at distance <;> omega
  have apart : x.units < y.units + 2 * step ∧ y.units < x.units + 2 * step := by
    rcases signs with ⟨sx, sy⟩ | ⟨sx, sy⟩ <;> rw [sx, sy] at distance <;> omega
  obtain ⟨a, wide⟩ := wide
  obtain ⟨b, narrow⟩ := narrow (by omega)
  rw [Nat.mul_comm 2, Nat.mul_assoc] at wide
  rw [wide, narrow] at apart
  have places := neighbours_of_lt apart.1 apart.2
  by_cases high : unitsPerOne ≤ y.units
  · -- Both are multiples of the wide step.
    obtain ⟨c, even⟩ := wideBack high
    rw [Nat.mul_comm 2, Nat.mul_assoc] at even
    have half : b = 2 * c := Nat.eq_of_mul_eq_mul_left positive (narrow.symm.trans even)
    have same : 2 * a = b := by omega
    have equal : x.units = y.units := by rw [wide, narrow, same]
    left
    rcases signs with ⟨sx, sy⟩ | ⟨sx, sy⟩ <;> rw [sx, sy, equal]
  · rw [Nat.mul_comm] at one
    rw [one, wide] at large
    rw [one, narrow] at high
    have top := Nat.le_of_mul_le_mul_left large positive
    have low := Nat.lt_of_mul_lt_mul_left (Nat.lt_of_not_le high)
    have last : 2 * a = 9007199254740992 ∧ b = 9007199254740991 := by omega
    right
    rw [wide, narrow, one, last.1, last.2]
    exact ⟨rfl, by omega⟩

/-- Near doubles stand at the same place or both below one, or they are one and the double below
it. -/
theorem near_cases (close : x.near y = true) :
    x.signedUnits = y.signedUnits ∨ x.units < unitsPerOne ∧ y.units < unitsPerOne ∨
      x.units = unitsPerOne ∧ y.units = belowOne ∨ y.units = unitsPerOne ∧ x.units = belowOne := by
  by_cases xLarge : unitsPerOne ≤ x.units
  · rcases eq_of_near_of_one_le close xLarge with same | below
    · exact .inl same
    · exact .inr (.inr (.inl below))
  · by_cases yLarge : unitsPerOne ≤ y.units
    · rcases eq_of_near_of_one_le ((y.near_symm x).trans close) yLarge with same | below
      · exact .inl same.symm
      · exact .inr (.inr (.inr below))
    · exact .inr (.inl ⟨Nat.lt_of_not_le xLarge, Nat.lt_of_not_le yLarge⟩)

theorem belowOne_lt : belowOne < unitsPerOne := Nat.sub_lt unitsPerOne_pos (twoTo_pos 1021)

theorem belowOne_pos : 0 < belowOne := by
  have one := unitsPerOne_eq
  have step := twoTo_pos 1021
  unfold belowOne
  omega

/-- The integer part is that of the place in ones, cut towards zero. -/
theorem truncate_eq (x : Double) : x.truncate = x.signedUnits.tdiv unitsPerOne := by
  unfold truncate signedUnits
  split
  · rw [Int.neg_tdiv, ← Int.ofNat_tdiv, Int.natCast_ediv]
  · rw [← Int.ofNat_tdiv, Int.natCast_ediv]

theorem units_eq_of_signedUnits_eq (same : x.signedUnits = y.signedUnits) : x.units = y.units := by
  rw [← x.natAbs_signedUnits, ← y.natAbs_signedUnits, same]

theorem finite_of_toInt64? {m : Int64} (part : x.toInt64? = some m) : x.isFinite = true := by
  cases finite : x.isFinite with
  | true => rfl
  | false => simp [toInt64?, finite] at part

theorem toInt64?_of_finite (finite : x.isFinite = true) :
    x.toInt64? = if x.units ≤ twoTo 63 * unitsPerOne then
      some (Int64.ofInt (min (x.signedUnits.tdiv unitsPerOne) Int64.maxValue.toInt)) else none := by
  unfold toInt64?
  rw [truncate_eq, finite]
  simp only [Bool.true_and, decide_eq_true_eq]

theorem toInt64?_eq_of_signedUnits_eq (xFinite : x.isFinite = true) (yFinite : y.isFinite = true)
    (same : x.signedUnits = y.signedUnits) : x.toInt64? = y.toInt64? := by
  rw [toInt64?_of_finite xFinite, toInt64?_of_finite yFinite, units_eq_of_signedUnits_eq same, same]

theorem toInt64?_of_lt_one (finite : x.isFinite = true) (small : x.units < unitsPerOne) :
    x.toInt64? = some 0 := by
  have fits : x.units ≤ twoTo 63 * unitsPerOne :=
    Nat.le_trans (Nat.le_of_lt small) (Nat.le_mul_of_pos_left _ (twoTo_pos 63))
  have none : x.signedUnits.tdiv unitsPerOne = 0 := by
    have cut : (x.units : Int).tdiv unitsPerOne = 0 := by
      rw [← Int.ofNat_tdiv, Nat.div_eq_of_lt small]
      rfl
    rcases x.signedUnits_cases with sign | sign <;> rw [sign]
    · exact cut
    · rw [Int.neg_tdiv, cut]
      rfl
  rw [toInt64?_of_finite finite, if_pos fits, none]
  rfl

theorem toInt64?_of_one (finite : x.isFinite = true) (one : x.units = unitsPerOne) :
    x.toInt64? = some 1 ∨ x.toInt64? = some (-1) := by
  have fits : x.units ≤ twoTo 63 * unitsPerOne := by
    rw [one]
    exact Nat.le_mul_of_pos_left _ (twoTo_pos 63)
  have cut : (x.units : Int).tdiv unitsPerOne = 1 := by
    rw [one, ← Int.ofNat_tdiv, Nat.div_self unitsPerOne_pos]
    rfl
  rw [toInt64?_of_finite finite, if_pos fits]
  rcases x.signedUnits_cases with sign | sign <;> rw [sign]
  · left
    rw [cut]
    rfl
  · right
    rw [Int.neg_tdiv, cut]
    rfl

/-- Of near doubles both have an integer part, or none has. -/
theorem exists_toInt64?_of_near {n : Int64} (close : x.near y = true)
    (part : y.toInt64? = some n) : ∃ m, x.toInt64? = some m := by
  obtain ⟨xFinite, yFinite, -⟩ := near_iff.mp close
  have below := belowOne_lt
  rcases near_cases close with same | ⟨small, -⟩ | ⟨one, -⟩ | ⟨-, small⟩
  · exact ⟨n, (toInt64?_eq_of_signedUnits_eq xFinite yFinite same).trans part⟩
  · exact ⟨0, toInt64?_of_lt_one xFinite small⟩
  · rcases toInt64?_of_one xFinite one with part | part
    · exact ⟨1, part⟩
    · exact ⟨-1, part⟩
  · exact ⟨0, toInt64?_of_lt_one xFinite (by omega)⟩

/-- Near doubles have the same integer part, unless they are one and the double below it. -/
theorem toInt64?_eq_iff_of_near {m n : Int64} (close : x.near y = true)
    (xPart : x.toInt64? = some m) (yPart : y.toInt64? = some n) :
    m = n ↔ ¬ (x.units = unitsPerOne ∧ y.units = belowOne) ∧
      ¬ (y.units = unitsPerOne ∧ x.units = belowOne) := by
  obtain ⟨xFinite, yFinite, -⟩ := near_iff.mp close
  have below := belowOne_lt
  have parts {v w : Double} (vFinite : v.isFinite = true) (wFinite : w.isFinite = true)
      (one : v.units = unitsPerOne) (small : w.units = belowOne) : v.toInt64? ≠ w.toInt64? := by
    rw [toInt64?_of_lt_one wFinite (by omega)]
    rcases toInt64?_of_one vFinite one with part | part <;> rw [part] <;> decide
  have equal : m = n ↔ x.toInt64? = y.toInt64? := by rw [xPart, yPart, Option.some.injEq]
  rw [equal]
  rcases near_cases close with same | ⟨xSmall, ySmall⟩ | ⟨one, small⟩ | ⟨one, small⟩
  · have units := units_eq_of_signedUnits_eq same
    have parts := toInt64?_eq_of_signedUnits_eq xFinite yFinite same
    exact ⟨fun _ => ⟨by omega, by omega⟩, fun _ => parts⟩
  · rw [toInt64?_of_lt_one xFinite xSmall, toInt64?_of_lt_one yFinite ySmall]
    exact ⟨fun _ => ⟨by omega, by omega⟩, fun _ => rfl⟩
  · have differ := parts xFinite yFinite one small
    exact ⟨fun agree => absurd agree differ, fun others => absurd ⟨one, small⟩ others.1⟩
  · have differ := parts yFinite xFinite one small
    exact ⟨fun agree => absurd agree.symm differ, fun others => absurd ⟨one, small⟩ others.2⟩

end Double
end TableWrite
