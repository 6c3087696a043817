import TableWrite.Proofs.NearNumbers
import TableWrite.Proofs.UnchangedRows

set_option autoImplicit false

namespace TableWrite

open Double

namespace Value

/-- The double as which a number is compared with doubles. -/
def number? : Value → Option Double
  | integer i => some (doubleOf i)
  | float x => some x
  | _ => none

/-- Different integers that are compared as the same double. -/
def Merged (a c : Value) : Prop :=
  ∃ i j, a = integer i ∧ c = integer j ∧ i ≠ j ∧
    (doubleOf i).signedUnits = (doubleOf j).signedUnits ∧
    twoTo 53 ≤ i.toInt.natAbs ∧ twoTo 53 ≤ j.toInt.natAbs

/-- Numbers from minus one to one, not both integers, that are further apart than the tolerance. -/
def Drifted (a c : Value) : Prop :=
  (∀ i j, ¬ (a = integer i ∧ c = integer j)) ∧
    ∃ x z, a.number? = some x ∧ c.number? = some z ∧ (x.isFinite = true ∧ z.isFinite = true) ∧
      x.units ≤ unitsPerOne ∧ z.units ≤ unitsPerOne ∧
      nearBound ≤ (x.signedUnits - z.signedUnits).natAbs

/-- An integer that no double equals, other than the largest integer, and a double. -/
def Rounded (a b : Value) : Prop :=
  ∃ i x, a = integer i ∧ b = float x ∧ i ≠ Int64.maxValue ∧
    (doubleOf i).signedUnits ≠ i.toInt * unitsPerOne

/-- A number of magnitude one, and one of the greatest magnitude below it. -/
def StepsBelowOne (a b : Value) : Prop :=
  ∃ x y, a.number? = some x ∧ b.number? = some y ∧ x.units = unitsPerOne ∧ y.units = belowOne

theorem isFinite_doubleOf (i : Int64) : (doubleOf i).isFinite = true := (holds_doubleOf i).finite

/-- Numbers of which one is a double are the same when they are near, or no numbers. -/
theorem same_iff_of_number {a b : Value} {x y : Double} (left : a.number? = some x)
    (right : b.number? = some y) (mixed : ∀ i j, ¬ (a = integer i ∧ b = integer j)) :
    a.same b = true ↔ (x.isNaN = true ∧ y.isNaN = true) ∨ x.near y = true := by
  have whole (i : Int64) := isNaN_eq_false (isFinite_doubleOf i)
  cases a with
  | integer i =>
      cases left
      cases b with
      | integer j => exact absurd ⟨rfl, rfl⟩ (mixed i j)
      | float y =>
          cases right
          simp [same, whole]
      | _ => cases right
  | float x =>
      cases left
      cases b with
      | integer j =>
          cases right
          simp [same, whole, near_symm x]
      | float y =>
          cases right
          simp [same]
      | _ => cases right
  | _ => cases left

/-- Same values are equal, or both no numbers, or near numbers. -/
theorem cases_of_same {a b : Value} (same : a.same b = true) :
    a = b ∨ (∃ x y, (a = float x ∧ b = float y) ∧ x.isNaN = true ∧ y.isNaN = true) ∨
      ∃ x y, (a.number? = some x ∧ b.number? = some y) ∧ x.near y = true := by
  cases a with
  | integer i =>
      cases b with
      | integer j => exact .inl (of_decide_eq_true same)
      | float y => exact .inr (.inr ⟨doubleOf i, y, ⟨rfl, rfl⟩, same⟩)
      | _ => exact .inl (of_decide_eq_true same)
  | float x =>
      cases b with
      | integer j => exact .inr (.inr ⟨x, doubleOf j, ⟨rfl, rfl⟩, (near_symm _ _).trans same⟩)
      | float y =>
          simp only [Value.same, Bool.or_eq_true, Bool.and_eq_true] at same
          rcases same with none | near
          · exact .inr (.inl ⟨x, y, ⟨rfl, rfl⟩, none⟩)
          · exact .inr (.inr ⟨x, y, ⟨rfl, rfl⟩, near⟩)
      | _ => exact .inl (of_decide_eq_true same)
  | _ => exact .inl (by simpa [Value.same] using same)

/-- The double of an integer stands at a whole number. -/
theorem unitsPerOne_dvd_signedUnits (i : Int64) :
    (unitsPerOne : Int) ∣ (doubleOf i).signedUnits := by
  rw [Int.ofNat_dvd_left, natAbs_signedUnits]
  exact unitsPerOne_dvd_doubleOf i

/-- Integers near one number stand at one place. -/
theorem signedUnits_eq_of_near {i j : Int64} {y : Double} (left : (doubleOf i).near y = true)
    (right : y.near (doubleOf j) = true) :
    (doubleOf i).signedUnits = (doubleOf j).signedUnits := by
  have first := (near_iff.mp left).2.2
  have second := (near_iff.mp right).2.2
  have bound := nearBound_lt
  have one := unitsPerOne_eq
  have whole := Int.dvd_sub (unitsPerOne_dvd_signedUnits i) (unitsPerOne_dvd_signedUnits j)
  have none := Int.eq_zero_of_dvd_of_natAbs_lt_natAbs whole (by
    rw [Int.natAbs_natCast]
    omega)
  omega

theorem eq_of_signedUnits_eq {i j : Int64} (small : i.toInt.natAbs < twoTo 53)
    (same : (doubleOf i).signedUnits = (doubleOf j).signedUnits) : i = j := by
  have units := units_eq_of_signedUnits_eq same
  have place := signedUnits_doubleOf_of_lt i small
  by_cases large : twoTo 53 ≤ j.toInt.natAbs
  · have above := units_doubleOf_of_le j large
    have magnitude : (doubleOf i).units = i.toInt.natAbs * unitsPerOne := by
      rw [← natAbs_signedUnits, place, Int.natAbs_mul, Int.natAbs_natCast]
    rw [← units, magnitude] at above
    have := Nat.le_of_mul_le_mul_right above unitsPerOne_pos
    omega
  · rw [place, signedUnits_doubleOf_of_lt j (Nat.lt_of_not_le large)] at same
    have positive := unitsPerOne_pos
    exact Int64.toInt_inj.mp (Int.eq_of_mul_eq_mul_right (by omega) same)

theorem merged_of_near {i j : Int64} {y : Double} (differ : i ≠ j)
    (left : (doubleOf i).near y = true) (right : y.near (doubleOf j) = true) :
    (integer i).Merged (integer j) := by
  have place := signedUnits_eq_of_near left right
  refine ⟨i, j, rfl, rfl, differ, place, ?_, ?_⟩
  · exact Nat.le_of_not_lt fun small => differ (eq_of_signedUnits_eq small place)
  · exact Nat.le_of_not_lt fun small => differ (eq_of_signedUnits_eq small place.symm).symm

/-- Numbers beyond one are too far apart for a drift. -/
theorem units_le_of_not_near {x y z : Double} (left : x.near y = true) (right : y.near z = true)
    (apart : ¬ x.near z = true) : x.units ≤ unitsPerOne := by
  refine Nat.le_of_not_lt fun beyond => apart ?_
  rcases eq_of_near_of_one_le left (Nat.le_of_lt beyond) with same | ⟨one, -⟩
  · obtain ⟨xFinite, -, -⟩ := near_iff.mp left
    obtain ⟨-, zFinite, distance⟩ := near_iff.mp right
    rw [← same] at distance
    exact near_iff.mpr ⟨xFinite, zFinite, distance⟩
  · omega

/-- Sameness is passed on, but for integers that become one double and numbers that drift apart. -/
theorem merged_or_drifted {a b c : Value} (left : a.same b = true) (right : b.same c = true)
    (differ : ¬ a.same c = true) : a.Merged c ∨ a.Drifted c := by
  rcases cases_of_same left with rfl | ⟨x, y, ⟨rfl, rfl⟩, xNone, yNone⟩ |
      ⟨x, y, ⟨aNumber, bNumber⟩, near⟩
  · exact absurd right differ
  · rcases cases_of_same right with rfl | ⟨y', z, ⟨-, rfl⟩, -, zNone⟩ | ⟨y', z, ⟨number, -⟩, near⟩
    · exact absurd left differ
    · refine absurd ?_ differ
      simp [same, xNone, zNone]
    · cases number
      rw [isNaN_eq_false (near_iff.mp near).1] at yNone
      cases yNone
  · rcases cases_of_same right with rfl | ⟨y', z, ⟨rfl, rfl⟩, yNone, -⟩ |
        ⟨y', z, ⟨bNumber', cNumber⟩, near'⟩
    · exact absurd left differ
    · cases bNumber
      rw [isNaN_eq_false (near_iff.mp near).2.1] at yNone
      cases yNone
    · obtain rfl := Option.some.inj (bNumber.symm.trans bNumber')
      by_cases integers : ∃ i j, a = integer i ∧ c = integer j
      · obtain ⟨i, j, rfl, rfl⟩ := integers
        cases aNumber
        cases cNumber
        have other : i ≠ j := by
          rintro rfl
          exact differ (by simp [same])
        exact .inl (merged_of_near other near near')
      · have mixed : ∀ i j, ¬ (a = integer i ∧ c = integer j) :=
          fun i j both => integers ⟨i, j, both⟩
        have apart : ¬ x.near z = true := fun close =>
          differ ((same_iff_of_number aNumber cNumber mixed).mpr (.inr close))
        have finite := And.intro (near_iff.mp near).1 (near_iff.mp near').2.1
        have apart' : ¬ z.near x = true := by
          rw [near_symm]
          exact apart
        have xSmall := units_le_of_not_near near near' apart
        have zSmall := units_le_of_not_near ((near_symm _ _).trans near')
          ((near_symm _ _).trans near) apart'
        refine .inr ⟨mixed, x, z, aNumber, cNumber, finite, xSmall, zSmall, ?_⟩
        exact Nat.le_of_not_lt fun distance => apart (near_iff.mpr ⟨finite.1, finite.2, distance⟩)

theorem not_same_of_merged {a c : Value} (merged : a.Merged c) : ¬ a.same c = true := by
  obtain ⟨i, j, rfl, rfl, differ, -⟩ := merged
  intro same
  exact differ (integer.inj (of_decide_eq_true same))

theorem not_same_of_drifted {a c : Value} (drifted : a.Drifted c) : ¬ a.same c = true := by
  obtain ⟨mixed, x, z, aNumber, cNumber, finite, -, -, distance⟩ := drifted
  rw [same_iff_of_number aNumber cNumber mixed, isNaN_eq_false finite.1, near_iff]
  rintro (none | near)
  · exact absurd none.1 Bool.false_ne_true
  · omega

/-- The integer part of the double of an integer is the integer, if it is a double, or is the
largest one, up to which the part is cut. -/
theorem eq_iff_of_toInt64?_doubleOf {i n : Int64} (part : (doubleOf i).toInt64? = some n) :
    i = n ↔ (doubleOf i).signedUnits = i.toInt * unitsPerOne ∨ i = Int64.maxValue := by
  have whole := Int.tdiv_mul_cancel (unitsPerOne_dvd_signedUnits i)
  have positive := unitsPerOne_pos
  by_cases largest : i = Int64.maxValue
  · subst largest
    have cut : (doubleOf Int64.maxValue).toInt64? = some Int64.maxValue := by decide +kernel
    exact ⟨fun _ => .inr rfl, fun _ => Option.some.inj (cut.symm.trans part)⟩
  · rw [toInt64?_of_finite (isFinite_doubleOf i)] at part
    split at part
    · rename_i fits
      have value := Option.some.inj part
      generalize (doubleOf i).signedUnits.tdiv unitsPerOne = w at whole value
      have bound : w.natAbs ≤ twoTo 63 := by
        rw [← natAbs_signedUnits, ← whole, Int.natAbs_mul, Int.natAbs_natCast] at fits
        exact Nat.le_of_mul_le_mul_right fits positive
      have signPart : twoTo 63 = 9223372036854775808 := rfl
      have top : Int64.maxValue.toInt = 9223372036854775807 := rfl
      have under : i.toInt < 9223372036854775807 := by
        have atMost : i.toInt ≤ 9223372036854775807 := i.toInt_le
        have other : i.toInt ≠ 9223372036854775807 :=
          fun equal => largest (Int64.toInt_inj.mp (equal.trans top.symm))
        omega
      have read : n.toInt = min w 9223372036854775807 := by
        rw [← value, top]
        exact Int64.toInt_ofInt_of_le (by omega) (by omega)
      have exact_iff : (doubleOf i).signedUnits = i.toInt * unitsPerOne ↔ w = i.toInt := by
        rw [← whole]
        constructor
        · intro equal
          exact Int.eq_of_mul_eq_mul_right (by omega) equal
        · intro equal
          rw [equal]
      rw [exact_iff, ← Int64.toInt_inj, read]
      constructor
      · intro equal
        exact .inl (by omega)
      · rintro (equal | equal)
        · omega
        · exact absurd equal largest
    · cases part

/-- No integer is next to one. -/
theorem units_doubleOf_ne_belowOne (i : Int64) : (doubleOf i).units ≠ belowOne := by
  intro below
  have divides := unitsPerOne_dvd_doubleOf i
  rw [below] at divides
  exact Nat.not_le_of_lt belowOne_lt (Nat.le_of_dvd belowOne_pos divides)

/-- An integer agrees with the integer part of a double near it, unless it is rounded, or is one. -/
theorem eq_toInt64?_iff_of_near {i n : Int64} {y : Double} (close : (doubleOf i).near y = true)
    (part : y.toInt64? = some n) :
    i = n ↔ ¬ (i ≠ Int64.maxValue ∧ (doubleOf i).signedUnits ≠ i.toInt * unitsPerOne) ∧
      ¬ ((doubleOf i).units = unitsPerOne ∧ y.units = belowOne) := by
  by_cases held : (doubleOf i).signedUnits = i.toInt * unitsPerOne ∨ i = Int64.maxValue
  · have unrounded : ¬ (i ≠ Int64.maxValue ∧
        (doubleOf i).signedUnits ≠ i.toInt * unitsPerOne) := by
      rintro ⟨other, moved⟩
      exact held.elim moved other
    have whole : ¬ (y.units = unitsPerOne ∧ (doubleOf i).units = belowOne) :=
      fun steps => units_doubleOf_ne_belowOne i steps.2
    obtain ⟨w, own⟩ := exists_toInt64?_of_near close part
    obtain rfl := (eq_iff_of_toInt64?_doubleOf own).mpr held
    rw [toInt64?_eq_iff_of_near close own part]
    exact ⟨fun steps => ⟨unrounded, steps.1⟩, fun steps => ⟨steps.2, whole⟩⟩
  · have moved := not_or.mp held
    have large : twoTo 53 * unitsPerOne ≤ (doubleOf i).units := by
      refine units_doubleOf_of_le i (Nat.le_of_not_lt fun small => moved.1 ?_)
      exact signedUnits_doubleOf_of_lt i small
    have beyond : unitsPerOne < (doubleOf i).units := by
      have leading : twoTo 53 = 9007199254740992 := rfl
      have positive := unitsPerOne_pos
      rw [leading] at large
      omega
    have same : (doubleOf i).signedUnits = y.signedUnits := by
      rcases eq_of_near_of_one_le close (Nat.le_of_lt beyond) with same | ⟨one, -⟩
      · exact same
      · omega
    have finite := (near_iff.mp close).2.1
    have own := (toInt64?_eq_of_signedUnits_eq (isFinite_doubleOf i) finite same).trans part
    rw [eq_iff_of_toInt64?_doubleOf own]
    exact ⟨fun agrees => absurd agrees held, fun others => absurd ⟨moved.2, moved.1⟩ others.1⟩

theorem rounded_integer_iff {i : Int64} {y : Double} :
    (integer i).Rounded (float y) ↔
      i ≠ Int64.maxValue ∧ (doubleOf i).signedUnits ≠ i.toInt * unitsPerOne := by
  constructor
  · rintro ⟨j, x, ⟨⟩, -, rounded⟩
    exact rounded
  · intro rounded
    exact ⟨i, y, rfl, rfl, rounded⟩

theorem stepsBelowOne_iff {a b : Value} {x y : Double} (left : a.number? = some x)
    (right : b.number? = some y) :
    a.StepsBelowOne b ↔ x.units = unitsPerOne ∧ y.units = belowOne := by
  unfold StepsBelowOne
  simp [left, right]

theorem eq_iff_of_integer_float {i m n : Int64} {y : Double}
    (same : (integer i).same (float y) = true) (left : (integer i).toInt64? = some m)
    (right : (float y).toInt64? = some n) :
    m = n ↔ ¬ ((integer i).Rounded (float y) ∨ (float y).Rounded (integer i)) ∧
      ¬ ((integer i).StepsBelowOne (float y) ∨ (float y).StepsBelowOne (integer i)) := by
  cases left
  have back : ¬ (float y).Rounded (integer i) := by
    rintro ⟨j, x, ⟨⟩, -⟩
  have other : ¬ (float y).StepsBelowOne (integer i) := by
    rw [stepsBelowOne_iff rfl rfl]
    exact fun steps => units_doubleOf_ne_belowOne i steps.2
  rw [eq_toInt64?_iff_of_near same right, or_iff_left back, or_iff_left other,
    rounded_integer_iff, stepsBelowOne_iff rfl rfl]

/-- The integers that same values stand for are the same, but for integers that are rounded, and for
one and the double below it. -/
theorem toInt64?_eq_iff_of_same {a b : Value} {m n : Int64} (same : a.same b = true)
    (left : a.toInt64? = some m) (right : b.toInt64? = some n) :
    m = n ↔ ¬ (a.Rounded b ∨ b.Rounded a) ∧ ¬ (a.StepsBelowOne b ∨ b.StepsBelowOne a) := by
  cases a with
  | integer i =>
      cases b with
      | integer j =>
          cases left
          cases right
          have unrounded :
              ¬ ((integer m).Rounded (integer n) ∨ (integer n).Rounded (integer m)) := by
            rintro (⟨k, x, -, ⟨⟩, -⟩ | ⟨k, x, -, ⟨⟩, -⟩)
          have level : ¬ ((integer m).StepsBelowOne (integer n) ∨
              (integer n).StepsBelowOne (integer m)) := by
            rw [stepsBelowOne_iff rfl rfl, stepsBelowOne_iff rfl rfl]
            rintro (steps | steps)
            · exact units_doubleOf_ne_belowOne n steps.2
            · exact units_doubleOf_ne_belowOne m steps.2
          exact ⟨fun _ => ⟨unrounded, level⟩, fun _ => integer.inj (of_decide_eq_true same)⟩
      | float y => exact eq_iff_of_integer_float same left right
      | _ => cases right
  | float x =>
      cases b with
      | integer j =>
          rw [same_symm] at same
          rw [eq_comm, eq_iff_of_integer_float same right left]
          exact and_congr (not_congr or_comm) (not_congr or_comm)
      | float y =>
          have unrounded : ¬ ((float x).Rounded (float y) ∨ (float y).Rounded (float x)) := by
            rintro (⟨k, x, ⟨⟩, -⟩ | ⟨k, x, ⟨⟩, -⟩)
          have close : x.near y = true := by
            have number := isNaN_eq_false (finite_of_toInt64? left)
            simpa [Value.same, number] using same
          rw [toInt64?_eq_iff_of_near close left right, ← not_or, stepsBelowOne_iff rfl rfl,
            stepsBelowOne_iff rfl rfl]
          exact (and_iff_right unrounded).symm
      | _ => cases right
  | _ => cases left

end Value

open Value in
/-- Sameness of values goes both ways, and every value but an infinity is the same as itself. It is
passed on except to an integer that is rounded to the same double, and to a number within one that
has drifted too far. The integers that same values stand for are the same unless one is not a
double and is rounded, or they are one and the double below it. -/
theorem same_nearly_congruent :
    (∀ a b : Value, a.same b = b.same a) ∧
      (∀ a : Value, (∀ x, a = .float x → ¬ x.Infinite) → a.same a = true) ∧
      (∀ a b c : Value, a.same b = true → b.same c = true →
        (a.same c = true ↔ ¬ a.Merged c ∧ ¬ a.Drifted c)) ∧
      ∀ (a b : Value) (m n : Int64), a.same b = true → a.toInt64? = some m →
        b.toInt64? = some n →
          (m = n ↔ ¬ (a.Rounded b ∨ b.Rounded a) ∧ ¬ (a.StepsBelowOne b ∨ b.StepsBelowOne a)) := by
  refine ⟨same_symm, fun a => a.same_self_iff.mpr, ?_, ?_⟩
  · intro a b c left right
    constructor
    · intro same
      exact ⟨fun merged => not_same_of_merged merged same,
        fun drifted => not_same_of_drifted drifted same⟩
    · rintro ⟨unmerged, undrifted⟩
      by_contra differ
      exact (merged_or_drifted left right differ).elim unmerged undrifted
  · intro a b m n same left right
    exact toInt64?_eq_iff_of_same same left right

/-- Both exceptions among small numbers: steps of half the tolerance add up to it, and one is the
same as the double below it, whose integer part is zero. -/
theorem tolerance_adds_up :
    (Value.float ⟨0⟩).same (.float ⟨0x3CA0000000000000⟩) = true ∧
      (Value.float ⟨0x3CA0000000000000⟩).same (.float ⟨0x3CB0000000000000⟩) = true ∧
      (Value.float ⟨0⟩).same (.float ⟨0x3CB0000000000000⟩) = false ∧
      (Value.integer 1).same (.float ⟨0x3FEFFFFFFFFFFFFF⟩) = true ∧
      (Value.integer 1).toInt64? = some 1 ∧
      (Value.float ⟨0x3FEFFFFFFFFFFFFF⟩).toInt64? = some 0 := by
  decide +kernel

/-- The integer one, the double one and the double below it. -/
theorem ones_compared :
    (¬ Double.Infinite ⟨0x3FF0000000000000⟩ ∧
      (Value.float ⟨0x3FF0000000000000⟩).same (.float ⟨0x3FF0000000000000⟩) = true) ∧
    ((Value.integer 1).same (.float ⟨0x3FF0000000000000⟩) = true ∧
      (Value.float ⟨0x3FF0000000000000⟩).same (.float ⟨0x3FEFFFFFFFFFFFFF⟩) = true ∧
      ((Value.integer 1).same (.float ⟨0x3FEFFFFFFFFFFFFF⟩) = true ↔
        ¬ (Value.integer 1).Merged (.float ⟨0x3FEFFFFFFFFFFFFF⟩) ∧
          ¬ (Value.integer 1).Drifted (.float ⟨0x3FEFFFFFFFFFFFFF⟩))) ∧
    ((Value.integer 1).same (.float ⟨0x3FF0000000000000⟩) = true ∧
      (Value.integer 1).toInt64? = some 1 ∧
      (Value.float ⟨0x3FF0000000000000⟩).toInt64? = some 1 ∧
      ((1 : Int64) = 1 ↔
        ¬ ((Value.integer 1).Rounded (.float ⟨0x3FF0000000000000⟩) ∨
            (Value.float ⟨0x3FF0000000000000⟩).Rounded (.integer 1)) ∧
          ¬ ((Value.integer 1).StepsBelowOne (.float ⟨0x3FF0000000000000⟩) ∨
            (Value.float ⟨0x3FF0000000000000⟩).StepsBelowOne (.integer 1)))) := by
  have finite : ¬ Double.Infinite ⟨0x3FF0000000000000⟩ := by
    rintro ⟨unbounded, -⟩
    revert unbounded
    decide +kernel
  have same : (Value.integer 1).same (.float ⟨0x3FF0000000000000⟩) = true := by decide +kernel
  have below : (Value.float ⟨0x3FF0000000000000⟩).same (.float ⟨0x3FEFFFFFFFFFFFFF⟩) = true := by
    decide +kernel
  have part : (Value.float ⟨0x3FF0000000000000⟩).toInt64? = some 1 := by decide +kernel
  obtain ⟨-, reflexive, passedOn, parts⟩ := same_nearly_congruent
  refine ⟨⟨finite, reflexive _ ?_⟩, ⟨same, below, passedOn _ _ _ same below⟩,
    same, rfl, part, parts _ _ _ _ same rfl part⟩
  rintro x ⟨⟩
  exact finite

end TableWrite
