import TableWrite.Number.Layout
import TableWrite.Proofs.WrittenNumerals

set_option autoImplicit false

namespace TableWrite

open Text

theorem Text.ofDigits_append_zeros (front : List Char) (n : Nat) :
    ofDigits (front ++ List.replicate n '0') = tenTo n * ofDigits front := by
  change Nat.ofDigitChars 10 (front ++ List.replicate n '0') 0 = _
  rw [Nat.ofDigitChars_append, Nat.ofDigitChars_replicate_zero]
  rfl

theorem tenTo_pos (n : Nat) : 0 < tenTo n := Nat.pow_pos (by decide)

theorem tenTo_add (m n : Nat) : tenTo (m + n) = tenTo m * tenTo n := Nat.pow_add 10 m n

theorem Text.tenTo_length_digits_le {n : Nat} (positive : 0 < n) :
    tenTo ((digits n).length - 1) ≤ n := by
  by_cases one : (digits n).length - 1 = 0
  · rw [one]
    exact positive
  · refine Nat.not_lt.mp fun short => ?_
    have fewer := (Nat.length_toDigits_le_iff (by decide) (Nat.pos_of_ne_zero one)).mpr short
    change (digits n).length ≤ _ at fewer
    omega

theorem Decimal.significand_withoutTrailingZeros_pos {d : Decimal} (positive : 0 < d.significand) :
    0 < d.withoutTrailingZeros.significand := by
  let back := (digits d.significand).reverse
  have zeros : (back.takeWhile (· == '0')).reverse =
      List.replicate (back.takeWhile (· == '0')).length '0' := by
    rw [List.eq_replicate_iff]
    refine ⟨List.length_reverse, fun c mem => ?_⟩
    simpa using List.all_eq_true.mp List.all_takeWhile c (List.mem_reverse.mp mem)
  have cut : digits d.significand =
      (back.dropWhile (· == '0')).reverse ++ (back.takeWhile (· == '0')).reverse := by
    rw [← List.reverse_append, List.takeWhile_append_dropWhile, List.reverse_reverse]
  rw [zeros] at cut
  have whole := ofDigits_digits d.significand
  rw [cut, ofDigits_append_zeros] at whole
  exact Nat.pos_of_mul_pos_left (whole ▸ positive)

namespace Double

variable {x : Double}

theorem gapAbove_le_units (nonzero : x.units ≠ 0) : x.gapAbove ≤ x.units := by
  have := twoTo_pos 52
  unfold units gapAbove at *
  split
  · rename_i low
    simp only [low, ↓reduceIte] at nonzero
    simp only [low]
    change 1 ≤ x.fraction
    omega
  · exact Nat.le_mul_of_pos_left _ (by omega)

theorem gapBelow_le_gapAbove (x : Double) : x.gapBelow ≤ x.gapAbove := by
  unfold gapBelow
  split <;> omega

/-- A significand has 53 bits. -/
theorem units_le_gapBelow (x : Double) : x.units ≤ twoTo 53 * x.gapBelow := by
  have small := x.fraction_lt
  have double : ∀ n, twoTo (n + 1) = 2 * twoTo n := fun n => Nat.pow_succ'
  unfold units gapBelow gapAbove
  by_cases low : x.exponentField = 0
  · have unit : twoTo (0 - 1) = 1 := rfl
    simp only [low, ↓reduceIte, Nat.not_lt_zero, and_false, unit, double 52]
    omega
  · rw [if_neg low]
    by_cases edge : x.fraction = 0 ∧ 1 < x.exponentField
    · obtain ⟨e, field⟩ : ∃ e, x.exponentField - 1 = e + 1 := ⟨x.exponentField - 2, by omega⟩
      have half : twoTo (e + 1) / 2 = twoTo e := by
        rw [double e, Nat.mul_div_cancel_left _ (by decide)]
      rw [if_pos edge, edge.1, field, half, double e, double 52, Nat.add_zero]
      exact Nat.le_of_eq (by rw [Nat.mul_left_comm, Nat.mul_assoc])
    · rw [if_neg edge]
      exact Nat.mul_le_mul_right _ (by rw [double 52]; omega)

theorem gapBelow_pos (nonzero : x.units ≠ 0) : 0 < x.gapBelow := by
  have whole := x.units_le_gapBelow
  refine Nat.pos_of_ne_zero fun none => nonzero ?_
  rw [none, Nat.mul_zero] at whole
  exact Nat.le_zero.mp whole

/-- The search ends on a grid that is finer than the interval of the double. -/
theorem gridCell_lt_gapBelow (nonzero : x.units ≠ 0) :
    gridCell (x.leadingExponent - 16) < 2 * (x.gapBelow * tenTo finest) := by
  let quotient := x.units * tenTo 324 / unitsPerOne
  have one : 0 < quotient := by
    have least : unitsPerOne ≤ tenTo 324 := by decide +kernel
    refine Nat.div_pos (Nat.le_trans least (Nat.le_mul_of_pos_left _ ?_)) (twoTo_pos 1074)
    exact Nat.pos_of_ne_zero nonzero
  obtain ⟨l, length⟩ : ∃ l, (digits quotient).length = l + 1 :=
    Nat.exists_eq_succ_of_ne_zero (by simpa using digits_ne_nil quotient)
  have leading : unitsPerOne * tenTo l ≤ x.units * tenTo 324 := by
    have digit : tenTo l ≤ quotient := by
      simpa [length] using tenTo_length_digits_le one
    exact Nat.le_trans (Nat.mul_le_mul_left _ digit) (Nat.mul_div_le _ _)
  have cell : gridCell (x.leadingExponent - 16) = 200 * (unitsPerOne * tenTo l) := by
    have exponent : (x.leadingExponent - 16 + finest).toNat = l + 2 := by
      have : x.leadingExponent = (digits quotient).length - 325 := rfl
      simp only [this, length, finest]
      omega
    have power : tenTo (l + 2) = tenTo l * 100 := tenTo_add l 2
    rw [gridCell, exponent, power, ← Nat.mul_assoc, Nat.mul_assoc 2, Nat.mul_right_comm,
      Nat.mul_comm]
  have bits : 200 * (x.units * tenTo 324) < 2 * (x.gapBelow * tenTo finest) := by
    have power : tenTo finest = tenTo 18 * tenTo 324 := tenTo_add 18 324
    have decimal : tenTo 18 = 1000000000000000000 := rfl
    have binary : twoTo 53 = 9007199254740992 := rfl
    have gap := Nat.mul_le_mul_right (tenTo 324) x.units_le_gapBelow
    have positive := Nat.mul_pos (gapBelow_pos nonzero) (tenTo_pos 324)
    rw [power, decimal, Nat.mul_left_comm x.gapBelow]
    rw [binary, Nat.mul_assoc] at gap
    omega
  omega

/-- The nearer one of two neighbours is at most half a step away. -/
theorem neighbours_nearest (tie : Tie) (num : Nat) {den : Nat} (positive : 0 < den) :
    ∃ n others, neighbours tie num den = n :: others ∧
      2 * (n * den) ≤ 2 * num + den ∧ 2 * num ≤ 2 * (n * den) + den := by
  have whole := Nat.div_add_mod' num den
  have small := Nat.mod_lt num positive
  have above (far : den ≤ 2 * (num % den)) :
      2 * ((num / den + 1) * den) ≤ 2 * num + den ∧
        2 * num ≤ 2 * ((num / den + 1) * den) + den := by
    rw [Nat.add_mul]
    omega
  have below (close : 2 * (num % den) ≤ den) :
      2 * (num / den * den) ≤ 2 * num + den ∧ 2 * num ≤ 2 * (num / den * den) + den := by omega
  by_cases half : 2 * (num % den) = den
  · simp only [neighbours, half, ↓reduceIte]
    split
    · exact ⟨num / den + 1, [num / den], rfl, above (by omega)⟩
    · split
      · exact ⟨num / den + 1, [num / den], rfl, above (by omega)⟩
      · exact ⟨num / den, [num / den + 1], rfl, below (by omega)⟩
  · simp only [neighbours, half, ↓reduceIte, decide_eq_true_eq]
    split
    · exact ⟨num / den + 1, [num / den], rfl, above (by omega)⟩
    · exact ⟨num / den, [num / den + 1], rfl, below (by omega)⟩

theorem inside_of_near {exponent : Int} {n : Nat} (nonzero : x.units ≠ 0)
    (fine : gridCell exponent < 2 * (x.gapBelow * tenTo finest))
    (above : 2 * (n * gridCell exponent) ≤ 2 * (2 * x.units * tenTo finest) + gridCell exponent)
    (below : 2 * (2 * x.units * tenTo finest) ≤ 2 * (n * gridCell exponent) + gridCell exponent) :
    x.inside exponent n = true := by
  have gap := Nat.mul_le_mul_right (tenTo finest) x.gapBelow_le_gapAbove
  have low := Nat.mul_le_mul_right (tenTo finest) (gapAbove_le_units nonzero)
  rw [Nat.mul_assoc 2] at above below
  simp only [inside, Nat.sub_mul, Nat.add_mul, Nat.mul_assoc 2]
  split
  · simp only [Bool.and_eq_true, decide_eq_true_eq]
    omega
  · simp only [Bool.and_eq_true, decide_eq_true_eq]
    omega

theorem onGrid?_finest (tie : Tie) (nonzero : x.units ≠ 0) :
    ∃ n, onGrid? tie x (x.leadingExponent - 16) = some n := by
  have step : 0 < gridCell (x.leadingExponent - 16) :=
    Nat.mul_pos (Nat.mul_pos (by decide) (twoTo_pos 1074)) (tenTo_pos _)
  obtain ⟨n, others, first, above, below⟩ :=
    neighbours_nearest tie (2 * x.units * tenTo finest) step
  refine ⟨n, ?_⟩
  rw [onGrid?, first, List.find?_cons_of_pos
    (inside_of_near nonzero (gridCell_lt_gapBelow nonzero) above below)]

theorem pos_of_inside {exponent : Int} {n : Nat} (nonzero : x.units ≠ 0)
    (within : x.inside exponent n = true) : 0 < n := by
  have gap := x.gapBelow_le_gapAbove
  have units := gapAbove_le_units nonzero
  have low : 0 < (2 * x.units - x.gapBelow) * tenTo finest :=
    Nat.mul_pos (by omega) (tenTo_pos finest)
  refine Nat.pos_of_ne_zero fun none => ?_
  subst none
  simp only [inside, Nat.zero_mul] at within
  split at within <;> simp only [Bool.and_eq_true, decide_eq_true_eq] at within <;> omega

theorem significand_shortest_pos (tie : Tie) (nonzero : x.units ≠ 0) :
    0 < (x.shortest tie).significand := by
  obtain ⟨finest, last⟩ := onGrid?_finest tie nonzero
  have found : ((List.range 17).findSome? fun (count : Nat) =>
      (onGrid? tie x (x.leadingExponent - count)).map
        (Decimal.mk · (x.leadingExponent - count))).isSome := by
    rw [List.findSome?_isSome_iff]
    exact ⟨16, by decide, by simp [last]⟩
  obtain ⟨d, chosen⟩ := Option.isSome_iff_exists.mp found
  obtain ⟨count, -, taken⟩ := List.exists_of_findSome?_eq_some chosen
  obtain ⟨n, onGrid, rfl⟩ := Option.map_eq_some_iff.mp taken
  simp only [shortest, chosen, Option.getD_some]
  exact Decimal.significand_withoutTrailingZeros_pos
    (pos_of_inside nonzero (inside_of_onGrid? onGrid))

end Double

namespace Layout

variable {x : Double}

theorem isDigit_of_mem_zeros {n : Nat} {c : Char} (mem : c ∈ zeros n) : c.isDigit = true := by
  rw [List.eq_of_mem_replicate mem]
  rfl

theorem isRun_take_digits (n : Nat) {count : Nat} (positive : 0 < count) :
    IsRun ((digits n).take count) where
  nonempty := by
    rw [Ne, List.take_eq_nil_iff, not_or]
    exact ⟨Nat.ne_of_gt positive, digits_ne_nil n⟩
  digits := fun _ mem => isDigit_of_mem_digits (List.mem_of_mem_take mem)

theorem head?_take_digits {n count : Nat} (positive : 0 < n) (some : 0 < count) :
    ((digits n).take count).head? ≠ .some '0' := by
  rw [List.head?_take, if_neg (Nat.ne_of_gt some)]
  exact head?_digits_ne_zero positive

/-- Around the point stand digits, and no zero in front of others. -/
theorem positionalParts_digits {n : Nat} (positive : 0 < n) (exponent : Int)
    {whole fraction : List Char} (parts : positionalParts (digits n) exponent = (whole, fraction)) :
    IsRun whole ∧ (whole.head? = some '0' → whole.length = 1) ∧
      ∀ c ∈ fraction, c.isDigit = true := by
  unfold positionalParts at parts
  simp only at parts
  split at parts
  · cases parts
    refine ⟨⟨?_, fun c mem => ?_⟩, fun zero => ?_, nofun⟩
    · exact List.append_ne_nil_of_left_ne_nil (digits_ne_nil n) _
    · exact (List.mem_append.mp mem).elim isDigit_of_mem_digits isDigit_of_mem_zeros
    · rw [List.head?_append, List.head?_eq_some_head (digits_ne_nil n)] at zero
      exact absurd ((List.head?_eq_some_head _).trans zero) (head?_digits_ne_zero positive)
  · split at parts
    · rename_i before
      cases parts
      have some : 0 < (↑(digits n).length + exponent).toNat := by omega
      exact ⟨isRun_take_digits n some, fun zero => absurd zero (head?_take_digits positive some),
        fun c mem => isDigit_of_mem_digits (List.mem_of_mem_drop mem)⟩
    · cases parts
      refine ⟨isRun_digits 0, fun _ => rfl, fun c mem => ?_⟩
      exact (List.mem_append.mp mem).elim isDigit_of_mem_zeros isDigit_of_mem_digits

theorem grammatical_positional {n : Nat} (positive : 0 < n) {layout : Layout}
    (padding : ∀ c ∈ layout.wholeFraction, c.isDigit = true) (negative : Bool) {exponent : Int}
    {whole fraction : List Char} (parts : positionalParts (digits n) exponent = (whole, fraction)) :
    Numeral.Grammatical
      ⟨negative, whole, if fraction.isEmpty then layout.wholeFraction else fraction, none⟩ := by
  obtain ⟨isRun, leading, behind⟩ := positionalParts_digits positive exponent parts
  refine ⟨isRun, leading, ?_, nofun⟩
  simp only
  split
  · exact padding
  · exact behind

theorem grammatical_scientific {n : Nat} (positive : 0 < n) (negative below : Bool)
    (exponent : Nat) :
    Numeral.Grammatical
      ⟨negative, (digits n).take 1, (digits n).drop 1, some ⟨below, digits exponent⟩⟩ where
  whole := isRun_take_digits n Nat.one_pos
  leading := fun zero => absurd zero (head?_take_digits positive Nat.one_pos)
  fraction := fun _ mem => isDigit_of_mem_digits (List.mem_of_mem_drop mem)
  exponent := by
    rintro e ⟨⟩
    exact isRun_digits exponent

def numeralOf (layout : Layout) (negative : Bool) (d : Decimal) : Numeral :=
  let written := digits d.significand
  let leading := d.exponent + written.length - 1
  if layout.positional leading then
    let (whole, fraction) := positionalParts written d.exponent
    ⟨negative, whole, if fraction.isEmpty then layout.wholeFraction else fraction, none⟩
  else ⟨negative, written.take 1, written.drop 1, some ⟨leading < 0, digits leading.natAbs⟩⟩

theorem numeral_of_units_ne_zero (layout : Layout) {x : Double} (nonzero : x.units ≠ 0) :
    layout.numeral x = layout.numeralOf x.isNegative (x.shortest layout.tie) := by
  rw [numeral, if_neg nonzero]
  rfl

variable {layout : Layout}

theorem grammatical_numeralOf {d : Decimal} (positive : 0 < d.significand)
    (padding : ∀ c ∈ layout.wholeFraction, c.isDigit = true) (negative : Bool) :
    (layout.numeralOf negative d).Grammatical := by
  unfold numeralOf
  extract_lets written leading
  split
  · exact grammatical_positional positive padding negative rfl
  · exact grammatical_scientific positive negative _ _

/-- The numeral of a double keeps to the grammar. -/
theorem grammatical_numeral (padding : ∀ c ∈ layout.wholeFraction, c.isDigit = true) (x : Double) :
    (layout.numeral x).Grammatical := by
  by_cases zero : x.units = 0
  · rw [numeral, if_pos zero]
    exact ⟨isRun_digits 0, fun _ => rfl, padding, nofun⟩
  · rw [numeral_of_units_ne_zero layout zero]
    exact grammatical_numeralOf (Double.significand_shortest_pos layout.tie zero) padding _

end Layout

end TableWrite
