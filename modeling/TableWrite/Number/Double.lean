import TableWrite.Number.Power

/-!
Doubles: the 64-bit binary floating point numbers, given by their bits.

Every finite double is a whole number of *units*, the unit being the least positive double
`2^-1074`, so that the rules below compare and round integers.
-/

set_option autoImplicit false

namespace TableWrite

structure Double where
  bits : UInt64
deriving DecidableEq

namespace Double

def fraction (x : Double) : Nat := x.bits.toNat % twoTo 52

def exponentField (x : Double) : Nat := x.bits.toNat / twoTo 52 % twoTo 11

def isNegative (x : Double) : Bool := twoTo 63 ≤ x.bits.toNat

def isFinite (x : Double) : Bool := x.exponentField < 2047

def isNaN (x : Double) : Bool := x.exponentField == 2047 && x.fraction != 0

/-- The magnitude of a finite double in units. -/
def units (x : Double) : Nat :=
  if x.exponentField = 0 then x.fraction
  else (twoTo 52 + x.fraction) * twoTo (x.exponentField - 1)

def signedUnits (x : Double) : Int := if x.isNegative then -(x.units : Int) else x.units

theorem fraction_lt (x : Double) : x.fraction < twoTo 52 := Nat.mod_lt _ (twoTo_pos 52)

theorem isNaN_eq_false {x : Double} (finite : x.isFinite = true) : x.isNaN = false := by
  have small : x.exponentField ≠ 2047 := by
    have := of_decide_eq_true finite
    omega
  simp only [isNaN, beq_eq_false_iff_ne.mpr small, Bool.false_and]

theorem natAbs_signedUnits (x : Double) : x.signedUnits.natAbs = x.units := by
  unfold signedUnits
  split <;> simp

/-- `num / den` to the nearest integer, a half to the even neighbour. -/
def roundHalfEven (num den : Nat) : Nat :=
  let quotient := num / den
  let rest := num % den
  if 2 * rest < den || (2 * rest == den && quotient % 2 == 0) then quotient else quotient + 1

/-- The bits of the sign. -/
def signBits (negative : Bool) : Nat := if negative then twoTo 63 else 0

/-- The double of so many units, which must have at most 53 significant bits; infinity where
the magnitude is too large. Counting up through the bits counts up through the doubles. -/
def ofUnits (negative : Bool) (u : Nat) : Double :=
  let shift := u.log2 - 52
  ⟨.ofNat (signBits negative + min (shift * twoTo 52 + u / twoTo shift) (2047 * twoTo 52))⟩

/-- The double nearest to `num / den` units. -/
def roundUnits (negative : Bool) (num den : Nat) : Double :=
  let step := twoTo ((num / den).log2 - 52)
  ofUnits negative (roundHalfEven num (den * step) * step)

/-- How many units make one. -/
def unitsPerOne : Nat := twoTo 1074

/-- The double nearest to an integer. -/
def ofInt (i : Int) : Double := roundUnits (i < 0) (i.natAbs * unitsPerOne) 1

def ofNat (n : Nat) : Double := ofInt n

def negate (x : Double) : Double := ⟨x.bits ^^^ 0x8000000000000000⟩

/-- The product of two magnitudes, rounded. -/
def mulMagnitude (x y : Double) : Double := roundUnits false (x.units * y.units) unitsPerOne

/-- The quotient of two magnitudes, rounded; `y` is not zero. -/
def divMagnitude (x y : Double) : Double := roundUnits false (x.units * unitsPerOne) y.units

/-- Differences of so many units and more round to `2^-52` or above: it lies half a step below
that double. -/
def nearBound : Nat := (twoTo 54 - 1) * twoTo 968

/-- Two finite doubles are near when their difference, rounded to a double, is below `2^-52`. -/
def near (x y : Double) : Bool :=
  x.isFinite && y.isFinite && (x.signedUnits - y.signedUnits).natAbs < nearBound

theorem nearBound_pos : 0 < nearBound := Nat.mul_pos (by decide) (twoTo_pos 968)

theorem near_refl (x : Double) (finite : x.isFinite = true) : x.near x = true := by
  simp [near, finite, nearBound_pos]

theorem near_symm (x y : Double) : x.near y = y.near x := by
  have : (x.signedUnits - y.signedUnits).natAbs = (y.signedUnits - x.signedUnits).natAbs := by omega
  simp only [near, this, Bool.and_comm x.isFinite]

/-- The integer next to a finite double on the side of zero. -/
def truncate (x : Double) : Int :=
  let whole : Int := x.units / unitsPerOne
  if x.isNegative then -whole else whole

/-- The integer part of a double between `-2^63` and `2^63`, both included; the upper end
stands for the largest integer. -/
def toInt64? (x : Double) : Option Int64 :=
  if x.isFinite && x.units ≤ twoTo 63 * unitsPerOne then
    some (Int64.ofInt (min x.truncate Int64.maxValue.toInt))
  else none

end Double
end TableWrite
