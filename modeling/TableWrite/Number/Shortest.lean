import TableWrite.Number.Double
import TableWrite.Text.DecimalDigit

/-!
The fewest decimal digits that read back as a double.

A positive double is the nearest one to every real of an interval around it. Of the decimals in
that interval those with the fewest digits are taken, of these the nearest to the double, and
between two equally near ones a `Tie` decides.
-/

set_option autoImplicit false

namespace TableWrite

open Text

/-- Which of two equally near neighbours is taken. -/
inductive Tie where
  | up
  | toEven
deriving DecidableEq

/-- The decimal `significand * 10 ^ exponent`. -/
structure Decimal where
  significand : Nat
  exponent : Int
deriving DecidableEq

/-- The same decimal with no zero at the end of its significand. -/
def Decimal.withoutTrailingZeros (d : Decimal) : Decimal :=
  let written := digits d.significand
  let kept := (written.reverse.dropWhile (· == '0')).reverse
  ⟨ofDigits kept, d.exponent + (written.length - kept.length : Nat)⟩

namespace Double

/-- The distance, in units, from a finite magnitude to the next one above. -/
def gapAbove (x : Double) : Nat := twoTo (x.exponentField - 1)

/-- The distance to the next one below, which is half as large where the exponent changes. -/
def gapBelow (x : Double) : Nat :=
  if x.fraction = 0 ∧ 1 < x.exponentField then x.gapAbove / 2 else x.gapAbove

/-- Every grid below is as fine as `10 ^ -342` or coarser. -/
def finest : Nat := 342

/-- The width of the grid `10 ^ exponent` in half units, times `10 ^ finest`. -/
def gridCell (exponent : Int) : Nat := 2 * unitsPerOne * tenTo (exponent + finest).toNat

/-- Does the `n`-th point of the grid read back as `x`? The ends of the interval do exactly when
the significand of `x` is even. -/
def inside (x : Double) (exponent : Int) (n : Nat) : Bool :=
  let low := (2 * x.units - x.gapBelow) * tenTo finest
  let high := (2 * x.units + x.gapAbove) * tenTo finest
  let point := n * gridCell exponent
  if x.fraction % 2 = 0 then low ≤ point && point ≤ high else low < point && point < high

/-- The two integers around `num / den`, the nearer one first. -/
def neighbours (tie : Tie) (num den : Nat) : List Nat :=
  let below := num / den
  let rest := num % den
  let upperFirst : Bool :=
    if 2 * rest = den then
      match tie with
      | .up => true
      | .toEven => below % 2 = 1
    else den < 2 * rest
  if upperFirst then [below + 1, below] else [below, below + 1]

/-- The point of the grid `10 ^ exponent` nearest to `x` of those that read back as `x`. -/
def onGrid? (tie : Tie) (x : Double) (exponent : Int) : Option Nat :=
  (neighbours tie (2 * x.units * tenTo finest) (gridCell exponent)).find? (x.inside exponent)

theorem inside_of_onGrid? {tie : Tie} {x : Double} {exponent : Int} {n : Nat}
    (taken : onGrid? tie x exponent = some n) : x.inside exponent n = true :=
  List.find?_some taken

/-- The exponent of the leading decimal digit of a positive finite double. -/
def leadingExponent (x : Double) : Int :=
  (digits (x.units * tenTo 324 / unitsPerOne)).length - 325

/-- Seventeen digits are enough for any double. -/
def shortest (tie : Tie) (x : Double) : Decimal :=
  let candidates := (List.range 17).findSome? fun (count : Nat) =>
    let exponent := x.leadingExponent - count
    (onGrid? tie x exponent).map (Decimal.mk · exponent)
  (candidates.getD ⟨0, 0⟩).withoutTrailingZeros

end Double
end TableWrite
