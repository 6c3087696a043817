import TableWrite.Number.Numeral
import TableWrite.Number.Double

/-!
Numerals read as doubles, by scaling, which is how `serde_json` reads them without its feature
`float_roundtrip`.

The digits are taken into a significand of 64 bits as long as they fit, and the significand is
then scaled by powers of ten that are doubles themselves. Each step rounds, so that the result may
lie a few steps beside the nearest double.
-/

set_option autoImplicit false

namespace TableWrite

open Text

namespace Numeral

/-- The largest significand. -/
def significandLimit : Nat := twoTo 64 - 1

/-- Takes digits into a significand while they fit; how many were left out comes second. -/
def takeDigits (significand : Nat) : List Char → Nat × Nat
  | [] => (significand, 0)
  | c :: rest =>
    let next := 10 * significand + digitValue c
    if next ≤ significandLimit then takeDigits next rest else (significand, rest.length + 1)

/-- The written exponent. -/
def exponentValue (n : Numeral) : Int :=
  match n.exponent with
  | none => 0
  | some e => if e.negative then -(ofDigits e.digits : Int) else ofDigits e.digits

/-- The significand, and the power of ten that goes with it. Digits left out before the point
count as zeros, digits left out behind it do not count. -/
def parts (n : Numeral) : Nat × Int :=
  let (whole, wholeLeft) := takeDigits 0 n.whole
  let (significand, fractionLeft) := takeDigits whole n.fraction
  (significand, n.exponentValue + wholeLeft - (n.fraction.length - fractionLeft : Nat))

/-- The largest power of ten that is used in one step. -/
def maxPower : Nat := 308

def powerOfTen (exponent : Nat) : Double := .ofNat (tenTo exponent)

/-- The magnitude times a power of ten, unless it is too large. -/
def scale? (x : Double) (exponent : Int) : Option Double :=
  if x.units = 0 then some x
  else if 0 ≤ exponent then
    if exponent.toNat ≤ maxPower then
      let product := x.mulMagnitude (powerOfTen exponent.toNat)
      if product.isFinite then some product else none
    else none
  else if exponent.natAbs ≤ maxPower then some (x.divMagnitude (powerOfTen exponent.natAbs))
  else scale? (x.divMagnitude (powerOfTen maxPower)) (exponent + maxPower)
termination_by exponent.natAbs
decreasing_by
  simp only [maxPower] at *
  omega

/-- The double that a numeral is read as, unless it is too large. -/
def toDouble? (n : Numeral) : Option Double :=
  let (significand, exponent) := n.parts
  (scale? (.ofNat significand) exponent).map fun x => if n.negative then x.negate else x

end Numeral
end TableWrite
