import TableWrite.Number.Numeral
import TableWrite.Number.Shortest

set_option autoImplicit false

namespace TableWrite

open Text

/-- The decisions of one written form of doubles. -/
structure Layout where
  /-- Which of two equally near shortest numerals is written. -/
  tie : Tie
  /-- Is a number with this exponent of its leading digit written without an exponent? -/
  positional : Int → Bool
  /-- The fraction digits of a positional whole number. -/
  wholeFraction : List Char

namespace Layout

def zeros (n : Nat) : List Char := List.replicate n '0'

/-- The digits around the point when all of them are written out. -/
def positionalParts (written : List Char) (exponent : Int) : List Char × List Char :=
  let before : Int := written.length + exponent
  if 0 ≤ exponent then (written ++ zeros exponent.toNat, [])
  else if 0 < before then (written.take before.toNat, written.drop before.toNat)
  else (['0'], zeros (-before).toNat ++ written)

def numeral (layout : Layout) (x : Double) : Numeral :=
  if x.units = 0 then ⟨x.isNegative, ['0'], layout.wholeFraction, none⟩
  else
    let decimal := x.shortest layout.tie
    let written := digits decimal.significand
    let leading := decimal.exponent + written.length - 1
    if layout.positional leading then
      let (whole, fraction) := positionalParts written decimal.exponent
      ⟨x.isNegative, whole, if fraction.isEmpty then layout.wholeFraction else fraction, none⟩
    else
      ⟨x.isNegative, written.take 1, written.drop 1, some ⟨leading < 0, digits leading.natAbs⟩⟩

end Layout
end TableWrite
