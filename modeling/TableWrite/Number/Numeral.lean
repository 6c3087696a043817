import TableWrite.Text.DecimalDigit

set_option autoImplicit false

namespace TableWrite

open Text

/-- The exponent of a numeral; the sign is kept apart from the digits. -/
structure Exponent where
  negative : Bool
  digits : List Char
deriving DecidableEq

/-- A numeral such as `-12.50e+7`; the lists hold ASCII digits, and an empty `fraction` goes
without its point. -/
structure Numeral where
  negative : Bool
  whole : List Char
  fraction : List Char
  exponent : Option Exponent
deriving DecidableEq

namespace Numeral

def ofInt (i : Int) : Numeral := ⟨i < 0, digits i.natAbs, [], none⟩

def ofNat (n : Nat) : Numeral := ofInt n

def sign (negative : Bool) : List Char := if negative then ['-'] else []

def chars (n : Numeral) : List Char :=
  sign n.negative ++ n.whole ++ (if n.fraction.isEmpty then [] else '.' :: n.fraction) ++
    match n.exponent with
    | none => []
    | some e => 'e' :: (if e.negative then '-' else '+') :: e.digits

def text (n : Numeral) : String := .ofList n.chars

/-- The integer that a numeral writes, if it has neither point nor exponent. A minus before
zero makes it a floating numeral: no integer is written so. -/
def toInt? (n : Numeral) : Option Int :=
  if n.fraction.isEmpty && n.exponent.isNone then
    let magnitude := ofDigits n.whole
    if n.negative then if magnitude = 0 then none else some (-magnitude) else some magnitude
  else none

end Numeral
end TableWrite
