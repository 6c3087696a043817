set_option autoImplicit false

namespace TableWrite.Text

/-- The lower case character of a hexadecimal digit. -/
def hexChar (d : Fin 16) : Char := Nat.digitChar d

/-- The value of a hexadecimal digit in either case. -/
def hexValue? (c : Char) : Option (Fin 16) :=
  (List.finRange 16).find? fun d => hexChar d == c.toLower

theorem hexValue?_hexChar (d : Fin 16) : hexValue? (hexChar d) = some d := by
  revert d
  decide

/-- The two digits of a byte, the high one first. -/
def byteDigits (b : UInt8) : Fin 16 × Fin 16 := (Fin.ofNat 16 (b.toNat / 16), Fin.ofNat 16 b.toNat)

/-- The two upper case digits of a byte. -/
def upperHex (b : UInt8) : List Char :=
  [(hexChar (byteDigits b).1).toUpper, (hexChar (byteDigits b).2).toUpper]

/-- The two lower case digits of a byte. -/
def lowerHex (b : UInt8) : List Char := [hexChar (byteDigits b).1, hexChar (byteDigits b).2]

end TableWrite.Text
