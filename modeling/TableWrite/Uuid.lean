import TableWrite.Text.Hex

set_option autoImplicit false

namespace TableWrite

open Text

structure Uuid where
  digits : List (Fin 16)
  length_digits : digits.length = 32
deriving DecidableEq

namespace Uuid

/-- Puts the hyphens after 8, 12, 16 and 20 digits. -/
def hyphenate (s : List Char) : List Char :=
  s.take 8 ++ '-' :: ((s.drop 8).take 4 ++ '-' :: ((s.drop 12).take 4 ++
    '-' :: ((s.drop 16).take 4 ++ '-' :: s.drop 20)))

/-- The hyphenated form in small letters, which `uuid` writes by default. -/
def chars (u : Uuid) : List Char := hyphenate (u.digits.map hexChar)

def text (u : Uuid) : String := .ofList u.chars

/-- Reads thirty-two digits in any case. -/
def ofPlain? (s : List Char) : Option Uuid := do
  let ds ← s.mapM hexValue?
  if complete : ds.length = 32 then some ⟨ds, complete⟩ else none

/-- Reads the hyphenated form in any case. -/
def ofHyphenated? (s : List Char) : Option Uuid := do
  let u ← ofPlain? (s.filter (· != '-'))
  if u.chars = s.map Char.toLower then some u else none

def urn : List Char := "urn:uuid:".toList

/-- Reads an identifier in the four forms that `uuid` documents for its parser, told apart by their
lengths: plain, hyphenated, hyphenated in braces, and as a URN. -/
def ofChars? (s : List Char) : Option Uuid :=
  if s.length = 32 then ofPlain? s
  else if s.length = 38 ∧ s.head? = some '{' ∧ s.getLast? = some '}' then
    ofHyphenated? s.tail.dropLast
  else if s.length = 45 ∧ (s.take urn.length).map Char.toLower = urn then
    ofHyphenated? (s.drop urn.length)
  else ofHyphenated? s

def ofString? (s : String) : Option Uuid := ofChars? s.toList

end Uuid
end TableWrite
