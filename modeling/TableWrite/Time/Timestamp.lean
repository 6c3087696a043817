import TableWrite.Number.Power
import TableWrite.Text.Reader
import TableWrite.Time.Date

set_option autoImplicit false

namespace TableWrite

open Text

/-- An instant. The second 60 is a leap second. -/
structure Timestamp where
  date : Date
  hour : Fin 24
  minute : Fin 60
  second : Fin 61
  nanosecond : Fin 1000000000
deriving DecidableEq

namespace Timestamp

/-- Years of four digits go without a sign. -/
def yearChars (year : Int) : List Char :=
  if 0 ≤ year ∧ year ≤ 9999 then paddedDigits 4 year.natAbs
  else (if year < 0 then '-' else '+') :: paddedDigits 4 year.natAbs

/-- The fraction has none, three, six or nine digits, the fewest that are exact. -/
def fractionChars (nanosecond : Nat) : List Char :=
  if nanosecond = 0 then []
  else if nanosecond % 1000000 = 0 then '.' :: paddedDigits 3 (nanosecond / 1000000)
  else if nanosecond % 1000 = 0 then '.' :: paddedDigits 6 (nanosecond / 1000)
  else '.' :: paddedDigits 9 nanosecond

/-- The text that `chrono` documents as the one of RFC 3339, with the zone spelled as given. -/
def chars (zone : List Char) (t : Timestamp) : List Char :=
  yearChars t.date.year ++ '-' :: paddedDigits 2 t.date.month ++ '-' :: paddedDigits 2 t.date.day ++
    'T' :: paddedDigits 2 t.hour ++ ':' :: paddedDigits 2 t.minute ++ ':' ::
      paddedDigits 2 t.second ++ fractionChars t.nanosecond ++ zone

/-- The text with a numeric zone. -/
def text (t : Timestamp) : String := .ofList (t.chars ['+', '0', '0', ':', '0', '0'])

/-- The text with the short zone, as it is written in documents. -/
def shortText (t : Timestamp) : String := .ofList (t.chars ['Z'])

/-- The instant of a local date and time, given the minutes by which local time is ahead. -/
def ofLocal? (date : Date) (hour minute second nanosecond : Nat) (ahead : Int) :
    Option Timestamp := do
  let minuteOfDay : Int := hour * 60 + minute - ahead
  let date ←
    if minuteOfDay < 0 then date.previous?
    else if 1440 ≤ minuteOfDay then date.next?
    else some date
  let minuteOfDay := (minuteOfDay % 1440).toNat
  if fits : hour < 24 ∧ minute < 60 ∧ second < 61 ∧ nanosecond < 1000000000 then
    some ⟨date, .ofNat 24 (minuteOfDay / 60), .ofNat 60 minuteOfDay, ⟨second, fits.2.2.1⟩,
      ⟨nanosecond, fits.2.2.2⟩⟩
  else none

/-- A year has up to four digits, or a sign and any number of them. -/
def yearReader : Reader Int := do
  Reader.skipBlanks
  match ← Reader.optional fun c => c == '+' || c == '-' with
  | some sign =>
    let value : Int := ofDigits (← Reader.digitRun)
    return if sign = '-' then -value else value
  | none => return (← Reader.number 4 : Nat)

/-- One or two digits, after blanks. -/
def fieldReader : Reader Nat := do
  Reader.skipBlanks
  Reader.number 2

/-- A separator after blanks, and the field that follows it. -/
def nextFieldReader (separator : Char) : Reader Nat := do
  Reader.skipBlanks
  Reader.char separator
  fieldReader

/-- Nanoseconds from a fraction; digits after the ninth are dropped. -/
def fractionReader : Reader Nat := do
  match ← Reader.optional (· == '.') with
  | none => return 0
  | some _ =>
    let run := (← Reader.digitRun).take 9
    return ofDigits run * tenTo (9 - run.length)

/-- Blanks and colons between the hours and the minutes of a zone. -/
def isZoneGap (c : Char) : Bool := c == ':' || isBlank c

/-- The minutes by which the zone is ahead. The sign may be the mathematical minus. -/
def zoneReader : Reader Int := do
  let s ← get
  if (s.take 3).map Char.toUpper = ['U', 'T', 'C'] then
    set (s.drop 3)
    return 0
  let sign ← Reader.satisfying fun c =>
    c == 'Z' || c == 'z' || c == '+' || c == '-' || c == '\u2212'
  if sign = 'Z' ∨ sign = 'z' then return 0
  let hours ← Reader.fixedNumber 2
  modify (List.dropWhile isZoneGap)
  let minutes ← Reader.fixedNumber 2
  if 24 ≤ hours ∨ 60 ≤ minutes then failure
  let ahead : Int := hours * 60 + minutes
  return if sign = '+' then ahead else -ahead

/-- An instant in the relaxed form that `chrono` documents for its parser: blanks between the parts,
fields of one digit, a space in place of the letter `T`, and a zone by name or in hours and
minutes. -/
def reader : Reader Timestamp := do
  let year ← yearReader
  let month ← nextFieldReader '-'
  let day ← nextFieldReader '-'
  let _ ← Reader.satisfying fun c => c == 'T' || c == 't' || c == ' '
  let hour ← fieldReader
  let minute ← nextFieldReader ':'
  let second ← nextFieldReader ':'
  let nanosecond ← fractionReader
  Reader.skipBlanks
  let ahead ← zoneReader
  Reader.skipBlanks
  let date ← (Date.ofParts? year month day : Option Date)
  (ofLocal? date hour minute second nanosecond ahead : Option Timestamp)

def ofString? (s : String) : Option Timestamp := reader.all? s.toList

end Timestamp
end TableWrite
