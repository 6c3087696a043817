import TableWrite.Number.Layout
import TableWrite.Time.Timestamp
import TableWrite.Uuid

set_option autoImplicit false

namespace TableWrite

open Text

inductive Value where
  | null
  | boolean (b : Bool)
  | integer (i : Int64)
  | float (x : Double)
  | uuid (u : Uuid)
  | timestamp (t : Timestamp)
  | text (s : String)
  | bytes (bs : List UInt8)
deriving DecidableEq

namespace Value

instance : Inhabited Value := ⟨null⟩

/-- The double nearest to an integer value. -/
def doubleOf (i : Int64) : Double := .ofInt i.toInt

/-- Doubles are the same when they are near or neither is a number; an integer is compared with
a double as the double nearest to it. Values of other kinds are the same when they are equal. -/
def same : Value → Value → Bool
  | float x, float y => (x.isNaN && y.isNaN) || x.near y
  | integer i, float y => (doubleOf i).near y
  | float x, integer j => (doubleOf j).near x
  | a, b => a = b

theorem same_symm (a b : Value) : a.same b = b.same a := by
  cases a <;> cases b <;> simp [same, Double.near_symm, Bool.and_comm, eq_comm]

def isNull : Value → Bool
  | null => true
  | _ => false

/-- The integer that a number stands for, if it has one. -/
def toInt64? : Value → Option Int64
  | integer i => some i
  | float x => x.toInt64?
  | _ => none

/-- Doubles in messages are never written with an exponent, a whole number without a point, and
a half digit goes up. -/
def messageLayout : Layout := ⟨.up, fun _ => true, []⟩

def doubleMessage (x : Double) : String :=
  if x.isFinite then (messageLayout.numeral x).text
  else if x.isNaN then "NaN"
  else if x.isNegative then "-inf"
  else "inf"

/-- How a value is shown to people. -/
def message : Value → String
  | null => "NULL"
  | boolean b => if b then "true" else "false"
  | integer i => (Numeral.ofInt i.toInt).text
  | float x => doubleMessage x
  | uuid u => u.text
  | timestamp t => t.text
  | text s => "'" ++ s ++ "'"
  | bytes bs => "0x" ++ .ofList (bs.flatMap upperHex)

end Value
end TableWrite
