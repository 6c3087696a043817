import TableWrite.Column
import TableWrite.Dialect

set_option autoImplicit false

namespace TableWrite

open Text

inductive Direction where
  | input
  | output
  | inputOutput
  | returnValue
deriving DecidableEq

namespace Direction

def all : List Direction := [input, output, inputOutput, returnValue]

def name : Direction → String
  | input => "Input"
  | output => "Output"
  | inputOutput => "InputOutput"
  | returnValue => "ReturnValue"

def ofName? (s : String) : Option Direction := all.find? (·.name == s)

theorem ofName?_name (d : Direction) : ofName? d.name = some d := by cases d <;> decide

/-- Does a value go to the database? -/
def sends : Direction → Bool
  | input | inputOutput => true
  | output | returnValue => false

/-- Does a value come back from the database? -/
def returns : Direction → Bool
  | input => false
  | output | inputOutput | returnValue => true

end Direction

/-- The two images of a row: its values as they are now, and as they were read. -/
inductive RowImage where
  | current
  | loaded
deriving DecidableEq

namespace RowImage

def all : List RowImage := [current, loaded]

def name : RowImage → String
  | current => "Current"
  | loaded => "Original"

def ofName? (s : String) : Option RowImage := all.find? (·.name == s)

theorem ofName?_name (i : RowImage) : ofName? i.name = some i := by cases i <;> decide

end RowImage

structure Parameter where
  name : String
  type : ProviderType
  size : Int64
  scale : UInt8
  precision : UInt8
  direction : Direction
  value : Value
  /-- The column of the row that the value is read from. -/
  source : Option String
  /-- The image of the row that the value is read from. -/
  image : RowImage
deriving DecidableEq

namespace Parameter

/-- An input without a value. -/
def ofType (name : String) (type : ProviderType) : Parameter :=
  ⟨name, type, 0, 0, 0, .input, .null, none, .current⟩

/-- The name of a parameter for a column: blanks are left out. -/
def nameOf (d : Dialect) (column : String) : String :=
  d.parameterName (.ofList (unspaced column.toList))

theorem nameOf_eq_iff (d : Dialect) (a b : String) :
    nameOf d a = nameOf d b ↔ unspaced a.toList = unspaced b.toList := by
  unfold nameOf
  rw [Dialect.parameterName_inj, String.ofList_inj]

/-- The parameter that stands for a column in every command on its table. -/
def ofColumn (d : Dialect) (c : Column) : Parameter where
  name := nameOf d c.name
  type := c.type
  size := max c.maxLength 0
  scale := c.scale
  precision := c.precision
  direction := .input
  value := .null
  source := some c.name
  image := .current

/-- The parameter with a value of its own, which no row replaces. -/
def literal (p : Parameter) (v : Value) : Parameter := { p with value := v, source := none }

def reading (p : Parameter) (image : RowImage) : Parameter := { p with image := image }

end Parameter
end TableWrite
