import TableWrite.Delimiters

set_option autoImplicit false

namespace TableWrite

structure Dialect where
  /-- Around catalogs, schemas and tables. -/
  table : Delimiters
  column : Delimiters
  procedure : Delimiters
  /-- In front of the name of a parameter. -/
  parameterMark : String
  /-- In the place of a parameter without a name. -/
  placeholder : String
  /-- The error code by which the database says that no row was found to write. -/
  conflictCode : Int32
deriving DecidableEq

namespace Dialect

def standard : Dialect := ⟨.brackets, .brackets, .brackets, "@", "?", 532⟩

instance : Inhabited Dialect := ⟨standard⟩

def parameterName (d : Dialect) (name : String) : String := d.parameterMark ++ name

theorem parameterName_inj {d : Dialect} {a b : String} :
    d.parameterName a = d.parameterName b ↔ a = b :=
  String.append_right_inj d.parameterMark

/-- What makes a dialect unusable. -/
inductive Fault where
  | noParameterMark
  | noPlaceholder
  | unpairedTable
  | unpairedColumn
  | unpairedProcedure
deriving DecidableEq

def Fault.message : Fault → String
  | noParameterMark => "param_prefix cannot be empty"
  | noPlaceholder => "positional_placeholder cannot be empty"
  | unpairedTable => "table delimiters must both be set or both be empty"
  | unpairedColumn => "column delimiters must both be set or both be empty"
  | unpairedProcedure => "procedure delimiters must both be set or both be empty"

/-- The first fault of a dialect. -/
def fault? (d : Dialect) : Option Fault :=
  if d.parameterMark.isEmpty then some .noParameterMark
  else if d.placeholder.isEmpty then some .noPlaceholder
  else if ¬ d.table.Paired then some .unpairedTable
  else if ¬ d.column.Paired then some .unpairedColumn
  else if ¬ d.procedure.Paired then some .unpairedProcedure
  else none

theorem fault?_eq_none_iff (d : Dialect) :
    d.fault? = none ↔ (d.parameterMark ≠ "" ∧ d.placeholder ≠ "") ∧
      d.table.Paired ∧ d.column.Paired ∧ d.procedure.Paired := by
  unfold fault?
  grind [String.isEmpty_iff]

theorem fault?_standard : standard.fault? = none := by decide +kernel

end Dialect
end TableWrite
