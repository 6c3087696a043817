import TableWrite.Error
import TableWrite.Json.Parse
import TableWrite.Json.Record

set_option autoImplicit false

namespace TableWrite.Dialect

def toJson (d : Dialect) : Json :=
  .object [
    ("table_open", .string d.table.opening),
    ("table_close", .string d.table.closing),
    ("column_open", .string d.column.opening),
    ("column_close", .string d.column.closing),
    ("procedure_open", .string d.procedure.opening),
    ("procedure_close", .string d.procedure.closing),
    ("param_prefix", .string d.parameterMark),
    ("positional_placeholder", .string d.placeholder),
    ("concurrency_error_code", .ofInt d.conflictCode.toInt)]

def fieldNames : List String :=
  ["table_open", "table_close", "column_open", "column_close", "procedure_open", "procedure_close",
   "param_prefix", "positional_placeholder", "concurrency_error_code"]

def ofJson? (j : Json) : Option Dialect := do
  let fields ← j.record? fieldNames
  let text (name absent : String) : Option String := Json.optional? fields name absent Json.string?
  return {
    table := ⟨← text "table_open" standard.table.opening,
      ← text "table_close" standard.table.closing⟩
    column := ⟨← text "column_open" standard.column.opening,
      ← text "column_close" standard.column.closing⟩
    procedure := ⟨← text "procedure_open" standard.procedure.opening,
      ← text "procedure_close" standard.procedure.closing⟩
    parameterMark := ← text "param_prefix" standard.parameterMark
    placeholder := ← text "positional_placeholder" standard.placeholder
    conflictCode := ←
      Json.optional? fields "concurrency_error_code" standard.conflictCode Json.int32? }

/-- The dialect, if it is usable. -/
def checked (d : Dialect) : Except Error Dialect :=
  match d.fault? with
  | some fault => .error (.configuration fault.message)
  | none => .ok d

/-- The usable dialect that a document describes. -/
def ofDocument (j : Json) : Except Error Dialect :=
  match ofJson? j with
  | some d => d.checked
  | none => .error (.document "no dialect")

/-- The usable dialect that a text describes. -/
def ofText (s : String) : Except Error Dialect :=
  match Json.ofString? s with
  | some j => ofDocument j
  | none => .error (.document "no JSON text")

end TableWrite.Dialect
