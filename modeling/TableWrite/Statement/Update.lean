import TableWrite.Role
import TableWrite.Statement.Collect
import TableWrite.Statement.Condition

set_option autoImplicit false

namespace TableWrite

inductive Assignment where
  | bound (column : String) (p : Parameter)
  /-- A version token grows by one. -/
  | nextVersion (column : String)
  /-- The provider's expression for an audit slot. -/
  | computed (column : String) (slot : AuditSlot) (text : String)
deriving DecidableEq

namespace Assignment

def column : Assignment → String
  | bound column _ | nextVersion column | computed column _ _ => column

def text (d : Dialect) (a : Assignment) : String :=
  let target := d.column.wrap a.column
  match a with
  | bound _ p => target ++ " = " ++ p.name
  | nextVersion _ => target ++ " = " ++ target ++ " + 1"
  | computed _ _ text => target ++ " = " ++ text

def parameter? : Assignment → Option Parameter
  | bound _ p => some p
  | nextVersion _ | computed _ _ _ => none

end Assignment

/-- One term of a statement, for the one clause or the other. A column can contribute to both, so
that its terms are collected in one list, of which the clauses are the two parts. -/
inductive UpdateTerm where
  | set (a : Assignment)
  | require (c : Condition)
deriving DecidableEq

namespace UpdateTerm

def assignment? : UpdateTerm → Option Assignment
  | set a => some a
  | require _ => none

def condition? : UpdateTerm → Option Condition
  | set _ => none
  | require c => some c

end UpdateTerm

structure UpdateStatement where
  /-- The qualified name of the table. -/
  table : String
  assignments : List Assignment
  conditions : List Condition
deriving DecidableEq

namespace UpdateStatement

def parameters (s : UpdateStatement) : List Parameter :=
  s.assignments.filterMap Assignment.parameter? ++ s.conditions.map Condition.parameter

def text (d : Dialect) (s : UpdateStatement) : String :=
  "UPDATE " ++ s.table ++ " SET " ++ ", ".intercalate (s.assignments.map (Assignment.text d)) ++
    " " ++ Condition.clauseText d s.conditions ++ ";"

/-- The condition that a column still holds the value that was read. -/
def unchanged (s : Prototypes) (c : Column) : Except Error UpdateTerm := do
  return .require ⟨c.name, (← s.parameter c.name).reading .loaded⟩

/-- What the role of a column contributes. -/
def roleTerms (s : Prototypes) (r : Request) (changed : List String) (c : Column) :
    Except Error (List UpdateTerm) :=
  match r.table.roleIn .update changed c with
  | .bound => do return [.set (.bound c.name (← s.parameter c.name))]
  | .serverToken => do return [← unchanged s c]
  | .versionToken => do return [.set (.nextVersion c.name), ← unchanged s c]
  | _ => .ok []

/-- What a column contributes. A key finds the row, whatever else the column is. -/
def columnTerms (s : Prototypes) (r : Request) (changed : List String) (c : Column) :
    Except Error (List UpdateTerm) := do
  let terms ← roleTerms s r changed c
  if c.primaryKey then return terms ++ [← unchanged s c] else return terms

/-- What an audit slot contributes. -/
def slotTerms (p : Provider) (slot : AuditSlot × String) : Except Error (List UpdateTerm) := do
  return [.set (.computed slot.2 slot.1 (← p.serverText slot.1))]

/-- The statement of some terms. It has to assign something, and has to find its row. -/
def ofTerms (table : String) (terms : List UpdateTerm) : Except Error UpdateStatement :=
  let assignments := terms.filterMap UpdateTerm.assignment?
  let conditions := terms.filterMap UpdateTerm.condition?
  if assignments.isEmpty then .error (.emptyClause table .assignments)
  else if conditions.isEmpty then .error (.emptyClause table .conditions)
  else .ok ⟨table, assignments, conditions⟩

/-- The statement for a request in which the columns named have changed: first the columns in
their order, then the audit slots. -/
def ofRequest (d : Dialect) (s : Prototypes) (r : Request) (changed : List String) :
    Except Error UpdateStatement := do
  let columns ← collect (columnTerms s r changed) r.table.columns
  let slots ← collect (slotTerms r.provider) (r.table.slotsOf .update)
  ofTerms (r.tableText d) (columns ++ slots)

/-- What is to be read again after the statement. -/
def refresh (r : Request) (changed : List String) : Refresh :=
  let defaults := (r.table.slotsOf .update).map Prod.snd
  { Refresh.empty with
    versionToken := (r.table.inRole .update changed .versionToken).getLast?
    defaults := defaults
    keys := if defaults.isEmpty then [] else r.table.keyNames }

end UpdateStatement
end TableWrite
