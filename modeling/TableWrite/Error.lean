import TableWrite.DriverError

set_option autoImplicit false

namespace TableWrite

/-- The three ways of writing a row. -/
inductive Action where
  | insert
  | update
  | delete
deriving DecidableEq

def Action.name : Action → String
  | insert => "insert"
  | update => "update"
  | delete => "delete"

/-- The clauses that a statement cannot do without. -/
inductive Clause where
  | assignments
  | conditions
deriving DecidableEq

def Clause.keyword : Clause → String
  | assignments => "SET"
  | conditions => "WHERE"

inductive Error where
  | unknownColumn (owner column : String)
  | emptyClause (table : String) (clause : Clause)
  | missingQueryText
  | unknownParameter (name : String)
  | missingServerText (key : String)
  | missingProcedure (action : Action)
  | conflict (found : Conflict)
  | execution (cause : DriverError)
  | configuration (detail : String)
  /-- Shared state could not be reached. -/
  | lock (detail : String)
  /-- A document could not be read or written. -/
  | document (detail : String)
deriving DecidableEq

namespace Error

def message : Error → String
  | unknownColumn owner column => s!"Column '{column}' of '{owner}' has no parameter prototype"
  | emptyClause table clause =>
    s!"Statement for '{table}' would have an empty {clause.keyword} clause"
  | missingQueryText => "Request carries no query text"
  | unknownParameter name => s!"Parameter '{name}' is not bound on the command"
  | missingServerText key => s!"Provider metadata has no server side text for '{key}'"
  | missingProcedure action => s!"Provider metadata has no {action.name} stored procedure name"
  | conflict found => s!"Concurrency conflict: {found.message}"
  | execution cause => s!"Execution error: {cause.message}"
  | configuration detail => s!"Configuration error: {detail}"
  | lock detail => s!"Lock error: {detail}"
  | document detail => s!"Serialization error: {detail}"

def isConflict : Error → Bool
  | conflict _ => true
  | _ => false

/-- What a driver's error means in a dialect. -/
def ofDriver (d : Dialect) (e : DriverError) : Error :=
  match e.conflict? d.conflictCode with
  | some c => conflict c
  | none => execution e

theorem isConflict_ofDriver (d : Dialect) (e : DriverError) :
    (ofDriver d e).isConflict = true ↔ ∃ entry ∈ e.entries, entry.code = d.conflictCode := by
  have none_iff := e.conflict?_eq_none_iff d.conflictCode
  unfold ofDriver
  split
  · next c found =>
    simp only [found, reduceCtorEq, false_iff] at none_iff
    simpa [isConflict] using none_iff
  · next missing =>
    simp only [missing, true_iff] at none_iff
    simpa [isConflict] using none_iff

end Error
end TableWrite
