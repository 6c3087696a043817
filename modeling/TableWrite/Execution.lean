import TableWrite.Command
import TableWrite.Error

set_option autoImplicit false

namespace TableWrite

structure ResultSet where
  columns : List String
  rows : List (List Value)
deriving DecidableEq

namespace ResultSet

def empty : ResultSet := ⟨[], []⟩

/-- The value of a column in the first row, by the first column of that name. -/
def first? (s : ResultSet) (column : String) : Option Value := do
  let index ← s.columns.findIdx? (· == column)
  let row ← s.rows.head?
  row[index]?

end ResultSet

/-- What an executed command produced. -/
inductive Outcome where
  | affected (rows : Nat)
  | rows (set : ResultSet)
deriving DecidableEq

def Outcome.rowsAffected : Outcome → Nat
  | affected n => n
  | rows set => set.rows.length

/-- A driver runs a command and writes the values that come back into its parameters. -/
abbrev Driver := Command → Command × Except DriverError Outcome

/-- The answer of a driver, its errors read in a dialect. -/
def checked (d : Dialect) : Except DriverError Outcome → Except Error Outcome
  | .ok outcome => .ok outcome
  | .error e => .error (.ofDriver d e)

def execute (d : Dialect) (driver : Driver) (c : Command) : Command × Except Error Outcome :=
  let (after, answer) := driver c
  (after, checked d answer)

theorem execute_conflict_iff (d : Dialect) (driver : Driver) (c : Command) :
    (∃ e, (execute d driver c).2 = .error e ∧ e.isConflict = true) ↔
      ∃ e, (driver c).2 = .error e ∧ ∃ entry ∈ e.entries, entry.code = d.conflictCode := by
  cases answer : (driver c).2 with
  | ok outcome => simp [execute, checked, answer]
  | error e => simp [execute, checked, answer, Error.isConflict_ofDriver]

end TableWrite
