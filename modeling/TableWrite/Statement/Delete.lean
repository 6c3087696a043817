import TableWrite.Statement.Collect
import TableWrite.Statement.Condition

set_option autoImplicit false

namespace TableWrite

structure DeleteStatement where
  /-- The qualified name of the table. -/
  table : String
  conditions : List Condition
deriving DecidableEq

namespace DeleteStatement

def parameters (s : DeleteStatement) : List Parameter := s.conditions.map Condition.parameter

def text (d : Dialect) (s : DeleteStatement) : String :=
  "DELETE FROM " ++ s.table ++ " " ++ Condition.clauseText d s.conditions

/-- Keys and version tokens find the row. -/
def columnConditions (s : Prototypes) (c : Column) : Except Error (List Condition) :=
  if c.primaryKey || c.versionToken then do return [⟨c.name, ← s.parameter c.name⟩]
  else .ok []

/-- The statement of some conditions. It has to find its row. -/
def ofConditions (table : String) (conditions : List Condition) : Except Error DeleteStatement :=
  if conditions.isEmpty then .error (.emptyClause table .conditions) else .ok ⟨table, conditions⟩

def ofRequest (d : Dialect) (s : Prototypes) (r : Request) : Except Error DeleteStatement := do
  ofConditions (r.tableText d) (← collect (columnConditions s) r.table.columns)

end DeleteStatement
end TableWrite
