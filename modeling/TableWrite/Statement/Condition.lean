import TableWrite.Prototypes
import TableWrite.QualifiedName

set_option autoImplicit false

namespace TableWrite

/-- A column that has to hold the value of a parameter. -/
structure Condition where
  column : String
  parameter : Parameter
deriving DecidableEq

namespace Condition

def text (d : Dialect) (c : Condition) : String :=
  d.column.wrap c.column ++ " = " ++ c.parameter.name

/-- A whole WHERE clause. -/
def clauseText (d : Dialect) (cs : List Condition) : String :=
  "WHERE " ++ " AND ".intercalate (cs.map (text d))

end Condition
end TableWrite
