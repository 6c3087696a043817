import TableWrite.Prototypes
import TableWrite.QualifiedName
import TableWrite.Statement.Collect

set_option autoImplicit false

namespace TableWrite

structure ProcedureCall where
  /-- The qualified name of the procedure. -/
  name : String
  parameters : List Parameter
deriving DecidableEq

namespace ProcedureCall

/-- The parameter of a column in a call that passes whole rows: row versions come back, and a
computed value may be as long as its column allows. -/
def rowParameter (c : Column) (p : Parameter) : Parameter :=
  { p with
    image := .current
    direction := if p.type.isRowVersion then .inputOutput else p.direction
    size := if c.computed && 0 < c.maxLength then c.maxLength else p.size }

def rowParameters (s : Prototypes) (c : Column) : Except Error (List Parameter) := do
  return [rowParameter c (← s.parameter c.name)]

/-- Does an insert hand back a value for the column? -/
def returnedByInsert (c : Column) : Bool :=
  c.generatesIdentifier || c.computed || c.autoIncrement || c.versionToken

/-- Does an update hand back a value for the column? -/
def returnedByUpdate (c : Column) : Bool := c.computed || c.serverToken || c.versionToken

/-- Makes the first parameter of a name input and output. -/
def returning (name : String) (ps : List Parameter) : Except Error (List Parameter) :=
  if ps.any (·.name == name) then
    .ok (Command.updateFirst (·.name == name) (fun p => { p with direction := .inputOutput }) ps)
  else .error (.unknownParameter name)

/-- Makes the parameters of the columns input and output. -/
def returningAll (s : Prototypes) : List Column → List Parameter → Except Error (List Parameter)
  | [], ps => .ok ps
  | c :: rest, ps => do
    let prototype ← s.parameter c.name
    returningAll s rest (← returning prototype.name ps)

/-- Keys are passed as they are now, other tokens as they were read. -/
def keyParameters (s : Prototypes) (c : Column) : Except Error (List Parameter) :=
  if c.primaryKey then do return [(← s.parameter c.name).reading .current]
  else if c.serverToken || c.versionToken then do return [(← s.parameter c.name).reading .loaded]
  else .ok []

def parametersOf (s : Prototypes) (columns : List Column) :
    Action → Except Error (List Parameter)
  | .insert => do
    returningAll s (columns.filter returnedByInsert) (← collect (rowParameters s) columns)
  | .update => do
    returningAll s (columns.filter returnedByUpdate) (← collect (rowParameters s) columns)
  | .delete => collect (keyParameters s) columns

/-- The call of a named procedure for a request. -/
def ofRequest (d : Dialect) (s : Prototypes) (r : Request) (a : Action) (procedure : String) :
    Except Error ProcedureCall := do
  return ⟨r.procedureText d procedure, ← parametersOf s r.table.columns a⟩

end ProcedureCall
end TableWrite
