import TableWrite.Prototypes
import TableWrite.QualifiedName
import TableWrite.Role
import TableWrite.Statement.Collect

set_option autoImplicit false

namespace TableWrite

/-- Where the value of an inserted cell comes from. -/
inductive CellValue where
  | bound (p : Parameter)
  /-- A version token starts at one; its parameter holds the same number. -/
  | firstVersion (p : Parameter)
  /-- The provider's expression for an audit slot. -/
  | computed (slot : AuditSlot) (text : String)
deriving DecidableEq

structure Cell where
  column : String
  value : CellValue
deriving DecidableEq

namespace CellValue

def text : CellValue → String
  | bound p => p.name
  | firstVersion _ => "1"
  | computed _ text => text

def parameter? : CellValue → Option Parameter
  | bound p | firstVersion p => some p
  | computed _ _ => none

end CellValue

/-- A statement as a list of cells, each a column with the origin of its value, so that columns,
values and parameters cannot fall out of step. -/
structure InsertStatement where
  /-- The qualified name of the table. -/
  table : String
  cells : List Cell
deriving DecidableEq

namespace InsertStatement

def columnTexts (d : Dialect) (s : InsertStatement) : List String :=
  s.cells.map fun c => d.column.wrap c.column

def valueTexts (s : InsertStatement) : List String := s.cells.map fun c => c.value.text

def parameters (s : InsertStatement) : List Parameter :=
  s.cells.filterMap fun c => c.value.parameter?

def text (d : Dialect) (s : InsertStatement) : String :=
  if s.cells.isEmpty then "INSERT INTO " ++ s.table ++ " DEFAULT VALUES"
  else "INSERT INTO " ++ s.table ++ " (" ++ ", ".intercalate (s.columnTexts d) ++ ") VALUES (" ++
    ", ".intercalate s.valueTexts ++ ")"

/-- What a column contributes. -/
def columnCells (s : Prototypes) (r : Request) (changed : List String) (c : Column) :
    Except Error (List Cell) :=
  match r.table.roleIn .insert changed c with
  | .bound => do return [⟨c.name, .bound (← s.parameter c.name)⟩]
  | .versionToken => do
    return [⟨c.name, .firstVersion ((← s.parameter c.name).literal (.integer 1))⟩]
  | _ => .ok []

/-- What an audit slot contributes. -/
def slotCells (p : Provider) (slot : AuditSlot × String) : Except Error (List Cell) := do
  return [⟨slot.2, .computed slot.1 (← p.serverText slot.1)⟩]

/-- The statement for a request in which the columns named have changed: first the columns in
their order, then the audit slots. -/
def ofRequest (d : Dialect) (s : Prototypes) (r : Request) (changed : List String) :
    Except Error InsertStatement := do
  let columns ← collect (columnCells s r changed) r.table.columns
  let slots ← collect (slotCells r.provider) (r.table.slotsOf .insert)
  return ⟨r.tableText d, columns ++ slots⟩

/-- What is to be read again after the statement. Of several columns in one role the last is
named. -/
def refresh (r : Request) (changed : List String) : Refresh :=
  let named (role : Role) : List String := r.table.inRole .insert changed role
  let numbered := (named .autoIncrement).getLast?
  let stamped := (named .serverToken).getLast?
  let defaults := named .defaulted ++ (r.table.slotsOf .insert).map Prod.snd
  { autoIncrement := numbered
    source := if numbered.isSome || stamped.isSome then some r.provider.source else none
    serverToken := stamped
    versionToken := (named .versionToken).getLast?
    defaults := defaults
    keys := if defaults.isEmpty then [] else r.table.keyNames }

end InsertStatement
end TableWrite
