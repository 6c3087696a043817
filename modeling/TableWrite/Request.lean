import TableWrite.Command
import TableWrite.Provider
import TableWrite.Refresh
import TableWrite.TableColumns

set_option autoImplicit false

namespace TableWrite

/-- What the text of a request is. -/
inductive QueryKind where
  | text
  | storedProcedure
  /-- The name of a table. -/
  | table
deriving DecidableEq

namespace QueryKind

def all : List QueryKind := [text, storedProcedure, table]

def name : QueryKind → String
  | text => "Text"
  | storedProcedure => "StoredProcedure"
  | table => "TableDirect"

def ofName? (s : String) : Option QueryKind := all.find? (·.name == s)

theorem ofName?_name (k : QueryKind) : ofName? k.name = some k := by cases k <;> decide

def commandKind : QueryKind → CommandKind
  | storedProcedure => .storedProcedure
  | text | table => .text

end QueryKind

/-- A parameter that a caller gives with the text of a request. -/
structure QueryParameter where
  name : String
  value : Value
  direction : Direction
  type : Option ProviderType
  size : Int64
  scale : UInt8
  precision : UInt8
deriving DecidableEq

def QueryParameter.ofName (name : String) : QueryParameter := ⟨name, .null, .input, none, 0, 0, 0⟩

/-- The parts of a table's name that a query object replaces. -/
structure QueryNames where
  catalog : Option String
  schema : Option String
  table : Option String
deriving DecidableEq

def QueryNames.none : QueryNames := ⟨.none, .none, .none⟩

structure Request where
  catalog : Option String
  schema : Option String
  provider : Provider
  table : TableColumns
  timeout : Option Timeout
  queryKind : QueryKind
  queryText : Option String
  parameters : List QueryParameter
  queryNames : Option QueryNames
  /-- What the last build left to read again. -/
  refresh : Refresh
deriving DecidableEq

namespace Request

def blank : Request := ⟨none, none, .blank, .empty, none, .text, none, [], none, .empty⟩

instance : Inhabited Request := ⟨blank⟩

/-- The request as every build begins with it: nothing to read again. -/
def cleared (r : Request) : Request := { r with refresh := .empty }

/-- An empty command of the request. -/
def command (r : Request) (kind : CommandKind) : Command := ⟨"", kind, [], r.timeout⟩

end Request
end TableWrite
