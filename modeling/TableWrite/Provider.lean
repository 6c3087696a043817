import TableWrite.Audit
import TableWrite.Error
import TableWrite.Keyed

set_option autoImplicit false

namespace TableWrite

structure Provider where
  catalog : Option String
  schema : Option String
  /-- The table that commands write. -/
  destination : String
  /-- The table or view from which values made by the database are read again. -/
  source : String
  insertProcedure : Option String
  updateProcedure : Option String
  deleteProcedure : Option String
  properties : Keyed String String
deriving DecidableEq

namespace Provider

def blank : Provider := ⟨none, none, "", "", none, none, none, []⟩

instance : Inhabited Provider := ⟨blank⟩

/-- The expression by which the database fills an audit slot. -/
def serverText (p : Provider) (s : AuditSlot) : Except Error String :=
  match Keyed.get? p.properties s.textKey with
  | some text => .ok text
  | none => .error (.missingServerText s.textKey)

def procedure? (p : Provider) : Action → Option String
  | .insert => p.insertProcedure
  | .update => p.updateProcedure
  | .delete => p.deleteProcedure

end Provider
end TableWrite
