set_option autoImplicit false

namespace TableWrite

inductive AuditSlot where
  | dateAdded
  | dateModified
  | addedBy
  | modifiedBy
deriving DecidableEq

namespace AuditSlot

/-- All slots, in the order in which statements write them. -/
def all : List AuditSlot := [dateAdded, dateModified, addedBy, modifiedBy]

theorem mem_all (s : AuditSlot) : s ∈ all := by cases s <;> decide

def name : AuditSlot → String
  | dateAdded => "DateAdded"
  | dateModified => "DateModified"
  | addedBy => "AddedBy"
  | modifiedBy => "ModifiedBy"

/-- The property under which a provider keeps the expression for the slot. -/
def textKey (s : AuditSlot) : String := s.name ++ ".ServerSideText"

/-- Is the slot written again when a row changes? -/
def onUpdate : AuditSlot → Bool
  | dateModified | modifiedBy => true
  | dateAdded | addedBy => false

end AuditSlot

/-- The column in an audit slot. -/
structure AuditColumn where
  column : String
  /-- The database computes the value from an expression of its provider. -/
  serverSide : Bool
deriving DecidableEq

end TableWrite
