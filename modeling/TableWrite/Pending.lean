import TableWrite.Row

set_option autoImplicit false

namespace TableWrite

structure Pending where
  insert : Bool
  update : Bool
  delete : Bool
deriving DecidableEq

namespace Pending

def ofStates (states : List RowState) : Pending :=
  ⟨states.contains .added, states.contains .modified, states.contains .deleted⟩

def any (p : Pending) : Bool := p.insert || p.update || p.delete

end Pending
end TableWrite
