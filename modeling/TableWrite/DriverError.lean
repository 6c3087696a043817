import TableWrite.Dialect

set_option autoImplicit false

namespace TableWrite

/-- One entry in the list of a driver's error. -/
structure DriverErrorEntry where
  code : Int32
  message : String
  /-- The component that raised the error. -/
  origin : Option String
deriving DecidableEq

structure DriverError where
  message : String
  entries : List DriverErrorEntry
deriving DecidableEq

/-- The row to write was changed or removed after it had been read. -/
structure Conflict where
  message : String
  origin : Option String
  cause : DriverError
deriving DecidableEq

namespace DriverError

/-- The conflict that an error reports, described by its first entry with the code. -/
def conflict? (e : DriverError) (code : Int32) : Option Conflict :=
  (e.entries.find? (·.code == code)).map fun entry => ⟨entry.message, entry.origin, e⟩

theorem conflict?_eq_none_iff (e : DriverError) (code : Int32) :
    e.conflict? code = none ↔ ∀ entry ∈ e.entries, entry.code ≠ code := by
  simp [conflict?]

end DriverError
end TableWrite
