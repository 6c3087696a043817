import TableWrite.Audit
import TableWrite.Column

set_option autoImplicit false

namespace TableWrite

structure TableColumns where
  columns : List Column
  dateAdded : Option AuditColumn
  dateModified : Option AuditColumn
  addedBy : Option AuditColumn
  modifiedBy : Option AuditColumn
deriving DecidableEq

namespace TableColumns

def empty : TableColumns := ⟨[], none, none, none, none⟩

instance : Inhabited TableColumns := ⟨empty⟩

def slot (t : TableColumns) : AuditSlot → Option AuditColumn
  | .dateAdded => t.dateAdded
  | .dateModified => t.dateModified
  | .addedBy => t.addedBy
  | .modifiedBy => t.modifiedBy

/-- The slots that the database fills, in writing order, with the names of their columns. -/
def serverSlots (t : TableColumns) : List (AuditSlot × String) :=
  AuditSlot.all.filterMap fun s =>
    match t.slot s with
    | some audit => if audit.serverSide then some (s, audit.column) else none
    | none => none

theorem mem_serverSlots_iff {t : TableColumns} {s : AuditSlot} {name : String} :
    (s, name) ∈ t.serverSlots ↔ t.slot s = some ⟨name, true⟩ := by
  simp only [serverSlots, List.mem_filterMap]
  constructor
  · rintro ⟨s', -, found⟩
    split at found
    · next audit filled =>
      split at found
      · next server =>
        simp only [Option.some.injEq, Prod.mk.injEq] at found
        obtain ⟨rfl, rfl⟩ := found
        simp [filled, ← server]
      · contradiction
    · contradiction
  · intro filled
    exact ⟨s, AuditSlot.mem_all s, by simp [filled]⟩

/-- Does the column fill an audit slot, on whichever side? -/
def isAudit (t : TableColumns) (c : Column) : Bool :=
  AuditSlot.all.any fun s =>
    match t.slot s with
    | some audit => audit.column == c.name
    | none => false

end TableColumns
end TableWrite
