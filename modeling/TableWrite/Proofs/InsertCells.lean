import Mathlib.Data.List.Basic
import TableWrite.Proofs.BuiltStatements
import TableWrite.Proofs.FreshPrototypes

set_option autoImplicit false

namespace TableWrite

namespace TableColumns

variable (d : Dialect) (t : TableColumns) (changed : List String)

def insertCell? (c : Column) : Option Cell :=
  match t.roleIn .insert changed c with
  | .bound => some ⟨c.name, .bound (t.prototype d c)⟩
  | .versionToken => some ⟨c.name, .firstVersion ((t.prototype d c).literal (.integer 1))⟩
  | _ => none

def insertSlots (p : Provider) : List Cell :=
  (t.slotsOf .insert).map fun s => ⟨s.2, .computed s.1 (p.expression s.1)⟩

theorem insertCell?_eq_none_iff (c : Column) :
    t.insertCell? d changed c = none ↔
      t.roleIn .insert changed c ≠ .bound ∧ t.roleIn .insert changed c ≠ .versionToken := by
  unfold insertCell?
  cases t.roleIn .insert changed c <;> simp

theorem slotsOf_insert_eq_nil_iff :
    t.slotsOf .insert = [] ↔ ∀ s audit, t.slot s = some audit → audit.serverSide = false := by
  rw [slotsOf_insert, List.filterMap_eq_nil_iff]
  constructor
  · intro unfilled s audit filled
    have missing : t.serverSlot? s = none := unfilled s (by cases s <;> simp)
    unfold serverSlot? at missing
    rw [filled] at missing
    cases side : audit.serverSide with
    | false => rfl
    | true => simp [side] at missing
  · intro clientSide s _
    unfold serverSlot?
    cases filled : t.slot s with
    | none => rfl
    | some audit => simp [clientSide s audit filled]

theorem not_serverWritten_of_slotsOf_eq_nil {w : Writing} (unfilled : t.slotsOf w = [])
    (c : Column) : ¬ t.ServerWritten w c := by
  rintro ⟨s, mem, -⟩
  rw [unfilled] at mem
  cases mem

end TableColumns

namespace InsertStatement

variable (d : Dialect) (table : String) (r : Request) (changed : List String)

theorem columnCells_ofColumns (c : Column) (mem : c ∈ r.table.columns) :
    columnCells (.ofColumns table r.table.columns d) r changed c =
      .ok (r.table.insertCell? d changed c).toList := by
  have found := Prototypes.parameter_ofColumns table d mem
  unfold columnCells TableColumns.insertCell?
  rw [found]
  cases r.table.roleIn .insert changed c <;> rfl

def ofFresh (d : Dialect) (r : Request) (changed : List String) : InsertStatement where
  table := r.tableText d
  cells := r.table.columns.filterMap (r.table.insertCell? d changed) ++
    r.table.insertSlots r.provider

theorem ofRequest_ofColumns :
    ofRequest d (.ofColumns table r.table.columns d) r changed =
      match [AuditSlot.dateAdded, .dateModified, .addedBy, .modifiedBy].find? r.lacksText with
      | some s => .error (.missingServerText s.textKey)
      | none => .ok (ofFresh d r changed) := by
  have columns := collect_ok (columnCells_ofColumns d table r changed)
  have slots := r.collect_slots (fun s text => Cell.mk s.2 (.computed s.1 text))
    [.dateAdded, .dateModified, .addedBy, .modifiedBy]
  rw [← TableColumns.slotsOf_insert] at slots
  rw [← List.filterMap_eq_flatMap_toList] at columns
  unfold ofRequest
  rw [columns]
  change (collect (slotCells r.provider) (r.table.slotsOf .insert) >>= _) = _
  unfold slotCells
  rw [slots]
  cases [AuditSlot.dateAdded, .dateModified, .addedBy, .modifiedBy].find? r.lacksText <;> rfl

theorem ofRequest_ofColumns_eq_ok_iff {statement : InsertStatement} :
    ofRequest d (.ofColumns table r.table.columns d) r changed = .ok statement ↔
      r.provider.Expresses (r.table.slotsOf .insert) ∧ statement = ofFresh d r changed := by
  rw [ofRequest_ofColumns, TableColumns.slotsOf_insert, r.expresses_iff]
  cases [AuditSlot.dateAdded, .dateModified, .addedBy, .modifiedBy].find? r.lacksText <;>
    simp [eq_comm]

/-- An insert writes nothing exactly when no changed column is ordinary, no version token is to
start, and no slot is filled by the database. -/
theorem cells_eq_nil_iff :
    (ofFresh d r changed).cells = [] ↔
      (∀ c ∈ r.table.columns, c.name ∈ changed →
        c.autoIncrement = true ∨ c.serverToken = true ∨ c.versionToken = true) ∧
      (∀ c ∈ r.table.columns, c.versionToken = true →
        c.autoIncrement = true ∨ c.serverToken = true) ∧
      ∀ s audit, r.table.slot s = some audit → audit.serverSide = false := by
  have roles (unfilled : r.table.slotsOf .insert = []) (c : Column) :
      r.table.insertCell? d changed c = none ↔
        (c.name ∈ changed →
          c.autoIncrement = true ∨ c.serverToken = true ∨ c.versionToken = true) ∧
        (c.versionToken = true → c.autoIncrement = true ∨ c.serverToken = true) := by
    have free := r.table.not_serverWritten_of_slotsOf_eq_nil unfilled c
    rw [TableColumns.insertCell?_eq_none_iff]
    unfold TableColumns.roleIn
    dsimp only
    rw [ne_eq, ne_eq, TableColumns.role_eq_bound_iff, TableColumns.role_eq_versionToken_iff]
    rw [List.contains_iff_mem]
    unfold Column.ordinary
    cases c.autoIncrement <;> cases c.serverToken <;> cases c.versionToken <;> simp [free]
  change _ ++ r.table.insertSlots r.provider = [] ↔ _
  rw [List.append_eq_nil_iff, List.filterMap_eq_nil_iff, TableColumns.insertSlots,
    List.map_eq_nil_iff, ← TableColumns.slotsOf_insert_eq_nil_iff]
  constructor
  · rintro ⟨silent, unfilled⟩
    refine ⟨?_, ?_, unfilled⟩
    · intro c mem
      exact ((roles unfilled c).mp (silent c mem)).1
    · intro c mem
      exact ((roles unfilled c).mp (silent c mem)).2
  · rintro ⟨unchanged, unversioned, unfilled⟩
    refine ⟨?_, unfilled⟩
    intro c mem
    exact (roles unfilled c).mpr ⟨unchanged c mem, unversioned c mem⟩

end InsertStatement
end TableWrite
