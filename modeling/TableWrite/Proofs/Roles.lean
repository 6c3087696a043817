import Mathlib.Tactic.MkIffOfInductiveProp
import Mathlib.Tactic.Tauto
import TableWrite.Role

set_option autoImplicit false

namespace TableWrite.TableColumns

def serverSlot? (t : TableColumns) (s : AuditSlot) : Option (AuditSlot × String) :=
  match t.slot s with
  | some audit => if audit.serverSide then some (s, audit.column) else none
  | none => none

theorem fst_of_serverSlot? {t : TableColumns} {s : AuditSlot} {entry : AuditSlot × String}
    (filled : t.serverSlot? s = some entry) : entry.1 = s := by
  unfold serverSlot? at filled
  split at filled
  · split at filled
    · cases filled
      rfl
    · cases filled
  · cases filled

theorem slotsOf_eq_filterMap (t : TableColumns) (w : Writing) :
    t.slotsOf w = (AuditSlot.all.filter w.touches).filterMap t.serverSlot? := by
  change (AuditSlot.all.filterMap t.serverSlot?).filter (fun s => w.touches s.1) = _
  generalize AuditSlot.all = slots
  induction slots with
  | nil => rfl
  | cons s rest ih =>
      rw [List.filterMap_cons, List.filter_cons]
      cases filled : t.serverSlot? s with
      | none =>
          by_cases touched : w.touches s = true
          · rw [if_pos touched, List.filterMap_cons, filled]
            exact ih
          · rw [if_neg touched]
            exact ih
      | some entry =>
          dsimp only
          rw [List.filter_cons, fst_of_serverSlot? filled]
          by_cases touched : w.touches s = true
          · rw [if_pos touched, if_pos touched, List.filterMap_cons, filled, ih]
          · rw [if_neg touched, if_neg touched, ih]

theorem slotsOf_insert (t : TableColumns) :
    t.slotsOf .insert = [AuditSlot.dateAdded, .dateModified, .addedBy, .modifiedBy].filterMap
      t.serverSlot? :=
  slotsOf_eq_filterMap t .insert

theorem slotsOf_update (t : TableColumns) :
    t.slotsOf .update = [AuditSlot.dateModified, .modifiedBy].filterMap t.serverSlot? :=
  slotsOf_eq_filterMap t .update

/-- Does the statement write the column from the expression of an audit slot? -/
def ServerWritten (t : TableColumns) (w : Writing) (c : Column) : Prop :=
  ∃ s ∈ t.slotsOf w, s.2 = c.name

theorem slotsInto_isEmpty_iff (t : TableColumns) (w : Writing) (c : Column) :
    (t.slotsInto w c).isEmpty = true ↔ ¬ t.ServerWritten w c := by
  unfold slotsInto ServerWritten
  rw [List.isEmpty_iff, List.map_eq_nil_iff, List.filter_eq_nil_iff]
  simp only [beq_iff_eq, not_exists, not_and]

theorem serverWritten_iff (t : TableColumns) (w : Writing) (c : Column) :
    t.ServerWritten w c ↔ ∃ s, w.touches s = true ∧ t.slot s = some ⟨c.name, true⟩ := by
  constructor
  · rintro ⟨⟨s, name⟩, mem, rfl⟩
    obtain ⟨filled, touched⟩ := List.mem_filter.mp mem
    exact ⟨s, touched, mem_serverSlots_iff.mp filled⟩
  · rintro ⟨s, touched, filled⟩
    exact ⟨(s, c.name), List.mem_filter.mpr ⟨mem_serverSlots_iff.mpr filled, touched⟩, rfl⟩

/-- Of an update the slots are those for the last change. -/
theorem serverWritten_update_iff (t : TableColumns) (c : Column) :
    t.ServerWritten .update c ↔
      t.dateModified = some ⟨c.name, true⟩ ∨ t.modifiedBy = some ⟨c.name, true⟩ := by
  rw [serverWritten_iff]
  constructor
  · rintro ⟨s, touched, filled⟩
    cases s with
    | dateModified => exact .inl filled
    | modifiedBy => exact .inr filled
    | dateAdded => cases touched
    | addedBy => cases touched
  · rintro (filled | filled)
    · exact ⟨.dateModified, rfl, filled⟩
    · exact ⟨.modifiedBy, rfl, filled⟩

instance (t : TableColumns) (w : Writing) (c : Column) : Decidable (t.ServerWritten w c) :=
  inferInstanceAs (Decidable (∃ s ∈ t.slotsOf w, s.2 = c.name))

variable (t : TableColumns) (w : Writing) (changed : Bool) (c : Column)

theorem role_of_serverWritten (written : t.ServerWritten w c) : t.role w changed c = .audit := by
  have filled : (t.slotsInto w c).isEmpty = false := by
    rw [Bool.eq_false_iff, ne_eq, slotsInto_isEmpty_iff]
    exact not_not_intro written
  unfold role
  rw [filled]
  rfl

/-- The order of the roles for a column that no slot fills. -/
theorem role_of_not_serverWritten (free : ¬ t.ServerWritten w c) :
    t.role w changed c =
      if changed && c.ordinary then .bound
      else if c.autoIncrement then .autoIncrement
      else if c.serverToken then .serverToken
      else if c.versionToken then .versionToken
      else if c.computed then .computed
      else if t.isAudit c then .audit
      else if c.hasDefault then .defaulted
      else .skipped := by
  unfold role
  rw [(slotsInto_isEmpty_iff t w c).mpr free]
  rfl

theorem role_eq_bound_iff :
    t.role w changed c = .bound ↔
      ¬ t.ServerWritten w c ∧ changed = true ∧ c.ordinary = true := by
  by_cases written : t.ServerWritten w c
  · rw [role_of_serverWritten t w changed c written]
    simp [written]
  · rw [role_of_not_serverWritten t w changed c written]
    grind

theorem role_eq_serverToken_iff :
    t.role w changed c = .serverToken ↔
      ¬ t.ServerWritten w c ∧ c.autoIncrement = false ∧ c.serverToken = true := by
  by_cases written : t.ServerWritten w c
  · rw [role_of_serverWritten t w changed c written]
    simp [written]
  · rw [role_of_not_serverWritten t w changed c written]
    grind [Column.ordinary]

theorem role_eq_versionToken_iff :
    t.role w changed c = .versionToken ↔
      ¬ t.ServerWritten w c ∧ c.autoIncrement = false ∧ c.serverToken = false ∧
        c.versionToken = true := by
  by_cases written : t.ServerWritten w c
  · rw [role_of_serverWritten t w changed c written]
    simp [written]
  · rw [role_of_not_serverWritten t w changed c written]
    grind [Column.ordinary]

/-- Could the statement give the column a value of the row? A row gives no number and no token, nor
what the database fills from the expression of an audit slot, and no update assigns a key. -/
@[mk_iff]
structure Assignable (t : TableColumns) (w : Writing) (c : Column) : Prop where
  unnumbered : c.autoIncrement = false
  unstamped : c.serverToken = false
  unversioned : c.versionToken = false
  unwritten : ¬ t.ServerWritten w c
  keyless : w = .update → c.primaryKey = false

instance (t : TableColumns) (w : Writing) (c : Column) : Decidable (t.Assignable w c) :=
  decidable_of_iff _ (t.assignable_iff w c).symm

variable {t w c} {names : List String}

theorem roleIn_eq_bound_iff :
    t.roleIn w names c = .bound ↔ t.Assignable w c ∧ c.name ∈ names := by
  cases w with
  | insert =>
      simp only [roleIn, role_eq_bound_iff, assignable_iff, Column.ordinary, List.contains_iff_mem,
        Bool.and_eq_true, Bool.not_eq_true', reduceCtorEq, false_imp_iff]
      tauto
  | update =>
      simp only [roleIn, role_eq_bound_iff, assignable_iff, Column.ordinary, List.contains_iff_mem,
        Bool.and_eq_true, Bool.not_eq_true', true_imp_iff]
      tauto

end TableWrite.TableColumns
