import TableWrite.Proofs.BuiltStatements
import TableWrite.Proofs.FreshPrototypes

set_option autoImplicit false

namespace TableWrite

namespace TableColumns

/-- Does an update check that the token in this column is still the one that was read? -/
def ChecksToken (t : TableColumns) (c : Column) : Prop :=
  ¬ t.ServerWritten .update c ∧ c.autoIncrement = false ∧
    (c.serverToken = true ∨ c.versionToken = true)

instance (t : TableColumns) (c : Column) : Decidable (t.ChecksToken c) :=
  inferInstanceAs (Decidable (_ ∧ _ ∧ (_ ∨ _)))

theorem checksToken_iff (t : TableColumns) (changed : List String) (c : Column) :
    t.ChecksToken c ↔
      t.roleIn .update changed c = .serverToken ∨ t.roleIn .update changed c = .versionToken := by
  unfold roleIn ChecksToken
  dsimp only
  rw [role_eq_serverToken_iff, role_eq_versionToken_iff]
  cases c.serverToken <;> simp

variable (d : Dialect) (t : TableColumns)

def loadedCondition (c : Column) : Condition := ⟨c.name, (t.prototype d c).reading .loaded⟩

def updateConditions (c : Column) : List Condition :=
  (if t.ChecksToken c then [t.loadedCondition d c] else []) ++
    if c.primaryKey then [t.loadedCondition d c] else []

theorem mem_updateConditions_iff {c : Column} {condition : Condition} :
    condition ∈ t.updateConditions d c ↔
      (t.ChecksToken c ∨ c.primaryKey = true) ∧ condition = t.loadedCondition d c := by
  unfold updateConditions
  rw [List.mem_append, List.mem_ite_nil_right, List.mem_ite_nil_right, List.mem_singleton,
    ← or_and_right]

def updateAssignment? (changed : List String) (c : Column) : Option Assignment :=
  match t.roleIn .update changed c with
  | .bound => some (.bound c.name (t.prototype d c))
  | .versionToken => some (.nextVersion c.name)
  | _ => none

def updateSlots (p : Provider) : List Assignment :=
  (t.slotsOf .update).map fun s => .computed s.2 s.1 (p.expression s.1)

end TableColumns

namespace UpdateStatement

variable (d : Dialect) (table : String) (r : Request) (changed : List String)

theorem roleTerms_ofColumns (c : Column) (mem : c ∈ r.table.columns) :
    roleTerms (.ofColumns table r.table.columns d) r changed c =
      .ok ((r.table.updateAssignment? d changed c).toList.map .set ++
        if r.table.ChecksToken c then [.require (r.table.loadedCondition d c)] else []) := by
  have found := Prototypes.parameter_ofColumns table d mem
  unfold roleTerms TableColumns.updateAssignment? unchanged
  rw [found]
  simp only [r.table.checksToken_iff changed c]
  cases r.table.roleIn .update changed c <;> rfl

/-- The terms of a column: its assignment, then its conditions. -/
def termsOf (c : Column) : List UpdateTerm :=
  (r.table.updateAssignment? d changed c).toList.map .set ++
    (r.table.updateConditions d c).map .require

theorem columnTerms_ofColumns (c : Column) (mem : c ∈ r.table.columns) :
    columnTerms (.ofColumns table r.table.columns d) r changed c =
      .ok (termsOf d r changed c) := by
  have found := Prototypes.parameter_ofColumns table d mem
  have conditions : (r.table.updateConditions d c).map UpdateTerm.require =
      (if r.table.ChecksToken c then [.require (r.table.loadedCondition d c)] else []) ++
        if c.primaryKey then [.require (r.table.loadedCondition d c)] else [] := by
    unfold TableColumns.updateConditions
    rw [List.map_append, apply_ite (List.map UpdateTerm.require),
      apply_ite (List.map UpdateTerm.require)]
    rfl
  unfold columnTerms termsOf unchanged
  rw [roleTerms_ofColumns d table r changed c mem, found, conditions, ← List.append_assoc]
  cases c.primaryKey with
  | false => exact congrArg Except.ok (List.append_nil _).symm
  | true => rfl

theorem assignments_of_terms (columns : List Column) :
    (columns.flatMap (termsOf d r changed)).filterMap UpdateTerm.assignment? =
      columns.filterMap (r.table.updateAssignment? d changed) := by
  induction columns with
  | nil => rfl
  | cons c rest ih =>
      have conditionless : ((r.table.updateConditions d c).map UpdateTerm.require).filterMap
          UpdateTerm.assignment? = [] := by
        rw [List.filterMap_map]
        exact List.filterMap_eq_nil_iff.mpr fun _ _ => rfl
      rw [List.flatMap_cons, List.filterMap_append, ih, termsOf, List.filterMap_append,
        conditionless, List.append_nil, List.filterMap_cons]
      cases r.table.updateAssignment? d changed c <;> rfl

theorem conditions_of_terms (columns : List Column) :
    (columns.flatMap (termsOf d r changed)).filterMap UpdateTerm.condition? =
      columns.flatMap (r.table.updateConditions d) := by
  induction columns with
  | nil => rfl
  | cons c rest ih =>
      have kept : ((r.table.updateConditions d c).map UpdateTerm.require).filterMap
          UpdateTerm.condition? = r.table.updateConditions d c := by
        rw [List.filterMap_map]
        exact List.filterMap_some
      rw [List.flatMap_cons, List.filterMap_append, ih, termsOf, List.filterMap_append, kept,
        List.flatMap_cons]
      cases r.table.updateAssignment? d changed c <;> rfl

def ofFresh (d : Dialect) (r : Request) (changed : List String) : UpdateStatement where
  table := r.tableText d
  assignments := r.table.columns.filterMap (r.table.updateAssignment? d changed) ++
    r.table.updateSlots r.provider
  conditions := r.table.columns.flatMap (r.table.updateConditions d)

/-- An assignment with a parameter is that of a bound column. -/
theorem bound_of_mem_assignments {d : Dialect} {r : Request} {changed : List String}
    {a : Assignment} {p : Parameter} (mem : a ∈ (ofFresh d r changed).assignments)
    (given : a.parameter? = some p) :
    ∃ c ∈ r.table.columns, r.table.roleIn .update changed c = .bound ∧
      a = .bound c.name (r.table.prototype d c) ∧ p = r.table.prototype d c := by
  rcases List.mem_append.mp mem with ofColumn | ofSlot
  · obtain ⟨c, there, adds⟩ := List.mem_filterMap.mp ofColumn
    unfold TableColumns.updateAssignment? at adds
    split at adds
    · rename_i role
      cases adds
      cases given
      exact ⟨c, there, role, rfl, rfl⟩
    · cases adds
      cases given
    · cases adds
  · obtain ⟨s, -, rfl⟩ := List.mem_map.mp ofSlot
    cases given

theorem mem_conditions_iff {d : Dialect} {r : Request} {changed : List String}
    {condition : Condition} :
    condition ∈ (ofFresh d r changed).conditions ↔ ∃ c ∈ r.table.columns,
      (r.table.ChecksToken c ∨ c.primaryKey = true) ∧
        condition = r.table.loadedCondition d c := by
  unfold ofFresh
  simp only [List.mem_flatMap, TableColumns.mem_updateConditions_iff]

theorem ofTerms_of_columns :
    ofTerms (r.tableText d) (r.table.columns.flatMap (termsOf d r changed) ++
        (r.table.slotsOf .update).map fun s =>
          .set (.computed s.2 s.1 (r.provider.expression s.1))) =
      if (ofFresh d r changed).assignments = [] then
        .error (.emptyClause (r.tableText d) .assignments)
      else if (ofFresh d r changed).conditions = [] then
        .error (.emptyClause (r.tableText d) .conditions)
      else .ok (ofFresh d r changed) := by
  have assigned : ((r.table.slotsOf .update).map fun s =>
      UpdateTerm.set (.computed s.2 s.1 (r.provider.expression s.1))).filterMap
        UpdateTerm.assignment? = r.table.updateSlots r.provider := by
    rw [List.filterMap_map]
    exact congrFun List.filterMap_eq_map _
  have unconditional : ((r.table.slotsOf .update).map fun s =>
      UpdateTerm.set (.computed s.2 s.1 (r.provider.expression s.1))).filterMap
        UpdateTerm.condition? = [] := by
    rw [List.filterMap_map]
    exact List.filterMap_eq_nil_iff.mpr fun _ _ => rfl
  unfold ofTerms
  simp only [List.filterMap_append, assignments_of_terms, conditions_of_terms, assigned,
    unconditional, List.append_nil, List.isEmpty_iff]
  rfl

theorem ofRequest_ofColumns :
    ofRequest d (.ofColumns table r.table.columns d) r changed =
      match [AuditSlot.dateModified, .modifiedBy].find? r.lacksText with
      | some s => .error (.missingServerText s.textKey)
      | none =>
        if (ofFresh d r changed).assignments = [] then
          .error (.emptyClause (r.tableText d) .assignments)
        else if (ofFresh d r changed).conditions = [] then
          .error (.emptyClause (r.tableText d) .conditions)
        else .ok (ofFresh d r changed) := by
  have columns := collect_ok (columnTerms_ofColumns d table r changed)
  have slots := r.collect_slots (fun s text => UpdateTerm.set (.computed s.2 s.1 text))
    [.dateModified, .modifiedBy]
  rw [← TableColumns.slotsOf_update] at slots
  rw [← ofTerms_of_columns]
  unfold ofRequest
  rw [columns]
  change (collect (slotTerms r.provider) (r.table.slotsOf .update) >>= _) = _
  unfold slotTerms
  rw [slots]
  cases [AuditSlot.dateModified, .modifiedBy].find? r.lacksText <;> rfl

theorem ofRequest_ofColumns_eq_ok_iff {statement : UpdateStatement} :
    ofRequest d (.ofColumns table r.table.columns d) r changed = .ok statement ↔
      r.provider.Expresses (r.table.slotsOf .update) ∧
      (ofFresh d r changed).assignments ≠ [] ∧ (ofFresh d r changed).conditions ≠ [] ∧
      statement = ofFresh d r changed := by
  rw [ofRequest_ofColumns, TableColumns.slotsOf_update, r.expresses_iff]
  cases [AuditSlot.dateModified, .modifiedBy].find? r.lacksText with
  | some s => simp
  | none =>
      dsimp only
      by_cases unassigned : (ofFresh d r changed).assignments = []
      · simp [unassigned]
      · by_cases unconditional : (ofFresh d r changed).conditions = []
        · simp [unconditional, unassigned]
        · simp [unassigned, unconditional, eq_comm]

end UpdateStatement

end TableWrite
