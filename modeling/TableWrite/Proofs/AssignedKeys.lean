import TableWrite.Proofs.DistinctKeys
import TableWrite.Proofs.UpdateAlignment

set_option autoImplicit false

namespace TableWrite

namespace TableColumns

variable {d : Dialect} {t : TableColumns} {changed : List String} {c : Column}

theorem column_of_updateAssignment? {a : Assignment}
    (adds : t.updateAssignment? d changed c = some a) : a.column = c.name := by
  unfold updateAssignment? at adds
  split at adds
  · cases adds
    rfl
  · cases adds
    rfl
  · cases adds

/-- Of its own a key is assigned only when it is a version token. -/
theorem updateAssignment?_of_key (keyed : c.primaryKey = true) :
    t.updateAssignment? d changed c =
      if t.roleIn .update changed c = .versionToken then some (.nextVersion c.name) else none := by
  have unbound : t.roleIn .update changed c ≠ .bound := by
    intro bound
    have keyless := (roleIn_eq_bound_iff.mp bound).1.keyless rfl
    rw [keyed] at keyless
    cases keyless
  unfold updateAssignment?
  cases role : t.roleIn .update changed c with
  | bound => exact absurd role unbound
  | versionToken => rfl
  | _ => rfl

end TableColumns

namespace UpdateStatement

variable {d : Dialect} {r : Request} {changed : List String}

/-- Does an update leave the columns of the key as they are? -/
def SparesKeys (t : TableColumns) (s : UpdateStatement) : Prop :=
  ∀ k ∈ t.columns, k.primaryKey = true → ∀ a ∈ s.assignments, a.column ≠ k.name

/-- Where names are distinct, a column is assigned by its role and by the slots that it fills. -/
theorem filter_assignments {c : Column} (distinct : (r.table.columns.map Column.name).Nodup)
    (mem : c ∈ r.table.columns) :
    (ofFresh d r changed).assignments.filter (·.column == c.name) =
      (r.table.updateAssignment? d changed c).toList ++
        ((r.table.slotsOf .update).filter (·.2 == c.name)).map fun s =>
          .computed s.2 s.1 (r.provider.expression s.1) := by
  have owned : ∀ other ∈ r.table.columns,
      ∀ a ∈ (r.table.updateAssignment? d changed other).toList, a.column = other.name := by
    intro other _ a adds
    exact TableColumns.column_of_updateAssignment? (Option.mem_toList.mp adds)
  have columns := filter_flatMap_of_nodup_map distinct owned mem
  change (_ ++ r.table.updateSlots r.provider).filter _ = _
  rw [List.filter_append, List.filterMap_eq_flatMap_toList, columns]
  unfold TableColumns.updateSlots
  rw [List.filter_map]
  rfl

/-- The assignments of a key: that of a version token, and those of the slots that it fills. -/
theorem filter_assignments_of_key {k : Column}
    (distinct : (r.table.columns.map Column.name).Nodup) (mem : k ∈ r.table.columns)
    (keyed : k.primaryKey = true) :
    (ofFresh d r changed).assignments.filter (·.column == k.name) =
      (if r.table.roleIn .update changed k = .versionToken then [.nextVersion k.name] else []) ++
        ((r.table.slotsOf .update).filter (·.2 == k.name)).map fun s =>
          .computed s.2 s.1 (r.provider.expression s.1) := by
  rw [filter_assignments distinct mem, TableColumns.updateAssignment?_of_key keyed]
  split
  · rfl
  · rfl

theorem filter_assignments_eq_nil_iff (d : Dialect) (changed : List String) {k : Column}
    (distinct : (r.table.columns.map Column.name).Nodup) (mem : k ∈ r.table.columns)
    (keyed : k.primaryKey = true) :
    (ofFresh d r changed).assignments.filter (·.column == k.name) = [] ↔
      ¬ r.table.ServerWritten .update k ∧
        (k.versionToken = true → k.autoIncrement = true ∨ k.serverToken = true) := by
  have unslotted : (r.table.slotsOf .update).filter (·.2 == k.name) = [] ↔
      ¬ r.table.ServerWritten .update k := by
    unfold TableColumns.ServerWritten
    rw [List.filter_eq_nil_iff]
    simp only [beq_iff_eq, not_exists, not_and]
  have token := TableColumns.role_eq_versionToken_iff r.table .update
    (changed.contains k.name && !k.primaryKey) k
  rw [filter_assignments_of_key distinct mem keyed, List.append_eq_nil_iff, List.map_eq_nil_iff,
    unslotted]
  unfold TableColumns.roleIn
  simp only [token]
  grind

theorem sparesKeys_iff (distinct : (r.table.columns.map Column.name).Nodup) :
    (ofFresh d r changed).SparesKeys r.table ↔
      ∀ k ∈ r.table.columns, k.primaryKey = true →
        ¬ r.table.ServerWritten .update k ∧
          (k.versionToken = true → k.autoIncrement = true ∨ k.serverToken = true) := by
  have each : ∀ k ∈ r.table.columns, k.primaryKey = true →
      ((∀ a ∈ (ofFresh d r changed).assignments, a.column ≠ k.name) ↔
        ¬ r.table.ServerWritten .update k ∧
          (k.versionToken = true → k.autoIncrement = true ∨ k.serverToken = true)) := by
    intro k mem keyed
    rw [← filter_assignments_eq_nil_iff d changed distinct mem keyed, List.filter_eq_nil_iff]
    simp only [beq_iff_eq, ne_eq]
  constructor
  · intro spares k mem keyed
    exact (each k mem keyed).mp (spares k mem keyed)
  · intro apart k mem keyed
    exact (each k mem keyed).mpr (apart k mem keyed)

end UpdateStatement

/-- What an update assigns to a key, and when it leaves all keys as they are: no key may fill a slot
for the last change that the database writes, and a key that is a version token has to be numbered
by the database or changed by it with every write. -/
theorem update_spares_keys_iff (d : Dialect) (r : Request) (changed : List String)
    (command : Command) (distinct : (r.table.columns.map Column.name).Nodup)
    (built : (Build.run d .empty r changed (.statement .update)).answer = .ok command) :
    ∃ statement, UpdateStatement.ofRequest d (PrototypeCache.empty.answer r d) r changed =
        .ok statement ∧
      command.text = statement.text d ∧
      (∀ k ∈ r.table.columns, k.primaryKey = true →
        statement.assignments.filter (·.column == k.name) =
          (if r.table.roleIn .update changed k = .versionToken then [.nextVersion k.name]
            else []) ++
          ((r.table.slotsOf .update).filter (·.2 == k.name)).map fun s =>
            .computed s.2 s.1 (r.provider.expression s.1)) ∧
      (statement.SparesKeys r.table ↔ ∀ k ∈ r.table.columns, k.primaryKey = true →
        r.table.dateModified ≠ some ⟨k.name, true⟩ ∧ r.table.modifiedBy ≠ some ⟨k.name, true⟩ ∧
          (k.versionToken = true → k.autoIncrement = true ∨ k.serverToken = true)) := by
  obtain ⟨statement, made, rfl⟩ :=
    (Build.answer_update_eq_ok_iff d .empty r changed command).mp built
  have parts := made
  rw [PrototypeCache.answer_empty, UpdateStatement.ofRequest_ofColumns_eq_ok_iff] at parts
  obtain ⟨-, -, -, rfl⟩ := parts
  refine ⟨_, made, rfl, ?_, ?_⟩
  · intro k mem keyed
    exact UpdateStatement.filter_assignments_of_key distinct mem keyed
  · rw [UpdateStatement.sparesKeys_iff distinct]
    simp only [TableColumns.serverWritten_update_iff, not_or, and_assoc, ne_eq]

theorem orders_update_spares_keys :
    (Request.orders.table.columns.map Column.name).Nodup ∧
      (Build.run .standard .empty .orders ["Id", "Unit Price"] (.statement .update)).answer =
        .ok .ordersUpdate ∧
      ∃ statement, UpdateStatement.ofRequest .standard
          (PrototypeCache.empty.answer .orders .standard) .orders ["Id", "Unit Price"] =
            .ok statement ∧
        statement.SparesKeys Request.orders.table := by
  have distinct : (Request.orders.table.columns.map Column.name).Nodup := by decide +kernel
  have built : (Build.run .standard .empty .orders ["Id", "Unit Price"]
      (.statement .update)).answer = .ok .ordersUpdate := by decide +kernel
  obtain ⟨statement, made, -, -, spares⟩ := update_spares_keys_iff _ _ _ _ distinct built
  exact ⟨distinct, built, statement, made, spares.mpr (by decide +kernel)⟩

/-- A request on a table whose key is the day of the last change. -/
def Request.datedPrices : Request :=
  { blank with
    provider := { Provider.blank with
      destination := "Prices"
      properties := [("DateModified.ServerSideText", "now()")] }
    table :=
      { TableColumns.empty with
        columns := [{ Column.ofName "ValidFrom" with primaryKey := true }, .ofName "Amount"]
        dateModified := some ⟨"ValidFrom", true⟩ } }

def Request.revisions : Request :=
  { blank with
    provider := { Provider.blank with destination := "Revisions" }
    table :=
      { TableColumns.empty with
        columns :=
          [{ Column.ofName "Revision" with primaryKey := true, versionToken := true },
            .ofName "Note"] } }

/-- A key in a slot that the database writes is assigned, and so is a key that is a version. -/
theorem update_assigns_key :
    ((Request.datedPrices.table.columns.map Column.name).Nodup ∧
      ∃ command, (Build.run .standard .empty .datedPrices ["Amount"]
          (.statement .update)).answer = .ok command ∧
        command.text = "UPDATE [Prices] SET [Amount] = @Amount, [ValidFrom] = now() " ++
          "WHERE [ValidFrom] = @ValidFrom;" ∧
        ∀ statement, UpdateStatement.ofRequest .standard
            (PrototypeCache.empty.answer .datedPrices .standard) .datedPrices ["Amount"] =
              .ok statement → ¬ statement.SparesKeys Request.datedPrices.table) ∧
    (Request.revisions.table.columns.map Column.name).Nodup ∧
      ∃ command, (Build.run .standard .empty .revisions ["Note"] (.statement .update)).answer =
          .ok command ∧
        command.text = "UPDATE [Revisions] SET [Revision] = [Revision] + 1, [Note] = @Note " ++
          "WHERE [Revision] = @Revision AND [Revision] = @Revision;" ∧
        ∀ statement, UpdateStatement.ofRequest .standard
            (PrototypeCache.empty.answer .revisions .standard) .revisions ["Note"] =
              .ok statement → ¬ statement.SparesKeys Request.revisions.table := by
  refine ⟨⟨by decide +kernel, _, rfl, by decide +kernel, ?_⟩,
    by decide +kernel, _, rfl, by decide +kernel, ?_⟩
  · intro statement made spares
    cases made
    have apart := spares { Column.ofName "ValidFrom" with primaryKey := true }
      (by decide +kernel) rfl (.computed "ValidFrom" .dateModified "now()") (by decide +kernel)
    exact apart rfl
  · intro statement made spares
    cases made
    have apart := spares { Column.ofName "Revision" with primaryKey := true, versionToken := true }
      (by decide +kernel) rfl (.nextVersion "Revision") (by decide +kernel)
    exact apart rfl

end TableWrite
