import TableWrite.Proofs.TermOutlines
import TableWrite.Proofs.UpdateAlignment

set_option autoImplicit false

namespace TableWrite

namespace TableColumns

/-- The columns of the tokens that an update checks. -/
def checkedTokens (t : TableColumns) : List String :=
  (t.columns.filter fun c => t.ChecksToken c).map Column.name

def versionTokens (t : TableColumns) : List String :=
  (t.columns.filter Column.versionToken).map Column.name

end TableColumns

namespace UpdateStatement

variable {s : Prototypes} {r : Request} {changed : List String} {c : Column}

/-- Without a key, a column is required for its token only. -/
theorem required_columnOutline (r : Request) (changed : List String)
    (keyless : c.primaryKey = false) :
    (columnOutline r changed c).filterMap Sum.getRight? =
      if r.table.ChecksToken c then [c.name] else [] := by
  simp only [r.table.checksToken_iff changed c, columnOutline, roleOutline, keyless]
  cases r.table.roleIn .update changed c <;> rfl

theorem requiredColumns_of_slotTerms {p : Provider} {slot : AuditSlot × String}
    {terms : List UpdateTerm} (made : slotTerms p slot = .ok terms) :
    requiredColumns terms = [] := by
  obtain ⟨text, -, same⟩ := bind_eq_ok_iff.mp made
  cases same
  rfl

theorem ofTerms_eq_ok {table : String} {terms : List UpdateTerm} {statement : UpdateStatement}
    (made : ofTerms table terms = .ok statement) :
    statement.conditions ≠ [] ∧ statement.conditions.map Condition.column =
      requiredColumns terms := by
  unfold ofTerms at made
  dsimp only at made
  split at made
  · cases made
  · split at made
    · cases made
    · rename_i conditional
      cases made
      exact ⟨fun empty => conditional (List.isEmpty_iff.mpr empty), rfl⟩

/-- Without a key, an update has a condition for each token it checks, and there is one. -/
theorem columns_of_keyless {d : Dialect} {statement : UpdateStatement}
    (keyless : ∀ c ∈ r.table.columns, c.primaryKey = false)
    (made : ofRequest d s r changed = .ok statement) :
    statement.conditions ≠ [] ∧
      statement.conditions.map Condition.column = r.table.checkedTokens := by
  obtain ⟨columns, ofColumns, rest⟩ := bind_eq_ok_iff.mp made
  obtain ⟨slots, ofSlots, assembled⟩ := bind_eq_ok_iff.mp rest
  have required : requiredColumns columns = r.table.checkedTokens := by
    rw [requiredColumns_eq_outline, outline_of_collect ofColumns, List.filterMap_flatMap]
    apply flatMap_selected
    intro c mem
    rw [required_columnOutline r changed (keyless c mem)]
    simp
  have silent : requiredColumns slots = [] := by
    rw [seen_of_collect rfl requiredColumns_append
      (fun slot _ part asked => requiredColumns_of_slotTerms asked) ofSlots]
    exact List.flatMap_eq_nil_iff.mpr fun _ _ => rfl
  have conditions := ofTerms_eq_ok assembled
  rw [requiredColumns_append, required, silent, List.append_nil] at conditions
  exact conditions

end UpdateStatement

namespace DeleteStatement

variable {d : Dialect} {s : Prototypes} {r : Request}

theorem ofConditions_eq_ok {table : String} {conditions : List Condition}
    {statement : DeleteStatement} (made : ofConditions table conditions = .ok statement) :
    statement.conditions ≠ [] ∧ statement.conditions = conditions := by
  unfold ofConditions at made
  split at made
  · cases made
  · rename_i conditional
    cases made
    exact ⟨fun empty => conditional (List.isEmpty_iff.mpr empty), rfl⟩

/-- Without a key, a delete has a condition for each version token, and there is one. -/
theorem columns_of_keyless {statement : DeleteStatement}
    (keyless : ∀ c ∈ r.table.columns, c.primaryKey = false)
    (made : ofRequest d s r = .ok statement) :
    statement.conditions ≠ [] ∧
      statement.conditions.map Condition.column = r.table.versionTokens := by
  obtain ⟨conditions, ofColumns, assembled⟩ := bind_eq_ok_iff.mp made
  have required : conditions.map Condition.column = r.table.versionTokens := by
    rw [columns_of_collect ofColumns]
    apply flatMap_selected
    intro c mem
    unfold Column.findsDeleted
    rw [keyless c mem, Bool.false_or]
  obtain ⟨found, rfl⟩ := ofConditions_eq_ok assembled
  exact ⟨found, required⟩

/-- Without a key and a version token, no prototype is asked for. -/
theorem ofRequest_of_unversioned (keyless : ∀ c ∈ r.table.columns, c.primaryKey = false)
    (unversioned : r.table.versionTokens = []) :
    ofRequest d s r = .error (.emptyClause (r.tableText d) .conditions) := by
  have plain := List.filter_eq_nil_iff.mp (List.map_eq_nil_iff.mp unversioned)
  have silent : ∀ c ∈ r.table.columns, columnConditions s c = .ok [] := by
    intro c mem
    simp only [columnConditions, keyless c mem, Bool.false_or, plain c mem, Bool.false_eq_true,
      ↓reduceIte]
  have nothing : collect (columnConditions s) r.table.columns = .ok [] := by
    rw [collect_ok silent, List.flatMap_eq_nil_iff.mpr fun _ _ => rfl]
  simp only [ofRequest, nothing]
  rfl

end DeleteStatement

/-- On a table without a key, an update or a delete finds its rows by one condition for each token
that it checks, in the order of the columns; without such a token it is never built. -/
theorem keyless_tables_written_by_tokens (d : Dialect) (cache : PrototypeCache) (r : Request)
    (changed : List String) (keyless : ∀ c ∈ r.table.columns, c.primaryKey = false) :
    (r.table.checkedTokens = [] →
      ∃ e, (Build.run d cache r changed (.statement .update)).answer = .error e) ∧
    (r.table.versionTokens = [] →
      (Build.run d cache r changed (.statement .delete)).answer =
        .error (.emptyClause (r.tableText d) .conditions)) ∧
    (∀ command, (Build.run d cache r changed (.statement .update)).answer = .ok command →
      ∃ statement, UpdateStatement.ofRequest d (cache.answer r d) r changed = .ok statement ∧
        command.text = statement.text d ∧ statement.conditions ≠ [] ∧
        statement.conditions.map Condition.column = r.table.checkedTokens) ∧
    ∀ command, (Build.run d cache r changed (.statement .delete)).answer = .ok command →
      ∃ statement, DeleteStatement.ofRequest d (cache.answer r d) r = .ok statement ∧
        command.text = statement.text d ∧ statement.conditions ≠ [] ∧
        statement.conditions.map Condition.column = r.table.versionTokens := by
  refine ⟨?_, ?_, ?_, ?_⟩
  · intro unchecked
    cases built : (Build.run d cache r changed (.statement .update)).answer with
    | error e => exact ⟨e, rfl⟩
    | ok command =>
        obtain ⟨statement, made, -⟩ := (Build.answer_update_eq_ok_iff _ _ _ _ _).mp built
        obtain ⟨found, columns⟩ := UpdateStatement.columns_of_keyless keyless made
        rw [unchecked] at columns
        exact absurd (List.map_eq_nil_iff.mp columns) found
  · intro unversioned
    apply (Build.answer_delete_eq_error_iff d cache r changed _).mpr
    exact DeleteStatement.ofRequest_of_unversioned keyless unversioned
  · intro command built
    obtain ⟨statement, made, rfl⟩ := (Build.answer_update_eq_ok_iff _ _ _ _ _).mp built
    exact ⟨statement, made, rfl, UpdateStatement.columns_of_keyless keyless made⟩
  · intro command built
    obtain ⟨statement, made, rfl⟩ := (Build.answer_delete_eq_ok_iff _ _ _ _ _).mp built
    exact ⟨statement, made, rfl, DeleteStatement.columns_of_keyless keyless made⟩

def Request.logLines : Request :=
  { blank with
    provider := { Provider.blank with destination := "Log" }
    table :=
      { TableColumns.empty with
        columns := [.ofName "Line", { Column.ofName "Version" with versionToken := true }] } }

theorem log_lines_written_by_version :
    (∀ c ∈ Request.logLines.table.columns, c.primaryKey = false) ∧
      (∃ statement, UpdateStatement.ofRequest .standard
          (PrototypeCache.empty.answer .logLines .standard) .logLines ["Line"] = .ok statement ∧
        statement.conditions.map Condition.column = ["Version"]) ∧
      ∃ statement, DeleteStatement.ofRequest .standard
          (PrototypeCache.empty.answer .logLines .standard) .logLines = .ok statement ∧
        statement.conditions.map Condition.column = ["Version"] := by
  have keyless : ∀ c ∈ Request.logLines.table.columns, c.primaryKey = false := by decide +kernel
  obtain ⟨-, -, updates, deletes⟩ :=
    keyless_tables_written_by_tokens .standard .empty .logLines ["Line"] keyless
  obtain ⟨update, updateMade, -, -, updateColumns⟩ := updates _ rfl
  obtain ⟨delete, deleteMade, -, -, deleteColumns⟩ := deletes _ rfl
  exact ⟨keyless, ⟨update, updateMade, updateColumns⟩, delete, deleteMade, deleteColumns⟩

/-- A table with a version token is updated and deleted from although it has no key. -/
theorem log_lines_written_without_key :
    (∀ c ∈ Request.logLines.table.columns, c.primaryKey = false) ∧
      (∃ command, (Build.run .standard .empty .logLines ["Line"] (.statement .update)).answer =
          .ok command ∧
        command.text = "UPDATE [Log] SET [Line] = @Line, [Version] = [Version] + 1 " ++
          "WHERE [Version] = @Version;") ∧
      ∃ command, (Build.run .standard .empty .logLines ["Line"] (.statement .delete)).answer =
          .ok command ∧
        command.text = "DELETE FROM [Log] WHERE [Version] = @Version" := by
  refine ⟨by decide +kernel, ⟨_, rfl, ?_⟩, _, rfl, ?_⟩
  · decide +kernel
  · decide +kernel

end TableWrite
