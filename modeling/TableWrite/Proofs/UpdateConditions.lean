import TableWrite.Proofs.DistinctKeys
import TableWrite.Proofs.UpdateAlignment

set_option autoImplicit false

namespace TableWrite

def Column.FindsRow (c : Column) : Prop :=
  c.primaryKey = true ∨ c.serverToken = true ∨ c.versionToken = true

instance (c : Column) : Decidable c.FindsRow := inferInstanceAs (Decidable (_ ∨ _ ∨ _))

namespace TableColumns

/-- The number of conditions that a column adds to an update. -/
def conditionCount (t : TableColumns) (c : Column) : Nat :=
  (if t.ChecksToken c then 1 else 0) + if c.primaryKey then 1 else 0

theorem length_updateConditions (d : Dialect) (t : TableColumns) (c : Column) :
    (t.updateConditions d c).length = t.conditionCount c := by
  unfold updateConditions conditionCount
  rw [List.length_append]
  split <;> split <;> rfl

theorem conditionCount_eq_one_iff (t : TableColumns) (c : Column) :
    t.conditionCount c = 1 ↔ (c.primaryKey = true ↔ ¬ t.ChecksToken c) := by
  unfold conditionCount
  by_cases checked : t.ChecksToken c <;> cases c.primaryKey <;> simp [checked]

theorem findsRow_of_mem_updateConditions {d : Dialect} {t : TableColumns} {c : Column}
    {condition : Condition} (mem : condition ∈ t.updateConditions d c) :
    c.FindsRow ∧ condition = t.loadedCondition d c := by
  obtain ⟨checked | keyed, same⟩ := (mem_updateConditions_iff d t).mp mem
  · exact ⟨.inr checked.2.2, same⟩
  · exact ⟨.inl keyed, same⟩

/-- Where names are distinct, a column owns what was added under its name. -/
theorem countP_flatMap_updateConditions {d : Dialect} {t : TableColumns} {columns : List Column}
    {c : Column} (distinct : (columns.map Column.name).Nodup) (mem : c ∈ columns) :
    (columns.flatMap (t.updateConditions d)).countP (·.column == c.name) =
      t.conditionCount c := by
  have owned : ∀ other ∈ columns, ∀ condition ∈ t.updateConditions d other,
      condition.column = other.name := by
    intro other _ condition added
    rw [(findsRow_of_mem_updateConditions added).2]
    rfl
  rw [List.countP_eq_length_filter, filter_flatMap_of_nodup_map distinct owned mem,
    length_updateConditions]

end TableColumns

/-- The parameters of a command that read a column as it was loaded. -/
def Command.loadedParameters (command : Command) (column : String) : List Parameter :=
  command.parameters.filter fun p => p.image == .loaded && p.source == some column

namespace UpdateStatement

variable {d : Dialect} {r : Request} {changed : List String}

theorem not_loaded_of_assignment {a : Assignment} {p : Parameter} (column : String)
    (mem : a ∈ (ofFresh d r changed).assignments) (given : a.parameter? = some p) :
    (p.image == .loaded && p.source == some column) = false := by
  rw [(reads_of_mem_assignments mem given).image]
  rfl

/-- Every condition has the one loaded parameter that reads its column. -/
theorem countP_loaded_parameters (column : String) :
    (ofFresh d r changed).parameters.countP
        (fun p => p.image == .loaded && p.source == some column) =
      (ofFresh d r changed).conditions.countP (·.column == column) := by
  have assigned : ((ofFresh d r changed).assignments.filterMap Assignment.parameter?).countP
      (fun p => p.image == .loaded && p.source == some column) = 0 := by
    rw [List.countP_eq_zero]
    intro p mem
    obtain ⟨a, added, given⟩ := List.mem_filterMap.mp mem
    rw [not_loaded_of_assignment column added given]
    exact Bool.false_ne_true
  unfold parameters
  rw [List.countP_append, assigned, Nat.zero_add, List.countP_map]
  apply List.countP_congr
  intro condition mem
  have reads := reads_of_mem_conditions mem
  change (condition.parameter.image == .loaded &&
    condition.parameter.source == some column) = true ↔ _
  rw [reads.image, reads.source]
  simp

end UpdateStatement

/-- Every key and every token has exactly one condition and one loaded parameter, and no other
column has a condition. -/
structure FindsRowOnce (r : Request) (statement : UpdateStatement) (command : Command) : Prop where
  once : ∀ c ∈ r.table.columns, c.FindsRow →
    statement.conditions.countP (·.column == c.name) = 1 ∧
      (command.loadedParameters c.name).length = 1
  only : ∀ condition ∈ statement.conditions,
    ∃ c ∈ r.table.columns, c.FindsRow ∧ c.name = condition.column

/-- What the conditions of an update are in general, and when they are those that are wanted. -/
theorem update_finds_row_once_iff (d : Dialect) (r : Request) (changed : List String)
    (command : Command) (distinct : (r.table.columns.map Column.name).Nodup)
    (built : (Build.run d .empty r changed (.statement .update)).answer = .ok command) :
    ∃ statement, UpdateStatement.ofRequest d (PrototypeCache.empty.answer r d) r changed =
        .ok statement ∧
      command.text = statement.text d ∧ command.parameters = statement.parameters ∧
      (∀ c ∈ r.table.columns,
        statement.conditions.countP (·.column == c.name) = r.table.conditionCount c ∧
          (command.loadedParameters c.name).length = r.table.conditionCount c) ∧
      (FindsRowOnce r statement command ↔
        ∀ c ∈ r.table.columns, c.FindsRow → (c.primaryKey = true ↔ ¬ r.table.ChecksToken c)) := by
  obtain ⟨statement, made, rfl⟩ :=
    (Build.answer_update_eq_ok_iff d .empty r changed command).mp built
  have parts := made
  rw [PrototypeCache.answer_empty, UpdateStatement.ofRequest_ofColumns_eq_ok_iff] at parts
  obtain ⟨-, -, -, rfl⟩ := parts
  have counted : ∀ c ∈ r.table.columns,
      (UpdateStatement.ofFresh d r changed).conditions.countP (·.column == c.name) =
          r.table.conditionCount c ∧
        ((Command.mk ((UpdateStatement.ofFresh d r changed).text d) .text
          (UpdateStatement.ofFresh d r changed).parameters r.timeout).loadedParameters
            c.name).length = r.table.conditionCount c := by
    intro c mem
    have conditions := TableColumns.countP_flatMap_updateConditions (d := d) (t := r.table)
      distinct mem
    refine ⟨conditions, ?_⟩
    unfold Command.loadedParameters
    rw [← List.countP_eq_length_filter, UpdateStatement.countP_loaded_parameters]
    exact conditions
  refine ⟨_, made, rfl, rfl, counted, ?_⟩
  constructor
  · intro found c mem wanted
    rw [← TableColumns.conditionCount_eq_one_iff, ← (counted c mem).1]
    exact (found.once c mem wanted).1
  · intro wants
    constructor
    · intro c mem wanted
      rw [(counted c mem).1, (counted c mem).2, TableColumns.conditionCount_eq_one_iff]
      exact ⟨wants c mem wanted, wants c mem wanted⟩
    · intro condition mem
      obtain ⟨c, there, added⟩ := List.mem_flatMap.mp mem
      obtain ⟨wanted, rfl⟩ := TableColumns.findsRow_of_mem_updateConditions added
      exact ⟨c, there, wanted, rfl⟩

theorem orders_update_finds_row_once :
    (Request.orders.table.columns.map Column.name).Nodup ∧
      (Build.run .standard .empty .orders ["Changed", "Unit Price"] (.statement .update)).answer =
        .ok .ordersUpdate ∧
      ∃ statement, UpdateStatement.ofRequest .standard
          (PrototypeCache.empty.answer .orders .standard) .orders ["Changed", "Unit Price"] =
            .ok statement ∧
        FindsRowOnce .orders statement .ordersUpdate := by
  have distinct : (Request.orders.table.columns.map Column.name).Nodup := by decide +kernel
  have built : (Build.run .standard .empty .orders ["Changed", "Unit Price"]
      (.statement .update)).answer = .ok .ordersUpdate := by decide +kernel
  obtain ⟨statement, made, -, -, -, once⟩ := update_finds_row_once_iff _ _ _ _ distinct built
  exact ⟨distinct, built, statement, made, once.mpr (by decide +kernel)⟩

def Request.stampedKey : Request :=
  { blank with
    provider := { Provider.blank with destination := "Orders" }
    table :=
      { TableColumns.empty with
        columns :=
          [{ Column.ofName "Id" with primaryKey := true, serverToken := true },
            .ofName "Note"] } }

/-- A request on a table whose server token is in a slot that every update writes. -/
def Request.stampedSlot : Request :=
  { blank with
    provider := { Provider.blank with
      destination := "Orders"
      properties := [("DateModified.ServerSideText", "now()")] }
    table :=
      { TableColumns.empty with
        columns :=
          [{ Column.ofName "Id" with primaryKey := true },
            { Column.ofName "Stamp" with serverToken := true }, .ofName "Note"]
        dateModified := some ⟨"Stamp", true⟩ } }

/-- A key that is a token has its condition twice, and a token in a written slot has none. -/
theorem update_condition_twice_or_never :
    ((Request.stampedKey.table.columns.map Column.name).Nodup ∧
      (∃ command, (Build.run .standard .empty .stampedKey ["Note"] (.statement .update)).answer =
          .ok command ∧
        command.text = "UPDATE [Orders] SET [Note] = @Note WHERE [Id] = @Id AND [Id] = @Id;" ∧
        ∀ statement, UpdateStatement.ofRequest .standard
            (PrototypeCache.empty.answer .stampedKey .standard) .stampedKey ["Note"] =
              .ok statement → ¬ FindsRowOnce .stampedKey statement command)) ∧
    (Request.stampedSlot.table.columns.map Column.name).Nodup ∧
      ∃ command, (Build.run .standard .empty .stampedSlot ["Note"] (.statement .update)).answer =
          .ok command ∧
        command.text = "UPDATE [Orders] SET [Note] = @Note, [Stamp] = now() WHERE [Id] = @Id;" ∧
        ∀ statement, UpdateStatement.ofRequest .standard
            (PrototypeCache.empty.answer .stampedSlot .standard) .stampedSlot ["Note"] =
              .ok statement → ¬ FindsRowOnce .stampedSlot statement command := by
  refine ⟨⟨by decide +kernel, _, rfl, by decide +kernel, ?_⟩,
    by decide +kernel, _, rfl, by decide +kernel, ?_⟩
  · intro statement made found
    cases made
    have once := found.once { Column.ofName "Id" with primaryKey := true, serverToken := true }
      (by decide +kernel) (by decide +kernel)
    exact absurd once.1 (by decide +kernel)
  · intro statement made found
    cases made
    have once := found.once { Column.ofName "Stamp" with serverToken := true }
      (by decide +kernel) (by decide +kernel)
    exact absurd once.1 (by decide +kernel)

end TableWrite
