import TableWrite.Proofs.RowHistory

set_option autoImplicit false

namespace TableWrite

/-- The parameter of a column with the value that the column has. -/
def Parameter.Takes (valueOf : String → Option Value) (column : String) (p bound : Parameter) :
    Prop :=
  ∃ v, valueOf column = some v ∧ bound = { p with value := v }

theorem Parameter.Reads.bind_takes {d : Dialect} {column : String} {image : RowImage}
    {p : Parameter} {row : Row} {valueOf : String → Option Value} (reads : p.Reads d column image)
    (shown : row.value? column image = valueOf column) (given : ∃ v, valueOf column = some v) :
    ∃ bound, p.bind row = .ok bound ∧ p.Takes valueOf column bound := by
  obtain ⟨v, found⟩ := given
  exact ⟨{ p with value := v }, reads.bind_eq_ok (shown.trans found), v, found, rfl⟩

/-- What an optional contribution adds goes with what it comes from. -/
theorem forall₂_filterMap {α β : Type} (f : α → Option β) (xs : List α) :
    List.Forall₂ (fun a b => f a = some b) (xs.filter fun a => (f a).isSome) (xs.filterMap f) := by
  induction xs with
  | nil => exact .nil
  | cons a rest ih =>
      rw [List.filter_cons, List.filterMap_cons]
      cases added : f a with
      | none => exact ih
      | some b => exact .cons added ih

namespace UpdateStatement

/-- The bound parameters of an update: one for each assignment that has a parameter, with the
newest value of its column, and then one for each condition, with the value that was read. -/
structure TakesImages (s : UpdateStatement) (values sets : List (String × Value))
    (assigned conditioned : List Parameter) : Prop where
  newest : List.Forall₂
    (fun a bound =>
      ∃ p, a.parameter? = some p ∧ p.Takes (newestValue? values sets) a.column bound)
    (s.assignments.filter fun a => a.parameter?.isSome) assigned
  read : List.Forall₂ (fun c bound => c.parameter.Takes (lastValue? values) c.column bound)
    s.conditions conditioned

variable (d : Dialect) {r : Request} (changed : List String) {values : List (String × Value)}
  (sets : List (String × Value))

theorem bindAll_assignments
    (full : ∀ c ∈ r.table.columns, c.name ∈ values.map Prod.fst) :
    ∃ assigned, Parameter.bindAll ((Row.unchanged values).setAll sets)
        ((ofFresh d r changed).assignments.filterMap Assignment.parameter?) = (assigned, none) ∧
      List.Forall₂
        (fun a bound =>
          ∃ p, a.parameter? = some p ∧ p.Takes (newestValue? values sets) a.column bound)
        ((ofFresh d r changed).assignments.filter fun a => a.parameter?.isSome) assigned := by
  have lined := (List.forall₂_and_left _ _).mpr
    ⟨fun a mem => List.mem_of_mem_filter mem,
      forall₂_filterMap Assignment.parameter? (ofFresh d r changed).assignments⟩
  apply Parameter.bindAll_lined lined
  rintro a p ⟨mem, given⟩
  -- Only a bound column has a parameter, and it stands for that column.
  have reads := reads_of_mem_assignments mem given
  obtain ⟨c, there, -, rfl, -⟩ := bound_of_mem_assignments mem given
  obtain ⟨bound, binds, takes⟩ := reads.bind_takes
    (Row.value?_setAll_current values sets c.name) (exists_newestValue? sets (full c there))
  exact ⟨bound, binds, p, given, takes⟩

theorem bindAll_conditions
    (full : ∀ c ∈ r.table.columns, c.name ∈ values.map Prod.fst) :
    ∃ conditioned, Parameter.bindAll ((Row.unchanged values).setAll sets)
        ((ofFresh d r changed).conditions.map Condition.parameter) = (conditioned, none) ∧
      List.Forall₂ (fun c bound => c.parameter.Takes (lastValue? values) c.column bound)
        (ofFresh d r changed).conditions conditioned := by
  have lined : List.Forall₂
      (fun c p => c ∈ (ofFresh d r changed).conditions ∧ p = c.parameter)
      (ofFresh d r changed).conditions
      ((ofFresh d r changed).conditions.map Condition.parameter) := by
    rw [List.forall₂_map_right_iff, List.forall₂_same]
    exact fun c mem => ⟨mem, rfl⟩
  apply Parameter.bindAll_lined lined
  rintro condition p ⟨mem, rfl⟩
  have reads := reads_of_mem_conditions mem
  obtain ⟨c, there, -, rfl⟩ := mem_conditions_iff.mp mem
  exact reads.bind_takes (Row.value?_setAll_loaded values sets c.name)
    (exists_lastValue? (full c there))

end UpdateStatement

/-- A row that was read as a whole can be bound to every update. Whatever was set since, the
assignments have the newest values, and the conditions those that were read. -/
theorem update_binds_both_images (d : Dialect) (r : Request) (changed : List String)
    (command : Command) (values sets : List (String × Value))
    (full : ∀ c ∈ r.table.columns, c.name ∈ values.map Prod.fst)
    (built : (Build.run d .empty r changed (.statement .update)).answer = .ok command) :
    ∃ statement assigned conditioned,
      UpdateStatement.ofRequest d (PrototypeCache.empty.answer r d) r changed = .ok statement ∧
      command.text = statement.text d ∧ command.parameters = statement.parameters ∧
      command.bindError? ((Row.unchanged values).setAll sets) = none ∧
      (command.bindRow ((Row.unchanged values).setAll sets)).parameters =
        assigned ++ conditioned ∧
      statement.TakesImages values sets assigned conditioned := by
  obtain ⟨statement, made, rfl⟩ :=
    (Build.answer_update_eq_ok_iff d .empty r changed command).mp built
  have parts := made
  rw [PrototypeCache.answer_empty, UpdateStatement.ofRequest_ofColumns_eq_ok_iff] at parts
  obtain ⟨-, -, -, rfl⟩ := parts
  obtain ⟨assigned, binds, newest⟩ := UpdateStatement.bindAll_assignments d changed sets full
  obtain ⟨conditioned, looks, read⟩ := UpdateStatement.bindAll_conditions d changed sets full
  -- Once the assignments are bound, the conditions are bound behind them.
  have whole : Parameter.bindAll ((Row.unchanged values).setAll sets)
      (UpdateStatement.ofFresh d r changed).parameters = (assigned ++ conditioned, none) := by
    unfold UpdateStatement.parameters
    rw [Parameter.bindAll_append binds, looks]
  refine ⟨_, assigned, conditioned, made, rfl, rfl, ?_, ?_, newest, read⟩
  · unfold Command.bindError?
    dsimp only
    rw [whole]
    rfl
  · unfold Command.bindRow
    dsimp only
    rw [whole]

def Row.orderRead : List (String × Value) :=
  [("Id", .integer 7), ("Unit Price", .integer 10), ("Version", .integer 3), ("Changed", .null)]

def Row.orderSets : List (String × Value) :=
  [("Unit Price", .integer 11), ("Id", .integer 8), ("Version", .integer 99),
    ("Unit Price", .integer 12)]

theorem orders_update_binds_both_images :
    (∀ c ∈ Request.orders.table.columns, c.name ∈ Row.orderRead.map Prod.fst) ∧
      (Build.run .standard .empty .orders ["Changed", "Unit Price"] (.statement .update)).answer =
        .ok .ordersUpdate ∧
      (∃ statement assigned conditioned,
        UpdateStatement.ofRequest .standard (PrototypeCache.empty.answer .orders .standard) .orders
          ["Changed", "Unit Price"] = .ok statement ∧
        (Command.ordersUpdate.bindRow
          ((Row.unchanged Row.orderRead).setAll Row.orderSets)).parameters =
            assigned ++ conditioned ∧
        statement.TakesImages Row.orderRead Row.orderSets assigned conditioned) ∧
      (Command.ordersUpdate.bindRow
        ((Row.unchanged Row.orderRead).setAll Row.orderSets)).parameters.map Parameter.value =
          [.integer 12, .integer 7, .integer 3] := by
  have full : ∀ c ∈ Request.orders.table.columns, c.name ∈ Row.orderRead.map Prod.fst := by
    decide +kernel
  have built : (Build.run .standard .empty .orders ["Changed", "Unit Price"]
      (.statement .update)).answer = .ok .ordersUpdate := by decide +kernel
  obtain ⟨statement, assigned, conditioned, made, -, -, -, bound, takes⟩ :=
    update_binds_both_images _ _ _ _ _ Row.orderSets full built
  exact ⟨full, built, ⟨statement, assigned, conditioned, made, bound, takes⟩, by decide +kernel⟩

end TableWrite
