import TableWrite.Proofs.InsertAlignment
import TableWrite.Proofs.UpdateImages

set_option autoImplicit false

namespace TableWrite

theorem Keyed.exists_get?_of_mem {α β : Type} [BEq α] [LawfulBEq α] {m : Keyed α β} {p : α × β}
    (mem : p ∈ m) : ∃ v, get? m p.1 = some v := by
  induction m with
  | nil => cases mem
  | cons first rest ih =>
      rw [get?_cons]
      rcases List.mem_cons.mp mem with rfl | inside
      · simp
      · obtain ⟨v, found⟩ := ih inside
        by_cases same : (p.1 == first.1) = true
        · simp [same]
        · simp [same, found]

namespace Row

theorem value?_current_of_kept {row : Row} (column : String) (kept : row.state ≠ .deleted) :
    row.value? column .current = Keyed.get? row.current column := by
  simp only [value?, shown, kept, ↓reduceIte]

/-- A column that was changed has a value. -/
theorem exists_value?_of_changed {row : Row} {column : String} (kept : row.state ≠ .deleted)
    (changed : column ∈ row.changedColumns) : ∃ v, row.value? column .current = some v := by
  rw [value?_current_of_kept column kept]
  unfold changedColumns at changed
  rw [List.mem_mergeSort] at changed
  obtain ⟨p, differs, rfl⟩ := List.mem_map.mp changed
  exact Keyed.exists_get?_of_mem (List.mem_of_mem_filter differs)

end Row

namespace TableColumns

variable (d : Dialect) (t : TableColumns) (changed : List String)

def insertParameter? (c : Column) : Option Parameter :=
  match t.roleIn .insert changed c with
  | .bound => some (t.prototype d c)
  | .versionToken => some ((t.prototype d c).literal (.integer 1))
  | _ => none

/-- The parameter of a column in an insert to which a row was bound: it has the value of its
column, and a version token has kept its first value. -/
def InsertTakes (valueOf : String → Option Value) (c : Column) (bound : Parameter) : Prop :=
  match t.roleIn .insert changed c with
  | .bound => (t.prototype d c).Takes valueOf c.name bound
  | .versionToken => bound = (t.prototype d c).literal (.integer 1)
  | _ => False

theorem isSome_insertParameter? (c : Column) :
    (t.insertParameter? d changed c).isSome = t.insertWrites changed c := by
  unfold insertParameter? insertWrites
  cases t.roleIn .insert changed c <;> rfl

variable {d t changed}

/-- Of a row that is not deleted, every column that its insert binds has a value. -/
theorem bind_insertParameter? {row : Row} {c : Column} {p : Parameter}
    (kept : row.state ≠ .deleted)
    (given : t.insertParameter? d row.changedColumns c = some p) :
    ∃ bound, p.bind row = .ok bound ∧
      t.InsertTakes d row.changedColumns (row.value? · .current) c bound := by
  unfold insertParameter? at given
  unfold InsertTakes
  cases role : t.roleIn .insert row.changedColumns c with
  | bound =>
      simp only [role, Option.some.injEq] at given
      subst given
      have supplied := Row.exists_value?_of_changed kept (roleIn_eq_bound_iff.mp role).2
      exact (t.prototype_reads d c).bind_takes rfl supplied
  | versionToken =>
      simp only [role, Option.some.injEq] at given
      subst given
      -- A literal value reads nothing of the row.
      have detached : ((t.prototype d c).literal (.integer 1)).reads? = none := by
        simp [Parameter.reads?, Parameter.literal]
      refine ⟨_, ?_, rfl⟩
      simp only [Parameter.bind, detached]
  | _ => simp [role] at given

end TableColumns

namespace InsertStatement

variable (d : Dialect) (r : Request)

theorem parameters_eq_filterMap (changed : List String) :
    (ofFresh d r changed).parameters =
      r.table.columns.filterMap (r.table.insertParameter? d changed) := by
  have each : (fun c => (r.table.insertCell? d changed c).bind fun c => c.value.parameter?) =
      r.table.insertParameter? d changed := by
    funext c
    unfold TableColumns.insertCell? TableColumns.insertParameter?
    cases r.table.roleIn .insert changed c <;> rfl
  rw [parameters_of_columns, List.filterMap_filterMap, each]

theorem bindAll_parameters {row : Row} (kept : row.state ≠ .deleted) :
    ∃ bound, Parameter.bindAll row (ofFresh d r row.changedColumns).parameters = (bound, none) ∧
      List.Forall₂ (r.table.InsertTakes d row.changedColumns (row.value? · .current))
        (r.table.columns.filter (r.table.insertWrites row.changedColumns)) bound := by
  have lined := forall₂_filterMap (r.table.insertParameter? d row.changedColumns) r.table.columns
  simp only [TableColumns.isSome_insertParameter?] at lined
  rw [parameters_eq_filterMap]
  exact Parameter.bindAll_lined lined fun c p given =>
    TableColumns.bind_insertParameter? kept given

end InsertStatement

/-- A row that is not deleted can be bound to the insert of the columns that were changed in it,
whatever happened to it and whichever columns it lacks. Bound columns have the values that they
were last given, and version tokens start at one. -/
theorem insert_binds_changed_columns (d : Dialect) (r : Request) (command : Command)
    (values : List (String × Value)) (edits : List Row.Edit) (row : Row)
    (reached : row = .run edits (.added values) ∨ row = .run edits (.unchanged values))
    (kept : row.state ≠ .deleted)
    (built : (Build.run d .empty r row.changedColumns (.statement .insert)).answer =
      .ok command) :
    command.parameters =
        r.table.columns.filterMap (r.table.insertParameter? d row.changedColumns) ∧
      command.bindError? row = none ∧
      List.Forall₂ (r.table.InsertTakes d row.changedColumns (row.value? · .current))
        (r.table.columns.filter (r.table.insertWrites row.changedColumns))
        (command.bindRow row).parameters ∧
      ∀ column, row.value? column .current =
        newestValue? values (edits.filterMap Row.Edit.given?) column := by
  obtain ⟨statement, made, rfl⟩ :=
    (Build.answer_insert_eq_ok_iff d .empty r row.changedColumns command).mp built
  rw [PrototypeCache.answer_empty, InsertStatement.ofRequest_ofColumns_eq_ok_iff] at made
  obtain ⟨-, rfl⟩ := made
  obtain ⟨bound, binds, takes⟩ := InsertStatement.bindAll_parameters d r kept
  refine ⟨InsertStatement.parameters_eq_filterMap d r _, ?_, ?_, ?_⟩
  · simp [Command.bindError?, binds]
  · simpa [Command.bindRow, binds] using takes
  · intro column
    rw [Row.value?_current_of_kept column kept]
    rcases reached with rfl | rfl
    · exact Row.get?_current_run edits column rfl
    · exact Row.get?_current_run edits column rfl

/-- An order that was deleted and came back with a new price, a version, and a column that its
table lacks. It lacks columns of the table in turn. -/
def Row.changedOrder : Row :=
  .run [.set "Unit Price" (.integer 11), .delete, .accept, .set "Version" (.integer 99),
      .set "Unit Price" (.integer 12), .set "Weight" (.integer 3)]
    (.unchanged [("Unit Price", .integer 10), ("Note", .null)])

theorem changed_order_is_inserted :
    Row.changedOrder.state ≠ .deleted ∧
      Row.changedOrder.changedColumns = ["Unit Price", "Version", "Weight"] ∧
      (Build.run .standard .empty .orders Row.changedOrder.changedColumns
        (.statement .insert)).answer = .ok .ordersInsert ∧
      Command.ordersInsert.bindError? .changedOrder = none ∧
      List.Forall₂
        (Request.orders.table.InsertTakes .standard Row.changedOrder.changedColumns
          (Row.changedOrder.value? · .current))
        (Request.orders.table.columns.filter
          (Request.orders.table.insertWrites Row.changedOrder.changedColumns))
        (Command.ordersInsert.bindRow .changedOrder).parameters ∧
      (Command.ordersInsert.bindRow .changedOrder).parameters.map Parameter.value =
        [.integer 12, .integer 1] := by
  have kept : Row.changedOrder.state ≠ .deleted := by decide +kernel
  have changed : Row.changedOrder.changedColumns = ["Unit Price", "Version", "Weight"] := by
    have unsorted : (Row.changedOrder.current.filter Row.changedOrder.differs).map Prod.fst =
        ["Unit Price", "Version", "Weight"] := by decide +kernel
    unfold Row.changedColumns
    rw [unsorted]
    exact List.mergeSort_of_pairwise (by decide +kernel)
  have built : (Build.run .standard .empty .orders Row.changedOrder.changedColumns
      (.statement .insert)).answer = .ok .ordersInsert := by
    rw [changed]
    decide +kernel
  obtain ⟨-, binds, takes, -⟩ :=
    insert_binds_changed_columns _ _ _ _ _ Row.changedOrder (.inr rfl) kept built
  exact ⟨kept, changed, built, binds, takes, by decide +kernel⟩

end TableWrite
