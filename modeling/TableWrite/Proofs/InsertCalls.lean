import TableWrite.Proofs.UpdateImages
import TableWrite.Proofs.WholeRowCalls

set_option autoImplicit false

namespace TableWrite

open Text

theorem lastValue?_isNone (values : List (String × Value)) (column : String) :
    (lastValue? values column).isNone = decide (column ∉ values.map Prod.fst) := by
  rw [Bool.eq_iff_iff, Option.isNone_iff_eq_none, decide_eq_true_iff]
  constructor
  · intro missing present
    obtain ⟨v, found⟩ := exists_lastValue? present
    rw [missing] at found
    cases found
  · intro absent
    have unfound : values.reverse.find? (·.1 == column) = none := by
      rw [List.find?_eq_none]
      intro p mem same
      exact absent (List.mem_map.mpr ⟨p, List.mem_reverse.mp mem, eq_of_beq same⟩)
    unfold lastValue?
    rw [unfound]
    rfl

/-- Both images of a new row show what it was made of. -/
theorem Row.value?_added (values : List (String × Value)) (column : String) (image : RowImage) :
    (added values).value? column image = lastValue? values column := by
  rw [← get?_ofList_eq_lastValue?]
  cases image <;> rfl

namespace ProcedureCall

variable (d : Dialect) (returned : Column → Bool)

theorem reads?_passedParameter (c : Column) :
    (passedParameter d returned c).reads? = some c.name := by
  unfold passedParameter Parameter.reads?
  -- Either direction sends a value.
  cases returned c || c.type.isRowVersion <;> rfl

theorem bind_passedParameter {values : List (String × Value)} {c : Column} {v : Value}
    (found : lastValue? values c.name = some v) :
    (passedParameter d returned c).bind (.added values) =
      .ok { passedParameter d returned c with value := v } :=
  Parameter.bind_eq_ok_of_reads? (reads?_passedParameter d returned c)
    ((Row.value?_added values c.name _).trans found)

/-- A call that passes whole rows misses the first column that a new row has no value for. -/
theorem missing_bindAll_passedParameters (values : List (String × Value)) (columns : List Column) :
    (Parameter.bindAll (.added values) (columns.map (passedParameter d returned))).2 =
      (columns.find? fun c => c.name ∉ values.map Prod.fst).map Column.name := by
  induction columns with
  | nil => rfl
  | cons c rest ih =>
      rw [List.map_cons, List.find?_cons, ← lastValue?_isNone]
      cases found : lastValue? values c.name with
      | none =>
          have fails := Parameter.bind_eq_error_of_reads? (reads?_passedParameter d returned c)
            ((Row.value?_added values c.name _).trans found)
          rw [Parameter.bindAll_cons_error fails]
          rfl
      | some v =>
          rw [Parameter.bindAll_cons_ok (bind_passedParameter d returned found)]
          exact ih

theorem bindAll_passedParameters {values : List (String × Value)} {columns : List Column}
    (full : ∀ c ∈ columns, c.name ∈ values.map Prod.fst) :
    ∃ bound, Parameter.bindAll (.added values) (columns.map (passedParameter d returned)) =
        (bound, none) ∧
      List.Forall₂
        (fun c bound => (passedParameter d returned c).Takes (lastValue? values) c.name bound)
        columns bound := by
  have lined : List.Forall₂ (fun c p => c ∈ columns ∧ p = passedParameter d returned c)
      columns (columns.map (passedParameter d returned)) := by
    rw [List.forall₂_map_right_iff, List.forall₂_same]
    exact fun c mem => ⟨mem, rfl⟩
  apply Parameter.bindAll_lined lined
  rintro c p ⟨mem, rfl⟩
  obtain ⟨v, found⟩ := exists_lastValue? (full c mem)
  exact ⟨_, bind_passedParameter d returned found, v, found, rfl⟩

end ProcedureCall

/-- An insert procedure can be called with a new row exactly if the row has a value for every
column, be it `null` for those that the database fills. Each parameter then takes the value of its
column; else the first column without a value is the error. -/
theorem insert_call_binds_whole_rows (d : Dialect) (r : Request) (changed : List String)
    (procedure : String) (values : List (String × Value))
    (named : r.provider.insertProcedure = some procedure)
    (distinct : (r.table.columns.map fun c => unspaced c.name.toList).Nodup) :
    ∃ command, (Build.run d .empty r changed (.procedure .insert)).answer = .ok command ∧
      command.parameters =
        r.table.columns.map (ProcedureCall.passedParameter d ProcedureCall.returnedByInsert) ∧
      command.bindError? (.added values) =
        (r.table.columns.find? fun c => c.name ∉ values.map Prod.fst).map
          (fun c => .unknownColumn "row" c.name) ∧
      ((∀ c ∈ r.table.columns, c.name ∈ values.map Prod.fst) →
        List.Forall₂
          (fun c bound => (ProcedureCall.passedParameter d ProcedureCall.returnedByInsert c).Takes
            (lastValue? values) c.name bound)
          r.table.columns (command.bindRow (.added values)).parameters) := by
  have passed : ProcedureCall.ofRequest d (PrototypeCache.empty.answer r d) r .insert procedure =
      .ok ⟨r.procedureText d procedure, r.table.columns.map
        (ProcedureCall.passedParameter d ProcedureCall.returnedByInsert)⟩ := by
    unfold ProcedureCall.ofRequest
    rw [PrototypeCache.answer_empty, ProcedureCall.parametersOf_insert,
      ProcedureCall.wholeRow_of_nodup d r.table _ distinct]
    rfl
  refine ⟨_, (Build.answer_procedure_eq_ok_iff _ _ _ _ _ _).mpr ⟨procedure, _, named, passed, rfl⟩,
    rfl, ?_, ?_⟩
  · unfold Command.bindError?
    dsimp only
    rw [ProcedureCall.missing_bindAll_passedParameters, Option.map_map]
    rfl
  · intro full
    obtain ⟨bound, binds, takes⟩ :=
      ProcedureCall.bindAll_passedParameters d ProcedureCall.returnedByInsert full
    unfold Command.bindRow
    dsimp only
    rw [binds]
    exact takes

def Request.addOrder : Request :=
  { blank with
    provider := { Provider.blank with
      destination := "Orders"
      insertProcedure := some "add_order" }
    table :=
      { TableColumns.empty with
        columns :=
          [{ Column.ofName "Id" with primaryKey := true, autoIncrement := true },
            .ofName "Total"] } }

def Command.addOrder : Command :=
  ⟨"[add_order]", .storedProcedure,
    Request.addOrder.table.columns.map
      (ProcedureCall.passedParameter .standard ProcedureCall.returnedByInsert), none⟩

/-- An order of which the database makes the number. -/
def Row.newOrder : List (String × Value) := [("Total", .integer 5), ("Id", .null)]

theorem new_order_binds_whole_row :
    Request.addOrder.provider.insertProcedure = some "add_order" ∧
      (Request.addOrder.table.columns.map fun c => unspaced c.name.toList).Nodup ∧
      (Build.run .standard .empty .addOrder [] (.procedure .insert)).answer = .ok .addOrder ∧
      Command.addOrder.bindError? (.added Row.newOrder) = none ∧
      List.Forall₂
        (fun c bound =>
          (ProcedureCall.passedParameter .standard ProcedureCall.returnedByInsert c).Takes
            (lastValue? Row.newOrder) c.name bound)
        Request.addOrder.table.columns
        (Command.addOrder.bindRow (.added Row.newOrder)).parameters ∧
      (Command.addOrder.bindRow (.added Row.newOrder)).parameters.map
        (fun p => (p.name, p.direction, p.value)) =
          [("@Id", .inputOutput, .null), ("@Total", .input, .integer 5)] := by
  have named : Request.addOrder.provider.insertProcedure = some "add_order" := rfl
  have distinct :
      (Request.addOrder.table.columns.map fun c => unspaced c.name.toList).Nodup := by
    decide +kernel
  have full : ∀ c ∈ Request.addOrder.table.columns, c.name ∈ Row.newOrder.map Prod.fst := by
    decide +kernel
  have known : (Build.run .standard .empty .addOrder [] (.procedure .insert)).answer =
      .ok .addOrder := by decide +kernel
  obtain ⟨command, built, -, missed, takes⟩ :=
    insert_call_binds_whole_rows .standard .addOrder [] "add_order" Row.newOrder named distinct
  rw [known] at built
  cases built
  exact ⟨named, distinct, known, missed, takes full, by decide +kernel⟩

/-- A row with a value for every input is not bound while a column that the database numbers has
none. -/
theorem order_without_number_is_not_bound :
    Request.addOrder.provider.insertProcedure = some "add_order" ∧
      (Request.addOrder.table.columns.map fun c => unspaced c.name.toList).Nodup ∧
      (Build.run .standard .empty .addOrder [] (.procedure .insert)).answer = .ok .addOrder ∧
      (∀ p ∈ Command.addOrder.parameters, p.direction = .input →
        ∃ column ∈ p.source, column ∈ [("Total", Value.integer 5)].map Prod.fst) ∧
      Command.addOrder.bindError? (.added [("Total", .integer 5)]) =
        some (.unknownColumn "row" "Id") := by
  refine ⟨rfl, by decide +kernel, by decide +kernel, ?_, by decide +kernel⟩
  decide +kernel

end TableWrite
