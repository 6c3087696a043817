import TableWrite.Proofs.UpdateAlignment
import TableWrite.Proofs.WholeRowCalls

set_option autoImplicit false

namespace TableWrite

open Text

/-- Does a procedure that writes a row hand back the value of a column? A row version, a computed
value and a version token come back from both; a number or an identifier that the database makes
only when a row is new, and a token of the server only when it changes. -/
def Column.ComesBack (a : Action) (c : Column) : Prop :=
  c.type = .timeStamp ∨ c.computed = true ∨ c.versionToken = true ∨
    (a = .insert ∧ (c.autoIncrement = true ∨ c.generatesIdentifier = true)) ∨
    (a = .update ∧ c.serverToken = true)
deriving Decidable

def Column.callParameter (d : Dialect) (a : Action) (c : Column) : Parameter where
  name := Parameter.nameOf d c.name
  type := c.type
  size := max c.maxLength 0
  scale := c.scale
  precision := c.precision
  direction := if c.ComesBack a then .inputOutput else .input
  value := .null
  source := some c.name
  image := .current

theorem ProviderType.isRowVersion_iff (t : ProviderType) :
    t.isRowVersion = true ↔ t = .timeStamp := by
  cases t <;> decide

namespace ProcedureCall

variable (d : Dialect) {table : String} {t : TableColumns}

/-- A computed value is given its own length only where that is the size it has anyway. -/
theorem size_rowParameter (c : Column) :
    (rowParameter c (.ofColumn d c)).size = max c.maxLength 0 := by
  unfold rowParameter
  dsimp only
  split
  · next long =>
    have positive : 0 < c.maxLength := of_decide_eq_true (Bool.and_eq_true_iff.mp long).2
    exact (if_neg (Int64.not_le.mpr positive)).symm
  · rfl

theorem returnedByInsert_iff (c : Column) :
    (returnedByInsert c || c.type.isRowVersion) = true ↔ c.ComesBack .insert := by
  unfold returnedByInsert Column.ComesBack
  simp only [Bool.or_eq_true, ProviderType.isRowVersion_iff, true_and, reduceCtorEq, false_and,
    or_false]
  tauto

theorem returnedByUpdate_iff (c : Column) :
    (returnedByUpdate c || c.type.isRowVersion) = true ↔ c.ComesBack .update := by
  unfold returnedByUpdate Column.ComesBack
  simp only [Bool.or_eq_true, ProviderType.isRowVersion_iff, true_and, reduceCtorEq, false_and,
    false_or]
  tauto

theorem passedParameter_eq_callParameter {returned : Column → Bool} {a : Action} {c : Column}
    (back : (returned c || c.type.isRowVersion) = true ↔ c.ComesBack a) :
    passedParameter d returned c = c.callParameter d a := by
  have size := size_rowParameter d c
  unfold passedParameter Column.callParameter
  rw [if_congr back rfl rfl, ← size]
  rfl

/-- The parameters of a call that inserts or updates a row. -/
theorem parametersOf_write {a : Action} (writes : a ≠ .delete)
    (distinct : (t.columns.map fun c => unspaced c.name.toList).Nodup) :
    parametersOf (.ofColumns table t.columns d) t.columns a =
      .ok (t.columns.map (Column.callParameter d a)) := by
  cases a with
  | insert =>
      rw [parametersOf_insert, wholeRow_of_nodup d t _ distinct]
      congr 2
      funext c
      exact passedParameter_eq_callParameter d (returnedByInsert_iff c)
  | update =>
      rw [parametersOf_update, wholeRow_of_nodup d t _ distinct]
      congr 2
      funext c
      exact passedParameter_eq_callParameter d (returnedByUpdate_iff c)
  | delete => exact absurd rfl writes

/-- At whatever point of a call a column is found to come back, only the parameter at its own place
is turned. -/
theorem returningAll_singleton {ps : List Parameter} {i : Nat} {c : Column}
    (distinct : (t.columns.map fun c => unspaced c.name.toList).Nodup)
    (placed : t.columns[i]? = some c)
    (names : ps.map Parameter.name = t.columns.map fun c => Parameter.nameOf d c.name) :
    returningAll (.ofColumns table t.columns d) [c] ps = .ok (ps.modify i Parameter.returned) := by
  have member : ∀ other ∈ [c], other ∈ t.columns := by
    intro other mem
    rw [List.mem_singleton.mp mem]
    exact List.mem_of_getElem? placed
  have apart : (ps.map Parameter.name).Nodup := by
    rw [names]
    exact nodup_nameOf d distinct
  have own : (ps.map Parameter.name)[i]? = some (Parameter.nameOf d c.name) := by
    rw [names, List.getElem?_map, placed]
    rfl
  rw [returningAll_ofColumns d table t member names]
  exact congrArg Except.ok (updateFirst_eq_modify apart own Parameter.returned)

end ProcedureCall

/-- A procedure that inserts or updates a row is called with one parameter for each column, in their
order, and each gives a value back exactly if its own column does. Whatever was turned before, to
turn the parameter of one column leaves those of all others as they are. -/
theorem write_call_directions (d : Dialect) (r : Request) (changed : List String) (a : Action)
    (procedure : String) (writes : a ≠ .delete)
    (named : r.provider.procedure? a = some procedure)
    (distinct : (r.table.columns.map fun c => unspaced c.name.toList).Nodup) :
    ∃ command, (Build.run d .empty r changed (.procedure a)).answer = .ok command ∧
      command.parameters = r.table.columns.map (Column.callParameter d a) ∧
      ∀ (i : Nat) (c : Column) (ps : List Parameter), r.table.columns[i]? = some c →
        ps.map Parameter.name = command.parameters.map Parameter.name →
        ProcedureCall.returningAll (PrototypeCache.empty.answer r d) [c] ps =
          .ok (ps.modify i Parameter.returned) := by
  have passed : ProcedureCall.ofRequest d (PrototypeCache.empty.answer r d) r a procedure =
      .ok ⟨r.procedureText d procedure, r.table.columns.map (Column.callParameter d a)⟩ := by
    unfold ProcedureCall.ofRequest
    rw [PrototypeCache.answer_empty, ProcedureCall.parametersOf_write d writes distinct]
    rfl
  refine ⟨_, (Build.answer_procedure_eq_ok_iff _ _ _ _ _ _).mpr ⟨procedure, _, named, passed, rfl⟩,
    rfl, ?_⟩
  intro i c ps placed names
  rw [List.map_map] at names
  exact ProcedureCall.returningAll_singleton d distinct placed names

def Request.customers : Request :=
  { blank with
    provider := { Provider.blank with
      destination := "Customers"
      insertProcedure := some "add_customer"
      updateProcedure := some "change_customer" }
    table :=
      { TableColumns.empty with
        columns :=
          [{ Column.ofName "Id" with primaryKey := true, autoIncrement := true },
            { Column.ofName "Guid" with hasDefault := true, defaultText := "NEWID()" },
            { Column.ofName "Full Name" with computed := true, maxLength := 120 },
            { Column.ofName "Token" with serverToken := true },
            { Column.ofName "Stamp" with type := .timeStamp },
            { Column.ofName "Note" with maxLength := -1 }] } }

theorem customers_call_directions :
    (Request.customers.table.columns.map fun c => unspaced c.name.toList).Nodup ∧
      (∃ command, (Build.run .standard .empty .customers [] (.procedure .insert)).answer =
          .ok command ∧
        command.parameters.map (fun p => (p.name, p.size, p.direction)) =
          [("@Id", 0, .inputOutput), ("@Guid", 0, .inputOutput), ("@FullName", 120, .inputOutput),
            ("@Token", 0, .input), ("@Stamp", 0, .inputOutput), ("@Note", 0, .input)]) ∧
      ∃ command, (Build.run .standard .empty .customers [] (.procedure .update)).answer =
          .ok command ∧
        command.parameters.map (fun p => (p.name, p.size, p.direction)) =
          [("@Id", 0, .input), ("@Guid", 0, .input), ("@FullName", 120, .inputOutput),
            ("@Token", 0, .inputOutput), ("@Stamp", 0, .inputOutput), ("@Note", 0, .input)] := by
  have distinct : (Request.customers.table.columns.map fun c => unspaced c.name.toList).Nodup := by
    decide +kernel
  obtain ⟨added, adds, passesNew, -⟩ :=
    write_call_directions .standard .customers [] .insert "add_customer" (by decide) rfl distinct
  obtain ⟨updated, updates, passesOld, -⟩ :=
    write_call_directions .standard .customers [] .update "change_customer" (by decide) rfl distinct
  refine ⟨distinct, ⟨added, adds, ?_⟩, updated, updates, ?_⟩
  · rw [passesNew]
    decide +kernel
  · rw [passesOld]
    decide +kernel

end TableWrite
