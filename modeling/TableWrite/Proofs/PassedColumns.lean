import Mathlib.Data.List.Forall2
import TableWrite.Proofs.DeleteTerms
import TableWrite.Proofs.InsertAlignment
import TableWrite.Proofs.WholeRowCalls

set_option autoImplicit false

namespace TableWrite

/-- The parameter of a column: it has the column's name, and if it reads a row, it reads that
column. -/
structure Parameter.StandsFor (d : Dialect) (c : Column) (p : Parameter) : Prop where
  name : p.name = nameOf d c.name
  source : ∀ column, p.source = some column → column = c.name

theorem Parameter.Reads.standsFor {d : Dialect} {c : Column} {image : RowImage} {p : Parameter}
    (reads : p.Reads d c.name image) : p.StandsFor d c := by
  refine ⟨reads.name, ?_⟩
  intro column given
  rw [reads.source] at given
  exact (Option.some.inj given).symm

theorem TableColumns.prototype_standsFor (d : Dialect) (t : TableColumns) (c : Column) :
    (t.prototype d c).StandsFor d c :=
  (t.prototype_reads d c).standsFor

namespace TableColumns

variable {d : Dialect} {t : TableColumns} {changed : List String}

theorem InsertsBy.standsFor {c : Column} {p : Parameter} (inserts : t.InsertsBy d changed c p) :
    p.StandsFor d c := by
  unfold InsertsBy at inserts
  split at inserts
  · exact inserts.standsFor
  · obtain ⟨name, -, detached⟩ := inserts
    refine ⟨name, ?_⟩
    intro column given
    rw [detached] at given
    cases given
  · cases inserts

variable (t changed)

def updateBinds (c : Column) : Bool := t.roleIn .update changed c == .bound

/-- Does an update look for its row by the column? -/
def updateFinds (c : Column) : Bool := decide (t.ChecksToken c) || c.primaryKey

/-- Is no key also a token that an update checks? -/
def KeysUnchecked : Prop := ∀ c ∈ t.columns, c.primaryKey = true → ¬ t.ChecksToken c

theorem not_updateFinds_of_updateBinds {c : Column} (binds : t.updateBinds changed c = true) :
    t.updateFinds c = false := by
  have role : t.roleIn .update changed c = .bound := eq_of_beq binds
  obtain ⟨assignable, -⟩ := roleIn_eq_bound_iff.mp role
  have keyless := assignable.keyless rfl
  simp [updateFinds, ChecksToken, assignable.unstamped, assignable.unversioned, keyless]

end TableColumns

namespace UpdateStatement

variable (d : Dialect) (r : Request) (changed : List String)

theorem assigned_standFor :
    List.Forall₂ (fun c p => p.StandsFor d c)
      (r.table.columns.filter (r.table.updateBinds changed))
      ((ofFresh d r changed).assignments.filterMap Assignment.parameter?) := by
  have slots : (r.table.updateSlots r.provider).filterMap Assignment.parameter? = [] := by
    unfold TableColumns.updateSlots
    rw [List.filterMap_map]
    exact List.filterMap_eq_nil_iff.mpr fun _ _ => rfl
  unfold ofFresh
  rw [List.filterMap_append, slots, List.append_nil]
  generalize r.table.columns = columns
  induction columns with
  | nil => exact .nil
  | cons c rest ih =>
      rw [List.filter_cons, List.filterMap_cons]
      unfold TableColumns.updateBinds TableColumns.updateAssignment? at *
      cases r.table.roleIn .update changed c with
      | bound => exact .cons (r.table.prototype_standsFor d c) ih
      | _ => exact ih

/-- Where no key is checked as a token too, every column has one condition at most. -/
theorem conditioned_standFor (unchecked : r.table.KeysUnchecked) :
    List.Forall₂ (fun c p => p.StandsFor d c) (r.table.columns.filter r.table.updateFinds)
      ((ofFresh d r changed).conditions.map Condition.parameter) := by
  have each : ∀ c ∈ r.table.columns, r.table.updateConditions d c =
      if r.table.updateFinds c then [r.table.loadedCondition d c] else [] := by
    intro c mem
    have alone := unchecked c mem
    unfold TableColumns.updateConditions TableColumns.updateFinds
    cases keyed : c.primaryKey with
    | false => simp
    | true => simp [alone keyed]
  have conditions : (ofFresh d r changed).conditions =
      (r.table.columns.filter r.table.updateFinds).map (r.table.loadedCondition d) :=
    flatMap_selected each
  rw [conditions, List.map_map, List.forall₂_map_right_iff, List.forall₂_same]
  exact fun c _ => (r.table.loadedCondition_reads d c).standsFor

end UpdateStatement

/-- A call with a whole row has the parameters of all columns, whichever of them come back. -/
theorem ProcedureCall.wholeRow_standFor (d : Dialect) (t : TableColumns) (returned : List Column) :
    List.Forall₂ (fun c p => Parameter.StandsFor d c p) t.columns (wholeRow d t returned) := by
  have rows : List.Forall₂ (fun c p => Parameter.StandsFor d c p) t.columns
      (t.columns.map fun c => rowParameter c (t.prototype d c)) := by
    rw [List.forall₂_map_right_iff, List.forall₂_same]
    intro c _
    have stands := t.prototype_standsFor d c
    exact ⟨stands.name, stands.source⟩
  unfold wholeRow
  generalize (t.columns.map fun c => rowParameter c (t.prototype d c)) = ps at rows ⊢
  generalize (returned.map fun c => Parameter.nameOf d c.name) = names
  -- What comes back to a caller changes neither names nor columns.
  induction names generalizing ps with
  | nil => exact rows
  | cons name rest ih =>
      apply ih
      apply forall₂_updateFirst _ rows
      exact fun c p stands => ⟨stands.name, stands.source⟩

namespace Request

variable (r : Request) (changed : List String)

/-- Does a command carry the parameter of the column? -/
def passes : Build → Column → Bool
  | .statement .insert => r.table.insertWrites changed
  | .statement .update => fun c => r.table.updateBinds changed c || r.table.updateFinds c
  | .statement .delete => Column.findsDeleted
  | .procedure .insert | .procedure .update => fun _ => true
  | .procedure .delete => Column.passedToDelete
  | .query => fun _ => false

def passed (b : Build) : List Column := r.table.columns.filter (r.passes changed b)

/-- Calls that insert or update pass whole rows. -/
theorem passed_wholeRow {a : Action} (whole : a ≠ .delete) :
    r.passed changed (.procedure a) = r.table.columns := by
  cases a with
  | insert => exact List.filter_true _
  | update => exact List.filter_true _
  | delete => exact absurd rfl whole

/-- No column is assigned by an update and looked for as well. -/
theorem passed_update : (r.table.columns.filter (r.table.updateBinds changed) ++
    r.table.columns.filter r.table.updateFinds).Perm (r.passed changed (.statement .update)) := by
  have binds : (r.passed changed (.statement .update)).filter (r.table.updateBinds changed) =
      r.table.columns.filter (r.table.updateBinds changed) := by
    unfold passed passes
    rw [List.filter_filter]
    apply List.filter_congr
    intro c _
    cases bound : r.table.updateBinds changed c with
    | false => rfl
    | true => simp [bound]
  have finds : (r.passed changed (.statement .update)).filter
      (fun c => !r.table.updateBinds changed c) = r.table.columns.filter r.table.updateFinds := by
    unfold passed passes
    rw [List.filter_filter]
    apply List.filter_congr
    intro c _
    cases bound : r.table.updateBinds changed c with
    | false => simp [bound]
    | true => simp [r.table.not_updateFinds_of_updateBinds changed bound]
  rw [← binds, ← finds]
  exact List.filter_append_perm _ _

end Request

/-- Do some columns have one parameter each in a list, in whatever order? -/
def Parameter.OneEach (d : Dialect) (columns : List Column) (ps : List Parameter) : Prop :=
  ∃ ordered : List Column, ordered.Perm columns ∧
    List.Forall₂ (fun c p => StandsFor d c p) ordered ps

theorem Parameter.OneEach.of_forall₂ {d : Dialect} {columns : List Column} {ps : List Parameter}
    (lined : List.Forall₂ (fun c p => StandsFor d c p) columns ps) : OneEach d columns ps :=
  ⟨columns, .refl _, lined⟩

section Built

open Parameter (OneEach)

variable {d : Dialect} {r : Request} {changed : List String} {command : Command}

theorem Command.oneEach_of_statement {a : Action}
    (unchecked : a = .update → r.table.KeysUnchecked)
    (built : (Build.run d .empty r changed (.statement a)).answer = .ok command) :
    OneEach d (r.passed changed (.statement a)) command.parameters := by
  cases a with
  | insert =>
      obtain ⟨statement, made, rfl⟩ :=
        (Build.answer_insert_eq_ok_iff d .empty r changed command).mp built
      rw [PrototypeCache.answer_empty, InsertStatement.ofRequest_ofColumns_eq_ok_iff] at made
      obtain ⟨-, rfl⟩ := made
      apply OneEach.of_forall₂
      exact (InsertStatement.parameters_ofFresh d r changed).imp fun c p inserts =>
        inserts.standsFor
  | update =>
      obtain ⟨statement, made, rfl⟩ :=
        (Build.answer_update_eq_ok_iff d .empty r changed command).mp built
      rw [PrototypeCache.answer_empty, UpdateStatement.ofRequest_ofColumns_eq_ok_iff] at made
      obtain ⟨-, -, -, rfl⟩ := made
      exact ⟨_, r.passed_update changed,
        List.rel_append (UpdateStatement.assigned_standFor d r changed)
          (UpdateStatement.conditioned_standFor d r changed (unchecked rfl))⟩
  | delete =>
      obtain ⟨statement, made, rfl⟩ :=
        (Build.answer_delete_eq_ok_iff d .empty r changed command).mp built
      rw [PrototypeCache.answer_empty, DeleteStatement.ofRequest_ofColumns_eq_ok_iff] at made
      obtain ⟨-, rfl⟩ := made
      apply OneEach.of_forall₂
      exact (DeleteStatement.parameters_ofFresh d r).imp fun c p reads => reads.standsFor

theorem Command.oneEach_of_procedure {a : Action}
    (built : (Build.run d .empty r changed (.procedure a)).answer = .ok command) :
    OneEach d (r.passed changed (.procedure a)) command.parameters := by
  obtain ⟨name, call, -, made, rfl⟩ :=
    (Build.answer_procedure_eq_ok_iff d .empty r changed command a).mp built
  rw [PrototypeCache.answer_empty] at made
  apply OneEach.of_forall₂
  cases a with
  | delete =>
      exact (ProcedureCall.parameters_of_delete d _ r made).imp fun c p reads => reads.standsFor
  | insert =>
      unfold ProcedureCall.ofRequest at made
      rw [ProcedureCall.parametersOf_insert] at made
      cases made
      rw [r.passed_wholeRow changed (by decide)]
      exact ProcedureCall.wholeRow_standFor d r.table _
  | update =>
      unfold ProcedureCall.ofRequest at made
      rw [ProcedureCall.parametersOf_update] at made
      cases made
      rw [r.passed_wholeRow changed (by decide)]
      exact ProcedureCall.wholeRow_standFor d r.table _

/-- A command has one parameter for each column that it passes, unless a key of an update is
checked as a token too. -/
theorem Command.oneEach_of_built {b : Build} (written : b ≠ .query)
    (unchecked : b = .statement .update → r.table.KeysUnchecked)
    (built : (Build.run d .empty r changed b).answer = .ok command) :
    OneEach d (r.passed changed b) command.parameters := by
  cases b with
  | statement a =>
      apply oneEach_of_statement _ built
      rintro rfl
      exact unchecked rfl
  | procedure a => exact oneEach_of_procedure built
  | query => exact absurd rfl written

end Built

end TableWrite
