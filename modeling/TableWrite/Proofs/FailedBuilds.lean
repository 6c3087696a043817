import TableWrite.Proofs.DeleteTerms
import TableWrite.Proofs.InsertCells
import TableWrite.Proofs.QueryCommands
import TableWrite.Proofs.UpdateTerms
import TableWrite.Proofs.WholeRowCalls

set_option autoImplicit false

namespace TableWrite

/-- Does a request assign anything when the columns named have changed? -/
def Request.AssignsOnUpdate (r : Request) (changed : List String) : Prop :=
  (∃ c ∈ r.table.columns, c.name ∈ changed ∧ c.primaryKey = false ∧ c.autoIncrement = false ∧
    c.serverToken = false ∧ c.versionToken = false ∧ ¬ r.table.ServerWritten .update c) ∨
  (∃ c ∈ r.table.columns, r.table.roleIn .update changed c = .versionToken) ∨
  ∃ s ∈ [AuditSlot.dateModified, .modifiedBy], ∃ column, r.table.slot s = some ⟨column, true⟩

/-- Does a request find its row when the columns named have changed? -/
def Request.FindsOnUpdate (r : Request) (changed : List String) : Prop :=
  ∃ c ∈ r.table.columns, c.primaryKey = true ∨
    r.table.roleIn .update changed c = .serverToken ∨
    r.table.roleIn .update changed c = .versionToken

namespace UpdateStatement

variable (d : Dialect) (table : String) (r : Request) (changed : List String)

theorem updateAssignment?_ne_none_iff (c : Column) :
    r.table.updateAssignment? d changed c ≠ none ↔
      (c.name ∈ changed ∧ c.primaryKey = false ∧ c.autoIncrement = false ∧
        c.serverToken = false ∧ c.versionToken = false ∧ ¬ r.table.ServerWritten .update c) ∨
      r.table.roleIn .update changed c = .versionToken := by
  have bound : r.table.roleIn .update changed c = .bound ↔
      c.name ∈ changed ∧ c.primaryKey = false ∧ c.autoIncrement = false ∧
        c.serverToken = false ∧ c.versionToken = false ∧ ¬ r.table.ServerWritten .update c := by
    rw [TableColumns.roleIn_eq_bound_iff, TableColumns.assignable_iff]
    simp only [true_imp_iff]
    tauto
  rw [← bound]
  unfold TableColumns.updateAssignment?
  cases r.table.roleIn .update changed c <;> simp

theorem slotsOf_update_eq_nil_iff (t : TableColumns) :
    t.slotsOf .update = [] ↔
      ¬ ∃ s ∈ [AuditSlot.dateModified, .modifiedBy], ∃ column, t.slot s = some ⟨column, true⟩ := by
  rw [TableColumns.slotsOf_update, List.filterMap_eq_nil_iff, not_exists]
  apply forall_congr'
  intro s
  rw [not_and, not_exists]
  apply imp_congr_right
  intro _
  unfold TableColumns.serverSlot?
  rcases t.slot s with _ | ⟨column, _ | _⟩ <;> simp

theorem assignments_eq_nil_iff :
    (ofFresh d r changed).assignments = [] ↔ ¬ r.AssignsOnUpdate changed := by
  change _ ++ r.table.updateSlots r.provider = [] ↔ _
  rw [List.append_eq_nil_iff, List.filterMap_eq_nil_iff, TableColumns.updateSlots,
    List.map_eq_nil_iff, slotsOf_update_eq_nil_iff]
  unfold Request.AssignsOnUpdate
  rw [← or_assoc, not_or]
  apply and_congr_left'
  simp only [← exists_or, ← and_or_left, ← updateAssignment?_ne_none_iff d, not_exists, not_and,
    ne_eq, not_not]

theorem conditions_eq_nil_iff :
    (ofFresh d r changed).conditions = [] ↔ ¬ r.FindsOnUpdate changed := by
  rw [List.eq_nil_iff_forall_not_mem]
  unfold Request.FindsOnUpdate
  simp only [← TableColumns.checksToken_iff]
  constructor
  · rintro none ⟨c, mem, found⟩
    exact none (r.table.loadedCondition d c) (mem_conditions_iff.mpr ⟨c, mem, found.symm, rfl⟩)
  · intro unfound condition mem
    obtain ⟨c, there, found, -⟩ := mem_conditions_iff.mp mem
    exact unfound ⟨c, there, found.symm⟩

end UpdateStatement

theorem DeleteStatement.filter_findsDeleted_eq_nil_iff (columns : List Column) :
    columns.filter Column.findsDeleted = [] ↔
      ∀ c ∈ columns, c.primaryKey = false ∧ c.versionToken = false := by
  rw [List.filter_eq_nil_iff]
  unfold Column.findsDeleted
  simp only [Bool.or_eq_true, not_or, Bool.not_eq_true]

/-- With a prototype for each column, a call can always be made. -/
theorem ProcedureCall.exists_ofRequest_ofColumns (d : Dialect) (table : String) (r : Request)
    (a : Action) (name : String) :
    ∃ call, ofRequest d (.ofColumns table r.table.columns d) r a name = .ok call := by
  unfold ofRequest
  cases a with
  | insert =>
      rw [parametersOf_insert]
      exact ⟨_, rfl⟩
  | update =>
      rw [parametersOf_update]
      exact ⟨_, rfl⟩
  | delete =>
      rw [parametersOf_delete]
      exact ⟨_, rfl⟩

namespace Build

/-- Why a build with an empty cache fails. A reason counts only if none before it holds. -/
inductive Fault (d : Dialect) (r : Request) (changed : List String) : Build → Error → Prop
  | insertText (s : AuditSlot)
      (lacks : [AuditSlot.dateAdded, .dateModified, .addedBy, .modifiedBy].find? r.lacksText =
        some s) :
      Fault d r changed (.statement .insert) (.missingServerText s.textKey)
  | updateText (s : AuditSlot)
      (lacks : [AuditSlot.dateModified, .modifiedBy].find? r.lacksText = some s) :
      Fault d r changed (.statement .update) (.missingServerText s.textKey)
  | noAssignment (given : [AuditSlot.dateModified, .modifiedBy].find? r.lacksText = none)
      (unassigned : ¬ r.AssignsOnUpdate changed) :
      Fault d r changed (.statement .update) (.emptyClause (r.tableText d) .assignments)
  | noCondition (given : [AuditSlot.dateModified, .modifiedBy].find? r.lacksText = none)
      (assigned : r.AssignsOnUpdate changed) (unfound : ¬ r.FindsOnUpdate changed) :
      Fault d r changed (.statement .update) (.emptyClause (r.tableText d) .conditions)
  | noDeleteCondition
      (unfound : ∀ c ∈ r.table.columns, c.primaryKey = false ∧ c.versionToken = false) :
      Fault d r changed (.statement .delete) (.emptyClause (r.tableText d) .conditions)
  | noProcedure (a : Action) (unnamed : r.provider.procedure? a = none) :
      Fault d r changed (.procedure a) (.missingProcedure a)
  | noText (untold : r.queryText = none) : Fault d r changed .query .missingQueryText

variable (d : Dialect) (r : Request) (changed : List String) (e : Error)

theorem insert_fails_iff :
    (run d .empty r changed (.statement .insert)).answer = .error e ↔
      Fault d r changed (.statement .insert) e := by
  rw [answer_insert_eq_error_iff, PrototypeCache.answer_empty, InsertStatement.ofRequest_ofColumns]
  constructor
  · intro failed
    split at failed
    · rename_i s lacks
      cases failed
      exact .insertText s lacks
    · cases failed
  · intro fault
    cases fault with
    | insertText s lacks => rw [lacks]

theorem update_fails_iff :
    (run d .empty r changed (.statement .update)).answer = .error e ↔
      Fault d r changed (.statement .update) e := by
  rw [answer_update_eq_error_iff, PrototypeCache.answer_empty, UpdateStatement.ofRequest_ofColumns]
  have assignments := UpdateStatement.assignments_eq_nil_iff d r changed
  have conditions := UpdateStatement.conditions_eq_nil_iff d r changed
  constructor
  · intro failed
    split at failed
    · rename_i s lacks
      cases failed
      exact .updateText s lacks
    · rename_i given
      split at failed
      · rename_i empty
        cases failed
        exact .noAssignment given (assignments.mp empty)
      · rename_i assigned
        split at failed
        · rename_i empty
          cases failed
          exact .noCondition given (not_not.mp (mt assignments.mpr assigned))
            (conditions.mp empty)
        · cases failed
  · intro fault
    cases fault with
    | updateText s lacks => rw [lacks]
    | noAssignment given unassigned =>
        rw [given]
        exact if_pos (assignments.mpr unassigned)
    | noCondition given assigned unfound =>
        rw [given]
        dsimp only
        rw [if_neg (fun empty => assignments.mp empty assigned), if_pos (conditions.mpr unfound)]

theorem delete_fails_iff :
    (run d .empty r changed (.statement .delete)).answer = .error e ↔
      Fault d r changed (.statement .delete) e := by
  rw [answer_delete_eq_error_iff, PrototypeCache.answer_empty, DeleteStatement.ofRequest_ofColumns]
  constructor
  · intro failed
    split at failed
    · rename_i empty
      cases failed
      exact .noDeleteCondition ((DeleteStatement.filter_findsDeleted_eq_nil_iff _).mp empty)
    · cases failed
  · intro fault
    cases fault with
    | noDeleteCondition unfound =>
        rw [if_pos ((DeleteStatement.filter_findsDeleted_eq_nil_iff _).mpr unfound)]

theorem procedure_fails_iff (a : Action) :
    (run d .empty r changed (.procedure a)).answer = .error e ↔
      Fault d r changed (.procedure a) e := by
  rw [answer_procedure_eq_error_iff, PrototypeCache.answer_empty]
  constructor
  · rintro (⟨unnamed, rfl⟩ | ⟨name, -, failed⟩)
    · exact .noProcedure a unnamed
    · obtain ⟨call, made⟩ :=
        ProcedureCall.exists_ofRequest_ofColumns d r.provider.destination r a name
      rw [made] at failed
      cases failed
  · intro fault
    cases fault with
    | noProcedure a unnamed => exact .inl ⟨unnamed, rfl⟩

theorem query_fails_iff :
    (run d .empty r changed .query).answer = .error e ↔ Fault d r changed .query e := by
  have untold : (r.bound d).queryText = none ↔ r.queryText = none := by
    unfold Request.bound
    split
    · exact Option.map_eq_none_iff
    · rfl
  change r.queryCommand d = .error e ↔ _
  unfold Request.queryCommand
  constructor
  · intro failed
    split at failed
    · cases failed
    · rename_i missing
      cases failed
      exact .noText (untold.mp missing)
  · intro fault
    cases fault with
    | noText missing => rw [untold.mpr missing]

end Build

/-- With an empty cache a build fails for the reasons of `Fault` only, and fails whenever one of
them holds; no column and no parameter is ever missed. -/
theorem build_fails_iff (d : Dialect) (r : Request) (changed : List String) (b : Build) :
    (∀ e, (Build.run d .empty r changed b).answer = .error e ↔ Build.Fault d r changed b e) ∧
      (∀ owner column, (Build.run d .empty r changed b).answer ≠
        .error (.unknownColumn owner column)) ∧
      ∀ name, (Build.run d .empty r changed b).answer ≠ .error (.unknownParameter name) := by
  have fails (e : Error) : (Build.run d .empty r changed b).answer = .error e ↔
      Build.Fault d r changed b e := by
    cases b with
    | statement a =>
        cases a with
        | insert => exact Build.insert_fails_iff d r changed e
        | update => exact Build.update_fails_iff d r changed e
        | delete => exact Build.delete_fails_iff d r changed e
    | procedure a => exact Build.procedure_fails_iff d r changed e a
    | query => exact Build.query_fails_iff d r changed e
  refine ⟨fails, ?_, ?_⟩
  · intro owner column failed
    cases (fails _).mp failed
  · intro name failed
    cases (fails _).mp failed

/-- Of two clauses that would be empty, the first is reported. -/
example : (Build.run .standard .empty
    { Request.blank with provider := { Provider.blank with destination := "Log" } } []
    (.statement .update)).answer = .error (.emptyClause "[Log]" .assignments) := by
  decide +kernel

end TableWrite
