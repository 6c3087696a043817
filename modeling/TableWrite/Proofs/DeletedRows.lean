import TableWrite.Proofs.DeleteTerms
import TableWrite.Proofs.RowHistory

set_option autoImplicit false

namespace TableWrite

/-- How a command takes a row: it has one parameter for each of some columns, in their order, and
each is bound to the value that its column was read with. -/
structure Command.TakesAsRead (d : Dialect) (columns : List Column) (image : Column → RowImage)
    (values : List (String × Value)) (row : Row) (command : Command) : Prop where
  parameters : List.Forall₂ (fun c p => p.Reads d c.name (image c)) columns command.parameters
  binds : command.bindError? row = none
  bound : List.Forall₂
    (fun c p => p.Reads d c.name (image c) ∧ lastValue? values c.name = some p.value)
    columns (command.bindRow row).parameters

theorem Command.takesAsRead_of_deleted {d : Dialect} {columns : List Column}
    {image : Column → RowImage} {values : List (String × Value)} {edits : List Row.Edit}
    {command : Command}
    (lined : List.Forall₂ (fun c p => p.Reads d c.name (image c)) columns command.parameters)
    (full : ∀ c ∈ columns, c.name ∈ values.map Prod.fst)
    (deletes : .delete ∈ edits) (kept : .accept ∉ edits) :
    command.TakesAsRead d columns image values (Row.run edits (.unchanged values)) := by
  have listed := (List.forall₂_and_left _ _).mpr ⟨full, lined⟩
  have each (c : Column) (p : Parameter)
      (goes : c.name ∈ values.map Prod.fst ∧ p.Reads d c.name (image c)) :
      ∃ bound, p.bind (Row.run edits (.unchanged values)) = .ok bound ∧
        bound.Reads d c.name (image c) ∧ lastValue? values c.name = some bound.value := by
    obtain ⟨present, reads⟩ := goes
    obtain ⟨v, read⟩ := exists_lastValue? present
    have shown := Row.value?_of_deleted values deletes kept c.name (image c)
    exact ⟨{ p with value := v }, reads.bind_eq_ok (shown.trans read),
      ⟨reads.name, reads.source, reads.image, reads.direction⟩, read⟩
  obtain ⟨bound, binds, holds⟩ := Parameter.bindAll_lined listed each
  refine ⟨lined, ?_, ?_⟩
  · unfold bindError?
    rw [binds]
    rfl
  · unfold bindRow
    rw [binds]
    exact holds

/-- Once it was deleted, a row that was read as a whole is found by its keys and tokens as they
were read, by a statement and by a call. -/
theorem delete_binds_row_as_read (d : Dialect) (r : Request) (changed : List String)
    (values : List (String × Value)) (edits : List Row.Edit)
    (full : ∀ c ∈ r.table.columns, c.name ∈ values.map Prod.fst)
    (deletes : .delete ∈ edits) (kept : .accept ∉ edits) :
    (∀ command, (Build.run d .empty r changed (.statement .delete)).answer = .ok command →
      r.table.columns.filter (fun c => c.primaryKey || c.versionToken) ≠ [] ∧
      command.text = "DELETE FROM " ++ r.tableText d ++ " WHERE " ++ " AND ".intercalate
        ((r.table.columns.filter fun c => c.primaryKey || c.versionToken).map fun c =>
          d.column.wrap c.name ++ " = " ++ Parameter.nameOf d c.name) ∧
      command.TakesAsRead d (r.table.columns.filter fun c => c.primaryKey || c.versionToken)
        (fun _ => .current) values (Row.run edits (.unchanged values))) ∧
    ∀ command, (Build.run d .empty r changed (.procedure .delete)).answer = .ok command →
      command.TakesAsRead d
        (r.table.columns.filter fun c => c.primaryKey || c.serverToken || c.versionToken)
        (fun c => if c.primaryKey then .current else .loaded) values
        (Row.run edits (.unchanged values)) := by
  have filtered (selected : Column → Bool) :
      ∀ c ∈ r.table.columns.filter selected, c.name ∈ values.map Prod.fst :=
    fun c mem => full c (List.mem_of_mem_filter mem)
  constructor
  · intro command built
    obtain ⟨statement, made, rfl⟩ :=
      (Build.answer_delete_eq_ok_iff d .empty r changed command).mp built
    rw [PrototypeCache.answer_empty, DeleteStatement.ofRequest_ofColumns_eq_ok_iff] at made
    obtain ⟨found, rfl⟩ := made
    exact ⟨found, DeleteStatement.text_ofFresh d r, Command.takesAsRead_of_deleted
      (DeleteStatement.parameters_ofFresh d r) (filtered _) deletes kept⟩
  · intro command built
    obtain ⟨name, call, -, made, rfl⟩ :=
      (Build.answer_procedure_eq_ok_iff d .empty r changed command .delete).mp built
    exact Command.takesAsRead_of_deleted (ProcedureCall.parameters_of_delete d _ r made)
      (filtered _) deletes kept

def Request.accounts : Request :=
  { blank with
    provider := { Provider.blank with
      destination := "Accounts"
      deleteProcedure := some "CloseAccount" }
    table :=
      { TableColumns.empty with
        columns :=
          [{ Column.ofName "Account No" with primaryKey := true }, .ofName "Label",
            { Column.ofName "Stamp" with serverToken := true },
            { Column.ofName "Version" with versionToken := true }] } }

def Row.accountRead : List (String × Value) :=
  [("Account No", .integer 7), ("Label", .text "open"), ("Stamp", .bytes [0, 9]),
    ("Version", .integer 3)]

def Row.accountEdits : List Edit :=
  [.set "Account No" (.integer 8), .delete, .set "Version" (.integer 99), .set "Stamp" .null]

theorem accounts_delete_as_read :
    (∀ c ∈ Request.accounts.table.columns, c.name ∈ Row.accountRead.map Prod.fst) ∧
      Row.Edit.delete ∈ Row.accountEdits ∧ Row.Edit.accept ∉ Row.accountEdits ∧
      (∃ command, (Build.run .standard .empty .accounts [] (.statement .delete)).answer =
          .ok command ∧
        command.text =
          "DELETE FROM [Accounts] WHERE [Account No] = @AccountNo AND [Version] = @Version" ∧
        (command.bindRow (Row.run Row.accountEdits (.unchanged Row.accountRead))).parameters.map
          Parameter.value = [.integer 7, .integer 3] ∧
        command.TakesAsRead .standard
          (Request.accounts.table.columns.filter fun c => c.primaryKey || c.versionToken)
          (fun _ => .current) Row.accountRead
          (Row.run Row.accountEdits (.unchanged Row.accountRead))) ∧
      ∃ command, (Build.run .standard .empty .accounts [] (.procedure .delete)).answer =
          .ok command ∧
        (command.bindRow (Row.run Row.accountEdits (.unchanged Row.accountRead))).parameters.map
          Parameter.value = [.integer 7, .bytes [0, 9], .integer 3] ∧
        command.TakesAsRead .standard
          (Request.accounts.table.columns.filter fun c =>
            c.primaryKey || c.serverToken || c.versionToken)
          (fun c => if c.primaryKey then .current else .loaded) Row.accountRead
          (Row.run Row.accountEdits (.unchanged Row.accountRead)) := by
  have full : ∀ c ∈ Request.accounts.table.columns,
      c.name ∈ Row.accountRead.map Prod.fst := by decide +kernel
  have deletes : Row.Edit.delete ∈ Row.accountEdits := by decide +kernel
  have kept : Row.Edit.accept ∉ Row.accountEdits := by decide +kernel
  obtain ⟨statement, call⟩ :=
    delete_binds_row_as_read .standard .accounts [] _ _ full deletes kept
  exact ⟨full, deletes, kept,
    ⟨_, rfl, by decide +kernel, by decide +kernel, (statement _ rfl).2.2⟩,
    _, rfl, by decide +kernel, call _ rfl⟩

end TableWrite
