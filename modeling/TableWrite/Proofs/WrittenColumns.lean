import Mathlib.Data.List.Nodup
import TableWrite.Proofs.AssignedKeys
import TableWrite.Proofs.InsertAlignment

set_option autoImplicit false

namespace TableWrite

namespace TableColumns

variable {t : TableColumns} {w : Writing}

theorem mem_slotsOf_iff {s : AuditSlot} {name : String} :
    (s, name) ∈ t.slotsOf w ↔ w.touches s = true ∧ t.slot s = some ⟨name, true⟩ := by
  unfold slotsOf
  rw [List.mem_filter, mem_serverSlots_iff, and_comm]

theorem nodup_slotsOf (t : TableColumns) (w : Writing) : (t.slotsOf w).Nodup := by
  have slots : AuditSlot.all.Nodup := by decide
  rw [slotsOf_eq_filterMap]
  refine (slots.filter _).filterMap ?_
  intro s s' entry filled filled'
  rw [← fst_of_serverSlot? filled, ← fst_of_serverSlot? filled']

/-- The slots that a statement writes lie in columns of their own, unless two of them share one. -/
theorem nodup_slotColumns_iff :
    ((t.slotsOf w).map Prod.snd).Nodup ↔
      ∀ s s' name, w.touches s = true → w.touches s' = true →
        t.slot s = some ⟨name, true⟩ → t.slot s' = some ⟨name, true⟩ → s = s' := by
  rw [List.nodup_map_iff_inj_on (t.nodup_slotsOf w)]
  constructor
  · intro apart s s' name touched touched' filled filled'
    have same := apart (s, name) (mem_slotsOf_iff.mpr ⟨touched, filled⟩) (s', name)
      (mem_slotsOf_iff.mpr ⟨touched', filled'⟩) rfl
    exact congrArg Prod.fst same
  · rintro apart ⟨s, name⟩ mem ⟨s', name'⟩ mem' rfl
    obtain ⟨touched, filled⟩ := mem_slotsOf_iff.mp mem
    obtain ⟨touched', filled'⟩ := mem_slotsOf_iff.mp mem'
    rw [apart s s' name touched touched' filled filled']

/-- An insert writes all slots. -/
theorem not_nodup_slotColumns_insert_iff :
    ¬ ((t.slotsOf .insert).map Prod.snd).Nodup ↔
      ∃ s s' name, s ≠ s' ∧ t.slot s = some ⟨name, true⟩ ∧ t.slot s' = some ⟨name, true⟩ := by
  rw [nodup_slotColumns_iff]
  simp only [Writing.touches, true_imp_iff, not_forall, exists_prop]
  constructor
  · rintro ⟨s, s', name, filled, filled', differ⟩
    exact ⟨s, s', name, differ, filled, filled'⟩
  · rintro ⟨s, s', name, differ, filled, filled'⟩
    exact ⟨s, s', name, filled, filled', differ⟩

/-- An update writes the two slots for the last change. -/
theorem not_nodup_slotColumns_update_iff :
    ¬ ((t.slotsOf .update).map Prod.snd).Nodup ↔
      ∃ name, t.dateModified = some ⟨name, true⟩ ∧ t.modifiedBy = some ⟨name, true⟩ := by
  rw [nodup_slotColumns_iff]
  constructor
  · intro shared
    by_contra apart
    apply shared
    intro s s' name touched touched' filled filled'
    cases s <;> cases touched <;> cases s' <;> cases touched'
    · rfl
    · exact absurd ⟨name, filled, filled'⟩ apart
    · exact absurd ⟨name, filled', filled⟩ apart
    · rfl
  · rintro ⟨name, dated, signed⟩ apart
    have same := apart .dateModified .modifiedBy name rfl rfl dated signed
    cases same

/-- The columns that contribute, told from what they contribute. -/
theorem columns_of_contributions {γ : Type} {f : Column → Option γ} {columnOf : γ → String}
    (owned : ∀ c a, f c = some a → columnOf a = c.name) (columns : List Column) :
    (columns.filterMap f).map columnOf =
      (columns.filter fun c => (f c).isSome).map Column.name := by
  induction columns with
  | nil => rfl
  | cons c rest ih =>
      rw [List.filterMap_cons, List.filter_cons]
      cases contributes : f c with
      | none => exact ih
      | some a =>
          rw [List.map_cons, ih, owned c a contributes]
          rfl

/-- What columns write of their own is written once, and beside the columns of the slots. -/
theorem nodup_written_iff {γ : Type} {f : Column → Option γ} {columnOf : γ → String}
    (distinct : (t.columns.map Column.name).Nodup)
    (owned : ∀ c a, f c = some a → columnOf a = c.name)
    (apart : ∀ c a, f c = some a → ¬ t.ServerWritten w c) :
    ((t.columns.filterMap f).map columnOf ++ (t.slotsOf w).map Prod.snd).Nodup ↔
      ((t.slotsOf w).map Prod.snd).Nodup := by
  have once : ((t.columns.filterMap f).map columnOf).Nodup := by
    rw [columns_of_contributions owned]
    exact distinct.sublist (List.filter_sublist.map Column.name)
  rw [List.nodup_append]
  constructor
  · rintro ⟨-, slots, -⟩
    exact slots
  · intro slots
    refine ⟨once, slots, ?_⟩
    intro name mem name' mem' same
    obtain ⟨a, written, rfl⟩ := List.mem_map.mp mem
    obtain ⟨c, -, writes⟩ := List.mem_filterMap.mp written
    obtain ⟨s, filled, rfl⟩ := List.mem_map.mp mem'
    rw [owned c a writes] at same
    exact apart c a writes ⟨s, filled, same.symm⟩

/-- A column in a slot that the statement writes has no other role in it. -/
theorem roleIn_of_serverWritten (changed : List String) {c : Column}
    (written : t.ServerWritten w c) : t.roleIn w changed c = .audit := by
  cases w with
  | insert => exact role_of_serverWritten t .insert _ c written
  | update => exact role_of_serverWritten t .update _ c written

variable {d : Dialect} {changed : List String} {c : Column}

theorem column_of_insertCell? {cell : Cell} (adds : t.insertCell? d changed c = some cell) :
    cell.column = c.name := by
  unfold insertCell? at adds
  split at adds
  · cases adds
    rfl
  · cases adds
    rfl
  · cases adds

theorem not_serverWritten_of_insertCell? {cell : Cell}
    (adds : t.insertCell? d changed c = some cell) : ¬ t.ServerWritten .insert c := by
  intro written
  simp [insertCell?, roleIn_of_serverWritten changed written] at adds

theorem not_serverWritten_of_updateAssignment? {a : Assignment}
    (adds : t.updateAssignment? d changed c = some a) : ¬ t.ServerWritten .update c := by
  intro written
  simp [updateAssignment?, roleIn_of_serverWritten changed written] at adds

end TableColumns

theorem Delimiters.nodup_map_wrap_iff (d : Delimiters) {names : List String} :
    (names.map d.wrap).Nodup ↔ names.Nodup :=
  List.nodup_map_iff fun _ _ same => Delimiters.wrap_inj.mp same

theorem InsertStatement.nodup_columnTexts_iff (d : Dialect) (r : Request) (changed : List String)
    (distinct : (r.table.columns.map Column.name).Nodup) :
    ((ofFresh d r changed).columnTexts d).Nodup ↔
      ((r.table.slotsOf .insert).map Prod.snd).Nodup := by
  have listed : (ofFresh d r changed).columnTexts d =
      ((r.table.columns.filterMap (r.table.insertCell? d changed)).map Cell.column ++
        (r.table.slotsOf .insert).map Prod.snd).map d.column.wrap := by
    unfold columnTexts ofFresh TableColumns.insertSlots
    simp only [List.map_append, List.map_map]
    rfl
  rw [listed, Delimiters.nodup_map_wrap_iff]
  apply TableColumns.nodup_written_iff distinct
  · intro c cell adds
    exact TableColumns.column_of_insertCell? adds
  · intro c cell adds
    exact TableColumns.not_serverWritten_of_insertCell? adds

def UpdateStatement.targetTexts (d : Dialect) (s : UpdateStatement) : List String :=
  s.assignments.map fun a => d.column.wrap a.column

theorem UpdateStatement.nodup_targetTexts_iff (d : Dialect) (r : Request) (changed : List String)
    (distinct : (r.table.columns.map Column.name).Nodup) :
    ((ofFresh d r changed).targetTexts d).Nodup ↔
      ((r.table.slotsOf .update).map Prod.snd).Nodup := by
  have listed : (ofFresh d r changed).targetTexts d =
      ((r.table.columns.filterMap (r.table.updateAssignment? d changed)).map Assignment.column ++
        (r.table.slotsOf .update).map Prod.snd).map d.column.wrap := by
    unfold targetTexts ofFresh TableColumns.updateSlots
    simp only [List.map_append, List.map_map]
    rfl
  rw [listed, Delimiters.nodup_map_wrap_iff]
  apply TableColumns.nodup_written_iff distinct
  · intro c a adds
    exact TableColumns.column_of_updateAssignment? adds
  · intro c a adds
    exact TableColumns.not_serverWritten_of_updateAssignment? adds

/-- An insert writes a column twice exactly if the database fills two slots in it, and an update
exactly if it fills both slots for the last change in it. Nothing else makes a column appear twice:
neither the flags of the columns, nor which of them changed, nor what the slots share with
columns that have a role of their own. -/
theorem column_written_twice_iff (d : Dialect) (r : Request) (changed : List String)
    (distinct : (r.table.columns.map Column.name).Nodup) :
    (∀ command, (Build.run d .empty r changed (.statement .insert)).answer = .ok command →
      ∃ statement, InsertStatement.ofRequest d (PrototypeCache.empty.answer r d) r changed =
          .ok statement ∧
        command.text = statement.text d ∧
        (¬ (statement.columnTexts d).Nodup ↔ ∃ s s' name, s ≠ s' ∧
          r.table.slot s = some ⟨name, true⟩ ∧ r.table.slot s' = some ⟨name, true⟩)) ∧
    ∀ command, (Build.run d .empty r changed (.statement .update)).answer = .ok command →
      ∃ statement, UpdateStatement.ofRequest d (PrototypeCache.empty.answer r d) r changed =
          .ok statement ∧
        command.text = statement.text d ∧
        (¬ (statement.targetTexts d).Nodup ↔ ∃ name,
          r.table.dateModified = some ⟨name, true⟩ ∧ r.table.modifiedBy = some ⟨name, true⟩) := by
  constructor
  · intro command built
    obtain ⟨statement, made, rfl⟩ :=
      (Build.answer_insert_eq_ok_iff d .empty r changed command).mp built
    have parts := made
    rw [PrototypeCache.answer_empty, InsertStatement.ofRequest_ofColumns_eq_ok_iff] at parts
    obtain ⟨-, rfl⟩ := parts
    refine ⟨_, made, rfl, ?_⟩
    rw [InsertStatement.nodup_columnTexts_iff d r changed distinct]
    exact TableColumns.not_nodup_slotColumns_insert_iff
  · intro command built
    obtain ⟨statement, made, rfl⟩ :=
      (Build.answer_update_eq_ok_iff d .empty r changed command).mp built
    have parts := made
    rw [PrototypeCache.answer_empty, UpdateStatement.ofRequest_ofColumns_eq_ok_iff] at parts
    obtain ⟨-, -, -, rfl⟩ := parts
    refine ⟨_, made, rfl, ?_⟩
    rw [UpdateStatement.nodup_targetTexts_iff d r changed distinct]
    exact TableColumns.not_nodup_slotColumns_update_iff

/-- The orders of which the time and the author of the last change are kept in one column. -/
def Request.signedOrders : Request :=
  { orders with
    provider := { orders.provider with
      properties := [("DateModified.ServerSideText", "now()"),
        ("ModifiedBy.ServerSideText", "user()")] }
    table := { orders.table with modifiedBy := some ⟨"Changed", true⟩ } }

theorem signed_orders_written_twice :
    (Request.signedOrders.table.columns.map Column.name).Nodup ∧
      (∃ command, (Build.run .standard .empty .signedOrders ["Changed", "Unit Price"]
          (.statement .insert)).answer = .ok command ∧
        command.text = "INSERT INTO [Orders] ([Unit Price], [Version], [Changed], [Changed]) " ++
          "VALUES (@UnitPrice, 1, now(), user())" ∧
        ∃ statement : InsertStatement, command.text = statement.text .standard ∧
          ¬ (statement.columnTexts .standard).Nodup) ∧
      ∃ command, (Build.run .standard .empty .signedOrders ["Changed", "Unit Price"]
          (.statement .update)).answer = .ok command ∧
        command.text = "UPDATE [Orders] SET [Unit Price] = @UnitPrice, " ++
          "[Version] = [Version] + 1, [Changed] = now(), [Changed] = user() " ++
          "WHERE [Id] = @Id AND [Version] = @Version;" ∧
        ∃ statement : UpdateStatement, command.text = statement.text .standard ∧
          ¬ (statement.targetTexts .standard).Nodup := by
  have distinct : (Request.signedOrders.table.columns.map Column.name).Nodup := by
    decide +kernel
  obtain ⟨inserts, updates⟩ := column_written_twice_iff .standard .signedOrders
    ["Changed", "Unit Price"] distinct
  refine ⟨distinct, ⟨_, rfl, by decide +kernel, ?_⟩, _, rfl, by decide +kernel, ?_⟩
  · obtain ⟨statement, -, text, twice⟩ := inserts _ rfl
    exact ⟨statement, text, twice.mpr ⟨.dateModified, .modifiedBy, "Changed", by decide, rfl, rfl⟩⟩
  · obtain ⟨statement, -, text, twice⟩ := updates _ rfl
    exact ⟨statement, text, twice.mpr ⟨"Changed", rfl, rfl⟩⟩

end TableWrite
