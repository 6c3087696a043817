import TableWrite.Proofs.RowBinding

set_option autoImplicit false

namespace TableWrite

def lastValue? (given : List (String × Value)) (column : String) : Option Value :=
  (given.reverse.find? (·.1 == column)).map Prod.snd

theorem get?_ofList_eq_lastValue? (given : List (String × Value)) (column : String) :
    Keyed.get? (Keyed.ofList given) column = lastValue? given column :=
  Keyed.get?_ofList given column

/-- The value that a column was last set to, or the one that was read if it was never set. -/
def newestValue? (values sets : List (String × Value)) (column : String) : Option Value :=
  (lastValue? sets column).or (lastValue? values column)

theorem lastValue?_append (values sets : List (String × Value)) (column : String) :
    lastValue? (values ++ sets) column = newestValue? values sets column := by
  unfold newestValue? lastValue?
  rw [List.reverse_append, List.find?_append, Option.map_or]

theorem exists_lastValue? {given : List (String × Value)} {column : String}
    (present : column ∈ given.map Prod.fst) : ∃ v, lastValue? given column = some v := by
  obtain ⟨p, mem, rfl⟩ := List.mem_map.mp present
  have found : (given.reverse.find? (·.1 == p.1)).isSome := by
    rw [List.find?_isSome]
    exact ⟨p, List.mem_reverse.mpr mem, beq_self_eq_true _⟩
  obtain ⟨last, finds⟩ := Option.isSome_iff_exists.mp found
  refine ⟨last.2, ?_⟩
  unfold lastValue?
  rw [finds]
  rfl

theorem exists_newestValue? {values : List (String × Value)} {column : String}
    (sets : List (String × Value)) (present : column ∈ values.map Prod.fst) :
    ∃ v, newestValue? values sets column = some v := by
  obtain ⟨read, found⟩ := exists_lastValue? present
  unfold newestValue?
  rw [found]
  cases lastValue? sets column with
  | none => exact ⟨read, rfl⟩
  | some latest => exact ⟨latest, rfl⟩

namespace Row

def Edit.given? : Edit → Option (String × Value)
  | set column v => some (column, v)
  | delete | accept => none

/-- Of all steps only those that set a column change the values as they are now. -/
theorem current_run (edits : List Edit) (row : Row) :
    (run edits row).current =
      (edits.filterMap Edit.given?).foldl (fun image p => Keyed.put p.1 p.2 image)
        row.current := by
  induction edits generalizing row with
  | nil => rfl
  | cons e rest ih =>
      rw [run_cons, ih (e.apply row)]
      cases e with
      | set column v => rfl
      | delete => rfl
      | accept => rfl

/-- However a row was deleted and accepted, its columns have the values they were last given. -/
theorem get?_current_run {row : Row} {values : List (String × Value)} (edits : List Edit)
    (column : String) (made : row.current = Keyed.ofList values) :
    Keyed.get? (run edits row).current column =
      newestValue? values (edits.filterMap Edit.given?) column := by
  have folded : (run edits row).current =
      Keyed.ofList (values ++ edits.filterMap Edit.given?) := by
    rw [current_run, made]
    exact List.foldl_append.symm
  rw [folded, get?_ofList_eq_lastValue?, lastValue?_append]

/-- The row after columns were set, one after the other. -/
def setAll (sets : List (String × Value)) (row : Row) : Row :=
  run (sets.map fun p => .set p.1 p.2) row

theorem stored_setAll {row : Row} (sets : List (String × Value)) (stored : row.Stored) :
    (row.setAll sets).Stored := by
  induction sets generalizing row with
  | nil => exact stored
  | cons p rest ih => exact ih (stored_set p.1 p.2 stored)

theorem loaded_setAll (sets : List (String × Value)) (row : Row) :
    (row.setAll sets).loaded = row.loaded := by
  apply loaded_run
  intro accepted
  obtain ⟨p, -, same⟩ := List.mem_map.mp accepted
  cases same

section Changed

variable (values sets : List (String × Value)) (column : String)

theorem value?_setAll_current :
    ((unchanged values).setAll sets).value? column .current =
      newestValue? values sets column := by
  have images := shown_of_stored (stored_setAll sets (.inl rfl : (unchanged values).Stored))
  have given : (sets.map fun p => Edit.set p.1 p.2).filterMap Edit.given? = sets := by
    rw [List.filterMap_map]
    exact List.filterMap_some
  have made : (unchanged values).current = Keyed.ofList values := rfl
  have newest := get?_current_run (sets.map fun p => Edit.set p.1 p.2) column made
  rw [given] at newest
  unfold value?
  rw [images.1]
  exact newest

theorem value?_setAll_loaded :
    ((unchanged values).setAll sets).value? column .loaded = lastValue? values column := by
  have images := shown_of_stored (stored_setAll sets (.inl rfl : (unchanged values).Stored))
  unfold value?
  rw [images.2, loaded_setAll]
  exact get?_ofList_eq_lastValue? values column

end Changed

/-- Nothing but accepting its values brings a deleted row back. -/
theorem state_run_of_deleted {edits : List Edit} {row : Row} (deleted : row.state = .deleted)
    (kept : .accept ∉ edits) : (run edits row).state = .deleted := by
  induction edits generalizing row with
  | nil => exact deleted
  | cons e rest ih =>
      obtain ⟨first, others⟩ := List.ne_and_not_mem_of_not_mem_cons kept
      rw [run_cons]
      refine ih ?_ others
      cases e with
      | set column v =>
          change (if row.state = .unchanged then .modified else row.state) = .deleted
          rw [deleted]
          rfl
      | delete => rfl
      | accept => exact absurd rfl first

theorem state_run_of_delete {edits : List Edit} (row : Row) (deletes : .delete ∈ edits)
    (kept : .accept ∉ edits) : (run edits row).state = .deleted := by
  induction edits generalizing row with
  | nil => cases deletes
  | cons e rest ih =>
      have others := (List.ne_and_not_mem_of_not_mem_cons kept).2
      rw [run_cons]
      rcases List.mem_cons.mp deletes with rfl | later
      · exact state_run_of_deleted rfl others
      · exact ih (e.apply row) later others

/-- However it was changed before and after, a deleted row shows what was read. -/
theorem value?_of_deleted (values : List (String × Value)) {edits : List Edit}
    (deletes : .delete ∈ edits) (kept : .accept ∉ edits) (column : String) (image : RowImage) :
    (run edits (unchanged values)).value? column image = lastValue? values column := by
  have deleted := state_run_of_delete (unchanged values) deletes kept
  have shows : (run edits (unchanged values)).shown image = Keyed.ofList values := by
    unfold shown
    rw [deleted, loaded_run kept]
    cases image <;> rfl
  unfold value?
  rw [shows, get?_ofList_eq_lastValue?]

end Row

end TableWrite
