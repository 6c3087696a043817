import TableWrite.Proofs.BuiltStatements
import TableWrite.Proofs.DistinctKeys
import TableWrite.Proofs.FreshPrototypes

set_option autoImplicit false

namespace TableWrite

open Text

def Parameter.returned (p : Parameter) : Parameter := { p with direction := .inputOutput }

theorem Parameter.name_returned (p : Parameter) : p.returned.name = p.name := rfl

theorem Parameter.returned_returned (p : Parameter) : p.returned.returned = p.returned := rfl

namespace TableColumns

variable {t : TableColumns}

theorem nodup_names_of_unspaced (distinct : (t.columns.map fun c => unspaced c.name.toList).Nodup) :
    (t.columns.map Column.name).Nodup := by
  have split : (t.columns.map fun c => unspaced c.name.toList) =
      (t.columns.map Column.name).map fun name => unspaced name.toList := by
    rw [List.map_map]
    rfl
  rw [split] at distinct
  exact distinct.of_map

/-- Where names are distinct, a column answers to its own. -/
theorem named_of_nodup {c : Column} (distinct : (t.columns.map Column.name).Nodup)
    (mem : c ∈ t.columns) : t.named c = c := by
  have reversed : (t.columns.reverse.map Column.name).Nodup := by
    rw [List.map_reverse, List.nodup_reverse]
    exact distinct
  have found := find?_of_nodup_map reversed (List.mem_reverse.mpr mem)
  rw [find?_named mem] at found
  exact Option.some.inj found

end TableColumns

namespace ProcedureCall

variable (d : Dialect) (table : String) (t : TableColumns)

/-- The parameters of a whole row, of which those of some columns give values back. -/
def wholeRow (returned : List Column) : List Parameter :=
  (returned.map fun c => Parameter.nameOf d c.name).foldl
    (fun ps name => Command.updateFirst (fun p => p.name == name) Parameter.returned ps)
    (t.columns.map fun c => rowParameter c (t.prototype d c))

theorem names_rows : (t.columns.map fun c => rowParameter c (t.prototype d c)).map Parameter.name =
    t.columns.map fun c => Parameter.nameOf d c.name := by
  rw [List.map_map]
  apply List.map_congr_left
  intro c _
  exact t.name_prototype d c

theorem collect_rowParameters :
    collect (rowParameters (.ofColumns table t.columns d)) t.columns =
      .ok (t.columns.map fun c => rowParameter c (t.prototype d c)) := by
  rw [List.map_eq_flatMap]
  apply collect_ok
  intro c mem
  unfold rowParameters
  rw [Prototypes.parameter_ofColumns table d mem]
  rfl

theorem returning_of_mem {name : String} {ps : List Parameter}
    (present : name ∈ ps.map Parameter.name) :
    returning name ps =
      .ok (Command.updateFirst (fun p => p.name == name) Parameter.returned ps) := by
  have found : (ps.any fun p => p.name == name) = true := by
    obtain ⟨p, mem, named⟩ := List.mem_map.mp present
    exact List.any_eq_true.mpr ⟨p, mem, beq_iff_eq.mpr named⟩
  unfold returning
  rw [if_pos found]
  rfl

/-- While every column of the table has its parameter, none of those that come back is missed. -/
theorem returningAll_ofColumns {returned : List Column} {ps : List Parameter}
    (members : ∀ c ∈ returned, c ∈ t.columns)
    (names : ps.map Parameter.name = t.columns.map fun c => Parameter.nameOf d c.name) :
    returningAll (.ofColumns table t.columns d) returned ps =
      .ok ((returned.map fun c => Parameter.nameOf d c.name).foldl
        (fun ps name => Command.updateFirst (fun p => p.name == name) Parameter.returned ps)
        ps) := by
  induction returned generalizing ps with
  | nil => rfl
  | cons c rest ih =>
      have mem : c ∈ t.columns := members c List.mem_cons_self
      have present : Parameter.nameOf d c.name ∈ ps.map Parameter.name := by
        rw [names]
        exact List.mem_map_of_mem mem
      have kept : (Command.updateFirst (fun p => p.name == Parameter.nameOf d c.name)
          Parameter.returned ps).map Parameter.name =
            t.columns.map fun c => Parameter.nameOf d c.name := by
        rw [map_updateFirst Parameter.name_returned]
        exact names
      have others := ih (fun other inside => members other (List.mem_cons_of_mem c inside)) kept
      unfold returningAll
      rw [Prototypes.parameter_ofColumns table d mem]
      change (returning (t.prototype d c).name ps >>= _) = _
      rw [t.name_prototype, returning_of_mem present]
      exact others

theorem returningAll_rows {returned : List Column} (members : ∀ c ∈ returned, c ∈ t.columns) :
    (do
      returningAll (.ofColumns table t.columns d) returned
        (← collect (rowParameters (.ofColumns table t.columns d)) t.columns)) =
      .ok (wholeRow d t returned) := by
  rw [collect_rowParameters]
  exact returningAll_ofColumns d table t members (names_rows d t)

theorem parametersOf_insert :
    parametersOf (.ofColumns table t.columns d) t.columns .insert =
      .ok (wholeRow d t (t.columns.filter returnedByInsert)) :=
  returningAll_rows d table t fun _ mem => List.mem_of_mem_filter mem

theorem parametersOf_update :
    parametersOf (.ofColumns table t.columns d) t.columns .update =
      .ok (wholeRow d t (t.columns.filter returnedByUpdate)) :=
  returningAll_rows d table t fun _ mem => List.mem_of_mem_filter mem

/-- Columns whose names differ without their blanks have parameters of different names. -/
theorem nodup_nameOf {columns : List Column}
    (distinct : (columns.map fun c => unspaced c.name.toList).Nodup) :
    (columns.map fun c => Parameter.nameOf d c.name).Nodup := by
  unfold List.Nodup at distinct ⊢
  rw [List.pairwise_map] at distinct ⊢
  exact distinct.imp fun differ same => differ ((Parameter.nameOf_eq_iff d _ _).mp same)

/-- The parameter of a column in a call that passes a whole row: a row version and a column that is
to come back give their values back. -/
def passedParameter (returned : Column → Bool) (c : Column) : Parameter :=
  { rowParameter c (.ofColumn d c) with
    direction := if returned c || c.type.isRowVersion then .inputOutput else .input }

/-- Where names are distinct without their blanks, each column that comes back is found. -/
theorem wholeRow_of_nodup (returned : Column → Bool)
    (distinct : (t.columns.map fun c => unspaced c.name.toList).Nodup) :
    wholeRow d t (t.columns.filter returned) = t.columns.map (passedParameter d returned) := by
  have rows : ((t.columns.map fun c => rowParameter c (t.prototype d c)).map
      Parameter.name).Nodup := by
    rw [names_rows]
    exact nodup_nameOf d distinct
  have selected : ∀ c ∈ t.columns,
      ((t.columns.filter returned).map fun c => Parameter.nameOf d c.name).contains
        (Parameter.nameOf d c.name) = returned c := by
    intro c mem
    rw [Bool.eq_iff_iff, List.contains_iff_mem, List.mem_map]
    constructor
    · rintro ⟨other, chosen, same⟩
      obtain ⟨there, comes⟩ := List.mem_filter.mp chosen
      have same := List.inj_on_of_nodup_map distinct there mem
        ((Parameter.nameOf_eq_iff d _ _).mp same)
      rw [← same]
      exact comes
    · intro comes
      exact ⟨c, List.mem_filter.mpr ⟨mem, comes⟩, rfl⟩
  unfold wholeRow
  rw [foldl_updateFirst_of_nodup_map Parameter.name_returned Parameter.returned_returned rows,
    List.map_map]
  apply List.map_congr_left
  intro c mem
  have name : (rowParameter c (t.prototype d c)).name = Parameter.nameOf d c.name :=
    t.name_prototype d c
  have own : t.prototype d c = .ofColumn d c :=
    congrArg (Parameter.ofColumn d)
      (TableColumns.named_of_nodup (TableColumns.nodup_names_of_unspaced distinct) mem)
  rw [Function.comp_apply, name, selected c mem, own]
  unfold passedParameter
  cases comes : returned c with
  | true => rfl
  | false => rfl

end ProcedureCall

end TableWrite
