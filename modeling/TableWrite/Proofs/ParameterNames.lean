import TableWrite.Proofs.PassedColumns
import TableWrite.Proofs.RowBinding

set_option autoImplicit false

namespace TableWrite

open Text

/-- Does each name on a command lead to the parameter of a single column? Looking up a name finds
its parameter, and changing the parameter of a name changes no other. -/
structure Command.NamesApart (d : Dialect) (columns : List Column) (command : Command) : Prop where
  distinct : (command.parameters.map Parameter.name).Nodup
  found : ∀ c ∈ columns, ∃ p, command.parameter? (Parameter.nameOf d c.name) = some p ∧
    p.StandsFor d c
  single : ∀ p ∈ command.parameters, command.parameter? p.name = some p ∧
    ∃! c, c ∈ columns ∧ p.name = Parameter.nameOf d c.name
  updated : ∀ name f, (command.updateParameter name f).parameters =
    command.parameters.map fun p => if p.name == name then f p else p

namespace Parameter.OneEach

variable {d : Dialect} {columns : List Column} {ps : List Parameter}

theorem names (each : OneEach d columns ps) :
    (ps.map name).Perm (columns.map fun c => nameOf d c.name) := by
  obtain ⟨ordered, perm, lined⟩ := each
  have same : ps.map name = ordered.map fun c => nameOf d c.name := by
    clear perm
    induction lined with
    | nil => rfl
    | cons head _ ih => rw [List.map_cons, List.map_cons, head.name, ih]
  rw [same]
  exact perm.map _

theorem exists_of_column (each : OneEach d columns ps) {c : Column} (mem : c ∈ columns) :
    ∃ p ∈ ps, p.StandsFor d c := by
  obtain ⟨ordered, perm, lined⟩ := each
  have there := perm.mem_iff.mpr mem
  clear perm
  induction lined with
  | nil => cases there
  | cons head _ ih =>
      rcases List.mem_cons.mp there with rfl | inside
      · exact ⟨_, List.mem_cons_self, head⟩
      · obtain ⟨p, found, stands⟩ := ih inside
        exact ⟨p, List.mem_cons_of_mem _ found, stands⟩

/-- Names are distinct exactly if those of the columns are, without their blanks. -/
theorem nodup_names_iff (each : OneEach d columns ps) :
    (ps.map name).Nodup ↔ (columns.map fun c => unspaced c.name.toList).Nodup := by
  rw [each.names.nodup_iff]
  unfold List.Nodup
  rw [List.pairwise_map, List.pairwise_map]
  simp only [ne_eq, nameOf_eq_iff]

end Parameter.OneEach

theorem Command.namesApart_of_nodup {d : Dialect} {columns : List Column} {command : Command}
    (each : Parameter.OneEach d columns command.parameters)
    (distinct : (columns.map fun c => unspaced c.name.toList).Nodup) :
    command.NamesApart d columns := by
  have names := each.nodup_names_iff.mpr distinct
  refine ⟨names, ?_, ?_, ?_⟩
  · intro c mem
    obtain ⟨p, there, stands⟩ := each.exists_of_column mem
    refine ⟨p, ?_, stands⟩
    rw [← stands.name]
    exact find?_of_nodup_map names there
  · intro p mem
    refine ⟨find?_of_nodup_map names mem, ?_⟩
    have listed := each.names.mem_iff.mp (List.mem_map_of_mem mem)
    obtain ⟨c, there, same⟩ := List.mem_map.mp listed
    refine ⟨c, ⟨there, same.symm⟩, ?_⟩
    rintro other ⟨present, again⟩
    apply List.inj_on_of_nodup_map distinct present there
    rw [← Parameter.nameOf_eq_iff d, ← again, same]
  · intro name f
    exact updateFirst_of_nodup_map names name f

/-- The names of a command's parameters are apart exactly if no two columns that it passes have one
name without their blanks; it is enough that no two columns of the table have. This is said of
updates that check no key as a token too. -/
theorem names_apart_iff (d : Dialect) (r : Request) (changed : List String) (b : Build)
    (command : Command) (written : b ≠ .query)
    (unchecked : b = .statement .update → r.table.KeysUnchecked)
    (built : (Build.run d .empty r changed b).answer = .ok command) :
    (command.NamesApart d (r.passed changed b) ↔
        ((r.passed changed b).map fun c => unspaced c.name.toList).Nodup) ∧
      ((r.table.columns.map fun c => unspaced c.name.toList).Nodup →
        command.NamesApart d (r.passed changed b)) := by
  have each := Command.oneEach_of_built written unchecked built
  constructor
  · constructor
    · intro apart
      exact each.nodup_names_iff.mp apart.distinct
    · exact Command.namesApart_of_nodup each
  · intro distinct
    have some_columns : (r.passed changed b).Sublist r.table.columns := List.filter_sublist
    exact Command.namesApart_of_nodup each (distinct.sublist (some_columns.map _))

theorem orders_names_apart :
    Build.statement .update ≠ .query ∧ Request.orders.table.KeysUnchecked ∧
      (Build.run .standard .empty .orders ["Changed", "Unit Price"] (.statement .update)).answer =
        .ok .ordersUpdate ∧
      (Request.orders.table.columns.map fun c => unspaced c.name.toList).Nodup ∧
      Command.ordersUpdate.NamesApart .standard
        (Request.orders.passed ["Changed", "Unit Price"] (.statement .update)) := by
  have written : Build.statement .update ≠ .query := by decide
  have unchecked : Request.orders.table.KeysUnchecked := by
    unfold TableColumns.KeysUnchecked
    decide +kernel
  have built : (Build.run .standard .empty .orders ["Changed", "Unit Price"]
      (.statement .update)).answer = .ok .ordersUpdate := by decide +kernel
  have distinct : (Request.orders.table.columns.map fun c => unspaced c.name.toList).Nodup := by
    decide +kernel
  exact ⟨written, unchecked, built, distinct,
    (names_apart_iff _ _ _ _ _ written (fun _ => unchecked) built).2 distinct⟩

def Request.twoPrices : Request :=
  { blank with
    provider := { Provider.blank with destination := "Items" }
    table := { TableColumns.empty with columns := [.ofName "Unit Price", .ofName "UnitPrice"] } }

/-- Two columns have one parameter name between them, by which only the first is found. -/
theorem columns_share_parameter_name :
    (Request.twoPrices.table.columns.map Column.name).Nodup ∧
      ∃ command, (Build.run .standard .empty .twoPrices ["Unit Price", "UnitPrice"]
          (.statement .insert)).answer = .ok command ∧
        command.text =
          "INSERT INTO [Items] ([Unit Price], [UnitPrice]) VALUES (@UnitPrice, @UnitPrice)" ∧
        command.parameters.map Parameter.source = [some "Unit Price", some "UnitPrice"] ∧
        ¬ (command.parameters.map Parameter.name).Nodup := by
  exact ⟨by decide +kernel, _, rfl, by decide +kernel, by decide +kernel, by decide +kernel⟩

end TableWrite
