import Mathlib.Data.List.Forall2
import Mathlib.Data.List.Nodup
import TableWrite.Binding
import TableWrite.Proofs.UpdateAlignment

set_option autoImplicit false

namespace TableWrite

open Text

namespace Parameter

def filled (row : Row) (p : Parameter) : Parameter :=
  match p.bind row with
  | .ok bound => bound
  | .error _ => p

theorem bind_eq_ok_of_reads? {row : Row} {p : Parameter} {column : String} {v : Value}
    (reads : p.reads? = some column) (found : row.value? column p.image = some v) :
    p.bind row = .ok { p with value := v } := by
  simp only [bind, reads, found]

theorem bind_eq_error_of_reads? {row : Row} {p : Parameter} {column : String}
    (reads : p.reads? = some column) (missing : row.value? column p.image = none) :
    p.bind row = .error column := by
  simp only [bind, reads, missing]

theorem Reads.bind_eq_ok {d : Dialect} {column : String} {image : RowImage} {p : Parameter}
    {row : Row} {v : Value} (reads : p.Reads d column image)
    (found : row.value? column image = some v) : p.bind row = .ok { p with value := v } := by
  have wanted : p.reads? = some column := by
    unfold reads?
    rw [reads.direction, reads.source]
    rfl
  rw [← reads.image] at found
  exact bind_eq_ok_of_reads? wanted found

theorem filled_of_bind {row : Row} {p bound : Parameter} (binds : p.bind row = .ok bound) :
    p.filled row = bound := by
  unfold filled
  rw [binds]

theorem name_filled (row : Row) (p : Parameter) : (p.filled row).name = p.name := by
  unfold filled bind
  cases p.reads? with
  | none => rfl
  | some column =>
      dsimp only
      cases row.value? column p.image <;> rfl

/-- Parameters go with the terms of a statement. If each of them is bound, the bound ones go with
the same terms. -/
theorem bindAll_lined {α : Type} {R S : α → Parameter → Prop} {row : Row} {terms : List α}
    {ps : List Parameter} (lined : List.Forall₂ R terms ps)
    (each : ∀ a p, R a p → ∃ bound, p.bind row = .ok bound ∧ S a bound) :
    ∃ bound, bindAll row ps = (bound, none) ∧ List.Forall₂ S terms bound := by
  induction lined with
  | nil => exact ⟨[], rfl, .nil⟩
  | cons head _ ih =>
      obtain ⟨first, binds, holds⟩ := each _ _ head
      obtain ⟨others, bindsAll, hold⟩ := ih
      refine ⟨first :: others, ?_, .cons holds hold⟩
      rw [bindAll_cons_ok binds, bindsAll]

theorem bindAll_append {row : Row} {ps bound : List Parameter}
    (binds : bindAll row ps = (bound, none)) (qs : List Parameter) :
    bindAll row (ps ++ qs) = (bound ++ (bindAll row qs).1, (bindAll row qs).2) := by
  induction ps generalizing bound with
  | nil =>
      cases binds
      rfl
  | cons p rest ih =>
      cases found : p.bind row with
      | error column =>
          rw [bindAll_cons_error found] at binds
          cases binds
      | ok first =>
          rw [bindAll_cons_ok found] at binds
          obtain ⟨rfl, complete⟩ := Prod.mk.inj binds
          rw [List.cons_append, bindAll_cons_ok found, ih (Prod.ext rfl complete)]
          rfl

end Parameter

namespace Row

/-- Was the row read, and is it still to be kept? -/
def Stored (row : Row) : Prop := row.state = .unchanged ∨ row.state = .modified

theorem shown_of_stored {row : Row} (stored : row.Stored) :
    row.shown .current = row.current ∧ row.shown .loaded = row.loaded := by
  unfold shown
  rcases stored with same | same
  · rw [same]
    exact ⟨rfl, rfl⟩
  · rw [same]
    exact ⟨rfl, rfl⟩

theorem stored_set {row : Row} (column : String) (v : Value) (stored : row.Stored) :
    (row.set column v).Stored := by
  right
  unfold set
  rcases stored with same | same
  · rw [same]
    rfl
  · rw [same]
    rfl

theorem value?_set_loaded {row : Row} (column other : String) (v : Value) (stored : row.Stored) :
    (row.set column v).value? other .loaded = row.value? other .loaded := by
  unfold value?
  rw [(shown_of_stored stored).2, (shown_of_stored (stored_set column v stored)).2, loaded_set]

/-- Has the row a value in both images for every column? -/
def Covers (row : Row) (columns : List Column) : Prop :=
  ∀ c ∈ columns, ∀ image, ∃ v, row.value? c.name image = some v

theorem covers_set {row : Row} {columns : List Column} (column : String) (v : Value)
    (stored : row.Stored) (covers : row.Covers columns) :
    (row.set column v).Covers columns := by
  intro c mem image
  obtain ⟨w, found⟩ := covers c mem image
  cases image with
  | current =>
      unfold value? at found ⊢
      rw [(shown_of_stored stored).1] at found
      rw [(shown_of_stored (stored_set column v stored)).1]
      change ∃ u, Keyed.get? (Keyed.put column v row.current) c.name = some u
      rw [Keyed.get?_put, found]
      split
      · exact ⟨v, rfl⟩
      · exact ⟨w, rfl⟩
  | loaded =>
      rw [value?_set_loaded column c.name v stored]
      exact ⟨w, found⟩

theorem covers_unchanged {values : List (String × Value)} {columns : List Column}
    (full : ∀ c ∈ columns, (Keyed.get? (Keyed.ofList values) c.name).isSome) :
    (unchanged values).Covers columns := by
  intro c mem image
  have found := Option.isSome_iff_exists.mp (full c mem)
  cases image with
  | current => exact found
  | loaded => exact found

end Row

namespace Command

variable {row : Row} {c : Command}

/-- A row with every value that is wanted is bound as a whole. -/
theorem bindAll_eq_filled {ps : List Parameter}
    (supplied : ∀ p ∈ ps, ∃ bound, p.bind row = .ok bound) :
    Parameter.bindAll row ps = (ps.map (Parameter.filled row), none) := by
  apply Parameter.bindAll_eq_map
  intro p mem
  obtain ⟨bound, binds⟩ := supplied p mem
  rw [Parameter.filled_of_bind binds]
  exact binds

theorem bindError?_eq_none (supplied : ∀ p ∈ c.parameters, ∃ bound, p.bind row = .ok bound) :
    c.bindError? row = none := by
  unfold bindError?
  rw [bindAll_eq_filled supplied]
  rfl

theorem parameter?_bindRow (supplied : ∀ p ∈ c.parameters, ∃ bound, p.bind row = .ok bound)
    (name : String) :
    (c.bindRow row).parameter? name = (c.parameter? name).map (Parameter.filled row) := by
  have names : ((fun p : Parameter => p.name == name) ∘ Parameter.filled row) =
      fun p => p.name == name := by
    funext p
    change ((p.filled row).name == name) = _
    rw [Parameter.name_filled]
  unfold parameter? bindRow
  rw [bindAll_eq_filled supplied, List.find?_map, names]

end Command

namespace UpdateStatement

variable {d : Dialect} {r : Request} {changed : List String}

/-- A parameter is that of a bound column, or reads a key or a checked token as it was loaded. -/
theorem reads_of_mem_parameters {p : Parameter} (mem : p ∈ (ofFresh d r changed).parameters) :
    ∃ c ∈ r.table.columns,
      (r.table.roleIn .update changed c = .bound ∧ p.Reads d c.name .current) ∨
        p.Reads d c.name .loaded := by
  rcases List.mem_append.mp mem with assigned | conditioned
  · obtain ⟨a, added, given⟩ := List.mem_filterMap.mp assigned
    obtain ⟨c, there, role, -, rfl⟩ := bound_of_mem_assignments added given
    exact ⟨c, there, .inl ⟨role, r.table.prototype_reads d c⟩⟩
  · obtain ⟨condition, added, rfl⟩ := List.mem_map.mp conditioned
    obtain ⟨c, there, -, rfl⟩ := mem_conditions_iff.mp added
    exact ⟨c, there, .inr (r.table.loadedCondition_reads d c)⟩

/-- A row that covers the table supplies every update of it. -/
theorem supplied_of_covers {row : Row} (covers : row.Covers r.table.columns) {p : Parameter}
    (mem : p ∈ (ofFresh d r changed).parameters) : ∃ bound, p.bind row = .ok bound := by
  obtain ⟨c, there, ⟨-, reads⟩ | reads⟩ := reads_of_mem_parameters mem
  · obtain ⟨v, found⟩ := covers c there .current
    exact ⟨_, reads.bind_eq_ok found⟩
  · obtain ⟨v, found⟩ := covers c there .loaded
    exact ⟨_, reads.bind_eq_ok found⟩

/-- Where names are distinct without their blanks, the name of a column that no update binds
belongs to its condition. -/
theorem reads_loaded_of_name {c : Column} {p : Parameter}
    (distinct : (r.table.columns.map fun c => unspaced c.name.toList).Nodup)
    (there : c ∈ r.table.columns) (unbound : r.table.roleIn .update changed c ≠ .bound)
    (mem : p ∈ (ofFresh d r changed).parameters) (named : p.name = Parameter.nameOf d c.name) :
    p.Reads d c.name .loaded := by
  obtain ⟨other, present, reads⟩ := reads_of_mem_parameters mem
  have other_name : p.name = Parameter.nameOf d other.name := by
    rcases reads with ⟨-, reads⟩ | reads
    · exact reads.name
    · exact reads.name
  have same : other = c := by
    apply List.inj_on_of_nodup_map distinct present there
    rw [← Parameter.nameOf_eq_iff d, ← other_name, named]
  subst same
  rcases reads with ⟨bound, -⟩ | reads
  · exact absurd bound unbound
  · exact reads

/-- A key or a checked token that no update binds is found by its name with the value that was
loaded. -/
theorem value_of_bindRow {c : Column} {row : Row} {command : Command} {v : Value}
    (distinct : (r.table.columns.map fun c => unspaced c.name.toList).Nodup)
    (there : c ∈ r.table.columns) (unbound : r.table.roleIn .update changed c ≠ .bound)
    (conditional : r.table.ChecksToken c ∨ c.primaryKey = true)
    (covers : row.Covers r.table.columns) (loaded : row.value? c.name .loaded = some v)
    (made : command.parameters = (ofFresh d r changed).parameters) :
    ∃ p, (command.bindRow row).parameter? (Parameter.nameOf d c.name) = some p ∧ p.value = v := by
  have supplied : ∀ p ∈ command.parameters, ∃ bound, p.bind row = .ok bound := by
    intro p mem
    rw [made] at mem
    exact supplied_of_covers covers mem
  have present : ((ofFresh d r changed).parameters.find?
      (·.name == Parameter.nameOf d c.name)).isSome := by
    rw [List.find?_isSome]
    refine ⟨(r.table.loadedCondition d c).parameter, ?_, ?_⟩
    · apply List.mem_append_right
      exact List.mem_map_of_mem (mem_conditions_iff.mpr ⟨c, there, conditional, rfl⟩)
    · rw [(r.table.loadedCondition_reads d c).name]
      exact beq_self_eq_true _
  obtain ⟨p, finds⟩ := Option.isSome_iff_exists.mp present
  have named := List.find?_some finds
  have reads := reads_loaded_of_name distinct there unbound (List.mem_of_find?_eq_some finds)
    (eq_of_beq named)
  refine ⟨{ p with value := v }, ?_, rfl⟩
  rw [Command.parameter?_bindRow supplied]
  unfold Command.parameter?
  rw [made, finds, Option.map_some, Parameter.filled_of_bind (reads.bind_eq_ok loaded)]

end UpdateStatement

end TableWrite
