import TableWrite.Proofs.InsertImages

set_option autoImplicit false

namespace TableWrite

def Writing.action : Writing → Action
  | insert => .insert
  | update => .update

namespace TableColumns

/-- Do two lists of changed columns agree on the columns that a statement could assign? -/
def Agree (t : TableColumns) (w : Writing) (changed other : List String) : Prop :=
  ∀ c ∈ t.columns, t.Assignable w c → (c.name ∈ changed ↔ c.name ∈ other)

instance (t : TableColumns) (w : Writing) (changed other : List String) :
    Decidable (t.Agree w changed other) :=
  inferInstanceAs (Decidable (∀ c ∈ t.columns, t.Assignable w c → (_ ↔ _)))

variable {t : TableColumns} {w : Writing} {changed other : List String} {c : Column}

/-- A column whose value the row does not give has the role of one that has not changed. -/
theorem role_of_ne_bound {named : Bool} (unbound : t.role w named c ≠ .bound) :
    t.role w named c = t.role w false c := by
  by_cases written : t.ServerWritten w c
  · rw [role_of_serverWritten t w named c written, role_of_serverWritten t w false c written]
  · rw [role_of_not_serverWritten t w named c written] at unbound ⊢
    rw [role_of_not_serverWritten t w false c written]
    have unchanged : (named && c.ordinary) = false := by
      rw [← Bool.not_eq_true]
      intro bound
      exact unbound (if_pos bound)
    rw [unchanged, Bool.false_and]

theorem roleIn_of_ne_bound (unbound : t.roleIn w changed c ≠ .bound) :
    t.roleIn w changed c = t.role w false c := by
  cases w with
  | insert => exact role_of_ne_bound unbound
  | update => exact role_of_ne_bound unbound

/-- A column has the same role in both statements exactly if none could assign it, or both lists
name it, or none does. -/
theorem roleIn_eq_iff :
    t.roleIn w changed c = t.roleIn w other c ↔
      (t.Assignable w c → (c.name ∈ changed ↔ c.name ∈ other)) := by
  have named (names : List String) (assignable : t.Assignable w c) :
      t.roleIn w names c = .bound ↔ c.name ∈ names := by
    rw [roleIn_eq_bound_iff, and_iff_right assignable]
  constructor
  · intro same assignable
    rw [← named changed assignable, ← named other assignable, same]
  · intro agree
    have bound : t.roleIn w changed c = .bound ↔ t.roleIn w other c = .bound := by
      rw [roleIn_eq_bound_iff, roleIn_eq_bound_iff]
      exact and_congr_right agree
    by_cases first : t.roleIn w changed c = .bound
    · rw [first, bound.mp first]
    · rw [roleIn_of_ne_bound first, roleIn_of_ne_bound (mt bound.mpr first)]

theorem Agree.inRole_eq (agree : t.Agree w changed other) (role : Role) :
    t.inRole w changed role = t.inRole w other role := by
  have same : ∀ c ∈ t.columns, (t.roleIn w changed c == role) = (t.roleIn w other c == role) := by
    intro c mem
    rw [roleIn_eq_iff.mpr (agree c mem)]
  simp only [inRole, List.filter_congr same]

end TableColumns

section

variable {r : Request} {changed other : List String} (d : Dialect) (s : Prototypes)

theorem InsertStatement.ofRequest_of_agree (agree : r.table.Agree .insert changed other) :
    ofRequest d s r changed = ofRequest d s r other := by
  have cells : collect (columnCells s r changed) r.table.columns =
      collect (columnCells s r other) r.table.columns := by
    apply collect_congr
    intro c mem
    simp only [columnCells, TableColumns.roleIn_eq_iff.mpr (agree c mem)]
  simp only [ofRequest, cells]

theorem InsertStatement.refresh_of_agree (agree : r.table.Agree .insert changed other) :
    refresh r changed = refresh r other := by
  simp only [refresh, agree.inRole_eq]

theorem UpdateStatement.ofRequest_of_agree (agree : r.table.Agree .update changed other) :
    ofRequest d s r changed = ofRequest d s r other := by
  have terms : collect (columnTerms s r changed) r.table.columns =
      collect (columnTerms s r other) r.table.columns := by
    apply collect_congr
    intro c mem
    simp only [columnTerms, roleTerms, TableColumns.roleIn_eq_iff.mpr (agree c mem)]
  simp only [ofRequest, terms]

theorem UpdateStatement.refresh_of_agree (agree : r.table.Agree .update changed other) :
    refresh r changed = refresh r other := by
  simp only [refresh, agree.inRole_eq]

theorem Build.statementCommand_of_agree {w : Writing} (agree : r.table.Agree w changed other) :
    statementCommand d s r changed w.action = statementCommand d s r other w.action := by
  cases w with
  | insert =>
      simp only [statementCommand, Writing.action, InsertStatement.ofRequest_of_agree d s agree,
        InsertStatement.refresh_of_agree agree]
  | update =>
      simp only [statementCommand, Writing.action, UpdateStatement.ofRequest_of_agree d s agree,
        UpdateStatement.refresh_of_agree agree]

end

/-- Does the command pass the value that a column has now? -/
def Command.Passes (command : Command) (column : String) : Prop :=
  ∃ p ∈ command.parameters, p.source = some column ∧ p.image = .current

namespace TableColumns

/-- The columns that a statement assigns from a row. -/
def Assigns (t : TableColumns) (w : Writing) (changed : List String) (column : String) : Prop :=
  ∃ c ∈ t.columns, c.name = column ∧ t.roleIn w changed c = .bound

end TableColumns

section

variable {d : Dialect} {r : Request} {changed other : List String} {command : Command}
  {column : String}

theorem InsertStatement.passes_iff
    (made : command.parameters = (ofFresh d r changed).parameters) :
    command.Passes column ↔ r.table.Assigns .insert changed column := by
  unfold Command.Passes
  rw [made, parameters_eq_filterMap]
  constructor
  · rintro ⟨p, mem, source, -⟩
    obtain ⟨c, there, adds⟩ := List.mem_filterMap.mp mem
    unfold TableColumns.insertParameter? at adds
    split at adds
    · next bound =>
      obtain rfl := Option.some.inj adds
      rw [TableColumns.source_prototype] at source
      exact ⟨c, there, Option.some.inj source, bound⟩
    · obtain rfl := Option.some.inj adds
      cases source
    · cases adds
  · rintro ⟨c, there, rfl, bound⟩
    have reads := r.table.prototype_reads d c
    refine ⟨_, List.mem_filterMap.mpr ⟨c, there, ?_⟩, reads.source, reads.image⟩
    simp only [TableColumns.insertParameter?, bound]

theorem UpdateStatement.passes_iff
    (made : command.parameters = (ofFresh d r changed).parameters) :
    command.Passes column ↔ r.table.Assigns .update changed column := by
  unfold Command.Passes
  rw [made]
  constructor
  · rintro ⟨p, mem, source, image⟩
    obtain ⟨c, there, ⟨bound, reads⟩ | reads⟩ := reads_of_mem_parameters mem
    · exact ⟨c, there, Option.some.inj (reads.source.symm.trans source), bound⟩
    · cases image.symm.trans reads.image
  · rintro ⟨c, there, rfl, bound⟩
    have reads := r.table.prototype_reads d c
    have added : Assignment.bound c.name (r.table.prototype d c) ∈
        (ofFresh d r changed).assignments := by
      apply List.mem_append_left
      apply List.mem_filterMap.mpr
      exact ⟨c, there, by simp only [TableColumns.updateAssignment?, bound]⟩
    exact ⟨_, List.mem_append_left _ (List.mem_filterMap.mpr ⟨_, added, rfl⟩), reads.source,
      reads.image⟩

/-- A statement that was built with an empty cache passes the columns that it assigns. -/
theorem Build.passes_iff {w : Writing}
    (built : (run d .empty r changed (.statement w.action)).answer = .ok command) :
    command.Passes column ↔ r.table.Assigns w changed column := by
  cases w with
  | insert =>
      obtain ⟨statement, made, rfl⟩ := (answer_insert_eq_ok_iff _ _ _ _ _).mp built
      rw [PrototypeCache.answer_empty, InsertStatement.ofRequest_ofColumns_eq_ok_iff] at made
      obtain ⟨-, rfl⟩ := made
      exact InsertStatement.passes_iff rfl
  | update =>
      obtain ⟨statement, made, rfl⟩ := (answer_update_eq_ok_iff _ _ _ _ _).mp built
      rw [PrototypeCache.answer_empty, UpdateStatement.ofRequest_ofColumns_eq_ok_iff] at made
      obtain ⟨-, -, -, rfl⟩ := made
      exact UpdateStatement.passes_iff rfl

theorem TableColumns.assigns_iff {t : TableColumns} {w : Writing} {c : Column}
    (there : c ∈ t.columns) (assignable : t.Assignable w c) :
    t.Assigns w changed c.name ↔ c.name ∈ changed := by
  constructor
  · rintro ⟨c', -, named, bound⟩
    rw [← named]
    exact (roleIn_eq_bound_iff.mp bound).2
  · intro named
    exact ⟨c, there, rfl, roleIn_eq_bound_iff.mpr ⟨assignable, named⟩⟩

/-- Lists of which an empty cache makes the same command agree. -/
theorem agree_of_commands_eq {w : Writing}
    (built : (Build.run d .empty r changed (.statement w.action)).answer = .ok command)
    (built' : (Build.run d .empty r other (.statement w.action)).answer = .ok command) :
    r.table.Agree w changed other := by
  intro c there assignable
  rw [← TableColumns.assigns_iff there assignable, ← Build.passes_iff built,
    Build.passes_iff built', TableColumns.assigns_iff there assignable]

end

/-- Two lists that agree on the columns which the statement could assign give the same command or
the same error, and leave the same to read again and the same cache. -/
theorem only_assignable_changes_matter (d : Dialect) (cache : PrototypeCache) (r : Request)
    (w : Writing) (changed other : List String) (agree : r.table.Agree w changed other) :
    Build.run d cache r changed (.statement w.action) =
      Build.run d cache r other (.statement w.action) := by
  have same := Build.statementCommand_of_agree d (cache.answer r d) agree
  unfold Build.run
  dsimp only
  rw [same]

/-- Of an order only the price matters: its number, its version, the time of its change and what is
no column of it may be named or not, in any order and as often as one likes. -/
theorem order_changes_that_matter :
    Request.orders.table.Agree .insert ["Unit Price"]
        ["Version", "Unit Price", "Colour", "Changed", "Unit Price", "Id"] ∧
      Request.orders.table.Agree .update ["Unit Price"]
        ["Version", "Unit Price", "Colour", "Changed", "Unit Price", "Id"] ∧
      Build.run .standard .empty .orders ["Unit Price"] (.statement .insert) =
        Build.run .standard .empty .orders
          ["Version", "Unit Price", "Colour", "Changed", "Unit Price", "Id"]
          (.statement .insert) ∧
      Build.run .standard .empty .orders ["Unit Price"] (.statement .update) =
        Build.run .standard .empty .orders
          ["Version", "Unit Price", "Colour", "Changed", "Unit Price", "Id"]
          (.statement .update) := by
  have inserts : Request.orders.table.Agree .insert ["Unit Price"]
      ["Version", "Unit Price", "Colour", "Changed", "Unit Price", "Id"] := by decide +kernel
  have updates : Request.orders.table.Agree .update ["Unit Price"]
      ["Version", "Unit Price", "Colour", "Changed", "Unit Price", "Id"] := by decide +kernel
  exact ⟨inserts, updates, only_assignable_changes_matter _ _ _ .insert _ _ inserts,
    only_assignable_changes_matter _ _ _ .update _ _ updates⟩

end TableWrite
