import TableWrite.Execution
import TableWrite.Proofs.RowBinding

set_option autoImplicit false

namespace TableWrite

open Text

abbrev Versions := Keyed Int64 Int

/-- A table whose rows are found by a key and a version, in a database that refuses a command
which finds none. -/
structure VersionedTable (d : Dialect) where
  table : TableColumns
  key : Column
  version : Column
  refusal : Command → DriverError
  /-- Names differ in more than their blanks. -/
  distinct : (table.columns.map fun c => unspaced c.name.toList).Nodup
  key_mem : key ∈ table.columns
  key_primary : key.primaryKey = true
  version_mem : version ∈ table.columns
  version_token : version.versionToken = true
  version_unnumbered : version.autoIncrement = false
  version_unwritten : ¬ table.ServerWritten .update version
  refused : ∀ c, ∃ entry ∈ (refusal c).entries, entry.code = d.conflictCode

namespace VersionedTable

variable {d : Dialect} (t : VersionedTable d)

/-- The key that a command names, in the parameter that its column gives a name to. -/
def keyOf (c : Command) : Option Int64 :=
  (c.parameter? (Parameter.nameOf d t.key.name)).bind fun p => p.value.toInt64?

def versionOf (c : Command) : Option Int64 :=
  (c.parameter? (Parameter.nameOf d t.version.name)).bind fun p => p.value.toInt64?

/-- The versions after a command, with what the database answers. -/
def respond (versions : Versions) (c : Command) : Versions × Except DriverError Outcome :=
  match t.keyOf c, t.versionOf c with
  | some id, some version =>
    if Keyed.get? versions id = some version.toInt then
      (Keyed.put id (version.toInt + 1) versions, .ok (.affected 1))
    else (versions, .error (t.refusal c))
  | _, _ => (versions, .ok (.affected 0))

/-- The database as a driver, which writes nothing into parameters. -/
def driver (versions : Versions) : Driver := fun c => (c, (t.respond versions c).2)

/-- The row that a command names. -/
structure Names (c : Command) (id version : Int64) : Prop where
  key : t.keyOf c = some id
  version : t.versionOf c = some version

variable {t}

theorem respond_of_stored {versions : Versions} {c : Command} {id version : Int64}
    (names : t.Names c id version) (stored : Keyed.get? versions id = some version.toInt) :
    t.respond versions c = (Keyed.put id (version.toInt + 1) versions, .ok (.affected 1)) := by
  unfold respond
  rw [names.key, names.version]
  exact if_pos stored

theorem respond_of_stale {versions : Versions} {c : Command} {id version : Int64}
    (names : t.Names c id version) (stale : Keyed.get? versions id ≠ some version.toInt) :
    t.respond versions c = (versions, .error (t.refusal c)) := by
  unfold respond
  rw [names.key, names.version]
  exact if_neg stale

theorem execute_of_stored {versions : Versions} {c : Command} {id version : Int64}
    (names : t.Names c id version) (stored : Keyed.get? versions id = some version.toInt) :
    (execute d (t.driver versions) c).2 = .ok (.affected 1) := by
  unfold execute driver
  rw [respond_of_stored names stored]
  rfl

theorem execute_of_stale {versions : Versions} {c : Command} {id version : Int64}
    (names : t.Names c id version) (stale : Keyed.get? versions id ≠ some version.toInt) :
    ∃ e, (execute d (t.driver versions) c).2 = .error e ∧ e.isConflict = true := by
  rw [execute_conflict_iff]
  refine ⟨t.refusal c, ?_, t.refused c⟩
  unfold driver
  rw [respond_of_stale names stale]

theorem version_checked (t : VersionedTable d) : t.table.ChecksToken t.version :=
  ⟨t.version_unwritten, t.version_unnumbered, .inr t.version_token⟩

theorem key_unbound (t : VersionedTable d) (changed : List String) :
    t.table.roleIn .update changed t.key ≠ .bound := by
  intro bound
  have keyless := (TableColumns.roleIn_eq_bound_iff.mp bound).1.keyless rfl
  rw [t.key_primary] at keyless
  cases keyless

theorem version_unbound (t : VersionedTable d) (changed : List String) :
    t.table.roleIn .update changed t.version ≠ .bound := by
  intro bound
  have unversioned := (TableColumns.roleIn_eq_bound_iff.mp bound).1.unversioned
  rw [t.version_token] at unversioned
  cases unversioned

variable (t)

def request (r : Request) : Request := { r with table := t.table }

/-- Does a cache hold no prototypes but those of the table? -/
def Serves (cache : PrototypeCache) : Prop :=
  ∀ key held, Keyed.get? cache key = some held → held = .ofColumns held.table t.table.columns d

variable {t}

theorem serves_empty : t.Serves .empty := by
  intro key held found
  cases found

theorem answer_of_serves {cache : PrototypeCache} (serves : t.Serves cache) (r : Request) :
    ∃ name, cache.answer (t.request r) d = .ofColumns name t.table.columns d := by
  unfold PrototypeCache.answer
  dsimp only
  cases found : Keyed.get? cache (.ofRequest (t.request r) d) with
  | none => exact ⟨_, rfl⟩
  | some held => exact ⟨held.table, serves _ held found⟩

theorem serves_asked {cache : PrototypeCache} (serves : t.Serves cache) (r : Request) :
    t.Serves (cache.asked (t.request r) d) := by
  intro key held found
  by_cases same : key = .ofRequest (t.request r) d
  · subst same
    rw [PrototypeCache.get?_asked] at found
    cases found
    obtain ⟨name, answered⟩ := answer_of_serves serves r
    rw [answered]
    rfl
  · rw [PrototypeCache.get?_asked_of_ne _ _ _ _ same] at found
    exact serves key held found

section Update

variable {cache : PrototypeCache} {r : Request} {changed : List String} {command : Command}

/-- Whatever the cache has seen of the table, an update has the parameters of the first. -/
theorem parameters_of_built (serves : t.Serves cache)
    (built : (Build.run d cache (t.request r) changed (.statement .update)).answer = .ok command) :
    command.parameters = (UpdateStatement.ofFresh d (t.request r) changed).parameters := by
  obtain ⟨name, answered⟩ := answer_of_serves serves r
  obtain ⟨statement, made, rfl⟩ :=
    (Build.answer_update_eq_ok_iff d cache _ changed command).mp built
  rw [answered] at made
  obtain ⟨-, -, -, rfl⟩ :=
    (UpdateStatement.ofRequest_ofColumns_eq_ok_iff d name (t.request r) changed).mp made
  rfl

theorem bindError?_of_built {row : Row} (serves : t.Serves cache)
    (built : (Build.run d cache (t.request r) changed (.statement .update)).answer = .ok command)
    (covers : row.Covers t.table.columns) : command.bindError? row = none := by
  apply Command.bindError?_eq_none
  intro p mem
  rw [parameters_of_built serves built] at mem
  exact UpdateStatement.supplied_of_covers covers mem

/-- A bound update names the row with the version that was read. -/
theorem names_of_built {row : Row} {id version : Int64} (serves : t.Serves cache)
    (built : (Build.run d cache (t.request r) changed (.statement .update)).answer = .ok command)
    (covers : row.Covers t.table.columns)
    (key : row.value? t.key.name .loaded = some (.integer id))
    (loaded : row.value? t.version.name .loaded = some (.integer version)) :
    t.Names (command.bindRow row) id version := by
  have made := parameters_of_built serves built
  constructor
  · obtain ⟨p, found, value⟩ := UpdateStatement.value_of_bindRow (r := t.request r) t.distinct
      t.key_mem (t.key_unbound changed) (.inr t.key_primary) covers key made
    unfold keyOf
    rw [found, Option.bind_some, value]
    rfl
  · obtain ⟨p, found, value⟩ := UpdateStatement.value_of_bindRow (r := t.request r) t.distinct
      t.version_mem (t.version_unbound changed) (.inl t.version_checked) covers loaded made
    unfold versionOf
    rw [found, Option.bind_some, value]
    rfl

end Update

end VersionedTable

end TableWrite
