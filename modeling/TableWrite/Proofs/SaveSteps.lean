import TableWrite.Proofs.VersionedTable

set_option autoImplicit false

namespace TableWrite

/-- A client with the row that it has read, by its key and its version, and with the update that
it has ready. -/
structure Client where
  id : Int64
  version : Int64
  row : Row
  command : Option Command

/-- The client after a build, with a command if there is one and the row can be bound to it. -/
def Client.prepared (client : Client) : Except Error Command → Client
  | .ok command =>
    { client with
      command := if command.bindError? client.row = none then some (command.bindRow client.row)
        else none }
  | .error _ => { client with command := none }

theorem Client.kept_prepared (client : Client) (answer : Except Error Command) :
    (client.prepared answer).id = client.id ∧
      (client.prepared answer).version = client.version := by
  cases answer <;> exact ⟨rfl, rfl⟩

/-- A database with its clients, which share a builder. -/
structure World where
  versions : Versions
  cache : PrototypeCache
  clients : Keyed Nat Client

namespace World

def start (versions : Versions) : World := ⟨versions, .empty, []⟩

def client? (w : World) (i : Nat) : Option Client := Keyed.get? w.clients i

/-- Changes a client, if it has read a row. -/
def change (i : Nat) (f : Client → Client) (w : World) : World :=
  match w.client? i with
  | some client => { w with clients := Keyed.put i (f client) w.clients }
  | none => w

def command? (w : World) (i : Nat) : Option Command := (w.client? i).bind Client.command

/-- The row that a client has read, by its key and its version. -/
def loaded? (w : World) (i : Nat) : Option (Int64 × Int64) :=
  (w.client? i).map fun client => (client.id, client.version)

theorem versions_change (i : Nat) (f : Client → Client) (w : World) :
    (w.change i f).versions = w.versions := by
  unfold change
  split <;> rfl

theorem cache_change (i : Nat) (f : Client → Client) (w : World) :
    (w.change i f).cache = w.cache := by
  unfold change
  split <;> rfl

theorem client?_change_self (i : Nat) (f : Client → Client) (w : World) :
    (w.change i f).client? i = (w.client? i).map f := by
  unfold change
  cases found : w.client? i with
  | none => exact found
  | some client => exact Keyed.lookup_put_self i _ _

theorem client?_change_of_ne {i j : Nat} (f : Client → Client) (w : World) (differ : j ≠ i) :
    (w.change i f).client? j = w.client? j := by
  unfold change
  split
  · exact Keyed.lookup_put_of_ne _ _ differ
  · rfl

theorem loaded?_change {f : Client → Client} (i j : Nat) (w : World)
    (kept : ∀ client, (f client).id = client.id ∧ (f client).version = client.version) :
    (w.change i f).loaded? j = w.loaded? j := by
  unfold loaded?
  by_cases same : j = i
  · subst same
    rw [client?_change_self, Option.map_map]
    cases w.client? j with
    | none => rfl
    | some client => simp [kept client]
  · rw [client?_change_of_ne f w same]

end World

/-- What the clients, by their numbers, and their builder do. -/
inductive SaveStep where
  | load (i : Nat) (id version : Int64) (values : List (String × Value))
  | set (i : Nat) (column : String) (v : Value)
  /-- The client builds an update and binds its row to it. -/
  | prepare (i : Nat) (r : Request) (changed : List String)
  | execute (i : Nat)
  /-- The builder loses what it has cached. -/
  | forget

/-- Does a client read a row in this step? -/
def SaveStep.Loads (i : Nat) : SaveStep → Prop
  | load j _ _ _ => j = i
  | _ => False

namespace VersionedTable

variable {d : Dialect} (t : VersionedTable d)

/-- Are these the values of a row as it is stored, with one for every column? -/
structure Shows (versions : Versions) (id version : Int64)
    (values : List (String × Value)) : Prop where
  stored : Keyed.get? versions id = some version.toInt
  full : ∀ c ∈ t.table.columns, (Keyed.get? (Keyed.ofList values) c.name).isSome
  key : Keyed.get? (Keyed.ofList values) t.key.name = some (.integer id)
  version : Keyed.get? (Keyed.ofList values) t.version.name = some (.integer version)

instance (versions : Versions) (id version : Int64) (values : List (String × Value)) :
    Decidable (t.Shows versions id version values) :=
  decidable_of_iff (_ ∧ _ ∧ _ ∧ _) ⟨fun h => ⟨h.1, h.2.1, h.2.2.1, h.2.2.2⟩,
    fun h => ⟨h.stored, h.full, h.key, h.version⟩⟩

/-- The world after a step. Nothing is read but a row as it is stored. -/
def step (w : World) : SaveStep → World
  | .load i id version values =>
    if t.Shows w.versions id version values then
      { w with clients := Keyed.put i ⟨id, version, .unchanged values, none⟩ w.clients }
    else w
  | .set i column v => w.change i fun client => { client with row := client.row.set column v }
  | .prepare i r changed =>
    let built := Build.run d w.cache (t.request r) changed (.statement .update)
    { w.change i (·.prepared built.answer) with cache := built.cache }
  | .execute i =>
    match w.command? i with
    | some command => { w with versions := (t.respond w.versions command).1 }
    | none => w
  | .forget => { w with cache := .empty }

def run (w : World) (steps : List SaveStep) : World := steps.foldl t.step w

/-- The row that a step saves, by its key and the version that it was read with. -/
def saved? (w : World) : SaveStep → Option (Int64 × Int64)
  | .execute i => do
    let client ← w.client? i
    let command ← client.command
    if (execute d (t.driver w.versions) command).2 = .ok (.affected 1) then
      some (client.id, client.version)
    else none
  | _ => none

def saves (w : World) : List SaveStep → List (Int64 × Int64)
  | [] => []
  | s :: rest => (t.saved? w s).toList ++ saves (t.step w s) rest

/-- The versions from which a run saves a row. -/
def savedVersions (w : World) (steps : List SaveStep) (id : Int64) : List Int :=
  ((t.saves w steps).filter (·.1 == id)).map fun save => save.2.toInt

section Steps

variable {t} {w : World} {i : Nat}

theorem step_load_of_shows {id version : Int64} {values : List (String × Value)}
    (shows : t.Shows w.versions id version values) :
    t.step w (.load i id version values) =
      { w with clients := Keyed.put i ⟨id, version, .unchanged values, none⟩ w.clients } :=
  if_pos shows

theorem step_load_of_not_shows {id version : Int64} {values : List (String × Value)}
    (hidden : ¬ t.Shows w.versions id version values) :
    t.step w (.load i id version values) = w :=
  if_neg hidden

theorem step_execute_of_command {command : Command} (ready : w.command? i = some command) :
    t.step w (.execute i) = { w with versions := (t.respond w.versions command).1 } := by
  unfold step
  dsimp only
  rw [ready]

theorem step_execute_of_none (ready : w.command? i = none) : t.step w (.execute i) = w := by
  unfold step
  dsimp only
  rw [ready]

theorem saved?_execute_of_none (ready : w.command? i = none) :
    t.saved? w (.execute i) = none := by
  unfold World.command? at ready
  unfold saved?
  dsimp only
  cases found : w.client? i with
  | none => rfl
  | some client =>
      rw [found, Option.bind_some] at ready
      change client.command.bind _ = none
      rw [ready]
      rfl

theorem saved?_execute_of_command {client : Client} {command : Command}
    (found : w.client? i = some client) (ready : client.command = some command) :
    t.saved? w (.execute i) =
      if (execute d (t.driver w.versions) command).2 = .ok (.affected 1) then
        some (client.id, client.version)
      else none := by
  unfold saved?
  dsimp only
  rw [found]
  change client.command.bind _ = _
  rw [ready]
  rfl

end Steps

/-- What a client knows of its row: the images that it was read with, and its name in the command
that is ready. -/
structure Holds (client : Client) : Prop where
  stored : client.row.Stored
  covers : client.row.Covers t.table.columns
  key : client.row.value? t.key.name .loaded = some (.integer client.id)
  version : client.row.value? t.version.name .loaded = some (.integer client.version)
  names : ∀ c, client.command = some c → t.Names c client.id client.version

structure Sound (w : World) : Prop where
  serves : t.Serves w.cache
  holds : ∀ i client, w.client? i = some client → t.Holds client

variable {t}

theorem holds_loaded {versions : Versions} {id version : Int64} {values : List (String × Value)}
    (shows : t.Shows versions id version values) :
    t.Holds ⟨id, version, .unchanged values, none⟩ where
  stored := .inl rfl
  covers := Row.covers_unchanged shows.full
  key := shows.key
  version := shows.version
  names c absent := by cases absent

theorem holds_set {client : Client} (column : String) (v : Value) (holds : t.Holds client) :
    t.Holds { client with row := client.row.set column v } where
  stored := Row.stored_set column v holds.stored
  covers := Row.covers_set column v holds.stored holds.covers
  key := (Row.value?_set_loaded column _ v holds.stored).trans holds.key
  version := (Row.value?_set_loaded column _ v holds.stored).trans holds.version
  names := holds.names

theorem holds_prepared {client : Client} {cache : PrototypeCache} (serves : t.Serves cache)
    (r : Request) (changed : List String) (holds : t.Holds client) :
    t.Holds (client.prepared
      (Build.run d cache (t.request r) changed (.statement .update)).answer) := by
  cases built : (Build.run d cache (t.request r) changed (.statement .update)).answer with
  | error e =>
      refine ⟨holds.stored, holds.covers, holds.key, holds.version, ?_⟩
      intro c absent
      cases absent
  | ok command =>
      refine ⟨holds.stored, holds.covers, holds.key, holds.version, ?_⟩
      intro c ready
      unfold Client.prepared at ready
      dsimp only at ready
      rw [if_pos (bindError?_of_built serves built holds.covers)] at ready
      cases ready
      exact names_of_built serves built holds.covers holds.key holds.version

theorem sound_start (versions : Versions) : t.Sound (.start versions) where
  serves := serves_empty
  holds i client found := by cases found

theorem sound_change {w : World} {f : Client → Client} (i : Nat) (sound : t.Sound w)
    (kept : ∀ client, t.Holds client → t.Holds (f client)) : t.Sound (w.change i f) where
  serves := by
    rw [World.cache_change]
    exact sound.serves
  holds j client found := by
    by_cases same : j = i
    · subst same
      rw [World.client?_change_self] at found
      obtain ⟨before, present, rfl⟩ := Option.map_eq_some_iff.mp found
      exact kept before (sound.holds j before present)
    · rw [World.client?_change_of_ne f w same] at found
      exact sound.holds j client found

theorem sound_step {w : World} (s : SaveStep) (sound : t.Sound w) : t.Sound (t.step w s) := by
  cases s with
  | load i id version values =>
      by_cases shows : t.Shows w.versions id version values
      · rw [step_load_of_shows shows]
        refine ⟨sound.serves, ?_⟩
        intro j client found
        change Keyed.get? (Keyed.put i _ w.clients) j = some client at found
        rw [Keyed.get?_put] at found
        split at found
        · cases found
          exact holds_loaded shows
        · exact sound.holds j client found
      · rw [step_load_of_not_shows shows]
        exact sound
  | set i column v => exact sound_change i sound fun _ holds => holds_set column v holds
  | prepare i r changed =>
      have prepared := sound_change i sound fun _ holds =>
        holds_prepared sound.serves r changed holds
      refine ⟨?_, prepared.holds⟩
      change t.Serves (Build.run d w.cache (t.request r) changed (.statement .update)).cache
      rw [Build.cache_statement]
      exact serves_asked sound.serves r
  | execute i =>
      cases ready : w.command? i with
      | none =>
          rw [step_execute_of_none ready]
          exact sound
      | some command =>
          rw [step_execute_of_command ready]
          exact ⟨sound.serves, sound.holds⟩
  | forget => exact ⟨serves_empty, sound.holds⟩

theorem sound_run {w : World} (steps : List SaveStep) (sound : t.Sound w) :
    t.Sound (t.run w steps) := by
  induction steps generalizing w with
  | nil => exact sound
  | cons s rest ih => exact ih (sound_step s sound)

/-- The versions change only by a save, which adds one to that of the row as it was read. -/
theorem versions_step {w : World} (s : SaveStep) (sound : t.Sound w) :
    (t.saved? w s = none ∧ (t.step w s).versions = w.versions) ∨
      ∃ id version, t.saved? w s = some (id, version) ∧
        Keyed.get? w.versions id = some version.toInt ∧
        (t.step w s).versions = Keyed.put id (version.toInt + 1) w.versions := by
  cases s with
  | load i id version values =>
      by_cases shows : t.Shows w.versions id version values
      · rw [step_load_of_shows shows]
        exact .inl ⟨rfl, rfl⟩
      · rw [step_load_of_not_shows shows]
        exact .inl ⟨rfl, rfl⟩
  | set i column v => exact .inl ⟨rfl, World.versions_change i _ w⟩
  | prepare i r changed => exact .inl ⟨rfl, World.versions_change i _ w⟩
  | forget => exact .inl ⟨rfl, rfl⟩
  | execute i =>
      cases ready : w.command? i with
      | none =>
          rw [step_execute_of_none ready]
          exact .inl ⟨saved?_execute_of_none ready, rfl⟩
      | some command =>
          obtain ⟨client, found, held⟩ := Option.bind_eq_some_iff.mp ready
          have names := (sound.holds i client found).names command held
          rw [step_execute_of_command ready, saved?_execute_of_command found held]
          by_cases stored : Keyed.get? w.versions client.id = some client.version.toInt
          · rw [if_pos (execute_of_stored names stored), respond_of_stored names stored]
            exact .inr ⟨client.id, client.version, rfl, stored, rfl⟩
          · obtain ⟨e, answered, -⟩ := execute_of_stale names stored
            rw [answered, respond_of_stale names stored]
            exact .inl ⟨rfl, rfl⟩

end VersionedTable

end TableWrite
