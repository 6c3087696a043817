import TableWrite.Proofs.SaveSteps

set_option autoImplicit false

namespace TableWrite

namespace VersionedTable

variable {d : Dialect} {t : VersionedTable d}

/-- What a step does to one row: it leaves the version as it is, or is the next save. -/
theorem savedVersions_cons {w : World} (s : SaveStep) (rest : List SaveStep) (id : Int64)
    (sound : t.Sound w) :
    (t.savedVersions w (s :: rest) id = t.savedVersions (t.step w s) rest id ∧
        Keyed.get? (t.step w s).versions id = Keyed.get? w.versions id) ∨
      ∃ version : Int, Keyed.get? w.versions id = some version ∧
        Keyed.get? (t.step w s).versions id = some (version + 1) ∧
        t.savedVersions w (s :: rest) id =
          version :: t.savedVersions (t.step w s) rest id := by
  have unrolled : t.savedVersions w (s :: rest) id =
      ((t.saved? w s).toList.filter (·.1 == id)).map (fun save => save.2.toInt) ++
        t.savedVersions (t.step w s) rest id := by
    unfold savedVersions
    rw [saves, List.filter_append, List.map_append]
  rw [unrolled]
  rcases versions_step s sound with ⟨unsaved, same⟩ | ⟨other, version, saved, read, changed⟩
  · rw [unsaved, same]
    exact .inl ⟨rfl, rfl⟩
  · rw [saved, changed, Option.toList_some, List.filter_singleton]
    by_cases here : other = id
    · subst here
      right
      refine ⟨version.toInt, read, Keyed.lookup_put_self _ _ _, ?_⟩
      have itself : (other == other) = true := beq_self_eq_true other
      rw [itself]
      rfl
    · left
      refine ⟨?_, Keyed.lookup_put_of_ne _ _ (Ne.symm here)⟩
      have elsewhere : (other == id) = false := beq_eq_false_iff_ne.mpr here
      rw [elsewhere]
      rfl

/-- A row is saved from one version after the other, and each save counts. -/
theorem run_of_stored {w : World} (steps : List SaveStep) (sound : t.Sound w) {id : Int64}
    {first : Int} (stored : Keyed.get? w.versions id = some first) :
    t.savedVersions w steps id =
        List.iterate (· + 1) first (t.savedVersions w steps id).length ∧
      Keyed.get? (t.run w steps).versions id =
        some (first + (t.savedVersions w steps id).length) := by
  induction steps generalizing w first with
  | nil =>
      refine ⟨rfl, stored.trans ?_⟩
      exact congrArg some (Int.add_zero first).symm
  | cons s rest ih =>
      have sound_after := sound_step s sound
      change _ ∧ Keyed.get? (t.run (t.step w s) rest).versions id = _
      rcases savedVersions_cons s rest id sound with ⟨same, kept⟩ | ⟨version, read, next, saved⟩
      · rw [same]
        exact ih sound_after (kept.trans stored)
      · rw [stored] at read
        cases read
        obtain ⟨consecutive, last⟩ := ih sound_after next
        rw [saved, List.length_cons]
        constructor
        · rw [List.iterate, ← consecutive]
        · rw [last]
          congr 1
          omega

/-- A row that is not stored is never saved. -/
theorem run_of_absent {w : World} (steps : List SaveStep) (sound : t.Sound w) {id : Int64}
    (absent : Keyed.get? w.versions id = none) :
    t.savedVersions w steps id = [] ∧ Keyed.get? (t.run w steps).versions id = none := by
  induction steps generalizing w with
  | nil => exact ⟨rfl, absent⟩
  | cons s rest ih =>
      change _ ∧ Keyed.get? (t.run (t.step w s) rest).versions id = _
      rcases savedVersions_cons s rest id sound with ⟨same, kept⟩ | ⟨version, read, -, -⟩
      · rw [same]
        exact ih (sound_step s sound) (kept.trans absent)
      · rw [absent] at read
        cases read

theorem loaded?_step {w : World} {s : SaveStep} {i : Nat} (other : ¬ s.Loads i) :
    (t.step w s).loaded? i = w.loaded? i := by
  cases s with
  | load j id version values =>
      by_cases shows : t.Shows w.versions id version values
      · rw [step_load_of_shows shows]
        unfold World.loaded? World.client?
        dsimp only
        rw [Keyed.lookup_put_of_ne _ _ (Ne.symm other)]
      · rw [step_load_of_not_shows shows]
  | set j column v => exact World.loaded?_change j i w fun _ => ⟨rfl, rfl⟩
  | prepare j r changed => exact World.loaded?_change j i w fun client => client.kept_prepared _
  | execute j =>
      cases ready : w.command? j with
      | none => rw [step_execute_of_none ready]
      | some command =>
          rw [step_execute_of_command ready]
          rfl
  | forget => rfl

theorem loaded?_run {w : World} {steps : List SaveStep} {i : Nat}
    (others : ∀ s ∈ steps, ¬ s.Loads i) : (t.run w steps).loaded? i = w.loaded? i := by
  induction steps generalizing w with
  | nil => rfl
  | cons s rest ih =>
      have later : ∀ s ∈ rest, ¬ s.Loads i := fun s mem => others s (List.mem_cons_of_mem _ mem)
      change (t.run (t.step w s) rest).loaded? i = _
      rw [ih later]
      exact loaded?_step (others s List.mem_cons_self)

theorem loaded?_load {w : World} {i : Nat} {id version : Int64}
    {values : List (String × Value)} (shows : t.Shows w.versions id version values) :
    (t.step w (.load i id version values)).loaded? i = some (id, version) := by
  rw [step_load_of_shows shows]
  unfold World.loaded? World.client?
  dsimp only
  rw [Keyed.lookup_put_self]
  rfl

theorem names_of_loaded? {w : World} {i : Nat} {id version : Int64} {command : Command}
    (sound : t.Sound w) (loaded : w.loaded? i = some (id, version))
    (ready : w.command? i = some command) : t.Names command id version := by
  obtain ⟨client, found, held⟩ := Option.bind_eq_some_iff.mp ready
  unfold World.loaded? at loaded
  rw [found] at loaded
  cases loaded
  exact (sound.holds i client found).names command held

/-- How the database decides on the command of a client, by the saves of its row since it was
read. -/
structure Decides (t : VersionedTable d) (w : World) (i : Nat) (id version : Int64)
    (command : Command) (since : List Int) : Prop where
  succeeds : (execute d (t.driver w.versions) command).2 = .ok (.affected 1) ↔ since = []
  advances : since = [] →
    (t.step w (.execute i)).versions = Keyed.put id (version.toInt + 1) w.versions
  conflicts : since ≠ [] → (t.step w (.execute i)).versions = w.versions ∧
    ∃ e, (execute d (t.driver w.versions) command).2 = .error e ∧ e.isConflict = true

theorem decides_of_names {w : World} {i : Nat} {id version : Int64} {command : Command}
    {since : List Int} (ready : w.command? i = some command)
    (names : t.Names command id version)
    (current : Keyed.get? w.versions id = some version.toInt ↔ since = []) :
    t.Decides w i id version command since := by
  by_cases unsaved : since = []
  · have fresh := current.mpr unsaved
    have answered := execute_of_stored names fresh
    refine ⟨⟨fun _ => unsaved, fun _ => answered⟩, fun _ => ?_, fun saved => absurd unsaved saved⟩
    rw [step_execute_of_command ready, respond_of_stored names fresh]
  · have stale := mt current.mp unsaved
    obtain ⟨e, answered, conflict⟩ := execute_of_stale names stale
    refine ⟨⟨?_, fun nothing => absurd nothing unsaved⟩, fun nothing => absurd nothing unsaved,
      fun _ => ⟨?_, e, answered, conflict⟩⟩
    · intro succeeded
      rw [answered] at succeeded
      cases succeeded
    · rw [step_execute_of_command ready, respond_of_stale names stale]

theorem decides_of_read {w : World} {between : List SaveStep} {i : Nat} {id version : Int64}
    {values : List (String × Value)} {command : Command} (sound : t.Sound w)
    (shows : t.Shows w.versions id version values) (others : ∀ s ∈ between, ¬ s.Loads i)
    (ready : (t.run w (.load i id version values :: between)).command? i = some command) :
    t.Decides (t.run w (.load i id version values :: between)) i id version command
      (t.savedVersions (t.step w (.load i id version values)) between id) := by
  have sound_read := sound_step (.load i id version values) sound
  have stored : Keyed.get? (t.step w (.load i id version values)).versions id =
      some version.toInt := by
    rw [step_load_of_shows shows]
    exact shows.stored
  -- Every save of the row since then has added one, so that without one it is as it was read.
  have last : Keyed.get? (t.run w (.load i id version values :: between)).versions id = _ :=
    (run_of_stored between sound_read stored).2
  have loaded : (t.run w (.load i id version values :: between)).loaded? i =
      some (id, version) :=
    (loaded?_run others).trans (loaded?_load shows)
  apply decides_of_names ready
  · exact names_of_loaded? (sound_run between sound_read) loaded ready
  · rw [last, Option.some_inj, ← List.length_eq_zero_iff]
    omega

end VersionedTable

structure LosesNoUpdate {d : Dialect} (t : VersionedTable d) (versions : Versions)
    (steps : List SaveStep) : Prop where
  /-- The saves of a row are each made from the version that the one before left. -/
  consecutive : ∀ id first, Keyed.get? versions id = some first →
    t.savedVersions (.start versions) steps id =
      List.iterate (· + 1) first (t.savedVersions (.start versions) steps id).length
  stored : ∀ id first, Keyed.get? versions id = some first →
    Keyed.get? (t.run (.start versions) steps).versions id =
      some (first + (t.savedVersions (.start versions) steps id).length)
  absent : ∀ id, Keyed.get? versions id = none →
    t.savedVersions (.start versions) steps id = [] ∧
      Keyed.get? (t.run (.start versions) steps).versions id = none
  /-- Every update that is built can be bound to the row of every client. -/
  binds : ∀ i client r changed command,
    (t.run (.start versions) steps).client? i = some client →
    (Build.run d (t.run (.start versions) steps).cache (t.request r) changed
      (.statement .update)).answer = .ok command →
    command.bindError? client.row = none
  /-- A client saves its row exactly if no one has saved it since the client read it. -/
  decides : ∀ before between i id version values command,
    steps = before ++ .load i id version values :: between →
    t.Shows (t.run (.start versions) before).versions id version values →
    (∀ s ∈ between, ¬ s.Loads i) →
    (t.run (.start versions) steps).command? i = some command →
    t.Decides (t.run (.start versions) steps) i id version command
      (t.savedVersions (t.run (.start versions) (before ++ [.load i id version values])) between id)

theorem saves_lose_no_update {d : Dialect} (t : VersionedTable d) (versions : Versions)
    (steps : List SaveStep) : LosesNoUpdate t versions steps where
  consecutive id first held :=
    (VersionedTable.run_of_stored steps (VersionedTable.sound_start versions) held).1
  stored id first held :=
    (VersionedTable.run_of_stored steps (VersionedTable.sound_start versions) held).2
  absent id missing :=
    VersionedTable.run_of_absent steps (VersionedTable.sound_start versions) missing
  binds i client r changed command found built := by
    have sound := VersionedTable.sound_run steps (VersionedTable.sound_start (t := t) versions)
    exact VersionedTable.bindError?_of_built sound.serves built (sound.holds i client found).covers
  decides before between i id version values command split shows others ready := by
    have sound := VersionedTable.sound_run before (VersionedTable.sound_start (t := t) versions)
    have halves : t.run (.start versions) steps =
        t.run (t.run (.start versions) before) (.load i id version values :: between) := by
      rw [split]
      exact List.foldl_append
    have read : t.run (.start versions) (before ++ [.load i id version values]) =
        t.step (t.run (.start versions) before) (.load i id version values) := List.foldl_append
    rw [halves] at ready ⊢
    rw [read]
    exact VersionedTable.decides_of_read sound shows others ready

def VersionedTable.orders : VersionedTable .standard where
  table :=
    { TableColumns.empty with
      columns :=
        [{ Column.ofName "OrderID" with primaryKey := true }, .ofName "Total",
          { Column.ofName "Version" with versionToken := true }] }
  key := { Column.ofName "OrderID" with primaryKey := true }
  version := { Column.ofName "Version" with versionToken := true }
  refusal _ :=
    ⟨"update failed", [⟨532, "Row has been updated since last time read", some "SA"⟩]⟩
  distinct := by decide +kernel
  key_mem := by decide +kernel
  key_primary := rfl
  version_mem := by decide +kernel
  version_token := rfl
  version_unnumbered := rfl
  version_unwritten := by decide +kernel
  refused _ := ⟨_, List.mem_singleton.mpr rfl, rfl⟩

/-- Two clients read one row, and both change it; the second also pretends to have read it later. -/
def SaveStep.twoSaves : List SaveStep :=
  let values := [("OrderID", .integer 7), ("Total", .integer 10), ("Version", .integer 1)]
  [.load 1 7 1 values, .load 2 7 1 values, .set 1 "Total" (.integer 11),
    .prepare 1 .orders ["Total"], .set 2 "Version" (.integer 2), .set 2 "Total" (.integer 99),
    .prepare 2 .orders ["Total", "Version"], .execute 1, .execute 2]

theorem orders_lose_no_update :
    LosesNoUpdate .orders [(7, 1)] SaveStep.twoSaves ∧
      VersionedTable.orders.savedVersions (.start [(7, 1)]) SaveStep.twoSaves 7 = [1] ∧
      (VersionedTable.orders.run (.start [(7, 1)]) SaveStep.twoSaves).versions = [(7, 2)] :=
  ⟨saves_lose_no_update _ _ _, by decide +kernel, by decide +kernel⟩

end TableWrite
