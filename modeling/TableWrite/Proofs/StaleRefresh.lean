import TableWrite.Build

set_option autoImplicit false

namespace TableWrite

/-- The request with something else left to read again. -/
def Request.withRefresh (r : Request) (left : Refresh) : Request := { r with refresh := left }

namespace Build

variable (d : Dialect) (cache : PrototypeCache) (r : Request) (changed : List String)
  (left : Refresh)

theorem answer_withRefresh : cache.answer (r.withRefresh left) d = cache.answer r d := rfl

theorem asked_withRefresh : cache.asked (r.withRefresh left) d = cache.asked r d := rfl

theorem statementCommand_withRefresh (s : Prototypes) (a : Action) :
    statementCommand d s (r.withRefresh left) changed a = statementCommand d s r changed a := by
  cases a <;> rfl

/-- However a statement or a call ends, it replaces what was left. -/
theorem settle_withRefresh (outcome : Except Error (Command × Refresh)) :
    settle (r.withRefresh left) cache outcome = settle r cache outcome := by
  cases outcome <;> rfl

/-- A statement and a call do not even leave a trace of what was left. -/
theorem run_withRefresh {b : Build} (written : b ≠ .query) :
    run d cache (r.withRefresh left) changed b = run d cache r changed b := by
  cases b with
  | statement a =>
      unfold run
      dsimp only
      rw [answer_withRefresh, asked_withRefresh, statementCommand_withRefresh, settle_withRefresh]
  | procedure a =>
      have named : (r.withRefresh left).provider.procedure? a = r.provider.procedure? a := rfl
      unfold run
      dsimp only
      rw [named, answer_withRefresh, asked_withRefresh, settle_withRefresh]
      cases r.provider.procedure? a with
      | none => rfl
      | some name => exact settle_withRefresh _ r left _
  | query => exact absurd rfl written

theorem bound_withRefresh : (r.withRefresh left).bound d = (r.bound d).withRefresh left := by
  have positional : (r.withRefresh left).positional = r.positional := rfl
  unfold Request.bound
  rw [positional]
  split <;> rfl

theorem queryCommand_withRefresh : (r.withRefresh left).queryCommand d = r.queryCommand d := by
  unfold Request.queryCommand
  rw [bound_withRefresh]
  rfl

end Build

/-- What was left before shows in no command and no error. It shows in what is left afterwards
exactly if the command is that of a text. -/
theorem stale_refresh_hidden_iff (d : Dialect) (cache : PrototypeCache) (r : Request)
    (changed : List String) (b : Build) (left other : Refresh) :
    (Build.run d cache (r.withRefresh left) changed b).answer =
        (Build.run d cache (r.withRefresh other) changed b).answer ∧
      ((Build.run d cache (r.withRefresh left) changed b).request.refresh =
          (Build.run d cache (r.withRefresh other) changed b).request.refresh ↔
        (b = .query → left = other)) := by
  by_cases text : b = .query
  · subst text
    constructor
    · change (r.withRefresh left).queryCommand d = (r.withRefresh other).queryCommand d
      rw [Build.queryCommand_withRefresh, Build.queryCommand_withRefresh]
    · change ((r.withRefresh left).bound d).refresh = ((r.withRefresh other).bound d).refresh ↔ _
      rw [Build.bound_withRefresh, Build.bound_withRefresh]
      simp [Request.withRefresh]
  · rw [Build.run_withRefresh d cache r changed left text,
      Build.run_withRefresh d cache r changed other text]
    simp [text]

def Request.numberedItems : Request :=
  { blank with
    provider := { Provider.blank with destination := "Items", source := "Items" }
    queryText := some "SELECT 1"
    table :=
      { TableColumns.empty with
        columns :=
          [{ Column.blank with name := "Id", primaryKey := true, autoIncrement := true },
            { Column.blank with name := "Label" }] } }

def Refresh.numberedId : Refresh :=
  { empty with autoIncrement := some "Id", source := some "Items" }

/-- After the command of a text, a caller is still told to read the number that the database gave
to a row inserted before. -/
theorem text_shows_what_insert_left :
    (Build.run .standard .empty .numberedItems ["Label"] (.statement .insert)).request =
        Request.numberedItems.withRefresh .numberedId ∧
      (Build.run .standard .empty (Request.numberedItems.withRefresh .numberedId) []
          .query).request.refresh = .numberedId ∧
      (Build.run .standard .empty (Request.numberedItems.withRefresh .empty) []
          .query).request.refresh = .empty ∧
      Refresh.numberedId ≠ .empty := by
  refine ⟨?_, ?_, ?_, ?_⟩
  · decide +kernel
  · decide +kernel
  · decide +kernel
  · decide +kernel

end TableWrite
