import TableWrite.Statement.Delete
import TableWrite.Statement.Insert
import TableWrite.Statement.Procedure
import TableWrite.Statement.Query
import TableWrite.Statement.Update

set_option autoImplicit false

namespace TableWrite

/-- What a build leaves behind. -/
structure Built where
  answer : Except Error Command
  request : Request
  cache : PrototypeCache

/-- The commands that can be built from a request. -/
inductive Build where
  | statement (action : Action)
  | procedure (action : Action)
  | query
deriving DecidableEq

namespace Build

/-- The statement for an action, with what is to be read again after it. -/
def statementCommand (d : Dialect) (s : Prototypes) (r : Request) (changed : List String) :
    Action → Except Error (Command × Refresh)
  | .insert => do
    let statement ← InsertStatement.ofRequest d s r changed
    return ({ r.command .text with text := statement.text d, parameters := statement.parameters },
      InsertStatement.refresh r changed)
  | .update => do
    let statement ← UpdateStatement.ofRequest d s r changed
    return ({ r.command .text with text := statement.text d, parameters := statement.parameters },
      UpdateStatement.refresh r changed)
  | .delete => do
    let statement ← DeleteStatement.ofRequest d s r
    return ({ r.command .text with text := statement.text d, parameters := statement.parameters },
      .empty)

/-- The call of a named procedure for an action. -/
def procedureCommand (d : Dialect) (s : Prototypes) (r : Request) (a : Action)
    (name : String) : Except Error Command := do
  let call ← ProcedureCall.ofRequest d s r a name
  return { r.command .storedProcedure with text := call.name, parameters := call.parameters }

/-- The request with what is to be read again after a command; after a failure, nothing. -/
def settle (r : Request) (cache : PrototypeCache) :
    Except Error (Command × Refresh) → Built
  | .ok (command, refresh) => ⟨.ok command, { r with refresh := refresh }, cache⟩
  | .error e => ⟨.error e, r.cleared, cache⟩

/-- Builds a command for a request in which the columns named have changed. A procedure without a
name fails before the cache is asked for prototypes. -/
def run (d : Dialect) (cache : PrototypeCache) (r : Request) (changed : List String) :
    Build → Built
  | .statement a =>
    settle r (cache.asked r d) (statementCommand d (cache.answer r d) r changed a)
  | .procedure a =>
    match r.provider.procedure? a with
    | none => settle r cache (.error (.missingProcedure a))
    | some name =>
      settle r (cache.asked r d)
        ((procedureCommand d (cache.answer r d) r a name).map (·, .empty))
  | .query => ⟨r.queryCommand d, r.bound d, cache⟩

theorem request_of_error {d : Dialect} {cache : PrototypeCache} {r : Request}
    {changed : List String} {b : Build} {e : Error} (statement : b ≠ .query)
    (failed : (run d cache r changed b).answer = .error e) :
    (run d cache r changed b).request = r.cleared := by
  have settled : ∀ (c : PrototypeCache) (outcome : Except Error (Command × Refresh)),
      (settle r c outcome).answer = .error e → (settle r c outcome).request = r.cleared := by
    intro c outcome ended
    cases outcome with
    | ok done => simp [settle] at ended
    | error e' => rfl
  cases b with
  | statement a => exact settled _ _ failed
  | procedure a =>
    simp only [run] at failed ⊢
    split
    · rfl
    · next name found => exact settled _ _ (by simpa [found] using failed)
  | query => exact absurd rfl statement

end Build
end TableWrite
