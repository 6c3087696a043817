import TableWrite.Build
import TableWrite.Proofs.Roles

set_option autoImplicit false

namespace TableWrite

/-- Two steps succeed exactly if the first does, and the second from its result. -/
theorem bind_eq_ok_iff {ε α β : Type} {first : Except ε α} {next : α → Except ε β} {b : β} :
    (first >>= next) = .ok b ↔ ∃ a, first = .ok a ∧ next a = .ok b := by
  cases first with
  | error e => simp [bind, Except.bind]
  | ok a => simp [bind, Except.bind]

theorem bind_eq_error_iff {ε α β : Type} {first : Except ε α} {next : α → Except ε β} {e : ε} :
    (first >>= next) = .error e ↔ first = .error e ∨ ∃ a, first = .ok a ∧ next a = .error e := by
  cases first with
  | error e' => simp [bind, Except.bind]
  | ok a => simp [bind, Except.bind]

/-- What is only made of another result fails as this does. -/
theorem made_eq_error_iff {ε α β : Type} {first : Except ε α} {made : α → β} {e : ε} :
    (do return made (← first)) = .error e ↔ first = .error e := by
  cases first <;> simp [bind, Except.bind, pure, Except.pure]

namespace Provider

/-- The expression that a provider gives for a slot; of a slot without one, nothing. -/
def expression (p : Provider) (s : AuditSlot) : String :=
  (Keyed.get? p.properties s.textKey).getD ""

/-- Does a provider give an expression for each of some slots? -/
def Expresses (p : Provider) (slots : List (AuditSlot × String)) : Prop :=
  ∀ s ∈ slots, p.serverText s.1 = .ok (p.expression s.1)

end Provider

namespace Request

def lacksText (r : Request) (s : AuditSlot) : Bool :=
  (r.table.serverSlot? s).isSome && (Keyed.get? r.provider.properties s.textKey).isNone

variable (r : Request)

theorem lacksText_of_unfilled {s : AuditSlot} (unfilled : r.table.serverSlot? s = none) :
    r.lacksText s = false := by
  unfold lacksText
  rw [unfilled]
  rfl

theorem serverText_of_filled {s : AuditSlot} {entry : AuditSlot × String}
    (filled : r.table.serverSlot? s = some entry) :
    r.provider.serverText entry.1 =
      if r.lacksText s then .error (.missingServerText s.textKey)
      else .ok (r.provider.expression entry.1) := by
  have slot := TableColumns.fst_of_serverSlot? filled
  unfold lacksText Provider.serverText Provider.expression
  rw [filled, slot]
  cases Keyed.get? r.provider.properties s.textKey <;> rfl

/-- Collecting one term for each slot that the database fills fails with the first slot that lacks
its text. -/
theorem collect_slots {β : Type} (term : AuditSlot × String → String → β)
    (slots : List AuditSlot) :
    collect (fun s => do return [term s (← r.provider.serverText s.1)])
        (slots.filterMap r.table.serverSlot?) =
      match slots.find? r.lacksText with
      | some s => .error (.missingServerText s.textKey)
      | none => .ok ((slots.filterMap r.table.serverSlot?).map fun s =>
          term s (r.provider.expression s.1)) := by
  induction slots with
  | nil => rfl
  | cons s rest ih =>
      rw [List.filterMap_cons, List.find?_cons]
      cases filled : r.table.serverSlot? s with
      | none =>
          rw [r.lacksText_of_unfilled filled]
          exact ih
      | some entry =>
          have given := r.serverText_of_filled filled
          cases lacks : r.lacksText s with
          | true =>
              rw [if_pos lacks] at given
              simp only [collect, given]
              rfl
          | false =>
              rw [if_neg (Bool.eq_false_iff.mp lacks)] at given
              simp only [collect, given, ih, List.map_cons]
              cases rest.find? r.lacksText <;> rfl

theorem expresses_iff (slots : List AuditSlot) :
    r.provider.Expresses (slots.filterMap r.table.serverSlot?) ↔
      slots.find? r.lacksText = none := by
  rw [List.find?_eq_none]
  constructor
  · intro expressed s mem lacks
    cases filled : r.table.serverSlot? s with
    | none =>
        rw [r.lacksText_of_unfilled filled] at lacks
        cases lacks
    | some entry =>
        have given := expressed entry (List.mem_filterMap.mpr ⟨s, mem, filled⟩)
        rw [r.serverText_of_filled filled, if_pos lacks] at given
        cases given
  · intro given entry mem
    obtain ⟨s, inside, filled⟩ := List.mem_filterMap.mp mem
    rw [r.serverText_of_filled filled, if_neg (given s inside)]

end Request

namespace Build

variable (d : Dialect) (cache : PrototypeCache) (r : Request) (changed : List String)
  (command : Command)

theorem answer_settle_eq_ok_iff (outcome : Except Error (Command × Refresh)) :
    (settle r cache outcome).answer = .ok command ↔
      ∃ refresh, outcome = .ok (command, refresh) := by
  cases outcome with
  | error e => simp [settle]
  | ok done =>
      obtain ⟨made, refresh⟩ := done
      simp [settle]

theorem cache_settle (outcome : Except Error (Command × Refresh)) :
    (settle r cache outcome).cache = cache := by
  cases outcome <;> rfl

theorem cache_statement (a : Action) :
    (run d cache r changed (.statement a)).cache = cache.asked r d :=
  cache_settle (cache.asked r d) r _

/-- A command that is made of a statement is built exactly if the statement is. -/
theorem answer_settle_made_eq_ok_iff {σ : Type} (outcome : Except Error σ)
    (made : σ → Command × Refresh) :
    (settle r cache (do return made (← outcome))).answer = .ok command ↔
      ∃ s, outcome = .ok s ∧ command = (made s).1 := by
  rw [answer_settle_eq_ok_iff]
  cases outcome with
  | error e => simp [bind, Except.bind]
  | ok s => simp [bind, Except.bind, pure, Except.pure, Prod.ext_iff, eq_comm]

/-- A command built for an insert is the text and the parameters of a statement. -/
theorem answer_insert_eq_ok_iff :
    (run d cache r changed (.statement .insert)).answer = .ok command ↔
      ∃ statement, InsertStatement.ofRequest d (cache.answer r d) r changed = .ok statement ∧
        command = ⟨statement.text d, .text, statement.parameters, r.timeout⟩ :=
  answer_settle_made_eq_ok_iff _ r command _ _

/-- A command built for an update is the text and the parameters of a statement. -/
theorem answer_update_eq_ok_iff :
    (run d cache r changed (.statement .update)).answer = .ok command ↔
      ∃ statement, UpdateStatement.ofRequest d (cache.answer r d) r changed = .ok statement ∧
        command = ⟨statement.text d, .text, statement.parameters, r.timeout⟩ :=
  answer_settle_made_eq_ok_iff _ r command _ _

/-- A command built for a delete is the text and the parameters of a statement. -/
theorem answer_delete_eq_ok_iff :
    (run d cache r changed (.statement .delete)).answer = .ok command ↔
      ∃ statement, DeleteStatement.ofRequest d (cache.answer r d) r = .ok statement ∧
        command = ⟨statement.text d, .text, statement.parameters, r.timeout⟩ :=
  answer_settle_made_eq_ok_iff _ r command _ _

/-- A command built for a procedure is a call of the one that the provider names. -/
theorem answer_procedure_eq_ok_iff (a : Action) :
    (run d cache r changed (.procedure a)).answer = .ok command ↔
      ∃ name call, r.provider.procedure? a = some name ∧
        ProcedureCall.ofRequest d (cache.answer r d) r a name = .ok call ∧
        command = ⟨call.name, .storedProcedure, call.parameters, r.timeout⟩ := by
  unfold run
  dsimp only
  cases named : r.provider.procedure? a with
  | none => simp [settle]
  | some name =>
      simp only [Option.some.injEq, exists_and_left, exists_eq_left']
      rw [answer_settle_eq_ok_iff]
      unfold procedureCommand
      cases ProcedureCall.ofRequest d (cache.answer r d) r a name with
      | error e => simp [bind, Except.bind, Except.map]
      | ok call =>
          simp [bind, Except.bind, pure, Except.pure, Except.map, Request.command, eq_comm]

def leaves : Build → Refresh
  | .statement .insert => InsertStatement.refresh r changed
  | .statement .update => UpdateStatement.refresh r changed
  | .statement .delete | .procedure _ => .empty
  | .query => r.refresh

variable {d cache r changed command}

theorem left_of_statementCommand {s : Prototypes} {a : Action} {left : Refresh}
    (made : statementCommand d s r changed a = .ok (command, left)) :
    left = leaves r changed (.statement a) := by
  cases a with
  | insert =>
      obtain ⟨statement, -, done⟩ := bind_eq_ok_iff.mp made
      cases done
      rfl
  | update =>
      obtain ⟨statement, -, done⟩ := bind_eq_ok_iff.mp made
      cases done
      rfl
  | delete =>
      obtain ⟨statement, -, done⟩ := bind_eq_ok_iff.mp made
      cases done
      rfl

/-- A statement or a call that succeeds changes nothing of its request but what is to be read
again. -/
theorem request_of_ok {b : Build} (written : b ≠ .query)
    (answered : (run d cache r changed b).answer = .ok command) :
    (run d cache r changed b).request = { r with refresh := leaves r changed b } := by
  cases b with
  | statement a =>
      obtain ⟨left, made⟩ := (answer_settle_eq_ok_iff _ r command _).mp answered
      unfold run
      dsimp only
      rw [made, ← left_of_statementCommand made]
      rfl
  | procedure a =>
      obtain ⟨name, call, named, called, -⟩ :=
        (answer_procedure_eq_ok_iff d cache r changed command a).mp answered
      unfold run
      dsimp only
      rw [named]
      dsimp only
      unfold procedureCommand
      rw [called]
      rfl
  | query => exact absurd rfl written

variable (d cache r changed)

section Errors

variable (e : Error)

theorem answer_settle_eq_error_iff (outcome : Except Error (Command × Refresh)) :
    (settle r cache outcome).answer = .error e ↔ outcome = .error e := by
  cases outcome with
  | error e' => simp [settle]
  | ok done => simp [settle]

/-- A command that is made of a statement fails exactly as the statement does. -/
theorem answer_settle_made_eq_error_iff {σ : Type} (outcome : Except Error σ)
    (made : σ → Command × Refresh) :
    (settle r cache (do return made (← outcome))).answer = .error e ↔ outcome = .error e := by
  rw [answer_settle_eq_error_iff]
  exact made_eq_error_iff

theorem answer_insert_eq_error_iff :
    (run d cache r changed (.statement .insert)).answer = .error e ↔
      InsertStatement.ofRequest d (cache.answer r d) r changed = .error e :=
  answer_settle_made_eq_error_iff _ r e _ _

theorem answer_update_eq_error_iff :
    (run d cache r changed (.statement .update)).answer = .error e ↔
      UpdateStatement.ofRequest d (cache.answer r d) r changed = .error e :=
  answer_settle_made_eq_error_iff _ r e _ _

theorem answer_delete_eq_error_iff :
    (run d cache r changed (.statement .delete)).answer = .error e ↔
      DeleteStatement.ofRequest d (cache.answer r d) r = .error e :=
  answer_settle_made_eq_error_iff _ r e _ _

/-- A call fails for want of its name, or as it would with any name. -/
theorem answer_procedure_eq_error_iff (a : Action) :
    (run d cache r changed (.procedure a)).answer = .error e ↔
      (r.provider.procedure? a = none ∧ e = .missingProcedure a) ∨
        ∃ name, r.provider.procedure? a = some name ∧
          ProcedureCall.ofRequest d (cache.answer r d) r a name = .error e := by
  unfold run procedureCommand
  dsimp only
  cases named : r.provider.procedure? a with
  | none => simp [settle, eq_comm]
  | some name =>
      simp only [reduceCtorEq, false_and, false_or, Option.some.injEq, exists_eq_left']
      rw [answer_settle_eq_error_iff]
      cases ProcedureCall.ofRequest d (cache.answer r d) r a name with
      | error e' => simp [bind, Except.bind, Except.map]
      | ok call => simp [bind, Except.bind, pure, Except.pure, Except.map]

end Errors

end Build
end TableWrite
