import TableWrite.Proofs.ReturnedValues

set_option autoImplicit false

namespace TableWrite

namespace Command

/-- The first parameter that has the name. -/
def FirstNamed (c : Command) (name : String) (p : Parameter) : Prop :=
  p.name = name ∧ ∃ others rest, c.parameters = others ++ p :: rest ∧ ∀ o ∈ others, o.name ≠ name

variable {c : Command} {name : String}

theorem parameter?_eq_some_iff {p : Parameter} :
    c.parameter? name = some p ↔ c.FirstNamed name p := by
  unfold parameter? FirstNamed
  rw [List.find?_eq_some_iff_append]
  simp

theorem parameter?_eq_none_iff :
    c.parameter? name = none ↔ ∀ p ∈ c.parameters, p.name ≠ name := by
  unfold parameter?
  rw [List.find?_eq_none]
  simp

end Command

namespace QueryParameter

/-- Should the parameter get a value that the command does not have? -/
structure Unanswered (d : Dialect) (c : Command) (q : QueryParameter) : Prop where
  awaits : q.direction ≠ .input
  unnamed : ∀ p ∈ c.parameters, p.name ≠ d.parameterName q.name

/-- The parameter after it was gathered: an input as it was, any other with the value of the
command's first parameter of its name. -/
inductive Answered (d : Dialect) (c : Command) (q : QueryParameter) : QueryParameter → Prop where
  | input : q.direction = .input → Answered d c q q
  | value (p : Parameter) : q.direction ≠ .input → c.FirstNamed (d.parameterName q.name) p →
      Answered d c q { q with value := p.value }

/-- The first of some parameters that is not answered, and what stands around it. -/
structure StopsAt (d : Dialect) (c : Command) (qs before : List QueryParameter)
    (q : QueryParameter) (after : List QueryParameter) : Prop where
  split : qs = before ++ q :: after
  earlier : ∀ b ∈ before, ¬ b.Unanswered d c
  unanswered : q.Unanswered d c

section

variable {d : Dialect} {c : Command}

theorem exists_answered {q : QueryParameter} (answers : ¬ q.Unanswered d c) :
    ∃ q', q.Answered d c q' := by
  by_cases given : q.direction = .input
  · exact ⟨q, .input given⟩
  · cases found : c.parameter? (d.parameterName q.name) with
    | some p => exact ⟨_, .value p given (Command.parameter?_eq_some_iff.mp found)⟩
    | none => exact absurd ⟨given, Command.parameter?_eq_none_iff.mp found⟩ answers

theorem exists_answered_list {qs : List QueryParameter}
    (answers : ∀ q ∈ qs, ¬ q.Unanswered d c) : ∃ qs', List.Forall₂ (Answered d c) qs qs' := by
  induction qs with
  | nil => exact ⟨[], .nil⟩
  | cons q rest ih =>
      obtain ⟨head, tail⟩ := List.forall_mem_cons.mp answers
      obtain ⟨q', answered⟩ := exists_answered head
      obtain ⟨rest', others⟩ := ih tail
      exact ⟨q' :: rest', .cons answered others⟩

/-- All parameters are answered, or there is a first one that is not. -/
theorem answered_or_stopsAt (d : Dialect) (c : Command) (qs : List QueryParameter) :
    (∀ q ∈ qs, ¬ q.Unanswered d c) ∨ ∃ before q after, StopsAt d c qs before q after := by
  induction qs with
  | nil => exact .inl (List.forall_mem_nil _)
  | cons q rest ih =>
      by_cases unanswered : q.Unanswered d c
      · exact .inr ⟨[], q, rest, rfl, List.forall_mem_nil _, unanswered⟩
      · rcases ih with all | ⟨before, first, after, stops⟩
        · exact .inl (List.forall_mem_cons.mpr ⟨unanswered, all⟩)
        · refine .inr ⟨q :: before, first, after, ?_, ?_, stops.unanswered⟩
          · rw [stops.split, List.cons_append]
          · exact List.forall_mem_cons.mpr ⟨unanswered, stops.earlier⟩

end

end QueryParameter

namespace Request

open QueryParameter

variable {d : Dialect} {c : Command}

theorem gatherFrom_of_unanswered {q : QueryParameter} (unanswered : q.Unanswered d c)
    (rest : List QueryParameter) :
    gatherFrom d c (q :: rest) = (q :: rest, some (d.parameterName q.name)) := by
  have awaits := (Direction.returns_iff q.direction).mpr unanswered.awaits
  have missing := Command.parameter?_eq_none_iff.mpr unanswered.unnamed
  simp only [gatherFrom, awaits, ↓reduceIte, missing]

theorem gatherFrom_of_answered {q q' : QueryParameter} (answered : q.Answered d c q')
    (rest : List QueryParameter) :
    gatherFrom d c (q :: rest) = (q' :: (gatherFrom d c rest).1, (gatherFrom d c rest).2) := by
  cases answered with
  | input given => simp only [gatherFrom, given, Direction.returns, Bool.false_eq_true, ↓reduceIte]
  | value p awaits first =>
      have returns := (Direction.returns_iff q.direction).mpr awaits
      have found := Command.parameter?_eq_some_iff.mpr first
      simp only [gatherFrom, returns, ↓reduceIte, found]

/-- What stands before is gathered first, and decides nothing of the rest. -/
theorem gatherFrom_append {before before' : List QueryParameter}
    (answered : List.Forall₂ (Answered d c) before before') (rest : List QueryParameter) :
    gatherFrom d c (before ++ rest) =
      (before' ++ (gatherFrom d c rest).1, (gatherFrom d c rest).2) := by
  induction answered with
  | nil => rfl
  | cons head _ ih => rw [List.cons_append, gatherFrom_of_answered head, ih, List.cons_append]

theorem gatherFrom_of_stopsAt {qs before after before' : List QueryParameter} {q : QueryParameter}
    (stops : StopsAt d c qs before q after)
    (answered : List.Forall₂ (Answered d c) before before') :
    gatherFrom d c qs = (before' ++ q :: after, some (d.parameterName q.name)) := by
  rw [stops.split, gatherFrom_append answered, gatherFrom_of_unanswered stops.unanswered]

theorem missing_of_answered {qs : List QueryParameter} (answers : ∀ q ∈ qs, ¬ q.Unanswered d c) :
    (gatherFrom d c qs).2 = none := by
  obtain ⟨qs', answered⟩ := exists_answered_list answers
  have all := gatherFrom_append answered []
  rw [List.append_nil] at all
  rw [all]
  rfl

theorem gather_ne_error_of_answered {r : Request}
    (answers : ∀ q ∈ r.parameters, ¬ q.Unanswered d c) (e : Error) :
    r.gather d c ≠ .error e := by
  have complete := missing_of_answered answers
  unfold gather
  split
  · nofun
  · cases gathered : gatherFrom d c r.parameters with
    | mk parameters missing =>
        rw [gathered] at complete
        cases complete
        nofun

theorem gather_of_stopsAt {r : Request} {before after before' : List QueryParameter}
    {q : QueryParameter} (carried : c.parameters ≠ [])
    (stops : StopsAt d c r.parameters before q after)
    (answered : List.Forall₂ (Answered d c) before before') :
    r.gather d c = .error (.unknownParameter (d.parameterName q.name)) ∧
      r.gathered d c = { r with parameters := before' ++ q :: after } := by
  have run := gatherFrom_of_stopsAt stops answered
  have filled : c.parameters.isEmpty = false := List.isEmpty_eq_false_iff.mpr carried
  have asked : r.parameters.isEmpty = false := by
    rw [stops.split]
    simp
  constructor
  · simp only [gather, filled, asked, Bool.or_self, Bool.false_eq_true, ↓reduceIte, run]
  · simp only [gathered, filled, Bool.false_eq_true, ↓reduceIte, run]

end Request

open QueryParameter in
/-- Values are gathered from a command that has parameters exactly if each parameter that is no
input finds one of its name. Otherwise the first that finds none is the error: those before it have
the values of the first parameters of their names, except that inputs are as they were, and so are
it, all after it and the rest of the request. -/
theorem gathering_stops_at_unanswered (d : Dialect) (c : Command) (r : Request)
    (carried : c.parameters ≠ []) :
    ((∃ e, r.gather d c = .error e) ↔ ∃ q ∈ r.parameters, q.Unanswered d c) ∧
      ∀ e, r.gather d c = .error e → ∃ before q after before',
        StopsAt d c r.parameters before q after ∧
          e = .unknownParameter (d.parameterName q.name) ∧
          List.Forall₂ (Answered d c) before before' ∧
          r.gathered d c = { r with parameters := before' ++ q :: after } := by
  rcases answered_or_stopsAt d c r.parameters with answers | ⟨before, q, after, stops⟩
  · have gathers := Request.gather_ne_error_of_answered answers
    refine ⟨⟨?_, ?_⟩, ?_⟩
    · rintro ⟨e, fails⟩
      exact absurd fails (gathers e)
    · rintro ⟨q, mem, unanswered⟩
      exact absurd unanswered (answers q mem)
    · intro e fails
      exact absurd fails (gathers e)
  · obtain ⟨before', answered⟩ := exists_answered_list stops.earlier
    obtain ⟨fails, left⟩ := Request.gather_of_stopsAt carried stops answered
    have mem : q ∈ r.parameters := by
      rw [stops.split]
      exact List.mem_append_right _ List.mem_cons_self
    refine ⟨⟨fun _ => ⟨q, mem, stops.unanswered⟩, fun _ => ⟨_, fails⟩⟩, ?_⟩
    intro e failed
    have same := Except.error.inj (failed.symm.trans fails)
    exact ⟨before, q, after, before', stops, same, answered, left⟩

def Request.discounted : Request :=
  { blank with
    parameters :=
      [.customer, .total, { QueryParameter.ofName "discount" with direction := .output }, .total] }

def Command.totals : Command where
  text := ""
  kind := .text
  parameters :=
    [{ Parameter.ofType "@total" .integer with value := .integer 10 },
      { Parameter.ofType "@total" .integer with value := .integer 11 }]
  timeout := none

theorem discount_unanswered :
    Command.totals.parameters ≠ [] ∧
      Request.discounted.gather .standard .totals = .error (.unknownParameter "@discount") ∧
      (∃ q ∈ Request.discounted.parameters, q.Unanswered .standard .totals) ∧
      (∃ before q after, QueryParameter.StopsAt .standard .totals Request.discounted.parameters
        before q after ∧ Dialect.standard.parameterName q.name = "@discount") ∧
      (Request.discounted.gathered .standard .totals).parameters.map QueryParameter.value =
        [.integer 42, .integer 10, .null, .null] := by
  have carried : Command.totals.parameters ≠ [] := nofun
  have fails : Request.discounted.gather .standard .totals =
      .error (.unknownParameter "@discount") := by decide +kernel
  obtain ⟨fails_iff, stops⟩ := gathering_stops_at_unanswered .standard .totals .discounted carried
  obtain ⟨before, q, after, -, first, named, -, -⟩ := stops _ fails
  have name : Dialect.standard.parameterName q.name = "@discount" :=
    (Error.unknownParameter.inj named).symm
  exact ⟨carried, fails, fails_iff.mp ⟨_, fails⟩, ⟨before, q, after, first, name⟩,
    by decide +kernel⟩

end TableWrite
