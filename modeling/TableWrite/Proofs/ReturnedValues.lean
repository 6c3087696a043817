import Mathlib.Data.List.Forall2
import TableWrite.Proofs.ParameterNames
import TableWrite.Proofs.QueryCommands

set_option autoImplicit false

namespace TableWrite

theorem Direction.returns_iff (d : Direction) : d.returns = true ↔ d ≠ .input := by
  cases d <;> decide

/-- The parameter after a value came back for it. Nothing comes back for an input. -/
def QueryParameter.receiving (q : QueryParameter) (v : Value) : QueryParameter :=
  if q.direction = .input then q else { q with value := v }

theorem QueryParameter.direction_receiving (q : QueryParameter) (v : Value) :
    (q.receiving v).direction = q.direction := by
  unfold receiving
  split <;> rfl

/-- Where names are distinct, each parameter of a command is found by the name of the one that it
passes. -/
theorem Command.parameter?_of_lined {d : Dialect} {c : Command} {qs : List QueryParameter}
    (distinct : (qs.map QueryParameter.name).Nodup)
    (names : c.parameters.map Parameter.name = qs.map fun q => d.parameterName q.name) :
    List.Forall₂ (fun q p => c.parameter? (d.parameterName q.name) = some p) qs c.parameters := by
  have marked : (c.parameters.map Parameter.name).Nodup := by
    have apart : ((qs.map QueryParameter.name).map d.parameterName).Nodup :=
      distinct.map fun _ _ same => Dialect.parameterName_inj.mp same
    rw [List.map_map] at apart
    rw [names]
    exact apart
  have lined : List.Forall₂ (fun p q => p.name = d.parameterName q.name) c.parameters qs := by
    rw [← List.forall₂_eq_eq_eq, List.forall₂_map_left_iff, List.forall₂_map_right_iff] at names
    exact names
  have listed := (List.forall₂_and_left _ _).mpr ⟨fun p mem => mem, lined⟩
  apply List.Forall₂.flip
  apply listed.imp
  rintro p q ⟨mem, named⟩
  have found := find?_of_nodup_map marked mem
  rw [named] at found
  exact found

namespace Request

theorem gatherFrom_of_found {d : Dialect} {c : Command} {qs : List QueryParameter}
    {ps : List Parameter}
    (found : List.Forall₂ (fun q p => c.parameter? (d.parameterName q.name) = some p) qs ps) :
    gatherFrom d c qs = ((qs.zip ps).map fun x => x.1.receiving x.2.value, none) := by
  induction found with
  | nil => rfl
  | @cons q p qs ps head _ ih =>
      rw [List.zip_cons_cons, List.map_cons]
      by_cases given : q.direction = .input
      · simp only [gatherFrom, given, ih, QueryParameter.receiving]
        rfl
      · have answers : q.direction.returns = true := (Direction.returns_iff _).mpr given
        simp only [gatherFrom, answers, head, ih, QueryParameter.receiving, given]
        rfl

/-- What is gathered of some parameters is those that values come back for. -/
theorem filter_receiving (pairs : List (QueryParameter × Parameter)) :
    (pairs.map fun x => x.1.receiving x.2.value).filter (fun q => q.direction.returns) =
      (pairs.filter fun x => x.1.direction ≠ .input).map fun x =>
        { x.1 with value := x.2.value } := by
  have selects : ((fun q : QueryParameter => q.direction.returns) ∘
      fun x : QueryParameter × Parameter => x.1.receiving x.2.value) =
        fun x => decide (x.1.direction ≠ .input) := by
    funext x
    have same := QueryParameter.direction_receiving x.1 x.2.value
    have returns := Direction.returns_iff x.1.direction
    rw [Function.comp_apply, same, Bool.eq_iff_iff, returns, decide_eq_true_eq]
  rw [List.filter_map, selects]
  apply List.map_congr_left
  intro x mem
  have given : x.1.direction ≠ .input := of_decide_eq_true (List.mem_filter.mp mem).2
  exact if_neg given

end Request

/-- How the values of a command reach the parameters of a request: place by place, into all of them
but the inputs, and into nothing else. -/
structure GathersByPlace (d : Dialect) (r : Request) (returned : Command) : Prop where
  placed : returned.parameters.length = r.parameters.length
  nothing : r.gather d returned = .ok none ↔ r.parameters = []
  gathered : r.parameters ≠ [] → r.gather d returned =
    .ok (some (((r.parameters.zip returned.parameters).filter fun x => x.1.direction ≠ .input).map
      fun x => { x.1 with value := x.2.value }))
  left : r.gathered d returned =
    { r with parameters := (r.parameters.zip returned.parameters).map fun x =>
      if x.1.direction = .input then x.1 else { x.1 with value := x.2.value } }

theorem Request.gathersByPlace_of_names {d : Dialect} {r : Request} {returned : Command}
    (distinct : (r.parameters.map QueryParameter.name).Nodup)
    (names : returned.parameters.map Parameter.name =
      r.parameters.map fun q => d.parameterName q.name) : GathersByPlace d r returned := by
  have placed : returned.parameters.length = r.parameters.length := by
    simpa only [List.length_map] using congrArg List.length names
  have empty : returned.parameters.isEmpty = r.parameters.isEmpty := by
    rw [Bool.eq_iff_iff, List.isEmpty_iff_length_eq_zero, List.isEmpty_iff_length_eq_zero, placed]
  have all := gatherFrom_of_found (Command.parameter?_of_lined distinct names)
  have gathered (some_given : r.parameters ≠ []) : r.gather d returned =
      .ok (some (((r.parameters.zip returned.parameters).filter
        fun x => x.1.direction ≠ .input).map fun x => { x.1 with value := x.2.value })) := by
    have carried : r.parameters.isEmpty = false := by
      rw [Bool.eq_false_iff, ne_eq, List.isEmpty_iff]
      exact some_given
    simp only [gather, empty, carried, Bool.or_self, Bool.false_eq_true, ↓reduceIte, all,
      filter_receiving]
  refine ⟨placed, ?_, gathered, ?_⟩
  · constructor
    · intro nothing
      by_contra some_given
      rw [gathered some_given] at nothing
      cases nothing
    · intro none_given
      simp only [gather, none_given, List.isEmpty_nil, Bool.or_true, ↓reduceIte]
  · unfold Request.gathered
    by_cases none_given : r.parameters = []
    · have uncarried : returned.parameters.isEmpty = true := by
        rw [empty, none_given]
        rfl
      have untouched : ((r.parameters.zip returned.parameters).map fun x =>
          if x.1.direction = .input then x.1 else { x.1 with value := x.2.value }) =
            r.parameters := by
        rw [none_given]
        rfl
      rw [if_pos uncarried, untouched]
    · have carried : ¬ returned.parameters.isEmpty = true := by
        rw [empty, List.isEmpty_iff]
        exact none_given
      rw [if_neg carried, all]
      rfl

/-- Whatever values a command of a text comes back with, the parameters of the request that are no
inputs take the values at their places, and are gathered with them. -/
theorem query_gathers_by_place (d : Dialect) (cache : PrototypeCache) (r : Request)
    (changed : List String) (command returned : Command)
    (distinct : (r.parameters.map QueryParameter.name).Nodup)
    (built : (Build.run d cache r changed .query).answer = .ok command)
    (names : returned.parameters.map Parameter.name = command.parameters.map Parameter.name) :
    (Build.run d cache r changed .query).request.parameters = r.parameters ∧
      GathersByPlace d (Build.run d cache r changed .query).request returned := by
  obtain ⟨text, -, rfl⟩ := (r.queryCommand_eq_ok_iff command).mp built
  have kept : (r.bound d).parameters = r.parameters := (r.kept_bound (d := d)).2.2
  refine ⟨kept, Request.gathersByPlace_of_names ?_ ?_⟩
  · change ((r.bound d).parameters.map _).Nodup
    rw [kept]
    exact distinct
  · change _ = (r.bound d).parameters.map _
    rw [kept, names]
    exact r.names_boundParameters

def QueryParameter.total : QueryParameter := { ofName "total" with direction := .output }

def QueryParameter.customer : QueryParameter := { ofName "customer" with value := .integer 42 }

def Request.customerTotal : Request :=
  { blank with
    queryText := some "CALL total({0}, {1})"
    parameters := [.customer, .total] }

/-- The command of that text as it comes back. A value was written over the input too. -/
def Command.customerTotal : Command where
  text := "CALL total(?, ?)"
  kind := .text
  parameters :=
    [{ QueryParameter.byValue .standard .customer with value := .integer 7 },
      { QueryParameter.byValue .standard .total with value := .integer 10 }]
  timeout := none

theorem customer_total_gathered :
    (Request.customerTotal.parameters.map QueryParameter.name).Nodup ∧
      (∃ command, (Build.run .standard .empty .customerTotal [] .query).answer = .ok command ∧
        Command.customerTotal.parameters.map Parameter.name =
          command.parameters.map Parameter.name) ∧
      GathersByPlace .standard (Build.run .standard .empty .customerTotal [] .query).request
        .customerTotal ∧
      (Build.run .standard .empty .customerTotal [] .query).request.gather .standard
        .customerTotal = .ok (some [{ QueryParameter.total with value := .integer 10 }]) := by
  have distinct : (Request.customerTotal.parameters.map QueryParameter.name).Nodup := by
    decide +kernel
  have built : (Build.run .standard .empty .customerTotal [] .query).answer =
      .ok ⟨"CALL total(?, ?)", .text,
        [QueryParameter.byValue .standard .customer, QueryParameter.byValue .standard .total],
        none⟩ := by
    decide +kernel
  have gathers := (query_gathers_by_place .standard .empty .customerTotal [] _
    .customerTotal distinct built (by decide +kernel)).2
  have gathered := gathers.gathered (by decide +kernel)
  exact ⟨distinct, ⟨_, built, by decide +kernel⟩, gathers, gathered.trans (by decide +kernel)⟩

end TableWrite
