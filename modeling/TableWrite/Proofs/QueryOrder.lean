import Mathlib.Data.List.Basic
import TableWrite.Proofs.QueryCommands
import TableWrite.Proofs.TemplateRewriting

set_option autoImplicit false

namespace TableWrite

theorem filterMap_getElem?_range {α : Type} (l : List α) :
    (List.range l.length).filterMap (l[·]?) = l := by
  induction l with
  | nil => rfl
  | cons a rest ih =>
      rw [List.length_cons, List.range_succ_eq_map, List.filterMap_cons, List.filterMap_map]
      exact congrArg (a :: ·) ih

/-- A value for each place of a list, which no other place has. -/
def Value.ofPlace (index : Nat) : Value := .bytes (List.replicate index 0)

theorem Value.ofPlace_injective : Function.Injective ofPlace := by
  intro first second same
  have bytes := Value.bytes.inj same
  simpa using congrArg List.length bytes

namespace Template

theorem index?_lt {count index : Nat} {digits : List Char}
    (numbered : index? count digits = some index) : index < count := by
  unfold index? at numbered
  split at numbered
  · rename_i below
    cases numbered
    simp only [Bool.and_eq_true, decide_eq_true_eq] at below
    exact below.2
  · cases numbered

/-- The piece with the placeholder for a token, whatever its number. -/
def emptied (placeholder : List Char) : Piece → List Char
  | .char c => [c]
  | .token _ => placeholder

theorem substitute_of_index {placeholder : List Char} {count : Nat} {s : List Char}
    (numbered : ∀ digits ∈ tokens s, (index? count digits).isSome) :
    substitute placeholder count s = (scan s).flatMap (emptied placeholder) := by
  have each : ∀ p ∈ scan s, substitutePiece placeholder count p = emptied placeholder p := by
    intro p mem
    cases p with
    | char c => rfl
    | token digits =>
        rw [substitutePiece_token, if_pos (numbered digits (List.mem_filterMap.mpr ⟨_, mem, rfl⟩))]
        rfl
  unfold substitute List.flatMap
  rw [List.map_congr_left each]

end Template

namespace Request

variable (d : Dialect) (r : Request)

/-- The digits of the tokens in the text, in reading order. -/
def tokens : List (List Char) := Template.tokens (r.queryText.getD "").toList

def TokensNamed : Prop :=
  ∀ digits ∈ r.tokens, (Template.index? r.parameters.length digits).isSome

instance : Decidable r.TokensNamed :=
  inferInstanceAs (Decidable (∀ digits ∈ r.tokens, _))

/-- The places of the parameters that the tokens name, in reading order. -/
def tokenNumbers : List Nat := r.tokens.filterMap (Template.index? r.parameters.length)

/-- The values of the parameters that the tokens name, in reading order. -/
def namedValues : List Value :=
  r.tokenNumbers.filterMap fun index => r.parameters[index]?.map QueryParameter.value

/-- Does the command pass the values that the tokens name, in reading order? -/
def PassesNamed : Prop :=
  ∃ command, r.queryCommand d = .ok command ∧
    command.parameters.map Parameter.value = r.namedValues

def withValues (values : List Value) : Request :=
  { r with parameters := (r.parameters.zip values).map fun p => { p.1 with value := p.2 } }

/-- What a text passes is what its request lists, in the same order. -/
theorem passesNamed_iff (positional : r.positional = true) :
    r.PassesNamed d ↔ r.namedValues = r.parameters.map QueryParameter.value := by
  obtain ⟨text, -, made⟩ := r.queryCommand_of_positional (d := d) positional
  unfold PassesNamed
  rw [made]
  constructor
  · rintro ⟨command, same, passed⟩
    cases same
    rw [← passed]
    exact r.values_boundParameters
  · intro named
    refine ⟨_, rfl, ?_⟩
    rw [named]
    exact r.values_boundParameters

section Values

variable {r} {values : List Value} (full : values.length = r.parameters.length)

include full

theorem values_withValues :
    (r.withValues values).parameters.map QueryParameter.value = values := by
  unfold withValues
  rw [List.map_map]
  exact List.map_snd_zip (Nat.le_of_eq full)

theorem length_withValues : (r.withValues values).parameters.length = r.parameters.length := by
  have mapped := congrArg List.length (values_withValues full)
  rw [List.length_map] at mapped
  rw [mapped, full]

theorem tokenNumbers_withValues : (r.withValues values).tokenNumbers = r.tokenNumbers := by
  unfold tokenNumbers
  rw [length_withValues full]
  rfl

theorem namedValues_withValues :
    (r.withValues values).namedValues = r.tokenNumbers.filterMap (values[·]?) := by
  have looked : (fun index : Nat =>
      (r.withValues values).parameters[index]?.map QueryParameter.value) = (values[·]?) := by
    funext index
    rw [← List.getElem?_map, values_withValues full]
  unfold namedValues
  rw [tokenNumbers_withValues full, looked]

end Values

theorem tokenNumbers_lt {index : Nat} (mem : index ∈ r.tokenNumbers) :
    index < r.parameters.length := by
  obtain ⟨digits, -, numbered⟩ := List.mem_filterMap.mp mem
  exact Template.index?_lt numbered

/-- Every value is passed where it is named exactly if the tokens count up from zero. -/
theorem passesNamed_withValues_iff (positional : r.positional = true) :
    (∀ values : List Value, values.length = r.parameters.length →
      (r.withValues values).PassesNamed d) ↔
        r.tokenNumbers = List.range r.parameters.length := by
  have passes (values : List Value) (full : values.length = r.parameters.length) :
      (r.withValues values).PassesNamed d ↔ r.tokenNumbers.filterMap (values[·]?) = values := by
    rw [passesNamed_iff d (r.withValues values) positional, values_withValues full,
      namedValues_withValues full]
  constructor
  · intro all
    have full : ((List.range r.parameters.length).map Value.ofPlace).length =
        r.parameters.length := by
      rw [List.length_map, List.length_range]
    have named := (passes _ full).mp (all _ full)
    -- As every place has a value of its own, the values show the places that the tokens name.
    have looked : r.tokenNumbers.filterMap
        (((List.range r.parameters.length).map Value.ofPlace)[·]?) =
        r.tokenNumbers.filterMap (some ∘ Value.ofPlace) := by
      apply List.filterMap_congr
      intro index mem
      rw [List.getElem?_map, List.getElem?_range (r.tokenNumbers_lt mem)]
      rfl
    rw [looked, List.filterMap_eq_map] at named
    exact List.map_injective_iff.mpr Value.ofPlace_injective named
  · intro counted values full
    rw [passes values full, counted, ← full]
    exact filterMap_getElem?_range values

end Request

/-- How the command of a text with tokens goes with its request: every token gives way to the
placeholder, and the parameters are passed in the order in which the request lists them. -/
structure PassedInOrder (d : Dialect) (r : Request) (command : Command) : Prop where
  numbered : r.tokens.map (Template.index? r.parameters.length) = r.tokenNumbers.map some
  text : command.text = .ofList ((Template.scan (r.queryText.getD "").toList).flatMap
    (Template.emptied d.placeholder.toList))
  values : command.parameters.map Parameter.value = r.parameters.map QueryParameter.value

/-- A text with tokens passes the values of the request's parameters in their order. For these
values it passes what the tokens name if that is the same list; for all values, if the tokens count
up from zero. -/
theorem query_passes_in_list_order (d : Dialect) (cache : PrototypeCache) (r : Request)
    (changed : List String) (positional : r.positional = true) (named : r.TokensNamed) :
    (∃ command, (Build.run d cache r changed .query).answer = .ok command ∧
      PassedInOrder d r command) ∧
    (r.PassesNamed d ↔ r.namedValues = r.parameters.map QueryParameter.value) ∧
    ((∀ values : List Value, values.length = r.parameters.length →
      (r.withValues values).PassesNamed d) ↔
        r.tokenNumbers = List.range r.parameters.length) := by
  obtain ⟨text, given, made⟩ := r.queryCommand_of_positional (d := d) positional
  refine ⟨⟨_, made, ?_, ?_, r.values_boundParameters⟩, r.passesNamed_iff d positional,
    r.passesNamed_withValues_iff d positional⟩
  · unfold Request.tokenNumbers
    rw [List.map_filterMap_some_eq_filter_map_isSome, List.filter_eq_self.mpr]
    intro number mem
    obtain ⟨digits, written, rfl⟩ := List.mem_map.mp mem
    exact named digits written
  · have counted : ∀ digits ∈ Template.tokens text.toList,
        (Template.index? r.parameters.length digits).isSome := by
      intro digits mem
      apply named
      unfold Request.tokens
      rw [given]
      exact mem
    rw [given]
    exact congrArg String.ofList (Template.substitute_of_index counted)

def Request.ordersWhere (text : String) : Request :=
  { blank with
    queryText := some text
    parameters :=
      [{ QueryParameter.ofName "customer" with value := .integer 42 },
        { QueryParameter.ofName "total" with value := .integer 10 }] }

theorem counted_tokens_pass_named :
    (Request.ordersWhere "Customer = {0} AND Total > {1}").positional = true ∧
      (Request.ordersWhere "Customer = {0} AND Total > {1}").TokensNamed ∧
      ∀ values : List Value, values.length = 2 →
        ((Request.ordersWhere "Customer = {0} AND Total > {1}").withValues values).PassesNamed
          .standard := by
  have positional : (Request.ordersWhere "Customer = {0} AND Total > {1}").positional = true := by
    decide +kernel
  have named : (Request.ordersWhere "Customer = {0} AND Total > {1}").TokensNamed := by
    decide +kernel
  have counted : (Request.ordersWhere "Customer = {0} AND Total > {1}").tokenNumbers =
      List.range 2 := by
    decide +kernel
  exact ⟨positional, named,
    (query_passes_in_list_order .standard .empty _ [] positional named).2.2.mpr counted⟩

def Request.swapped : Request := ordersWhere "Total > {1} AND Customer = {0}"

def Request.repeated : Request := ordersWhere "Customer = {0} AND Total > {1} OR Customer = {0}"

/-- Where tokens stand in another order, or one of them stands twice, the values that are passed
are not those that the tokens name. -/
theorem tokens_out_of_order_pass_others :
    (Request.swapped.positional = true ∧ Request.swapped.TokensNamed ∧
      ¬ Request.swapped.PassesNamed .standard) ∧
    Request.repeated.positional = true ∧ Request.repeated.TokensNamed ∧
      ¬ Request.repeated.PassesNamed .standard := by
  have swaps : Request.swapped.positional = true := by decide +kernel
  have repeats : Request.repeated.positional = true := by decide +kernel
  refine ⟨⟨swaps, ?_, ?_⟩, repeats, ?_, ?_⟩
  · decide +kernel
  · rw [Request.passesNamed_iff _ _ swaps]
    decide +kernel
  · decide +kernel
  · rw [Request.passesNamed_iff _ _ repeats]
    decide +kernel

end TableWrite
