import TableWrite.Build

set_option autoImplicit false

namespace TableWrite

namespace QueryParameter

variable (d : Dialect) (q : QueryParameter)

theorem name_byName : (q.byName d).name = (q.byValue d).name := by
  unfold byName
  cases q.direction <;> rfl

theorem value_byName : (q.byName d).value = (q.byValue d).value := by
  unfold byName
  cases q.direction <;> rfl

end QueryParameter

namespace Request

variable {d : Dialect} (r : Request)

theorem kept_bound : (r.bound d).queryKind = r.queryKind ∧ (r.bound d).timeout = r.timeout ∧
    (r.bound d).parameters = r.parameters := by
  unfold bound
  split
  · exact ⟨rfl, rfl, rfl⟩
  · exact ⟨rfl, rfl, rfl⟩

theorem queryCommand_eq_ok_iff (command : Command) :
    r.queryCommand d = .ok command ↔ ∃ text, (r.bound d).queryText = some text ∧
      command = ⟨text, r.queryKind.commandKind, r.boundParameters d, r.timeout⟩ := by
  unfold queryCommand
  cases (r.bound d).queryText with
  | none => simp
  | some text => simp [bindInto, Request.command, eq_comm]

/-- A text with tokens always gives a command. -/
theorem queryCommand_of_positional (positional : r.positional = true) :
    ∃ text, r.queryText = some text ∧
      r.queryCommand d = .ok ⟨.ofList (Template.substitute d.placeholder.toList
        r.parameters.length text.toList), r.queryKind.commandKind, r.boundParameters d,
        r.timeout⟩ := by
  have given : ∃ text, r.queryText = some text := by
    unfold Request.positional at positional
    split at positional
    · rename_i text _ found
      exact ⟨text, found⟩
    · cases positional
  obtain ⟨text, given⟩ := given
  refine ⟨text, given, (r.queryCommand_eq_ok_iff _).mpr ⟨_, ?_, rfl⟩⟩
  unfold bound
  rw [if_pos positional]
  unfold withPlaceholders
  rw [given]
  rfl

/-- What is alike for a place and for a name is alike for all parameters of the command. -/
theorem map_boundParameters {β : Type} (f : Parameter → β)
    (alike : ∀ q : QueryParameter, f (q.byName d) = f (q.byValue d)) :
    (r.boundParameters d).map f = r.parameters.map fun q => f (q.byValue d) := by
  unfold boundParameters
  rw [List.map_map]
  apply List.map_congr_left
  intro q _
  dsimp only [Function.comp_apply]
  split
  · rfl
  · exact alike q

theorem names_boundParameters :
    (r.boundParameters d).map Parameter.name = r.parameters.map fun q => d.parameterName q.name :=
  r.map_boundParameters Parameter.name (QueryParameter.name_byName d)

theorem values_boundParameters :
    (r.boundParameters d).map Parameter.value = r.parameters.map QueryParameter.value :=
  r.map_boundParameters Parameter.value (QueryParameter.value_byName d)

end Request

end TableWrite
