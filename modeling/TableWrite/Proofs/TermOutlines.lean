import TableWrite.Proofs.DeleteTerms
import TableWrite.Proofs.UpdateTerms

set_option autoImplicit false

namespace TableWrite

/-- The column of a term, on the left for an assignment and on the right for a condition. -/
def UpdateTerm.outline : UpdateTerm → String ⊕ String
  | set a => .inl a.column
  | require c => .inr c.column

namespace UpdateStatement

variable {s : Prototypes} {r : Request} {changed : List String} {c : Column}

def roleOutline (r : Request) (changed : List String) (c : Column) : List (String ⊕ String) :=
  match r.table.roleIn .update changed c with
  | .bound => [.inl c.name]
  | .serverToken => [.inr c.name]
  | .versionToken => [.inl c.name, .inr c.name]
  | _ => []

def columnOutline (r : Request) (changed : List String) (c : Column) : List (String ⊕ String) :=
  roleOutline r changed c ++ if c.primaryKey then [.inr c.name] else []

theorem outline_of_unchanged {term : UpdateTerm} (made : unchanged s c = .ok term) :
    term.outline = .inr c.name := by
  obtain ⟨p, -, same⟩ := bind_eq_ok_iff.mp made
  cases same
  rfl

theorem outline_of_roleTerms {terms : List UpdateTerm}
    (made : roleTerms s r changed c = .ok terms) :
    terms.map UpdateTerm.outline = roleOutline r changed c := by
  unfold roleTerms at made
  unfold roleOutline
  cases role : r.table.roleIn .update changed c with
  | bound =>
      rw [role] at made
      obtain ⟨p, -, same⟩ := bind_eq_ok_iff.mp made
      cases same
      rfl
  | serverToken =>
      rw [role] at made
      obtain ⟨term, asked, same⟩ := bind_eq_ok_iff.mp made
      cases same
      rw [List.map_singleton, outline_of_unchanged asked]
  | versionToken =>
      rw [role] at made
      obtain ⟨term, asked, same⟩ := bind_eq_ok_iff.mp made
      cases same
      rw [List.map_cons, List.map_singleton, outline_of_unchanged asked]
      rfl
  | _ =>
      rw [role] at made
      cases made
      rfl

theorem outline_of_columnTerms {terms : List UpdateTerm}
    (made : columnTerms s r changed c = .ok terms) :
    terms.map UpdateTerm.outline = columnOutline r changed c := by
  obtain ⟨ofRole, asked, rest⟩ := bind_eq_ok_iff.mp made
  unfold columnOutline
  rw [← outline_of_roleTerms asked]
  cases key : c.primaryKey with
  | false =>
      rw [key] at rest
      cases rest
      exact (List.append_nil _).symm
  | true =>
      rw [key] at rest
      obtain ⟨term, required, same⟩ := bind_eq_ok_iff.mp rest
      cases same
      rw [List.map_append, List.map_singleton, outline_of_unchanged required]
      rfl

theorem outline_of_collect {terms : List UpdateTerm}
    (made : collect (columnTerms s r changed) r.table.columns = .ok terms) :
    terms.map UpdateTerm.outline = r.table.columns.flatMap (columnOutline r changed) :=
  seen_of_collect rfl (fun _ _ => List.map_append)
    (fun _ _ _ asked => outline_of_columnTerms asked) made

/-- The columns that some terms assign are those on the left of the outline. -/
theorem assignedColumns_eq_outline (terms : List UpdateTerm) :
    (terms.filterMap UpdateTerm.assignment?).map Assignment.column =
      (terms.map UpdateTerm.outline).filterMap Sum.getLeft? := by
  have columns : (fun t : UpdateTerm => t.assignment?.map Assignment.column) =
      Sum.getLeft? ∘ UpdateTerm.outline := by
    funext t
    cases t <;> rfl
  rw [List.map_filterMap, columns, List.filterMap_map]

/-- The columns that some terms require a value of. -/
def requiredColumns (terms : List UpdateTerm) : List String :=
  (terms.filterMap UpdateTerm.condition?).map Condition.column

theorem requiredColumns_eq_outline (terms : List UpdateTerm) :
    requiredColumns terms = (terms.map UpdateTerm.outline).filterMap Sum.getRight? := by
  have columns : (fun t : UpdateTerm => t.condition?.map Condition.column) =
      Sum.getRight? ∘ UpdateTerm.outline := by
    funext t
    cases t <;> rfl
  rw [requiredColumns, List.map_filterMap, columns, List.filterMap_map]

theorem requiredColumns_append (terms others : List UpdateTerm) :
    requiredColumns (terms ++ others) = requiredColumns terms ++ requiredColumns others := by
  simp only [requiredColumns, List.filterMap_append, List.map_append]

end UpdateStatement

namespace DeleteStatement

variable {s : Prototypes} {r : Request}

theorem columns_of_columnConditions {c : Column} {conditions : List Condition}
    (made : columnConditions s c = .ok conditions) :
    conditions.map Condition.column = if c.findsDeleted then [c.name] else [] := by
  unfold columnConditions at made
  unfold Column.findsDeleted
  split at made
  · rename_i finds
    obtain ⟨p, -, same⟩ := bind_eq_ok_iff.mp made
    cases same
    rw [if_pos finds]
    rfl
  · rename_i finds
    cases made
    rw [if_neg finds]
    rfl

theorem columns_of_collect {conditions : List Condition}
    (made : collect (columnConditions s) r.table.columns = .ok conditions) :
    conditions.map Condition.column =
      r.table.columns.flatMap fun c => if c.findsDeleted then [c.name] else [] :=
  seen_of_collect rfl (fun _ _ => List.map_append)
    (fun _ _ _ asked => columns_of_columnConditions asked) made

end DeleteStatement
end TableWrite
