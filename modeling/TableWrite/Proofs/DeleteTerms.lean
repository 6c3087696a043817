import Mathlib.Data.List.Forall2
import TableWrite.Proofs.BuiltStatements
import TableWrite.Proofs.FreshPrototypes

set_option autoImplicit false

namespace TableWrite

/-- One contribution of each selected element, and none of the others. -/
theorem flatMap_selected {α β : Type} {f : α → List β} {selected : α → Bool} {g : α → β}
    {xs : List α} (each : ∀ a ∈ xs, f a = if selected a then [g a] else []) :
    xs.flatMap f = (xs.filter selected).map g := by
  induction xs with
  | nil => rfl
  | cons a rest ih =>
      have others := ih fun b mem => each b (List.mem_cons_of_mem _ mem)
      rw [List.flatMap_cons, each a List.mem_cons_self, others, List.filter_cons]
      cases selected a <;> rfl

theorem collect_selected {ε α β : Type} {f : α → Except ε (List β)} {selected : α → Bool}
    {g : α → β} {xs : List α}
    (each : ∀ a ∈ xs, f a = .ok (if selected a then [g a] else [])) :
    collect f xs = .ok ((xs.filter selected).map g) := by
  rw [collect_ok each]
  exact congrArg Except.ok (flatMap_selected fun _ _ => rfl)

namespace Column

/-- Does a delete look for its row by this column? -/
def findsDeleted (c : Column) : Bool := c.primaryKey || c.versionToken

def passedToDelete (c : Column) : Bool := c.primaryKey || c.serverToken || c.versionToken

/-- The image that a call which deletes a row reads a column in. -/
def deleteImage (c : Column) : RowImage := if c.primaryKey then .current else .loaded

end Column

namespace DeleteStatement

variable (d : Dialect) (table : String) (r : Request)

theorem columnConditions_ofColumns (c : Column) (mem : c ∈ r.table.columns) :
    columnConditions (.ofColumns table r.table.columns d) c =
      .ok (if c.findsDeleted then [⟨c.name, r.table.prototype d c⟩] else []) := by
  unfold columnConditions Column.findsDeleted
  rw [Prototypes.parameter_ofColumns table d mem]
  cases c.primaryKey || c.versionToken <;> rfl

/-- The statement for a request, as it is built with an empty cache. -/
def ofFresh (d : Dialect) (r : Request) : DeleteStatement where
  table := r.tableText d
  conditions := (r.table.columns.filter Column.findsDeleted).map fun c =>
    ⟨c.name, r.table.prototype d c⟩

theorem ofRequest_ofColumns :
    ofRequest d (.ofColumns table r.table.columns d) r =
      if r.table.columns.filter Column.findsDeleted = [] then
        .error (.emptyClause (r.tableText d) .conditions)
      else .ok (ofFresh d r) := by
  have collected := collect_selected (columnConditions_ofColumns d table r)
  have emptied : (ofFresh d r).conditions.isEmpty = true ↔
      r.table.columns.filter Column.findsDeleted = [] := by
    rw [List.isEmpty_iff]
    exact List.map_eq_nil_iff
  unfold ofRequest
  rw [collected]
  change ofConditions (r.tableText d) (ofFresh d r).conditions = _
  unfold ofConditions
  simp only [emptied]
  rfl

theorem ofRequest_ofColumns_eq_ok_iff {statement : DeleteStatement} :
    ofRequest d (.ofColumns table r.table.columns d) r = .ok statement ↔
      r.table.columns.filter Column.findsDeleted ≠ [] ∧ statement = ofFresh d r := by
  rw [ofRequest_ofColumns]
  split
  · rename_i unfound
    simp [unfound]
  · rename_i found
    simp [found, eq_comm]

theorem text_ofFresh :
    (ofFresh d r).text d = "DELETE FROM " ++ r.tableText d ++ " WHERE " ++
      " AND ".intercalate ((r.table.columns.filter Column.findsDeleted).map fun c =>
        d.column.wrap c.name ++ " = " ++ Parameter.nameOf d c.name) := by
  have keyword : (" " : String) ++ "WHERE " = " WHERE " := by decide
  have terms : (ofFresh d r).conditions.map (Condition.text d) =
      (r.table.columns.filter Column.findsDeleted).map fun c =>
        d.column.wrap c.name ++ " = " ++ Parameter.nameOf d c.name := by
    unfold ofFresh
    rw [List.map_map]
    apply List.map_congr_left
    intro c _
    change d.column.wrap c.name ++ " = " ++ (r.table.prototype d c).name = _
    rw [TableColumns.name_prototype]
  unfold text Condition.clauseText
  rw [terms, ← keyword]
  simp only [String.append_assoc]
  rfl

theorem parameters_ofFresh :
    List.Forall₂ (fun c p => p.Reads d c.name .current)
      (r.table.columns.filter Column.findsDeleted) (ofFresh d r).parameters := by
  unfold parameters ofFresh
  rw [List.map_map, List.forall₂_map_right_iff, List.forall₂_same]
  exact fun c _ => r.table.prototype_reads d c

end DeleteStatement

namespace ProcedureCall

variable (d : Dialect) (table : String) (r : Request)

theorem keyParameters_ofColumns (c : Column) (mem : c ∈ r.table.columns) :
    keyParameters (.ofColumns table r.table.columns d) c =
      .ok (if c.passedToDelete then [(r.table.prototype d c).reading c.deleteImage] else []) := by
  unfold keyParameters Column.passedToDelete Column.deleteImage
  rw [Prototypes.parameter_ofColumns table d mem]
  cases c.primaryKey with
  | true => rfl
  | false => cases c.serverToken <;> cases c.versionToken <;> rfl

theorem parametersOf_delete :
    parametersOf (.ofColumns table r.table.columns d) r.table.columns .delete =
      .ok ((r.table.columns.filter Column.passedToDelete).map fun c =>
        (r.table.prototype d c).reading c.deleteImage) :=
  collect_selected (keyParameters_ofColumns d table r)

/-- A call that deletes can always be made, and its parameters are those of keys and tokens. -/
theorem parameters_of_delete {name : String} {call : ProcedureCall}
    (made : ofRequest d (.ofColumns table r.table.columns d) r .delete name = .ok call) :
    List.Forall₂ (fun c p => p.Reads d c.name c.deleteImage)
      (r.table.columns.filter Column.passedToDelete) call.parameters := by
  unfold ofRequest at made
  rw [parametersOf_delete] at made
  cases made
  rw [List.forall₂_map_right_iff, List.forall₂_same]
  exact fun c _ => ⟨r.table.name_prototype d c, r.table.source_prototype d c, rfl, rfl⟩

end ProcedureCall

end TableWrite
