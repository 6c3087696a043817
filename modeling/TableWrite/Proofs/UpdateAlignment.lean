import Mathlib.Data.List.Basic
import TableWrite.Proofs.MarkedText
import TableWrite.Proofs.UpdateTerms

set_option autoImplicit false

namespace TableWrite

theorem TableColumns.loadedCondition_reads (d : Dialect) (t : TableColumns) (c : Column) :
    (t.loadedCondition d c).parameter.Reads d c.name .loaded :=
  ⟨name_prototype d t c, source_prototype d t c, rfl, rfl⟩

def Assignment.marked (d : Dialect) : Assignment → MarkedText
  | bound column p => [.words (d.column.wrap column ++ " = "), .place p]
  | nextVersion column => [.words (d.column.wrap column ++ " = " ++ d.column.wrap column ++ " + 1")]
  | computed column _ text => [.words (d.column.wrap column ++ " = " ++ text)]

theorem Assignment.text_marked (d : Dialect) (a : Assignment) : (a.marked d).text = a.text d := by
  cases a <;> simp [marked, text, column, Stretch.text]

theorem Assignment.places_marked (d : Dialect) (a : Assignment) :
    (a.marked d).places = a.parameter?.toList := by
  cases a <;> rfl

def Condition.marked (d : Dialect) (c : Condition) : MarkedText :=
  [.words (d.column.wrap c.column ++ " = "), .place c.parameter]

theorem Condition.text_marked (d : Dialect) (c : Condition) : (c.marked d).text = c.text d := by
  simp [marked, text, Stretch.text]

namespace UpdateStatement

def marked (d : Dialect) (s : UpdateStatement) : MarkedText :=
  .words ("UPDATE " ++ s.table ++ " SET ") ::
    (MarkedText.separated ", " (s.assignments.map (Assignment.marked d)) ++
      .words " WHERE " ::
        (MarkedText.separated " AND " (s.conditions.map (Condition.marked d)) ++ [.words ";"]))

theorem text_eq (d : Dialect) (s : UpdateStatement) :
    s.text d = "UPDATE " ++ s.table ++ " SET " ++
      ", ".intercalate (s.assignments.map (Assignment.text d)) ++ " WHERE " ++
        " AND ".intercalate (s.conditions.map (Condition.text d)) ++ ";" := by
  have keyword : (" " : String) ++ "WHERE " = " WHERE " := by decide
  unfold text Condition.clauseText
  rw [← keyword]
  simp only [String.append_assoc]

theorem text_marked (d : Dialect) (s : UpdateStatement) : (s.marked d).text = s.text d := by
  have assigned : (s.assignments.map (Assignment.marked d)).map MarkedText.text =
      s.assignments.map (Assignment.text d) := by
    rw [List.map_map]
    exact List.map_congr_left fun a _ => a.text_marked d
  have conditioned : (s.conditions.map (Condition.marked d)).map MarkedText.text =
      s.conditions.map (Condition.text d) := by
    rw [List.map_map]
    exact List.map_congr_left fun c _ => c.text_marked d
  rw [text_eq]
  simp only [marked, MarkedText.text_cons, MarkedText.text_append, MarkedText.text_separated,
    assigned, conditioned, Stretch.text, MarkedText.text_nil, String.append_empty,
    String.append_assoc]

theorem places_marked (d : Dialect) (s : UpdateStatement) :
    (s.marked d).places = s.parameters := by
  have assigned : (s.assignments.map (Assignment.marked d)).flatMap MarkedText.places =
      s.assignments.filterMap Assignment.parameter? := by
    rw [List.flatMap_map, List.filterMap_eq_flatMap_toList]
    exact List.flatMap_congr fun a _ => a.places_marked d
  have conditioned : (s.conditions.map (Condition.marked d)).flatMap MarkedText.places =
      s.conditions.map Condition.parameter := by
    rw [List.flatMap_map, List.map_eq_flatMap]
    rfl
  simp only [marked, MarkedText.places_words, MarkedText.places_append,
    MarkedText.places_separated, assigned, conditioned, MarkedText.places_nil, List.append_nil]
  rfl

theorem reads_of_mem_assignments {d : Dialect} {r : Request} {changed : List String}
    {a : Assignment} {p : Parameter} (mem : a ∈ (ofFresh d r changed).assignments)
    (given : a.parameter? = some p) : p.Reads d a.column .current := by
  obtain ⟨c, -, -, rfl, rfl⟩ := bound_of_mem_assignments mem given
  exact r.table.prototype_reads d c

theorem reads_of_mem_conditions {d : Dialect} {r : Request} {changed : List String}
    {condition : Condition} (mem : condition ∈ (ofFresh d r changed).conditions) :
    condition.parameter.Reads d condition.column .loaded := by
  obtain ⟨c, -, -, rfl⟩ := mem_conditions_iff.mp mem
  exact r.table.loadedCondition_reads d c

end UpdateStatement

/-- How a command agrees with the statement of an update: its text is that of the terms, its
parameters are those of the terms as they are read, and every one reads the column of its term. -/
structure AlignedUpdate (d : Dialect) (r : Request) (changed : List String)
    (statement : UpdateStatement) (command : Command) : Prop where
  assigns : statement.assignments ≠ []
  finds : statement.conditions ≠ []
  text : command.text = "UPDATE " ++ r.tableText d ++ " SET " ++
    ", ".intercalate (statement.assignments.map (Assignment.text d)) ++ " WHERE " ++
      " AND ".intercalate (statement.conditions.map (Condition.text d)) ++ ";"
  assignments : statement.assignments =
    r.table.columns.filterMap (r.table.updateAssignment? d changed) ++
      ([AuditSlot.dateModified, .modifiedBy].filterMap r.table.serverSlot?).map fun s =>
        .computed s.2 s.1 (r.provider.expression s.1)
  expressed : r.provider.Expresses
    ([AuditSlot.dateModified, .modifiedBy].filterMap r.table.serverSlot?)
  parameters : command.parameters = statement.assignments.filterMap Assignment.parameter? ++
    statement.conditions.map Condition.parameter
  assigned : ∀ a ∈ statement.assignments, ∀ p, a.parameter? = some p →
    p.Reads d a.column .current
  conditioned : ∀ c ∈ statement.conditions, c.parameter.Reads d c.column .loaded
  markedText : (statement.marked d).text = command.text
  markedPlaces : (statement.marked d).places = command.parameters

theorem update_parameters_in_reading_order (d : Dialect) (r : Request) (changed : List String)
    (command : Command)
    (built : (Build.run d .empty r changed (.statement .update)).answer = .ok command) :
    ∃ statement, AlignedUpdate d r changed statement command := by
  obtain ⟨statement, made, rfl⟩ :=
    (Build.answer_update_eq_ok_iff d .empty r changed command).mp built
  rw [PrototypeCache.answer_empty, UpdateStatement.ofRequest_ofColumns_eq_ok_iff] at made
  obtain ⟨expressed, assigns, finds, rfl⟩ := made
  rw [r.table.slotsOf_update] at expressed
  refine ⟨UpdateStatement.ofFresh d r changed, assigns, finds, UpdateStatement.text_eq d _, ?_,
    expressed, rfl, ?_, ?_, UpdateStatement.text_marked d _, UpdateStatement.places_marked d _⟩
  · rw [← r.table.slotsOf_update]
    rfl
  · intro a mem p given
    exact UpdateStatement.reads_of_mem_assignments mem given
  · intro c mem
    exact UpdateStatement.reads_of_mem_conditions mem

def Column.ofName (name : String) : Column := { blank with name := name }

/-- A request on a table whose update has an assignment of every kind. -/
def Request.orders : Request :=
  { blank with
    provider := { Provider.blank with
      destination := "Orders"
      properties := [("DateModified.ServerSideText", "now()")] }
    table :=
      { TableColumns.empty with
        columns :=
          [{ Column.ofName "Id" with primaryKey := true, autoIncrement := true },
            .ofName "Unit Price", { Column.ofName "Version" with versionToken := true },
            .ofName "Changed"]
        dateModified := some ⟨"Changed", true⟩ } }

def Command.ordersUpdate : Command where
  text := "UPDATE [Orders] SET [Unit Price] = @UnitPrice, [Version] = [Version] + 1, " ++
    "[Changed] = now() WHERE [Id] = @Id AND [Version] = @Version;"
  kind := .text
  parameters :=
    [.ofColumn .standard (.ofName "Unit Price"),
      (Parameter.ofColumn .standard (.ofName "Id")).reading .loaded,
      (Parameter.ofColumn .standard (.ofName "Version")).reading .loaded]
  timeout := none

theorem orders_update_aligned :
    (Build.run .standard .empty .orders ["Changed", "Unit Price"] (.statement .update)).answer =
        .ok .ordersUpdate ∧
      ∃ statement, AlignedUpdate .standard .orders ["Changed", "Unit Price"] statement
        .ordersUpdate := by
  have built : (Build.run .standard .empty .orders ["Changed", "Unit Price"]
      (.statement .update)).answer = .ok .ordersUpdate := by decide +kernel
  exact ⟨built, update_parameters_in_reading_order _ _ _ _ built⟩

end TableWrite
