import Mathlib.Data.List.Forall2
import TableWrite.Proofs.InsertCells
import TableWrite.Proofs.UpdateAlignment

set_option autoImplicit false

namespace TableWrite

namespace TableColumns

variable (d : Dialect) (t : TableColumns) (changed : List String)

def insertTexts? (c : Column) : Option (String × String) :=
  match t.roleIn .insert changed c with
  | .bound => some (d.column.wrap c.name, Parameter.nameOf d c.name)
  | .versionToken => some (d.column.wrap c.name, "1")
  | _ => none

def insertWrites (c : Column) : Bool :=
  match t.roleIn .insert changed c with
  | .bound | .versionToken => true
  | _ => false

/-- The parameter that an insert has for a column that it writes. -/
def InsertsBy (c : Column) (p : Parameter) : Prop :=
  match t.roleIn .insert changed c with
  | .bound => p.Reads d c.name .current
  | .versionToken =>
    p.name = Parameter.nameOf d c.name ∧ p.value = .integer 1 ∧ p.source = none
  | _ => False

end TableColumns

def Cell.texts (d : Dialect) (c : Cell) : String × String := (d.column.wrap c.column, c.value.text)

namespace InsertStatement

/-- What the text of an insert lists: columns with their values, first those of the table in their
order, then those of the audit slots. -/
def listed (d : Dialect) (r : Request) (changed : List String) : List (String × String) :=
  r.table.columns.filterMap (r.table.insertTexts? d changed) ++
    ([AuditSlot.dateAdded, .dateModified, .addedBy, .modifiedBy].filterMap
      r.table.serverSlot?).map fun s => (d.column.wrap s.2, r.provider.expression s.1)

variable (d : Dialect) (r : Request) (changed : List String)

theorem texts_insertCell? (c : Column) :
    (r.table.insertCell? d changed c).map (Cell.texts d) = r.table.insertTexts? d changed c := by
  unfold TableColumns.insertCell? TableColumns.insertTexts?
  cases r.table.roleIn .insert changed c with
  | bound =>
      simp only [Option.map_some, Cell.texts, CellValue.text, TableColumns.name_prototype]
  | versionToken => rfl
  | _ => rfl

theorem map_texts_cells : (ofFresh d r changed).cells.map (Cell.texts d) = listed d r changed := by
  unfold ofFresh listed TableColumns.insertSlots
  rw [List.map_append, List.map_filterMap, List.map_map, r.table.slotsOf_insert]
  have each := funext (texts_insertCell? d r changed)
  rw [each]
  rfl

theorem columnTexts_ofFresh :
    (ofFresh d r changed).columnTexts d = (listed d r changed).map Prod.fst := by
  rw [← map_texts_cells, List.map_map]
  rfl

theorem valueTexts_ofFresh :
    (ofFresh d r changed).valueTexts = (listed d r changed).map Prod.snd := by
  rw [← map_texts_cells, List.map_map]
  rfl

theorem cells_eq_nil_iff_listed : (ofFresh d r changed).cells = [] ↔ listed d r changed = [] := by
  rw [← map_texts_cells, List.map_eq_nil_iff]

/-- The slots of an insert bring no parameters. -/
theorem parameters_of_columns :
    (ofFresh d r changed).parameters =
      (r.table.columns.filterMap (r.table.insertCell? d changed)).filterMap
        fun c => c.value.parameter? := by
  have slots : (r.table.insertSlots r.provider).filterMap (fun c => c.value.parameter?) = [] := by
    unfold TableColumns.insertSlots
    rw [List.filterMap_map]
    exact List.filterMap_eq_nil_iff.mpr fun _ _ => rfl
  unfold parameters ofFresh
  rw [List.filterMap_append, slots, List.append_nil]

/-- The columns that an insert writes bring one parameter each. -/
theorem parameters_ofFresh :
    List.Forall₂ (r.table.InsertsBy d changed)
      (r.table.columns.filter (r.table.insertWrites changed))
      (ofFresh d r changed).parameters := by
  rw [parameters_of_columns]
  generalize r.table.columns = columns
  induction columns with
  | nil => exact .nil
  | cons c rest ih =>
      rw [List.filter_cons, List.filterMap_cons]
      unfold TableColumns.insertWrites TableColumns.insertCell? at *
      cases role : r.table.roleIn .insert changed c with
      | bound =>
          refine .cons ?_ ih
          unfold TableColumns.InsertsBy
          rw [role]
          exact r.table.prototype_reads d c
      | versionToken =>
          refine .cons ?_ ih
          unfold TableColumns.InsertsBy
          rw [role]
          exact ⟨r.table.name_prototype d c, rfl, rfl⟩
      | _ => exact ih

theorem text_ofFresh :
    (ofFresh d r changed).text d =
      if listed d r changed = [] then "INSERT INTO " ++ r.tableText d ++ " DEFAULT VALUES"
      else "INSERT INTO " ++ r.tableText d ++ " (" ++
        ", ".intercalate ((listed d r changed).map Prod.fst) ++ ") VALUES (" ++
          ", ".intercalate ((listed d r changed).map Prod.snd) ++ ")" := by
  unfold text
  rw [columnTexts_ofFresh, valueTexts_ofFresh]
  simp only [List.isEmpty_iff, cells_eq_nil_iff_listed]
  rfl

/-- A list of columns and values is never mistaken for the form without them. -/
theorem listing_ne_defaultValues (front rest : String) :
    front ++ " (" ++ rest ≠ front ++ " DEFAULT VALUES" := by
  intro same
  have chars := congrArg String.toList same
  simp only [String.append_assoc, String.toList_append, List.append_cancel_left_eq] at chars
  have second := congrArg (fun cs => cs[1]?) chars
  have opening : (" (".toList ++ rest.toList)[1]? = some '(' := rfl
  have keyword : " DEFAULT VALUES".toList[1]? = some 'D' := by decide
  rw [opening, keyword] at second
  cases second

end InsertStatement

/-- How a command agrees with a request for an insert: its text lists columns and values side by
side, and it has one parameter for each column that is written, in the order of the columns. -/
structure AlignedInsert (d : Dialect) (r : Request) (changed : List String)
    (command : Command) : Prop where
  expressed : r.provider.Expresses
    ([AuditSlot.dateAdded, .dateModified, .addedBy, .modifiedBy].filterMap r.table.serverSlot?)
  text : command.text =
    if InsertStatement.listed d r changed = [] then
      "INSERT INTO " ++ r.tableText d ++ " DEFAULT VALUES"
    else "INSERT INTO " ++ r.tableText d ++ " (" ++
      ", ".intercalate ((InsertStatement.listed d r changed).map Prod.fst) ++ ") VALUES (" ++
        ", ".intercalate ((InsertStatement.listed d r changed).map Prod.snd) ++ ")"
  parameters : List.Forall₂ (r.table.InsertsBy d changed)
    (r.table.columns.filter (r.table.insertWrites changed)) command.parameters
  defaultValues : command.text = "INSERT INTO " ++ r.tableText d ++ " DEFAULT VALUES" ↔
    (∀ c ∈ r.table.columns, c.name ∈ changed →
      c.autoIncrement = true ∨ c.serverToken = true ∨ c.versionToken = true) ∧
    (∀ c ∈ r.table.columns, c.versionToken = true →
      c.autoIncrement = true ∨ c.serverToken = true) ∧
    ∀ s audit, r.table.slot s = some audit → audit.serverSide = false

theorem insert_values_in_column_order (d : Dialect) (r : Request) (changed : List String)
    (command : Command)
    (built : (Build.run d .empty r changed (.statement .insert)).answer = .ok command) :
    AlignedInsert d r changed command := by
  obtain ⟨statement, made, rfl⟩ :=
    (Build.answer_insert_eq_ok_iff d .empty r changed command).mp built
  rw [PrototypeCache.answer_empty, InsertStatement.ofRequest_ofColumns_eq_ok_iff] at made
  obtain ⟨expressed, rfl⟩ := made
  rw [r.table.slotsOf_insert] at expressed
  have text := InsertStatement.text_ofFresh d r changed
  refine ⟨expressed, text, InsertStatement.parameters_ofFresh d r changed, ?_⟩
  rw [← InsertStatement.cells_eq_nil_iff d r changed, InsertStatement.cells_eq_nil_iff_listed]
  dsimp only
  rw [text]
  constructor
  · intro chosen
    by_contra present
    rw [if_neg present] at chosen
    simp only [String.append_assoc] at chosen
    rw [← String.append_assoc, ← String.append_assoc] at chosen
    exact InsertStatement.listing_ne_defaultValues _ _ chosen
  · intro absent
    rw [if_pos absent]

def Command.ordersInsert : Command where
  text := "INSERT INTO [Orders] ([Unit Price], [Version], [Changed]) VALUES (@UnitPrice, 1, now())"
  kind := .text
  parameters :=
    [.ofColumn .standard (.ofName "Unit Price"),
      (Parameter.ofColumn .standard (.ofName "Version")).literal (.integer 1)]
  timeout := none

theorem orders_insert_aligned :
    (Build.run .standard .empty .orders ["Changed", "Unit Price"] (.statement .insert)).answer =
        .ok .ordersInsert ∧
      AlignedInsert .standard .orders ["Changed", "Unit Price"] .ordersInsert := by
  have built : (Build.run .standard .empty .orders ["Changed", "Unit Price"]
      (.statement .insert)).answer = .ok .ordersInsert := by decide +kernel
  exact ⟨built, insert_values_in_column_order _ _ _ _ built⟩

end TableWrite
