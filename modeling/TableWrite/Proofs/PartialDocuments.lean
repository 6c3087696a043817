import Mathlib.Data.List.Perm.Subperm
import TableWrite.Json.Columns
import TableWrite.Json.Dialect
import TableWrite.Proofs.ValueDocuments

set_option autoImplicit false

namespace TableWrite

open Json

namespace Json

section Part

variable {fields all : Keyed String Json} {names : List String}

theorem nodup_keys_of_part (part : fields.Subperm all) (distinct : (Keyed.keys all).Nodup) :
    (Keyed.keys fields).Nodup := by
  obtain ⟨sorted, perm, sublist⟩ := part
  exact (perm.map Prod.fst).nodup_iff.mp ((sublist.map Prod.fst).nodup distinct)

theorem record?_of_part (part : fields.Subperm all) (named : Keyed.keys all = names)
    (distinct : names.Nodup) : record? names (object fields) = some fields := by
  subst named
  refine record?_object ?_ (nodup_keys_of_part part distinct)
  intro f mem
  exact List.mem_map_of_mem (part.subset mem)

/-- A field of a record of which only some fields are there. -/
def kept {α : Type} (keys : List String) (name : String) (own absent : α) : α :=
  if name ∈ keys then own else absent

/-- A field that is there is read as in the whole record. -/
theorem optional?_of_part (part : fields.Subperm all) (distinct : (Keyed.keys all).Nodup)
    {α : Type} {name : String} {own absent : α} {read : Json → Option α}
    (whole : optional? all name absent read = some own) :
    optional? fields name absent read = some (kept (Keyed.keys fields) name own absent) := by
  have apart := nodup_keys_of_part part distinct
  unfold optional? at whole
  unfold optional? kept
  cases found : Keyed.get? fields name with
  | some j =>
      have mem : (name, j) ∈ fields := (Keyed.mem_iff_get? apart).mpr found
      have there : name ∈ Keyed.keys fields := List.mem_map_of_mem mem
      rw [(Keyed.mem_iff_get? distinct).mp (part.subset mem)] at whole
      rw [if_pos there]
      exact whole
  | none =>
      have missing : name ∉ Keyed.keys fields := by
        intro there
        obtain ⟨f, mem, rfl⟩ := List.mem_map.mp there
        rw [(Keyed.mem_iff_get? apart).mp mem] at found
        cases found
      rw [if_neg missing]

/-- Reading a record goes on with each of its fields as the record is written, or with the value
that the field has when it is not there. -/
theorem bind_optional?_of_part (part : fields.Subperm all) (distinct : (Keyed.keys all).Nodup)
    {α β : Type} {name : String} {own absent : α} {read : Json → Option α} {next : α → Option β}
    {b : β} (whole : optional? all name absent read = some own)
    (rest : next (kept (Keyed.keys fields) name own absent) = some b) :
    (optional? fields name absent read).bind next = some b := by
  rw [optional?_of_part part distinct whole, Option.bind_some]
  exact rest

end Part

theorem int32?_ofInt (i : Int32) : int32? (ofInt i.toInt) = some i := by
  have fits : Int32.minValue.toInt ≤ i.toInt ∧ i.toInt ≤ Int32.maxValue.toInt :=
    ⟨i.minValue_le_toInt, i.toInt_le⟩
  simp only [int32?, int?, ofInt, toInt?_ofInt, Option.bind_eq_bind, Option.bind_some, fits,
    and_self, ↓reduceIte, Int32.ofInt_toInt]

theorem list?_map {α : Type} {write : α → Json} {read : Json → Option α}
    (back : ∀ a, read (write a) = some a) (as : List α) :
    list? read (array (as.map write)) = some as := by
  unfold list?
  induction as with
  | nil => rfl
  | cons a rest ih => simp only [List.map_cons, List.mapM_cons, back, ih]; rfl

theorem numbered_bool (b : Bool) : Numbered (tokens (bool b)) := .cons nofun numbered_nil

/-- Is every document with some of the fields that a value is written with, in any order, read as
the value that keeps these fields? The reader is one that `serde` derives for a record with a
default for every field, as `record?` and `optional?` follow it. -/
def ReadInParts {α : Type} (write : α → Json) (read : Json → Option α)
    (keeping : List String → α → α) (a : α) : Prop :=
  ∀ all fields, write a = object all → fields.Subperm all →
    (ofString? (object fields).text).bind read = some (keeping (Keyed.keys fields) a)

section Record

variable {α : Type} {write : α → Json} {read : Json → Option α} {keeping : List String → α → α}
  {a : α} {all : List (String × Json)}

theorem readInParts_of_fields (written : write a = object all)
    (numbered : ∀ f ∈ all, Numbered (tokens f.2))
    (reads : ∀ fields, fields.Subperm all →
      read (object fields) = some (keeping (Keyed.keys fields) a)) :
    ReadInParts write read keeping a := by
  intro all' fields written' part
  obtain rfl := Json.object.inj (written.symm.trans written')
  have own : Numbered (tokens (object fields)) :=
    numbered_object fun f mem => numbered f (part.subset mem)
  rw [ofString?_text _ own, Option.bind_some]
  exact reads fields part

/-- With all its fields a value is read back as it is. -/
theorem reread?_of_readInParts (parts : ReadInParts write read keeping a)
    (written : write a = object all) (whole : keeping (Keyed.keys all) a = a) :
    reread? write read a = some a := by
  have read_all := parts all all written (List.Subperm.refl all)
  rw [whole, ← written] at read_all
  exact read_all

end Record

end Json

namespace Dialect

/-- The dialect with the fields of these keys, and otherwise the standard one. -/
def keeping (keys : List String) (d : Dialect) : Dialect where
  table := ⟨kept keys "table_open" d.table.opening standard.table.opening,
    kept keys "table_close" d.table.closing standard.table.closing⟩
  column := ⟨kept keys "column_open" d.column.opening standard.column.opening,
    kept keys "column_close" d.column.closing standard.column.closing⟩
  procedure := ⟨kept keys "procedure_open" d.procedure.opening standard.procedure.opening,
    kept keys "procedure_close" d.procedure.closing standard.procedure.closing⟩
  parameterMark := kept keys "param_prefix" d.parameterMark standard.parameterMark
  placeholder := kept keys "positional_placeholder" d.placeholder standard.placeholder
  conflictCode := kept keys "concurrency_error_code" d.conflictCode standard.conflictCode

variable (d : Dialect)

theorem keeping_fieldNames : d.keeping fieldNames = d := by
  simp [keeping, kept, fieldNames]

theorem ofJson?_of_part {all fields : List (String × Json)} (written : d.toJson = .object all)
    (part : fields.Subperm all) :
    ofJson? (.object fields) = some (d.keeping (Keyed.keys fields)) := by
  obtain rfl := Json.object.inj written
  have distinct : fieldNames.Nodup := by decide
  have known : record? fieldNames (.object fields) = some fields :=
    record?_of_part part rfl distinct
  have field := @bind_optional?_of_part _ _ part distinct
  rw [ofJson?, known, Option.bind_eq_bind, Option.bind_some]
  exact field rfl <| field rfl <| field rfl <| field rfl <| field rfl <| field rfl <|
    field rfl <| field rfl <| field (int32?_ofInt _) <| rfl

theorem readInParts : ReadInParts toJson ofJson? keeping d := by
  refine readInParts_of_fields rfl ?_ fun fields => d.ofJson?_of_part rfl
  simp only [List.forall_mem_cons, numbered_string, numbered_ofInt, true_and]
  exact nofun

theorem ofText_toJson : ofText d.toJson.text = d.checked := by
  have read : reread? toJson ofJson? d = some d :=
    reread?_of_readInParts d.readInParts rfl d.keeping_fieldNames
  obtain ⟨j, parsed, decoded⟩ := Option.bind_eq_some_iff.mp read
  rw [ofText, parsed]
  simp only [ofDocument, decoded]

end Dialect

namespace Column

/-- The column with the fields of these keys, and otherwise blank. -/
def keeping (keys : List String) (c : Column) : Column where
  name := kept keys "name" c.name blank.name
  type := kept keys "provider_type" c.type blank.type
  autoIncrement := kept keys "is_auto_increment" c.autoIncrement blank.autoIncrement
  serverToken := kept keys "is_concurrency" c.serverToken blank.serverToken
  versionToken := kept keys "is_entity_spaces_concurrency" c.versionToken blank.versionToken
  computed := kept keys "is_computed" c.computed blank.computed
  hasDefault := kept keys "has_default" c.hasDefault blank.hasDefault
  primaryKey := kept keys "is_in_primary_key" c.primaryKey blank.primaryKey
  defaultText := kept keys "default" c.defaultText blank.defaultText
  maxLength := kept keys "character_max_length" c.maxLength blank.maxLength
  precision := kept keys "numeric_precision" c.precision blank.precision
  scale := kept keys "numeric_scale" c.scale blank.scale

variable (c : Column)

theorem keeping_fieldNames : c.keeping fieldNames = c := by
  simp [keeping, kept, fieldNames]

theorem numbered_fields {all : List (String × Json)} (written : c.toJson = .object all) :
    ∀ f ∈ all, Numbered (tokens f.2) := by
  obtain rfl := Json.object.inj written
  simp only [List.forall_mem_cons, numbered_string, numbered_bool, numbered_ofInt, true_and]
  exact nofun

theorem ofJson?_of_part {all fields : List (String × Json)} (written : c.toJson = .object all)
    (part : fields.Subperm all) :
    ofJson? (.object fields) = some (c.keeping (Keyed.keys fields)) := by
  obtain rfl := Json.object.inj written
  have distinct : fieldNames.Nodup := by decide
  have known : record? fieldNames (.object fields) = some fields :=
    record?_of_part part rfl distinct
  have field := @bind_optional?_of_part _ _ part distinct
  rw [ofJson?, known, Option.bind_eq_bind, Option.bind_some]
  -- Only names of types and numbers are read back by a law of their own.
  exact field rfl <| field (ProviderType.ofJson?_name _) <| field rfl <| field rfl <|
    field rfl <| field rfl <| field rfl <| field rfl <| field rfl <| field (int64?_ofInt _) <|
    field (byte?_ofInt _) <| field (byte?_ofInt _) <| rfl

theorem readInParts : ReadInParts toJson ofJson? keeping c :=
  readInParts_of_fields rfl (c.numbered_fields rfl) fun _ => c.ofJson?_of_part rfl

theorem ofJson?_toJson : ofJson? c.toJson = some c := by
  have whole := c.ofJson?_of_part rfl (List.Subperm.refl _)
  exact whole.trans (congrArg some c.keeping_fieldNames)

end Column

namespace AuditColumn

variable (a : AuditColumn)

theorem numbered_toJson : Numbered (tokens a.toJson) := by
  refine numbered_object ?_
  simp only [List.forall_mem_cons, numbered_string, numbered_bool, true_and]
  exact nofun

theorem ofJson?_toJson : ofJson? a.toJson = some a := by
  have distinct : fieldNames.Nodup := by decide
  have known : record? fieldNames a.toJson = some
      [("column_name", .string a.column), ("is_server_side", .bool a.serverSide)] :=
    record?_of_part (List.Subperm.refl _) rfl distinct
  rw [ofJson?, known]
  rfl

end AuditColumn

namespace TableColumns

/-- The columns and audit slots of these keys, and otherwise none. -/
def keeping (keys : List String) (t : TableColumns) : TableColumns where
  columns := kept keys "columns" t.columns []
  dateAdded := kept keys "date_added" t.dateAdded none
  dateModified := kept keys "date_modified" t.dateModified none
  addedBy := kept keys "added_by" t.addedBy none
  modifiedBy := kept keys "modified_by" t.modifiedBy none

variable (t : TableColumns)

theorem keeping_fieldNames : t.keeping fieldNames = t := by
  simp [keeping, kept, fieldNames]

theorem ofJson?_of_part {all fields : List (String × Json)} (written : t.toJson = .object all)
    (part : fields.Subperm all) :
    ofJson? (.object fields) = some (t.keeping (Keyed.keys fields)) := by
  obtain rfl := Json.object.inj written
  have distinct : fieldNames.Nodup := by decide
  have known : record? fieldNames (.object fields) = some fields :=
    record?_of_part part rfl distinct
  have audit (slot : Option AuditColumn) :
      nullable? AuditColumn.ofJson? (ofOption AuditColumn.toJson slot) = some slot :=
    nullable?_ofOption nofun AuditColumn.ofJson?_toJson slot
  have field := @bind_optional?_of_part _ _ part distinct
  rw [ofJson?, known, Option.bind_eq_bind, Option.bind_some]
  exact field (list?_map Column.ofJson?_toJson _) <| field (audit _) <| field (audit _) <|
    field (audit _) <| field (audit _) <| rfl

theorem readInParts : ReadInParts toJson ofJson? keeping t := by
  have columns : Numbered (tokens (.array (t.columns.map Column.toJson))) := by
    refine numbered_array fun j mem => ?_
    obtain ⟨c, -, rfl⟩ := List.mem_map.mp mem
    exact numbered_object (c.numbered_fields rfl)
  refine readInParts_of_fields rfl ?_ fun fields => t.ofJson?_of_part rfl
  simp only [List.forall_mem_cons, columns, numbered_ofOption AuditColumn.numbered_toJson, true_and]
  exact nofun

end TableColumns

/-- Descriptions are read back from their texts: a dialect if it is usable, and else its fault is
the error; a column and a table's columns in any case. From a text with some of the fields in any
order these fields are read, and what a text without fields gives in the place of the others; a
dialect is not checked before that. -/
theorem descriptions_read_in_parts :
    (∀ d : Dialect,
      (Dialect.ofText d.toJson.text = .ok d ↔ d.fault? = none) ∧
        (∀ fault, d.fault? = some fault →
          Dialect.ofText d.toJson.text = .error (.configuration fault.message)) ∧
        ReadInParts Dialect.toJson Dialect.ofJson? Dialect.keeping d) ∧
      (∀ c : Column, reread? Column.toJson Column.ofJson? c = some c ∧
        ReadInParts Column.toJson Column.ofJson? Column.keeping c) ∧
      ∀ t : TableColumns, reread? TableColumns.toJson TableColumns.ofJson? t = some t ∧
        ReadInParts TableColumns.toJson TableColumns.ofJson? TableColumns.keeping t := by
  refine ⟨fun d => ⟨?_, ?_, d.readInParts⟩, fun c => ⟨?_, c.readInParts⟩,
    fun t => ⟨?_, t.readInParts⟩⟩
  · rw [d.ofText_toJson, Dialect.checked]
    cases d.fault? <;> simp
  · intro fault faulty
    rw [d.ofText_toJson, Dialect.checked, faulty]
  · exact reread?_of_readInParts c.readInParts rfl c.keeping_fieldNames
  · exact reread?_of_readInParts t.readInParts rfl t.keeping_fieldNames

def Dialect.colon : Dialect := { standard with parameterMark := ":", placeholder := "" }

def Json.colonPart : List (String × Json) :=
  [("concurrency_error_code", .ofInt 532), ("positional_placeholder", .string "")]

theorem colon_read_in_parts :
    Dialect.colon.fault? = some .noPlaceholder ∧
      Dialect.ofText Dialect.colon.toJson.text =
        .error (.configuration "positional_placeholder cannot be empty") ∧
      (∃ all, Dialect.colon.toJson = .object all ∧ Json.colonPart.Subperm all) ∧
      (Json.ofString? (Json.object Json.colonPart).text).bind Dialect.ofJson? =
        some { Dialect.standard with placeholder := "" } := by
  obtain ⟨-, faulty, parts⟩ := descriptions_read_in_parts.1 .colon
  have fault : Dialect.colon.fault? = some .noPlaceholder := by decide +kernel
  obtain ⟨all, written⟩ : ∃ all, Dialect.colon.toJson = .object all := ⟨_, rfl⟩
  have part : Json.colonPart.Subperm all := by
    have last := List.drop_sublist 7 all
    obtain rfl := Json.object.inj written
    exact (List.Perm.swap _ _ []).subperm.trans last.subperm
  refine ⟨fault, faulty _ fault, ⟨all, written, part⟩, ?_⟩
  rw [parts all _ written part]
  decide +kernel

end TableWrite
