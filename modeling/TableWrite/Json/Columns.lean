import TableWrite.Json.Record
import TableWrite.TableColumns

set_option autoImplicit false

namespace TableWrite

def ProviderType.ofJson? (j : Json) : Option ProviderType := j.alternative?.bind ofName?

namespace Column

def toJson (c : Column) : Json :=
  .object [
    ("name", .string c.name),
    ("provider_type", .string c.type.name),
    ("is_auto_increment", .bool c.autoIncrement),
    ("is_concurrency", .bool c.serverToken),
    ("is_entity_spaces_concurrency", .bool c.versionToken),
    ("is_computed", .bool c.computed),
    ("has_default", .bool c.hasDefault),
    ("is_in_primary_key", .bool c.primaryKey),
    ("default", .string c.defaultText),
    ("character_max_length", .ofInt c.maxLength.toInt),
    ("numeric_precision", .ofInt c.precision.toNat),
    ("numeric_scale", .ofInt c.scale.toNat)]

def fieldNames : List String :=
  ["name", "provider_type", "is_auto_increment", "is_concurrency", "is_entity_spaces_concurrency",
   "is_computed", "has_default", "is_in_primary_key", "default", "character_max_length",
   "numeric_precision", "numeric_scale"]

/-- What a document leaves out is as in the blank column. -/
def ofJson? (j : Json) : Option Column := do
  let fields ← j.record? fieldNames
  let flag (name : String) (absent : Bool) : Option Bool :=
    Json.optional? fields name absent Json.bool?
  return {
    name := ← Json.optional? fields "name" blank.name Json.string?
    type := ← Json.optional? fields "provider_type" blank.type ProviderType.ofJson?
    autoIncrement := ← flag "is_auto_increment" blank.autoIncrement
    serverToken := ← flag "is_concurrency" blank.serverToken
    versionToken := ← flag "is_entity_spaces_concurrency" blank.versionToken
    computed := ← flag "is_computed" blank.computed
    hasDefault := ← flag "has_default" blank.hasDefault
    primaryKey := ← flag "is_in_primary_key" blank.primaryKey
    defaultText := ← Json.optional? fields "default" blank.defaultText Json.string?
    maxLength := ← Json.optional? fields "character_max_length" blank.maxLength Json.int64?
    precision := ← Json.optional? fields "numeric_precision" blank.precision Json.byte?
    scale := ← Json.optional? fields "numeric_scale" blank.scale Json.byte? }

end Column

namespace AuditColumn

def toJson (a : AuditColumn) : Json :=
  .object [("column_name", .string a.column), ("is_server_side", .bool a.serverSide)]

def fieldNames : List String := ["column_name", "is_server_side"]

def ofJson? (j : Json) : Option AuditColumn := do
  let fields ← j.record? fieldNames
  return {
    column := ← Json.required? fields "column_name" Json.string?
    serverSide := ← Json.optional? fields "is_server_side" false Json.bool? }

end AuditColumn

namespace TableColumns

def toJson (t : TableColumns) : Json :=
  .object [
    ("columns", .array (t.columns.map Column.toJson)),
    ("date_added", .ofOption AuditColumn.toJson t.dateAdded),
    ("date_modified", .ofOption AuditColumn.toJson t.dateModified),
    ("added_by", .ofOption AuditColumn.toJson t.addedBy),
    ("modified_by", .ofOption AuditColumn.toJson t.modifiedBy)]

def fieldNames : List String :=
  ["columns", "date_added", "date_modified", "added_by", "modified_by"]

def ofJson? (j : Json) : Option TableColumns := do
  let fields ← j.record? fieldNames
  let audit (name : String) : Option (Option AuditColumn) :=
    Json.optional? fields name none (Json.nullable? AuditColumn.ofJson?)
  return {
    columns := ← Json.optional? fields "columns" [] (Json.list? Column.ofJson?)
    dateAdded := ← audit "date_added"
    dateModified := ← audit "date_modified"
    addedBy := ← audit "added_by"
    modifiedBy := ← audit "modified_by" }

end TableColumns
end TableWrite
