import TableWrite.Json.Columns
import TableWrite.Json.Parse
import TableWrite.Request

set_option autoImplicit false

namespace TableWrite

def QueryKind.ofJson? (j : Json) : Option QueryKind := j.alternative?.bind ofName?

namespace Provider

def toJson (p : Provider) : Json :=
  .object [
    ("catalog", .ofText? p.catalog),
    ("schema", .ofText? p.schema),
    ("destination", .string p.destination),
    ("source", .string p.source),
    ("sp_insert", .ofText? p.insertProcedure),
    ("sp_update", .ofText? p.updateProcedure),
    ("sp_delete", .ofText? p.deleteProcedure),
    ("properties", .object (p.properties.map fun f => (f.1, .string f.2)))]

def fieldNames : List String :=
  ["catalog", "schema", "destination", "source", "sp_insert", "sp_update", "sp_delete",
   "properties"]

/-- Properties are an object of strings; the last of several with one key counts. -/
def propertiesOfJson? : Json → Option (Keyed String String)
  | .object fields =>
    (fields.mapM fun (f : String × Json) => f.2.string?.map (f.1, ·)).map Keyed.ofList
  | _ => none

/-- What a document leaves out is as in the blank provider. -/
def ofJson? (j : Json) : Option Provider := do
  let fields ← j.record? fieldNames
  let name (key : String) : Option (Option String) :=
    Json.optional? fields key none (Json.nullable? Json.string?)
  return {
    catalog := ← name "catalog"
    schema := ← name "schema"
    destination := ← Json.optional? fields "destination" blank.destination Json.string?
    source := ← Json.optional? fields "source" blank.source Json.string?
    insertProcedure := ← name "sp_insert"
    updateProcedure := ← name "sp_update"
    deleteProcedure := ← name "sp_delete"
    properties := ← Json.optional? fields "properties" blank.properties propertiesOfJson? }

end Provider

namespace QueryNames

def toJson (q : QueryNames) : Json :=
  .object [("catalog", .ofText? q.catalog), ("schema", .ofText? q.schema),
    ("query_source", .ofText? q.table)]

def fieldNames : List String := ["catalog", "schema", "query_source"]

def ofJson? (j : Json) : Option QueryNames := do
  let fields ← j.record? fieldNames
  let name (key : String) : Option (Option String) :=
    Json.optional? fields key .none (Json.nullable? Json.string?)
  return ⟨← name "catalog", ← name "schema", ← name "query_source"⟩

end QueryNames

namespace Request

def descriptionNames : List String := ["catalog", "schema", "provider", "columns"]

/-- The request that the description of a table stands for. -/
def ofDescription? (j : Json) : Option Request := do
  let fields ← j.record? descriptionNames
  let name (key : String) : Option (Option String) :=
    Json.optional? fields key none (Json.nullable? Json.string?)
  return { blank with
    catalog := ← name "catalog"
    schema := ← name "schema"
    provider := ← Json.required? fields "provider" Provider.ofJson?
    table := ← Json.required? fields "columns" TableColumns.ofJson? }

end Request
end TableWrite
