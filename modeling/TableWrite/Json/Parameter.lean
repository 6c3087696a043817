import TableWrite.Json.Columns
import TableWrite.Json.Value
import TableWrite.Request

set_option autoImplicit false

namespace TableWrite

def Direction.ofJson? (j : Json) : Option Direction := j.alternative?.bind ofName?

def RowImage.ofJson? (j : Json) : Option RowImage := j.alternative?.bind ofName?

namespace Parameter

def toJson (p : Parameter) : Json :=
  .object [
    ("name", .string p.name),
    ("provider_type", .string p.type.name),
    ("size", .ofInt p.size.toInt),
    ("scale", .ofInt p.scale.toNat),
    ("precision", .ofInt p.precision.toNat),
    ("direction", .string p.direction.name),
    ("value", p.value.toJson),
    ("source_column", .ofText? p.source),
    ("source_version", .string p.image.name)]

def fieldNames : List String :=
  ["name", "provider_type", "size", "scale", "precision", "direction", "value", "source_column",
   "source_version"]

/-- Only the source may be left out. -/
def ofJson? (j : Json) : Option Parameter := do
  let fields ← j.record? fieldNames
  return {
    name := ← Json.required? fields "name" Json.string?
    type := ← Json.required? fields "provider_type" ProviderType.ofJson?
    size := ← Json.required? fields "size" Json.int64?
    scale := ← Json.required? fields "scale" Json.byte?
    precision := ← Json.required? fields "precision" Json.byte?
    direction := ← Json.required? fields "direction" Direction.ofJson?
    value := ← Json.required? fields "value" Value.ofJson?
    source := ← Json.optional? fields "source_column" none (Json.nullable? Json.string?)
    image := ← Json.required? fields "source_version" RowImage.ofJson? }

end Parameter

namespace QueryParameter

def toJson (q : QueryParameter) : Json :=
  .object [
    ("name", .string q.name),
    ("value", q.value.toJson),
    ("direction", .string q.direction.name),
    ("provider_type", .ofOption (fun t => .string t.name) q.type),
    ("size", .ofInt q.size.toInt),
    ("scale", .ofInt q.scale.toNat),
    ("precision", .ofInt q.precision.toNat)]

def fieldNames : List String :=
  ["name", "value", "direction", "provider_type", "size", "scale", "precision"]

/-- Only the name has to be there. -/
def ofJson? (j : Json) : Option QueryParameter := do
  let fields ← j.record? fieldNames
  let name ← Json.required? fields "name" Json.string?
  let absent := ofName name
  return {
    name := name
    value := ← Json.optional? fields "value" absent.value Value.ofJson?
    direction := ← Json.optional? fields "direction" absent.direction Direction.ofJson?
    type := ←
      Json.optional? fields "provider_type" absent.type (Json.nullable? ProviderType.ofJson?)
    size := ← Json.optional? fields "size" absent.size Json.int64?
    scale := ← Json.optional? fields "scale" absent.scale Json.byte?
    precision := ← Json.optional? fields "precision" absent.precision Json.byte? }

end QueryParameter

def Timeout.toJson (t : Timeout) : Json :=
  .object [("secs", .ofInt t.seconds), ("nanos", .ofInt t.nanoseconds)]

def Command.toJson (c : Command) : Json :=
  .object [
    ("text", .string c.text),
    ("kind", .string c.kind.name),
    ("parameters", .array (c.parameters.map Parameter.toJson)),
    ("timeout", .ofOption Timeout.toJson c.timeout)]

def Refresh.toJson (r : Refresh) : Json :=
  .object [
    ("auto_increment", .ofText? r.autoIncrement),
    ("source", .ofText? r.source),
    ("timestamp", .ofText? r.serverToken),
    ("concurrency", .ofText? r.versionToken),
    ("defaults", .array (r.defaults.map .string)),
    ("where_columns", .array (r.keys.map .string))]

end TableWrite
