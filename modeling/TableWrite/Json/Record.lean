import TableWrite.Json.Basic
import TableWrite.Keyed

set_option autoImplicit false

namespace TableWrite.Json

def bool? : Json → Option Bool
  | bool b => some b
  | _ => none

def string? : Json → Option String
  | string s => some s
  | _ => none

/-- An integer numeral. -/
def int? : Json → Option Int
  | number n => n.toInt?
  | _ => none

def int64? (j : Json) : Option Int64 := do
  let i ← j.int?
  if Int64.minValue.toInt ≤ i ∧ i ≤ Int64.maxValue.toInt then some (.ofInt i) else none

def int32? (j : Json) : Option Int32 := do
  let i ← j.int?
  if Int32.minValue.toInt ≤ i ∧ i ≤ Int32.maxValue.toInt then some (.ofInt i) else none

def byte? (j : Json) : Option UInt8 := do
  let i ← j.int?
  if 0 ≤ i ∧ i < 256 then some (.ofNat i.toNat) else none

def list? {α : Type} (read : Json → Option α) : Json → Option (List α)
  | array items => items.mapM read
  | _ => none

/-- A value that may be absent. -/
def nullable? {α : Type} (read : Json → Option α) : Json → Option (Option α)
  | null => some none
  | j => (read j).map some

/-- The name of one of several alternatives, alone or as the only key of an object: a derived reader
takes both for a variant without contents. -/
def alternative? : Json → Option String
  | string s => some s
  | object [(key, null)] => some key
  | _ => none

/-- The fields of a record that are there, under their names, as the readers that `serde` derives
document it. Other fields are ignored, but none of the record's may be there twice, and an array may
hold the fields in their order, where the last ones can be left out. -/
def record? (names : List String) : Json → Option (Keyed String Json)
  | object fields =>
    let known := fields.filter fun f => names.contains f.1
    if (Keyed.keys known).Nodup then some known else none
  | array items => if items.length ≤ names.length then some (names.zip items) else none
  | _ => none

/-- A field that has to be there. -/
def required? {α : Type} (fields : Keyed String Json) (name : String) (read : Json → Option α) :
    Option α :=
  (Keyed.get? fields name).bind read

/-- A field that has a value of its own when it is not there. A null is there: it does not stand for
that value. -/
def optional? {α : Type} (fields : Keyed String Json) (name : String) (absent : α)
    (read : Json → Option α) : Option α :=
  match Keyed.get? fields name with
  | some j => read j
  | none => some absent

theorem record?_object {names : List String} {fields : List (String × Json)}
    (known : ∀ f ∈ fields, f.1 ∈ names) (distinct : (Keyed.keys fields).Nodup) :
    record? names (object fields) = some fields := by
  have all : (fields.filter fun f => names.contains f.1) = fields :=
    List.filter_eq_self.2 fun f mem => by simpa using known f mem
  simp only [record?, all, distinct, if_true]

end TableWrite.Json
