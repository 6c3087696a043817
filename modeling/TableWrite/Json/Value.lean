import TableWrite.Json.Record
import TableWrite.Number.Scaling
import TableWrite.Value

set_option autoImplicit false

namespace TableWrite.Value

/-- The layout of doubles in the documents of `serde_json`, with the fewest digits that are read
back: positional from 0.00001 up to sixteen digits before the point, a whole number with one digit
behind it, and a half digit to the even neighbour. -/
def documentLayout : Layout := ⟨.toEven, fun leading => -5 ≤ leading && leading < 16, ['0']⟩

/-- Infinities and what is not a number have no numeral. -/
def doubleToJson (x : Double) : Json :=
  if x.isFinite then .number (documentLayout.numeral x) else .null

def toJson : Value → Json
  | null => .null
  | boolean b => .bool b
  | integer i => .ofInt i.toInt
  | float x => doubleToJson x
  | uuid u => .string u.text
  | timestamp t => .string t.shortText
  | text s => .string s
  | bytes bs => .array (bs.map fun b => .ofInt b.toNat)

/-- An identifier if the string is one, else a timestamp, else the text itself. No document names
the kind of a value: as `serde` documents it for untagged alternatives, the first kind in the order
of their declaration is taken that the document can be read as. -/
def ofText (s : String) : Value :=
  match Uuid.ofString? s, Timestamp.ofString? s with
  | some u, _ => uuid u
  | none, some t => timestamp t
  | none, none => text s

/-- An integer if the number is one that fits, else a double. -/
def ofNumeral? (n : Numeral) : Option Value :=
  match (Json.number n).int64? with
  | some i => some (integer i)
  | none => n.toDouble?.map float

def ofJson? : Json → Option Value
  | .null => some null
  | .bool b => some (boolean b)
  | .number n => ofNumeral? n
  | .string s => some (ofText s)
  | .array items => (items.mapM Json.byte?).map bytes
  | .object _ | .garbled => none

end TableWrite.Value
