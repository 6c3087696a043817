import TableWrite.Json.Token

set_option autoImplicit false

namespace TableWrite.Json

/-- A container that is still open, its contents so far in reverse. An object with a key that is
no text turns out garbled. -/
inductive Frame where
  | array (items : List Json)
  | object (fields : List (Option String × Json)) (key : Option String)

/-- Where the automaton stands between two tokens. -/
inductive Progress where
  /-- A value has to follow. -/
  | value (frames : List Frame)
  /-- An array was just opened. -/
  | firstItem (frames : List Frame)
  /-- An object was just opened. -/
  | firstKey (frames : List Frame)
  /-- A further key of an object has to follow. -/
  | nextKey (fields : List (Option String × Json)) (frames : List Frame)
  /-- The colon behind a key has to follow. -/
  | colon (fields : List (Option String × Json)) (key : Option String) (frames : List Frame)
  /-- A value was completed. -/
  | after (v : Json) (frames : List Frame)

/-- An object of its fields, if every key is a text. -/
def ofFields (fields : List (Option String × Json)) : Json :=
  match fields.mapM fun f => f.1.map (·, f.2) with
  | some named => object named
  | none => garbled

namespace Progress

/-- A token where a value has to begin. -/
def startValue (frames : List Frame) : Token → Option Progress
  | .openArray => some (firstItem frames)
  | .openObject => some (firstKey frames)
  | .null => some (after .null frames)
  | .bool b => some (after (.bool b) frames)
  | .number n => some (after (.number n) frames)
  | .string (some s) => some (after (.string s) frames)
  | .string none => some (after .garbled frames)
  | .closeArray | .closeObject | .comma | .colon => none

def step : Progress → Token → Option Progress
  | value frames, t => startValue frames t
  | firstItem frames, .closeArray => some (after (.array []) frames)
  | firstItem frames, t => startValue (.array [] :: frames) t
  | firstKey frames, .closeObject => some (after (.object []) frames)
  | firstKey frames, .string key => some (colon [] key frames)
  | nextKey fields frames, .string key => some (colon fields key frames)
  | colon fields key frames, .colon => some (value (.object fields key :: frames))
  | after v (.array items :: frames), .comma => some (value (.array (v :: items) :: frames))
  | after v (.array items :: frames), .closeArray =>
    some (after (.array (v :: items).reverse) frames)
  | after v (.object fields key :: frames), .comma => some (nextKey ((key, v) :: fields) frames)
  | after v (.object fields key :: frames), .closeObject =>
    some (after (ofFields ((key, v) :: fields).reverse) frames)
  | _, _ => none

def run (p : Progress) (tokens : List Token) : Option Progress := tokens.foldlM step p

end Progress

/-- The document that a list of tokens writes. -/
def ofTokens? (tokens : List Token) : Option Json :=
  match (Progress.value []).run tokens with
  | some (.after v []) => some v
  | _ => none

/-- The document that a text writes, as `serde_json` documents its reading of a whole text: no comma
stands before a closing bracket, and nothing but space behind the document. What is passed over may
be nested to any depth, which is why the open containers stand in a list. -/
def ofString? (s : String) : Option Json := do ofTokens? (← Token.scan? s.toList)

end TableWrite.Json
