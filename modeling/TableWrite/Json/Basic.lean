import TableWrite.Number.Numeral

set_option autoImplicit false

namespace TableWrite

inductive Json where
  | null
  | bool (b : Bool)
  | number (n : Numeral)
  | string (s : String)
  | array (items : List Json)
  | object (fields : List (String × Json))
  /-- A string, or an object with a key, whose escapes leave half of a surrogate pair. It is
  grammatical, but nothing can be read from it. -/
  | garbled

namespace Json

instance : Inhabited Json := ⟨null⟩

def ofInt (i : Int) : Json := number (.ofInt i)

def ofOption {α : Type} (f : α → Json) : Option α → Json
  | some a => f a
  | none => null

def ofText? (s : Option String) : Json := ofOption string s

end Json
end TableWrite
