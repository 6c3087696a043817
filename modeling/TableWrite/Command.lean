import TableWrite.Parameter

set_option autoImplicit false

namespace TableWrite

inductive CommandKind where
  | text
  | storedProcedure
deriving DecidableEq

def CommandKind.name : CommandKind → String
  | text => "Text"
  | storedProcedure => "StoredProcedure"

/-- How long a driver may take. -/
structure Timeout where
  seconds : Nat
  nanoseconds : Nat
deriving DecidableEq

structure Command where
  text : String
  kind : CommandKind
  parameters : List Parameter
  timeout : Option Timeout
deriving DecidableEq

namespace Command

def empty : Command := ⟨"", .text, [], none⟩

instance : Inhabited Command := ⟨empty⟩

/-- The first parameter of a name. -/
def parameter? (c : Command) (name : String) : Option Parameter :=
  c.parameters.find? (·.name == name)

/-- Changes the first element with the property, if there is one. -/
def updateFirst {α : Type} (p : α → Bool) (f : α → α) : List α → List α
  | [] => []
  | a :: rest => if p a then f a :: rest else a :: updateFirst p f rest

/-- Changes the first parameter of a name, if there is one. -/
def updateParameter (c : Command) (name : String) (f : Parameter → Parameter) : Command :=
  { c with parameters := updateFirst (·.name == name) f c.parameters }

end Command
end TableWrite
