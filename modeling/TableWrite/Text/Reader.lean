import TableWrite.Text.Blank
import TableWrite.Text.DecimalDigit

set_option autoImplicit false

namespace TableWrite.Text

abbrev Reader (α : Type) := StateT (List Char) Option α

namespace Reader

/-- Runs a reader that has to take the whole text. -/
def all? {α : Type} (reader : Reader α) (s : List Char) : Option α :=
  match reader s with
  | some (a, []) => some a
  | _ => none

def skipBlanks : Reader Unit := modify Text.skipBlanks

/-- Takes the next character if the predicate holds of it, and fails otherwise. -/
def satisfying (p : Char → Bool) : Reader Char
  | [] => none
  | c :: rest => if p c then some (c, rest) else none

def char (c : Char) : Reader Unit := do
  let _ ← satisfying (· == c)

/-- Takes the next character if the predicate holds of it. -/
def optional (p : Char → Bool) : Reader (Option Char)
  | [] => some (none, [])
  | c :: rest => if p c then some (some c, rest) else some (none, c :: rest)

/-- Takes the longest run of ASCII digits, which must not be empty. -/
def digitRun : Reader (List Char) := fun s =>
  let run := s.takeWhile Char.isDigit
  if run.isEmpty then none else some (run, s.dropWhile Char.isDigit)

/-- Takes as many ASCII digits as there are, up to `limit` and at least one, and gives their
value. -/
def number (limit : Nat) : Reader Nat := fun s =>
  let run := (s.takeWhile Char.isDigit).take limit
  if run.isEmpty then none else some (ofDigits run, s.drop run.length)

/-- Takes exactly `count` ASCII digits and gives their value. -/
def fixedNumber (count : Nat) : Reader Nat := fun s =>
  let run := (s.takeWhile Char.isDigit).take count
  if run.length = count then some (ofDigits run, s.drop count) else none

end Reader
end TableWrite.Text
