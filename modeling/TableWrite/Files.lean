import TableWrite.Keyed
import TableWrite.Text.Split

set_option autoImplicit false

namespace TableWrite

/-- The contents of a file, if it can be read as text. -/
abbrev Files := String → Option String

namespace Files

/-- Files whose texts were read before, under the names by which they were asked for. -/
def ofTexts (texts : List (String × Option String)) : Files := fun file =>
  (texts.lookup file).join

theorem ofTexts_map (files : Files) {names : List String} {file : String} (named : file ∈ names) :
    ofTexts (names.map fun name => (name, files name)) file = files file := by
  induction names with
  | nil => simp at named
  | cons name rest ih =>
    by_cases same : file = name
    · simp [ofTexts, same]
    · have found := ih ((List.mem_cons.1 named).resolve_left same)
      have missed : (file == name) = false := by simpa using same
      simpa only [ofTexts, List.map_cons, List.lookup_cons, missed] using found

/-- The names that a path goes through from a directory down to a file. Nothing between two
slashes and a single dot both stay where they are. A path that starts at the root leaves the
directory, and one that ends in a slash or in a dot leads to no file. -/
def steps? (path : String) : Option (List (List Char)) :=
  let parts := Text.splitAt '/' path.toList
  let steps := parts.filter fun part => !part.isEmpty && part != ['.']
  if parts.head? = some [] ∨ parts.getLast? ≠ steps.getLast? then none else some steps

/-- The files of a directory, by the paths that lead to them from there. -/
def ofDirectory (files : Keyed String String) : Files := fun path => do
  let steps ← steps? path
  let file ← files.find? fun f => steps? f.1 == some steps
  return file.2

/-- A name that leads to a file of the directory itself. -/
structure IsBare (name : String) : Prop where
  flat : '/' ∉ name.toList
  nonempty : name.toList ≠ []
  named : name.toList ≠ ['.']

theorem steps?_of_bare {name : String} (bare : IsBare name) : steps? name = some [name.toList] := by
  simp [steps?, Text.splitAt_of_not_mem bare.flat, bare.nonempty, bare.named]

example : steps? ".//t" = steps? "t" ∧ (steps? "t").isSome := by decide +kernel
example : steps? "t/" = none ∧ steps? "t/." = none ∧ steps? "." = none ∧ steps? "/t" = none := by
  decide +kernel

end Files
end TableWrite
