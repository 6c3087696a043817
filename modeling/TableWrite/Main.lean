import TableWrite.CommandLine

set_option autoImplicit false

namespace TableWrite.CommandLine

def usage : String :=
  "usage: insert|update|delete|procedure --table FILE [--dialect FILE] [--json] " ++
    "[--modified COLUMNS] [--kind insert|update|delete]"

/-- The text of a file, if it can be read. -/
def readText (file : String) : IO (Option String) := do
  try
    return some (← IO.FS.readFile file)
  catch _ =>
    return none

/-- The files that the arguments name, with their texts. -/
def namedTexts (args : List String) : IO (List (String × Option String)) :=
  (namedFiles args).mapM fun file => return (file, ← readText file)

end TableWrite.CommandLine

open TableWrite CommandLine

def main (args : List String) : IO UInt32 := do
  let texts ← namedTexts args
  let ending := run (.ofTexts texts) args
  match ending with
  | .done text => IO.print text
  | .failed message => IO.eprintln message
  | .misused => IO.eprintln usage
  return ending.status.toUInt32
