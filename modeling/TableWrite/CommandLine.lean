import TableWrite.Build
import TableWrite.Files
import TableWrite.Json.Dialect
import TableWrite.Json.Parameter
import TableWrite.Json.Print
import TableWrite.Json.Provider
import TableWrite.Text.Split

set_option autoImplicit false

namespace TableWrite.CommandLine

/-- What the program is asked to build. -/
inductive Job where
  | statement (action : Action) (changed : List String)
  /-- A procedure for the action of a name. -/
  | procedure (name : String)
deriving DecidableEq

structure Invocation where
  job : Job
  /-- The file of the table description. -/
  table : String
  /-- The file of the dialect. -/
  dialect : Option String
  /-- Print the command as a JSON document. -/
  json : Bool
deriving DecidableEq

/-- The options of a job: those with a value, and those without. -/
structure OptionNames where
  valued : List String
  flags : List String

/-- An argument `--name` or `--name=value`. -/
def splitOption? (arg : String) : Option (String × Option String) :=
  match arg.toList with
  | '-' :: '-' :: rest =>
    let name := String.ofList (rest.takeWhile (· != '='))
    match rest.dropWhile (· != '=') with
    | [] => some (name, none)
    | _ :: value => some (name, some (.ofList value))
  | _ => none

/-- Can the argument be the value of the option before it? A single dash can, but nothing that
begins like an option. -/
def isValue (arg : String) : Bool :=
  match arg.toList with
  | ['-'] => true
  | '-' :: _ => false
  | _ => true

/-- The options in a list of arguments, flags with an empty value. A double dash ends them, and
nothing may follow it. -/
def options? (names : OptionNames) : List String → Option (List (String × String))
  | [] => some []
  | ["--"] => some []
  | arg :: rest =>
    match splitOption? arg with
    | none => none
    | some (name, some value) =>
      if names.valued.contains name then (options? names rest).map ((name, value) :: ·) else none
    | some (name, none) =>
      if names.flags.contains name then (options? names rest).map ((name, "") :: ·)
      else if names.valued.contains name then
        match rest with
        | value :: others =>
          if isValue value then (options? names others).map ((name, value) :: ·) else none
        | [] => none
      else none

/-- The columns in a list with commas, without blanks around them. -/
def splitColumns (s : String) : List String :=
  (((Text.splitAt ',' s.toList).map Text.trim).filter (!·.isEmpty)).map String.ofList

def optionNames : String → Option OptionNames
  | "insert" | "update" => some ⟨["table", "dialect", "modified"], ["json"]⟩
  | "delete" => some ⟨["table", "dialect"], ["json"]⟩
  | "procedure" => some ⟨["table", "dialect", "kind"], ["json"]⟩
  | _ => none

def job? (name : String) (options : List (String × String)) : Option Job :=
  let changed := splitColumns ((options.lookup "modified").getD "")
  match name with
  | "insert" => some (.statement .insert changed)
  | "update" => some (.statement .update changed)
  | "delete" => some (.statement .delete [])
  | "procedure" => (options.lookup "kind").map .procedure
  | _ => none

/-- The invocation that some arguments stand for. No option may be given twice, and the name of a
file is not empty. -/
def invocation? : List String → Option Invocation
  | [] => none
  | name :: args => do
    let options ← options? (← optionNames name) args
    let job ← job? name options
    let table ← options.lookup "table"
    let dialect := options.lookup "dialect"
    if (options.map Prod.fst).Nodup ∧ table ≠ "" ∧ dialect ≠ some "" then
      some ⟨job, table, dialect, (options.lookup "json").isSome⟩
    else none

/-- The files that some arguments name. -/
def namedFiles (args : List String) : List String :=
  match invocation? args with
  | none => []
  | some i => i.table :: i.dialect.toList

/-- What can go wrong in an invocation. -/
inductive Failure where
  | unreadable (file : String)
  | badDialect (file : String)
  | badDescription (file : String)
  | unknownProcedure (name : String)
  | build (e : Error)
deriving DecidableEq

def Failure.message : Failure → String
  | unreadable file => s!"Failed to read '{file}'"
  | badDialect file => s!"Invalid dialect in '{file}'"
  | badDescription file => s!"Invalid table description in '{file}'"
  | unknownProcedure name =>
    s!"Unknown procedure kind '{name}'. Expected insert, update or delete"
  | build e => e.message

def readFile (files : Files) (file : String) : Except Failure String :=
  match files file with
  | some text => .ok text
  | none => .error (.unreadable file)

def loadDialect (files : Files) : Option String → Except Failure Dialect
  | none => .ok .standard
  | some file => do
    match Dialect.ofText (← readFile files file) with
    | .ok d => .ok d
    | .error _ => .error (.badDialect file)

def loadRequest (files : Files) (file : String) : Except Failure Request := do
  match (Json.ofString? (← readFile files file)).bind Request.ofDescription? with
  | some r => .ok r
  | none => .error (.badDescription file)

/-- The build of a job, and the columns that changed. -/
def Job.build : Job → Except Failure (Build × List String)
  | statement action changed => .ok (.statement action, changed)
  | procedure "insert" => .ok (.procedure .insert, [])
  | procedure "update" => .ok (.procedure .update, [])
  | procedure "delete" => .ok (.procedure .delete, [])
  | procedure name => .error (.unknownProcedure name)

def parameterLine (p : Parameter) : String :=
  s!"  {p.name} {p.type.keyword} {p.direction.name} {p.image.name}\n"

def entryLine (entry : String × String) : String := s!"  {entry.1} = {entry.2}\n"

/-- The report on a command: its text, its parameters and what is to be read again. -/
def report (d : Dialect) (c : Command) (r : Refresh) : String :=
  c.text ++ "\n" ++ String.join (c.parameters.map parameterLine) ++
    String.join ((r.entries d.column).map entryLine)

/-- The output of an invocation. The dialect is read before the description. -/
def output (files : Files) (i : Invocation) : Except Failure String := do
  let d ← loadDialect files i.dialect
  let r ← loadRequest files i.table
  let (build, changed) ← i.job.build
  let built := build.run d .empty r changed
  match built.answer with
  | .error e => throw (.build e)
  | .ok c => return if i.json then c.toJson.prettyText ++ "\n" else report d c built.request.refresh

/-- How the program ends. -/
inductive Ending where
  | done (output : String)
  | failed (message : String)
  /-- The arguments are not understood. -/
  | misused
deriving DecidableEq

def Ending.status : Ending → Nat
  | done _ => 0
  | failed _ => 1
  | misused => 2

def run (files : Files) (args : List String) : Ending :=
  match invocation? args with
  | none => .misused
  | some i =>
    match output files i with
    | .ok text => .done text
    | .error failure => .failed ("Error: " ++ failure.message)

end TableWrite.CommandLine
