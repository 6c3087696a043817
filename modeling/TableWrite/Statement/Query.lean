import TableWrite.Request
import TableWrite.Statement.Template

set_option autoImplicit false

namespace TableWrite

namespace QueryParameter

/-- The parameter with nothing but a name and a value. -/
def byValue (d : Dialect) (q : QueryParameter) : Parameter :=
  (Parameter.ofType (d.parameterName q.name) (.ofValue q.value)).literal q.value

/-- The parameter with its direction, and for an output with its type as far as it is known. -/
def byName (d : Dialect) (q : QueryParameter) : Parameter :=
  let p := { q.byValue d with direction := q.direction }
  match q.direction with
  | .output =>
    { p with
      type := q.type.getD p.type
      size := q.size
      scale := q.scale
      precision := q.precision }
  | .input | .inputOutput | .returnValue => p

end QueryParameter

namespace Request

/-- Does the request's text have numbered tokens? -/
def positional (r : Request) : Bool :=
  match r.queryKind, r.queryText with
  | .text, some text => !(Template.tokens text.toList).isEmpty
  | _, _ => false

/-- The text with placeholders for the tokens that name a parameter of the request. -/
def withPlaceholders (d : Dialect) (r : Request) : Request :=
  { r with queryText := r.queryText.map fun text =>
      .ofList (Template.substitute d.placeholder.toList r.parameters.length text.toList) }

/-- The request after its parameters were bound. -/
def bound (d : Dialect) (r : Request) : Request :=
  if r.positional then r.withPlaceholders d else r

/-- The parameters that binding adds to a command. -/
def boundParameters (d : Dialect) (r : Request) : List Parameter :=
  r.parameters.map (if r.positional then QueryParameter.byValue d else QueryParameter.byName d)

/-- The command with the request's parameters behind its own. -/
def bindInto (d : Dialect) (r : Request) (c : Command) : Command :=
  { c with parameters := c.parameters ++ r.boundParameters d }

/-- The command of the request's text. Where tokens give way to placeholders, the parameters are
passed by their place in the list, and else by name. -/
def queryCommand (d : Dialect) (r : Request) : Except Error Command :=
  match (r.bound d).queryText with
  | some text => .ok { r.bindInto d (r.command r.queryKind.commandKind) with text := text }
  | none => .error .missingQueryText

/-- The parameters with the values that came back for them, the first missing one if there is
any. The parameters before a missing one have their values. -/
def gatherFrom (d : Dialect) (c : Command) :
    List QueryParameter → List QueryParameter × Option String
  | [] => ([], none)
  | q :: rest =>
    if q.direction.returns then
      let name := d.parameterName q.name
      match c.parameter? name with
      | some p =>
        let (others, missing) := gatherFrom d c rest
        ({ q with value := p.value } :: others, missing)
      | none => (q :: rest, some name)
    else
      let (others, missing) := gatherFrom d c rest
      (q :: others, missing)

/-- The request with the values that a command brought back. -/
def gathered (d : Dialect) (c : Command) (r : Request) : Request :=
  if c.parameters.isEmpty then r else { r with parameters := (gatherFrom d c r.parameters).1 }

/-- The parameters that a command brought values back for, if it has parameters at all. -/
def gather (d : Dialect) (c : Command) (r : Request) :
    Except Error (Option (List QueryParameter)) :=
  if c.parameters.isEmpty || r.parameters.isEmpty then .ok none
  else
    match gatherFrom d c r.parameters with
    | (_, some name) => .error (.unknownParameter name)
    | (parameters, none) => .ok (some (parameters.filter fun q => q.direction.returns))

end Request
end TableWrite
