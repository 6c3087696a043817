import TableWrite.Command
import TableWrite.Error
import TableWrite.Row

set_option autoImplicit false

namespace TableWrite

namespace Parameter

/-- The column that the parameter reads, if it sends a value and does not hold its own. -/
def reads? (p : Parameter) : Option String := if p.direction.sends then p.source else none

/-- The parameter with its value of the row. A column that the row lacks is the error. -/
def bind (r : Row) (p : Parameter) : Except String Parameter :=
  match p.reads? with
  | none => .ok p
  | some column =>
    match r.value? column p.image with
    | some v => .ok { p with value := v }
    | none => .error column

/-- Binds one parameter after the other up to the first that fails, which leaves the rest as
they are. -/
def bindAll (r : Row) : List Parameter → List Parameter × Option String
  | [] => ([], none)
  | p :: rest =>
    match p.bind r with
    | .error column => (p :: rest, some column)
    | .ok bound =>
      let (others, missing) := bindAll r rest
      (bound :: others, missing)

@[simp] theorem bindAll_nil (r : Row) : bindAll r [] = ([], none) := rfl

theorem bindAll_cons_ok {r : Row} {p bound : Parameter} (found : p.bind r = .ok bound)
    (rest : List Parameter) :
    bindAll r (p :: rest) = (bound :: (bindAll r rest).1, (bindAll r rest).2) := by
  simp [bindAll, found]

theorem bindAll_cons_error {r : Row} {p : Parameter} {column : String}
    (missing : p.bind r = .error column) (rest : List Parameter) :
    bindAll r (p :: rest) = (p :: rest, some column) := by
  simp [bindAll, missing]

theorem bindAll_eq_map {r : Row} {bound : Parameter → Parameter} {ps : List Parameter}
    (each : ∀ p ∈ ps, p.bind r = .ok (bound p)) : bindAll r ps = (ps.map bound, none) := by
  induction ps with
  | nil => rfl
  | cons p rest ih =>
    rw [bindAll_cons_ok (each p (by simp)), ih fun q mem => each q (by simp [mem])]
    rfl

end Parameter

namespace Command

/-- The command with the values of a row, as far as they were found. -/
def bindRow (r : Row) (c : Command) : Command :=
  { c with parameters := (Parameter.bindAll r c.parameters).1 }

/-- What keeps a row from being bound. -/
def bindError? (r : Row) (c : Command) : Option Error :=
  (Parameter.bindAll r c.parameters).2.map (.unknownColumn "row")

end Command
end TableWrite
