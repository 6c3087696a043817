import TableWrite.Keyed
import TableWrite.Parameter

set_option autoImplicit false

namespace TableWrite

inductive RowState where
  | added
  | modified
  | deleted
  | unchanged
deriving DecidableEq

/-- The values of one image by their columns. -/
abbrev Image := Keyed String Value

namespace Image

/-- Do both images have the same values in the same columns? -/
def same (a b : Image) : Bool :=
  a.length == b.length && a.all fun p =>
    match Keyed.get? b p.1 with
    | some v => p.2.same v
    | none => false

end Image

structure Row where
  state : RowState
  current : Image
  loaded : Image
deriving DecidableEq

namespace Row

/-- A new row, which was never read. -/
def added (values : List (String × Value)) : Row := ⟨.added, Keyed.ofList values, []⟩

/-- A row as it was read. -/
def unchanged (values : List (String × Value)) : Row :=
  ⟨.unchanged, Keyed.ofList values, Keyed.ofList values⟩

/-- Changes a value as it is now. -/
def set (column : String) (v : Value) (r : Row) : Row :=
  { r with
    current := Keyed.put column v r.current
    state := if r.state = .unchanged then .modified else r.state }

def delete (r : Row) : Row := { r with state := .deleted }

/-- The row after its values were stored. -/
def accept (r : Row) : Row := ⟨.unchanged, r.current, r.current⟩

/-- The values that an image shows. A deleted row is shown as it was read, an added one as it is
now. -/
def shown (r : Row) : RowImage → Image
  | .current => if r.state = .deleted then r.loaded else r.current
  | .loaded => if r.state = .added then r.current else r.loaded

def value? (r : Row) (column : String) (image : RowImage) : Option Value :=
  Keyed.get? (r.shown image) column

/-- Does a value as it is now differ from the one that was read? -/
def differs (r : Row) (p : String × Value) : Bool :=
  match Keyed.get? r.loaded p.1 with
  | some v => !v.same p.2
  | none => true

/-- The columns whose values differ, in the order of their characters. -/
def changedColumns (r : Row) : List String :=
  ((r.current.filter r.differs).map Prod.fst).mergeSort fun a b => a ≤ b

/-- The same state and the same values in both images. -/
def same (a b : Row) : Bool :=
  a.state == b.state && a.current.same b.current && a.loaded.same b.loaded

/-- One step in the life of a row. -/
inductive Edit where
  | set (column : String) (v : Value)
  | delete
  | accept
deriving DecidableEq

def Edit.apply : Edit → Row → Row
  | set column v, r => r.set column v
  | delete, r => r.delete
  | accept, r => r.accept

/-- The row after a run of steps. -/
def run (edits : List Edit) (r : Row) : Row := edits.foldl (fun r e => e.apply r) r

@[simp] theorem run_nil (r : Row) : run [] r = r := rfl

@[simp] theorem run_cons (e : Edit) (edits : List Edit) (r : Row) :
    run (e :: edits) r = run edits (e.apply r) := rfl

@[simp] theorem loaded_set (column : String) (v : Value) (r : Row) :
    (r.set column v).loaded = r.loaded := rfl

@[simp] theorem loaded_delete (r : Row) : r.delete.loaded = r.loaded := rfl

theorem loaded_run {edits : List Edit} {r : Row} (kept : .accept ∉ edits) :
    (run edits r).loaded = r.loaded := by
  induction edits generalizing r with
  | nil => rfl
  | cons e rest ih =>
    have parts : Edit.accept ≠ e ∧ .accept ∉ rest := by simpa using kept
    rw [run_cons, ih parts.2]
    cases e with
    | set column v => rfl
    | delete => rfl
    | accept => exact absurd rfl parts.1

end Row
end TableWrite
