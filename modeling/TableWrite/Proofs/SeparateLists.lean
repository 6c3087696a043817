import TableWrite.Build

set_option autoImplicit false

namespace TableWrite

/-- A loop that fails where collecting fails, and whose state is made of what was seen and of what
was collected, ends in the state that is made of all. -/
theorem foldlM_eq_map_collect {ε α β σ : Type} {f : α → Except ε (List β)}
    {step : σ → α → Except ε σ} {state : List α → List β → σ}
    (each : ∀ seen parts a, step (state seen parts) a =
      (f a).map fun part => state (seen ++ [a]) (parts ++ part))
    (xs seen : List α) (parts : List β) :
    xs.foldlM step (state seen parts) =
      (collect f xs).map fun rest => state (seen ++ xs) (parts ++ rest) := by
  induction xs generalizing seen parts with
  | nil => simp [Except.map, pure, Except.pure]
  | cons a rest ih =>
      rw [List.foldlM_cons, each]
      cases head : f a with
      | error e => simp [collect, head, Except.map, bind, Except.bind]
      | ok part =>
          have later := ih (seen ++ [a]) (parts ++ part)
          cases tail : collect f rest with
          | error e => simpa [collect, head, tail, Except.map, bind, Except.bind] using later
          | ok others => simpa [collect, head, tail, Except.map, bind, Except.bind] using later

/-- Of two such loops, one behind the other, the second goes on from what the first collected. -/
theorem foldlM_foldlM_eq_collect {ε α β γ σ τ : Type} {f : α → Except ε (List β)}
    {g : γ → Except ε (List β)} {first : σ → α → Except ε σ} {second : σ → γ → Except ε σ}
    {state : List α → List γ → List β → σ} (finish : σ → Except ε τ)
    (eachFirst : ∀ seen parts a, first (state seen [] parts) a =
      (f a).map fun part => state (seen ++ [a]) [] (parts ++ part))
    (eachSecond : ∀ all seen parts c, second (state all seen parts) c =
      (g c).map fun part => state all (seen ++ [c]) (parts ++ part))
    (xs : List α) (ys : List γ) :
    (do
      let s ← xs.foldlM first (state [] [] [])
      let s ← ys.foldlM second s
      finish s) =
    (do
      let parts ← collect f xs
      let others ← collect g ys
      finish (state xs ys (parts ++ others))) := by
  have firsts : xs.foldlM first (state [] [] []) =
      (collect f xs).map fun parts => state xs [] parts :=
    foldlM_eq_map_collect eachFirst xs [] []
  have seconds (parts : List β) : ys.foldlM second (state xs [] parts) =
      (collect g ys).map fun others => state xs ys (parts ++ others) :=
    foldlM_eq_map_collect (eachSecond xs) ys [] parts
  rw [firsts]
  cases collect f xs with
  | error e => rfl
  | ok parts =>
      dsimp only [Except.map, bind, Except.bind]
      rw [seconds]
      cases collect g ys <;> rfl

namespace TableColumns

variable (t : TableColumns) (w : Writing) (changed : List String)

/-- Of the columns that were seen, those in a role. -/
def seenInRole (role : Role) (seen : List Column) : List String :=
  (seen.filter fun c => t.roleIn w changed c == role).map Column.name

def seenKeys (seen : List Column) : List String := (seen.filter Column.primaryKey).map Column.name

theorem seenInRole_concat (role : Role) (seen : List Column) (c : Column) :
    t.seenInRole w changed role (seen ++ [c]) =
      t.seenInRole w changed role seen ++
        if t.roleIn w changed c = role then [c.name] else [] := by
  unfold seenInRole
  rw [List.filter_append, List.map_append]
  by_cases same : t.roleIn w changed c = role <;> simp [same]

theorem seenKeys_concat (seen : List Column) (c : Column) :
    seenKeys (seen ++ [c]) = seenKeys seen ++ if c.primaryKey then [c.name] else [] := by
  unfold seenKeys
  rw [List.filter_append, List.map_append]
  cases key : c.primaryKey <;> simp [key]

/-- An INSERT statement writes every slot that the database fills. -/
theorem serverSlots_eq_slotsOf : t.serverSlots = t.slotsOf .insert :=
  (List.filter_eq_self.mpr fun _ _ => rfl).symm

end TableColumns

/-- Where there are defaults to read, some keys are to find the row. -/
def Refresh.finding (f : Refresh) (keys : List String) : Refresh :=
  if f.needed then { f with keys := keys } else f

theorem Refresh.finding_eq {f : Refresh} (keys : List String) (unset : f.keys = []) :
    f.finding keys = { f with keys := if f.defaults.isEmpty then [] else keys } := by
  unfold finding needed
  cases f.defaults.isEmpty with
  | true =>
      rw [if_pos rfl, ← unset]
      rfl
  | false => rfl

open TableColumns

/-- What an INSERT statement is put together from, each list on its own, and what is to be read
again after it. -/
structure InsertLists where
  columns : List String
  values : List String
  parameters : List Parameter
  refresh : Refresh
  keys : List String

namespace InsertLists

def empty : InsertLists := ⟨[], [], [], .empty, []⟩

variable (d : Dialect) (s : Prototypes) (r : Request) (changed : List String)

def addRole (l : InsertLists) (c : Column) : Except Error InsertLists :=
  match r.table.roleIn .insert changed c with
  | .bound => do
    let p ← s.parameter c.name
    return { l with
      columns := l.columns ++ [d.column.wrap c.name]
      values := l.values ++ [p.name]
      parameters := l.parameters ++ [p] }
  | .autoIncrement =>
    .ok { l with refresh := { l.refresh with
      autoIncrement := some c.name
      source := some r.provider.source } }
  | .serverToken =>
    .ok { l with refresh := { l.refresh with
      serverToken := some c.name
      source := some r.provider.source } }
  | .versionToken => do
    let p ← s.parameter c.name
    return { l with
      columns := l.columns ++ [d.column.wrap c.name]
      values := l.values ++ ["1"]
      parameters := l.parameters ++ [p.literal (.integer 1)]
      refresh := { l.refresh with versionToken := some c.name } }
  | .defaulted =>
    .ok { l with refresh := { l.refresh with defaults := l.refresh.defaults ++ [c.name] } }
  | .computed | .audit | .skipped => .ok l

def addColumn (l : InsertLists) (c : Column) : Except Error InsertLists := do
  let l ← addRole d s r changed l c
  return if c.primaryKey then { l with keys := l.keys ++ [c.name] } else l

def addSlot (l : InsertLists) (slot : AuditSlot × String) : Except Error InsertLists := do
  let text ← r.provider.serverText slot.1
  return { l with
    columns := l.columns ++ [d.column.wrap slot.2]
    values := l.values ++ [text]
    refresh := { l.refresh with defaults := l.refresh.defaults ++ [slot.2] } }

def text (l : InsertLists) : String :=
  if l.columns.isEmpty then "INSERT INTO " ++ r.tableText d ++ " DEFAULT VALUES"
  else "INSERT INTO " ++ r.tableText d ++ " (" ++ ", ".intercalate l.columns ++ ") VALUES (" ++
    ", ".intercalate l.values ++ ")"

def command (l : InsertLists) : Command × Refresh :=
  ({ r.command .text with text := l.text d r, parameters := l.parameters },
    l.refresh.finding l.keys)

/-- Fills the lists side by side, column by column, then slot by slot. -/
def run : Except Error (Command × Refresh) := do
  let l ← r.table.columns.foldlM (addColumn d s r changed) empty
  let l ← r.table.serverSlots.foldlM (addSlot d r) l
  return l.command d r

/-- The lists after some columns and slots that contributed some cells. -/
def ofCells (seen : List Column) (slots : List (AuditSlot × String)) (cells : List Cell) :
    InsertLists where
  columns := cells.map fun c => d.column.wrap c.column
  values := cells.map fun c => c.value.text
  parameters := cells.filterMap fun c => c.value.parameter?
  refresh :=
    let named (role : Role) := r.table.seenInRole .insert changed role seen
    let numbered := (named .autoIncrement).getLast?
    let stamped := (named .serverToken).getLast?
    { autoIncrement := numbered
      source := if numbered.isSome || stamped.isSome then some r.provider.source else none
      serverToken := stamped
      versionToken := (named .versionToken).getLast?
      defaults := named .defaulted ++ slots.map Prod.snd
      keys := [] }
  keys := seenKeys seen

theorem addColumn_ofCells (seen : List Column) (cells : List Cell) (c : Column) :
    addColumn d s r changed (ofCells d r changed seen [] cells) c =
      (InsertStatement.columnCells s r changed c).map fun new =>
        ofCells d r changed (seen ++ [c]) [] (cells ++ new) := by
  unfold addColumn addRole InsertStatement.columnCells
  cases key : c.primaryKey <;> cases role : r.table.roleIn .insert changed c <;>
    cases s.parameter c.name <;>
    simp [ofCells, seenInRole_concat, seenKeys_concat, role, key, Except.map, bind, Except.bind,
      pure, Except.pure, CellValue.text, CellValue.parameter?]

theorem addSlot_ofCells (seen : List Column) (slots : List (AuditSlot × String))
    (cells : List Cell) (slot : AuditSlot × String) :
    addSlot d r (ofCells d r changed seen slots cells) slot =
      (InsertStatement.slotCells r.provider slot).map fun new =>
        ofCells d r changed seen (slots ++ [slot]) (cells ++ new) := by
  unfold addSlot InsertStatement.slotCells
  cases r.provider.serverText slot.1 <;>
    simp [ofCells, Except.map, bind, Except.bind, pure, Except.pure, CellValue.text,
      CellValue.parameter?]

theorem command_ofCells (cells : List Cell) :
    (ofCells d r changed r.table.columns (r.table.slotsOf .insert) cells).command d r =
      ({ r.command .text with
          text := InsertStatement.text d ⟨r.tableText d, cells⟩
          parameters := InsertStatement.parameters ⟨r.tableText d, cells⟩ },
        InsertStatement.refresh r changed) := by
  refine Prod.ext ?_ (Refresh.finding_eq _ rfl)
  cases cells <;> rfl

/-- The lists come to the statement whose cells hold a column, its value and its parameter
together. -/
theorem run_eq_statementCommand :
    run d s r changed = Build.statementCommand d s r changed .insert := by
  unfold run Build.statementCommand InsertStatement.ofRequest
  rw [serverSlots_eq_slotsOf]
  refine (foldlM_foldlM_eq_collect (fun l => pure (l.command d r))
    (addColumn_ofCells d s r changed) (addSlot_ofCells d r changed) _ _).trans ?_
  simp only [bind_assoc, pure_bind, command_ofCells]

end InsertLists

/-- What an UPDATE statement is put together from. The parameters of its conditions wait in a list
of their own until those of its assignments are there. -/
structure UpdateLists where
  assignments : List String
  conditions : List String
  parameters : List Parameter
  conditionParameters : List Parameter
  refresh : Refresh
  keys : List String

namespace UpdateLists

def empty : UpdateLists := ⟨[], [], [], [], .empty, []⟩

variable (d : Dialect) (s : Prototypes) (r : Request) (changed : List String)

def require (l : UpdateLists) (c : Column) : Except Error UpdateLists := do
  let p ← s.parameter c.name
  let original := p.reading .loaded
  return { l with
    conditions := l.conditions ++ [d.column.wrap c.name ++ " = " ++ original.name]
    conditionParameters := l.conditionParameters ++ [original] }

def addRole (l : UpdateLists) (c : Column) : Except Error UpdateLists :=
  match r.table.roleIn .update changed c with
  | .bound => do
    let p ← s.parameter c.name
    return { l with
      assignments := l.assignments ++ [d.column.wrap c.name ++ " = " ++ p.name]
      parameters := l.parameters ++ [p] }
  | .serverToken => l.require d s c
  | .versionToken => do
    let l ← l.require d s c
    let target := d.column.wrap c.name
    return { l with
      assignments := l.assignments ++ [target ++ " = " ++ target ++ " + 1"]
      refresh := { l.refresh with versionToken := some c.name } }
  | .autoIncrement | .computed | .audit | .defaulted | .skipped => .ok l

def addColumn (l : UpdateLists) (c : Column) : Except Error UpdateLists := do
  let l ← addRole d s r changed l c
  if c.primaryKey then
    let l ← l.require d s c
    return { l with keys := l.keys ++ [c.name] }
  else return l

def addSlot (l : UpdateLists) (slot : AuditSlot × String) : Except Error UpdateLists := do
  let text ← r.provider.serverText slot.1
  return { l with
    assignments := l.assignments ++ [d.column.wrap slot.2 ++ " = " ++ text]
    refresh := { l.refresh with defaults := l.refresh.defaults ++ [slot.2] } }

def addTouchedSlot (l : UpdateLists) (slot : AuditSlot × String) : Except Error UpdateLists :=
  if Writing.update.touches slot.1 then addSlot d r l slot else pure l

def text (l : UpdateLists) : String :=
  "UPDATE " ++ r.tableText d ++ " SET " ++ ", ".intercalate l.assignments ++ " " ++
    ("WHERE " ++ " AND ".intercalate l.conditions) ++ ";"

def command? (l : UpdateLists) : Except Error (Command × Refresh) :=
  if l.assignments.isEmpty then .error (.emptyClause (r.tableText d) .assignments)
  else if l.conditions.isEmpty then .error (.emptyClause (r.tableText d) .conditions)
  else .ok ({ r.command .text with
    text := l.text d r
    parameters := l.parameters ++ l.conditionParameters }, l.refresh.finding l.keys)

/-- Fills the lists side by side, column by column, then slot by slot. -/
def run : Except Error (Command × Refresh) := do
  let l ← r.table.columns.foldlM (addColumn d s r changed) empty
  let l ← r.table.serverSlots.foldlM (addTouchedSlot d r) l
  l.command? d r

/-- The lists after some columns and slots that contributed to both clauses. -/
def ofClauses (seen : List Column) (slots : List (AuditSlot × String))
    (assignments : List Assignment) (conditions : List Condition) : UpdateLists where
  assignments := assignments.map (Assignment.text d)
  conditions := conditions.map (Condition.text d)
  parameters := assignments.filterMap Assignment.parameter?
  conditionParameters := conditions.map Condition.parameter
  refresh := { Refresh.empty with
    versionToken := (r.table.seenInRole .update changed .versionToken seen).getLast?
    defaults := slots.map Prod.snd }
  keys := seenKeys seen

def ofTerms (seen : List Column) (slots : List (AuditSlot × String)) (terms : List UpdateTerm) :
    UpdateLists :=
  ofClauses d r changed seen slots (terms.filterMap UpdateTerm.assignment?)
    (terms.filterMap UpdateTerm.condition?)

theorem addColumn_ofTerms (seen : List Column) (terms : List UpdateTerm) (c : Column) :
    addColumn d s r changed (ofTerms d r changed seen [] terms) c =
      (UpdateStatement.columnTerms s r changed c).map fun new =>
        ofTerms d r changed (seen ++ [c]) [] (terms ++ new) := by
  unfold addColumn addRole require UpdateStatement.columnTerms UpdateStatement.roleTerms
    UpdateStatement.unchanged
  cases key : c.primaryKey <;> cases role : r.table.roleIn .update changed c <;>
    cases s.parameter c.name <;>
    simp [ofTerms, ofClauses, List.filterMap_cons, seenInRole_concat, seenKeys_concat, role, key,
      Except.map, bind, Except.bind, pure, Except.pure, UpdateTerm.assignment?,
      UpdateTerm.condition?, Assignment.text, Assignment.column, Assignment.parameter?,
      Condition.text]

theorem addSlot_ofTerms (seen : List Column) (slots : List (AuditSlot × String))
    (terms : List UpdateTerm) (slot : AuditSlot × String) :
    addSlot d r (ofTerms d r changed seen slots terms) slot =
      (UpdateStatement.slotTerms r.provider slot).map fun new =>
        ofTerms d r changed seen (slots ++ [slot]) (terms ++ new) := by
  unfold addSlot UpdateStatement.slotTerms
  cases r.provider.serverText slot.1 <;>
    simp [ofTerms, ofClauses, Except.map, bind, Except.bind, pure, Except.pure,
      UpdateTerm.assignment?, UpdateTerm.condition?, Assignment.text, Assignment.column,
      Assignment.parameter?]

theorem command?_ofTerms (terms : List UpdateTerm) :
    (ofTerms d r changed r.table.columns (r.table.slotsOf .update) terms).command? d r = do
      let statement ← UpdateStatement.ofTerms (r.tableText d) terms
      return ({ r.command .text with
          text := statement.text d
          parameters := statement.parameters },
        UpdateStatement.refresh r changed) := by
  unfold ofTerms UpdateStatement.ofTerms
  dsimp only
  generalize terms.filterMap UpdateTerm.assignment? = assignments
  generalize terms.filterMap UpdateTerm.condition? = conditions
  cases assignments with
  | nil => rfl
  | cons a assignments =>
      cases conditions with
      | nil => rfl
      | cons c conditions =>
          refine congrArg Except.ok (Prod.ext rfl ?_)
          exact Refresh.finding_eq _ rfl

theorem foldlM_addTouchedSlot (l : UpdateLists) :
    r.table.serverSlots.foldlM (addTouchedSlot d r) l =
      (r.table.slotsOf .update).foldlM (addSlot d r) l := by
  unfold addTouchedSlot
  rw [← List.foldlM_filter]
  rfl

/-- The lists come to the statement that is made of one list of terms. -/
theorem run_eq_statementCommand :
    run d s r changed = Build.statementCommand d s r changed .update := by
  unfold run Build.statementCommand UpdateStatement.ofRequest
  simp only [foldlM_addTouchedSlot]
  refine (foldlM_foldlM_eq_collect (fun l => l.command? d r)
    (addColumn_ofTerms d s r changed) (addSlot_ofTerms d r changed) _ _).trans ?_
  simp only [bind_assoc, command?_ofTerms]

end UpdateLists

end TableWrite
