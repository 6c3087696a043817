import TableWrite.TableColumns

set_option autoImplicit false

namespace TableWrite

/-- The statements that write values. -/
inductive Writing where
  | insert
  | update
deriving DecidableEq

/-- Does the statement write this slot? -/
def Writing.touches : Writing → AuditSlot → Bool
  | insert, _ => true
  | update, s => s.onUpdate

inductive Role where
  /-- The row gives the value. -/
  | bound
  | autoIncrement
  | serverToken
  | versionToken
  | computed
  /-- The column fills an audit slot. -/
  | audit
  /-- The database fills the column. -/
  | defaulted
  | skipped
deriving DecidableEq

namespace TableColumns

/-- The server-side slots that a statement writes, with the names of their columns. -/
def slotsOf (t : TableColumns) (w : Writing) : List (AuditSlot × String) :=
  t.serverSlots.filter fun s => w.touches s.1

/-- The slots that a statement writes into a column. -/
def slotsInto (t : TableColumns) (w : Writing) (c : Column) : List AuditSlot :=
  ((t.slotsOf w).filter fun s => s.2 == c.name).map Prod.fst

/-- The first role in this order that fits the column. -/
def role (t : TableColumns) (w : Writing) (changed : Bool) (c : Column) : Role :=
  if !(t.slotsInto w c).isEmpty then .audit
  else if changed && c.ordinary then .bound
  else if c.autoIncrement then .autoIncrement
  else if c.serverToken then .serverToken
  else if c.versionToken then .versionToken
  else if c.computed then .computed
  else if t.isAudit c then .audit
  else if c.hasDefault then .defaulted
  else .skipped

/-- The role of a column when the columns named have changed. An update never assigns a key. -/
def roleIn (t : TableColumns) (w : Writing) (changed : List String) (c : Column) : Role :=
  let named := changed.contains c.name
  match w with
  | .insert => t.role .insert named c
  | .update => t.role .update (named && !c.primaryKey) c

/-- The names of the columns in a role, in their order. -/
def inRole (t : TableColumns) (w : Writing) (changed : List String) (role : Role) : List String :=
  (t.columns.filter fun c => t.roleIn w changed c == role).map Column.name

/-- The names of the columns of the primary key, in their order. -/
def keyNames (t : TableColumns) : List String :=
  (t.columns.filter Column.primaryKey).map Column.name

end TableColumns
end TableWrite
