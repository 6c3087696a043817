import TableWrite.Delimiters

set_option autoImplicit false

namespace TableWrite

structure Refresh where
  /-- The column that the database numbered. -/
  autoIncrement : Option String
  /-- The table or view to read from. -/
  source : Option String
  /-- The token that the database changed. -/
  serverToken : Option String
  /-- The token that the command changed. -/
  versionToken : Option String
  /-- The columns that the database filled. -/
  defaults : List String
  /-- The columns that find the row, if there are defaults to read. -/
  keys : List String
deriving DecidableEq

namespace Refresh

def empty : Refresh := ⟨none, none, none, none, [], []⟩

instance : Inhabited Refresh := ⟨empty⟩

/-- Are there defaults to read? -/
def needed (r : Refresh) : Bool := !r.defaults.isEmpty

/-- The keyed view: defaults are listed delimited, keys bare. -/
def entries (column : Delimiters) (r : Refresh) : List (String × String) :=
  let single (key : String) (name : Option String) : List (String × String) :=
    match name with
    | some n => [(key, n)]
    | none => []
  single "AutoInc" r.autoIncrement ++ single "Timestamp" r.serverToken ++
    single "Source" r.source ++ single "EntitySpacesConcurrency" r.versionToken ++
    if r.needed then
      [("Defaults", ",".intercalate (r.defaults.map column.wrap)),
       ("Where", ",".intercalate r.keys)]
    else []

/-- The entry of a key. -/
def get? (column : Delimiters) (r : Refresh) (key : String) : Option String :=
  (r.entries column).lookup key

theorem nodup_keys_entries (column : Delimiters) (r : Refresh) :
    ((r.entries column).map Prod.fst).Nodup := by
  rcases r with ⟨a, s, t, v, d, k⟩
  cases a <;> cases s <;> cases t <;> cases v <;> cases d <;>
    simp [entries, needed]

end Refresh
end TableWrite
