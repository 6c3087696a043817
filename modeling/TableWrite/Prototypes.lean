import TableWrite.Request

set_option autoImplicit false

namespace TableWrite

/-- The prototypes of the columns of one table. -/
structure Prototypes where
  table : String
  parameters : Keyed String Parameter
deriving DecidableEq

namespace Prototypes

/-- The last of several columns with one name gives its prototype. -/
def ofColumns (table : String) (columns : List Column) (d : Dialect) : Prototypes where
  table := table
  parameters := Keyed.ofList (columns.map fun c => (c.name, .ofColumn d c))

def size (s : Prototypes) : Nat := s.parameters.length

/-- The prototype of a column. -/
def parameter (s : Prototypes) (column : String) : Except Error Parameter :=
  match Keyed.get? s.parameters column with
  | some p => .ok p
  | none => .error (.unknownColumn s.table column)

end Prototypes

/-- What prototypes are kept under. -/
structure PrototypeKey where
  catalog : Option String
  schema : Option String
  destination : String
  parameterMark : String
deriving DecidableEq

def PrototypeKey.ofRequest (r : Request) (d : Dialect) : PrototypeKey where
  catalog := r.catalog <|> r.provider.catalog
  schema := r.schema <|> r.provider.schema
  destination := r.provider.destination
  parameterMark := d.parameterMark

abbrev PrototypeCache := Keyed PrototypeKey Prototypes

namespace PrototypeCache

def empty : PrototypeCache := []

def get? (cache : PrototypeCache) (key : PrototypeKey) : Option Prototypes := Keyed.get? cache key

/-- Puts in a set that was built elsewhere, in the place of one that is there. -/
def insert (cache : PrototypeCache) (key : PrototypeKey) (set : Prototypes) : PrototypeCache :=
  Keyed.put key set cache

def size (cache : PrototypeCache) : Nat := cache.length

def clear (_ : PrototypeCache) : PrototypeCache := empty

/-- The prototypes that a cache answers with: those it holds, or else those of the columns. -/
def answer (cache : PrototypeCache) (r : Request) (d : Dialect) : Prototypes :=
  let key := PrototypeKey.ofRequest r d
  (Keyed.get? cache key).getD (.ofColumns key.destination r.table.columns d)

/-- The cache after it was asked for the prototypes of a request. -/
def asked (cache : PrototypeCache) (r : Request) (d : Dialect) : PrototypeCache :=
  let key := PrototypeKey.ofRequest r d
  if (Keyed.get? cache key).isSome then cache else Keyed.put key (cache.answer r d) cache

theorem get?_asked (cache : PrototypeCache) (r : Request) (d : Dialect) :
    Keyed.get? (cache.asked r d) (.ofRequest r d) = some (cache.answer r d) := by
  simp only [asked]
  split
  · next held =>
    obtain ⟨set, found⟩ := Option.isSome_iff_exists.1 held
    simp [answer, found]
  · exact Keyed.lookup_put_self _ _ _

theorem get?_asked_of_ne (cache : PrototypeCache) (r : Request) (d : Dialect) (key : PrototypeKey)
    (differ : key ≠ .ofRequest r d) :
    Keyed.get? (cache.asked r d) key = Keyed.get? cache key := by
  simp only [asked]
  split
  · rfl
  · exact Keyed.lookup_put_of_ne _ _ differ

end PrototypeCache
end TableWrite
