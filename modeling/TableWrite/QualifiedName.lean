import TableWrite.Request

set_option autoImplicit false

namespace TableWrite

structure QualifiedName where
  catalog : Option String
  schema : Option String
  base : String
deriving DecidableEq

namespace QualifiedName

/-- The parts in front of the base name. A catalog is written only in front of a schema. -/
def qualifiers (n : QualifiedName) : List String :=
  match n.catalog, n.schema with
  | some catalog, some schema => [catalog, schema]
  | none, some schema => [schema]
  | _, none => []

/-- The name with its qualifiers delimited as tables and its base as given. -/
def text (d : Dialect) (base : Delimiters) (n : QualifiedName) : String :=
  ".".intercalate (n.qualifiers.map d.table.wrap ++ [base.wrap n.base])

end QualifiedName

namespace Request

/-- The catalog and schema of the request, else those of a query object, else those of the
provider, in front of a base name. -/
def qualify (r : Request) (q : QueryNames) (base : String) : QualifiedName where
  catalog := r.catalog <|> q.catalog <|> r.provider.catalog
  schema := r.schema <|> q.schema <|> r.provider.schema
  base := base

/-- The table that the request writes. -/
def tableName (r : Request) : QualifiedName :=
  let q := r.queryNames.getD .none
  let direct := if r.queryKind = .table then r.queryText else none
  r.qualify q ((q.table <|> direct).getD r.provider.destination)

/-- The table that a query object reads. -/
def queryName (r : Request) (q : QueryNames) : QualifiedName :=
  r.qualify q (q.table.getD r.provider.destination)

/-- A procedure of the request. No query object speaks of procedures. -/
def procedureName (r : Request) (procedure : String) : QualifiedName :=
  r.qualify .none procedure

def tableText (d : Dialect) (r : Request) : String := r.tableName.text d d.table

def queryTableText (d : Dialect) (r : Request) (q : QueryNames) : String :=
  (r.queryName q).text d d.table

def procedureText (d : Dialect) (r : Request) (procedure : String) : String :=
  (r.procedureName procedure).text d d.procedure

end Request
end TableWrite
