import TableWrite.Proofs.SharedCache

set_option autoImplicit false

namespace TableWrite

namespace Request

variable (d : Dialect) (r : Request)

/-- The table as the request and its provider name it, without query objects and texts. -/
def ownName : QualifiedName := r.qualify .none r.provider.destination

def ownText : String := r.ownName.text d d.table

/-- Does the request write the table that it and its provider name? -/
def KeepsTable : Prop := r.tableText d = r.ownText d

instance : Decidable (r.KeepsTable d) := inferInstanceAs (Decidable (_ = _))

/-- The request without its query object and its text. -/
def direct : Request := { r with queryText := none, queryNames := none }

/-- A request leaves its table only with a query object or with a text that names a table. -/
theorem keepsTable_of_undirected (objectless : r.queryNames = none)
    (textless : r.queryKind = .table → r.queryText = none) : r.KeepsTable d := by
  have untold : (if r.queryKind = .table then r.queryText else none) = none := by
    split
    · rename_i named
      exact textless named
    · rfl
  unfold KeepsTable tableText ownText tableName ownName
  rw [objectless, untold]
  rfl

theorem keepsTable_direct : r.direct.KeepsTable d :=
  keepsTable_of_undirected d r.direct rfl fun _ => rfl

theorem tableText_direct : r.direct.tableText d = r.ownText d := r.keepsTable_direct d

/-- The key names the table that the request and its provider name. -/
theorem ownName_eq_of_key {r q : Request} {d e : Dialect}
    (same : PrototypeKey.ofRequest r d = .ofRequest q e) : r.ownName = q.ownName := by
  have catalog := congrArg PrototypeKey.catalog same
  have schema := congrArg PrototypeKey.schema same
  have destination := congrArg PrototypeKey.destination same
  have named (r : Request) (d : Dialect) : r.ownName =
      ⟨(PrototypeKey.ofRequest r d).catalog, (PrototypeKey.ofRequest r d).schema,
        (PrototypeKey.ofRequest r d).destination⟩ := rfl
  rw [named r d, named q e, catalog, schema, destination]

end Request

theorem PrototypeKey.ofRequest_direct (r : Request) (d : Dialect) :
    ofRequest r.direct d = ofRequest r d := rfl

/-- Requests that keep their tables have different keys for different tables. -/
theorem PrototypeKey.ne_of_tableText_ne {d : Dialect} {r q : Request} (keeps : r.KeepsTable d)
    (other : q.KeepsTable d) (differ : q.tableText d ≠ r.tableText d) :
    ofRequest q d ≠ ofRequest r d := by
  intro same
  apply differ
  unfold Request.KeepsTable Request.ownText at keeps other
  rw [keeps, other, Request.ownName_eq_of_key same]

/-- The key of a request differs from those of the other tables, and the request never meets
their prototypes, exactly if the request keeps the table that it and its provider name. -/
theorem key_tells_tables_apart_iff (d : Dialect) (r : Request) :
    (∀ q : Request, q.KeepsTable d → q.tableText d ≠ r.tableText d →
      PrototypeKey.ofRequest q d ≠ .ofRequest r d ∧
        ∀ cache : PrototypeCache, (cache.asked q d).answer r d = cache.answer r d) ↔
      r.KeepsTable d := by
  constructor
  · intro apart
    by_contra leaves
    -- Without its query object and its text, the request has the same key and its own table.
    have differ : r.direct.tableText d ≠ r.tableText d := by
      intro same
      exact leaves (same.symm.trans (r.tableText_direct d))
    exact (apart r.direct (r.keepsTable_direct d) differ).1 (PrototypeKey.ofRequest_direct r d)
  · intro keeps q other differ
    have keys := PrototypeKey.ne_of_tableText_ne keeps other differ
    exact ⟨keys, fun cache => cache.answer_asked_of_key_ne keys.symm⟩

def Request.items : Request :=
  { blank with
    provider := { Provider.blank with destination := "Items" }
    table :=
      { TableColumns.empty with
        columns := [{ Column.ofName "Id" with primaryKey := true }, .ofName "Label"] } }

/-- A request that a query object leads to the items of another schema. -/
def Request.archivedItems : Request :=
  { items with
    queryNames := some { QueryNames.none with schema := some "archive" }
    table :=
      { TableColumns.empty with
        columns := [{ Column.ofName "Id" with primaryKey := true }, .ofName "Note"] } }

/-- A request that its text leads to a table where items wait. -/
def Request.stagedItems : Request :=
  { archivedItems with
    queryNames := none
    queryKind := .table
    queryText := some "ItemsStaging" }

/-- A table in another schema, and one that a text names, have the key of the provider's table.
Their updates can be built, but not after an update of that table. -/
theorem redirected_tables_share_key :
    let taken := (Build.run .standard .empty .items ["Label"] (.statement .update)).cache
    let built (cache : PrototypeCache) (r : Request) :=
      ((Build.run .standard cache r ["Note"] (.statement .update)).answer).map Command.text
    Request.items.tableText .standard = "[Items]" ∧
      (Request.archivedItems.tableText .standard = "[archive].[Items]" ∧
        PrototypeKey.ofRequest .archivedItems .standard = .ofRequest .items .standard ∧
        built .empty .archivedItems =
          .ok "UPDATE [archive].[Items] SET [Note] = @Note WHERE [Id] = @Id;" ∧
        built taken .archivedItems = .error (.unknownColumn "Items" "Note")) ∧
      Request.stagedItems.tableText .standard = "[ItemsStaging]" ∧
        PrototypeKey.ofRequest .stagedItems .standard = .ofRequest .items .standard ∧
        built .empty .stagedItems =
          .ok "UPDATE [ItemsStaging] SET [Note] = @Note WHERE [Id] = @Id;" ∧
        built taken .stagedItems = .error (.unknownColumn "Items" "Note") := by
  decide +kernel

end TableWrite
