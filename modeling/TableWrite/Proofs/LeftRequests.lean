import TableWrite.Proofs.FailedBuilds
import TableWrite.Proofs.StaleRefresh
import TableWrite.Proofs.TermOutlines
import TableWrite.Proofs.UpdateAlignment

set_option autoImplicit false

namespace TableWrite

/-- Do prototypes lack a column of the table, and is that the error? -/
def Prototypes.Misses (s : Prototypes) (t : TableColumns) (e : Error) : Prop :=
  ∃ c ∈ t.columns, Keyed.get? s.parameters c.name = none ∧ e = .unknownColumn s.table c.name

section

variable {s : Prototypes} {t : TableColumns} {c : Column} {e : Error}

theorem Prototypes.misses_of_parameter (mem : c ∈ t.columns)
    (failed : s.parameter c.name = .error e) : s.Misses t e := by
  unfold parameter at failed
  split at failed
  · cases failed
  · next missing => exact ⟨c, mem, missing, (Except.error.inj failed).symm⟩

/-- Where each column fails for want of its prototype only, so do all of them. -/
theorem Prototypes.misses_of_collect {β : Type} {f : Column → Except Error (List β)}
    (each : ∀ c e, f c = .error e → s.parameter c.name = .error e)
    (failed : collect f t.columns = .error e) : s.Misses t e := by
  obtain ⟨c, mem, fails⟩ := exists_of_collect_error failed
  exact misses_of_parameter mem (each c e fails)

end

namespace InsertStatement

variable {d : Dialect} {s : Prototypes} {r : Request} {changed : List String} {e : Error}

theorem parameter_of_columnCells (c : Column) (e : Error)
    (failed : columnCells s r changed c = .error e) : s.parameter c.name = .error e := by
  unfold columnCells at failed
  split at failed
  · exact made_eq_error_iff.mp failed
  · exact made_eq_error_iff.mp failed
  · cases failed

/-- With every prototype that it needs, an insert fails where it would with an empty cache. -/
theorem error_cases (table : String) (failed : ofRequest d s r changed = .error e) :
    s.Misses r.table e ∨ ofRequest d (.ofColumns table r.table.columns d) r changed = .error e := by
  rcases bind_eq_error_iff.mp failed with columns | ⟨cells, -, slots⟩
  · exact .inl (Prototypes.misses_of_collect parameter_of_columnCells columns)
  · right
    have columns := collect_ok (columnCells_ofColumns d table r changed)
    apply bind_eq_error_iff.mpr
    exact .inr ⟨_, columns, bind_eq_error_iff.mpr (.inl (made_eq_error_iff.mp slots))⟩

end InsertStatement

namespace UpdateStatement

variable {d : Dialect} {s : Prototypes} {r : Request} {changed : List String} {e : Error}
  {c : Column}

theorem parameter_of_unchanged (failed : unchanged s c = .error e) :
    s.parameter c.name = .error e :=
  made_eq_error_iff.mp failed

theorem parameter_of_roleTerms (failed : roleTerms s r changed c = .error e) :
    s.parameter c.name = .error e := by
  unfold roleTerms at failed
  split at failed
  · exact made_eq_error_iff.mp failed
  · exact parameter_of_unchanged (made_eq_error_iff.mp failed)
  · exact parameter_of_unchanged (made_eq_error_iff.mp failed)
  · cases failed

theorem parameter_of_columnTerms (c : Column) (e : Error)
    (failed : columnTerms s r changed c = .error e) : s.parameter c.name = .error e := by
  rcases bind_eq_error_iff.mp failed with ofRole | ⟨terms, -, ofKey⟩
  · exact parameter_of_roleTerms ofRole
  · cases key : c.primaryKey with
    | false =>
        rw [key] at ofKey
        cases ofKey
    | true =>
        rw [key] at ofKey
        exact parameter_of_unchanged (made_eq_error_iff.mp ofKey)

/-- Whether a clause would be empty shows in the outline of the terms. -/
theorem ofTerms_of_outline {table : String} {terms others : List UpdateTerm}
    (same : terms.map UpdateTerm.outline = others.map UpdateTerm.outline)
    (failed : ofTerms table terms = .error e) : ofTerms table others = .error e := by
  have assigned (terms : List UpdateTerm) : (terms.filterMap UpdateTerm.assignment?).isEmpty =
      ((terms.map UpdateTerm.outline).filterMap Sum.getLeft?).isEmpty := by
    rw [← assignedColumns_eq_outline, List.isEmpty_map]
  have required (terms : List UpdateTerm) : (terms.filterMap UpdateTerm.condition?).isEmpty =
      ((terms.map UpdateTerm.outline).filterMap Sum.getRight?).isEmpty := by
    rw [← requiredColumns_eq_outline, requiredColumns, List.isEmpty_map]
  simp only [ofTerms, assigned, required, same] at failed ⊢
  split at failed
  · next unassigned =>
    rw [if_pos unassigned]
    exact failed
  · next assigns =>
    rw [if_neg assigns]
    split at failed
    · next unfound =>
      rw [if_pos unfound]
      exact failed
    · cases failed

/-- With every prototype that it needs, an update fails where it would with an empty cache. -/
theorem error_cases (table : String) (failed : ofRequest d s r changed = .error e) :
    s.Misses r.table e ∨ ofRequest d (.ofColumns table r.table.columns d) r changed = .error e := by
  rcases bind_eq_error_iff.mp failed with columns | ⟨terms, made, rest⟩
  · exact .inl (Prototypes.misses_of_collect parameter_of_columnTerms columns)
  · right
    have fresh := collect_ok (columnTerms_ofColumns d table r changed)
    apply bind_eq_error_iff.mpr
    refine .inr ⟨_, fresh, ?_⟩
    rcases bind_eq_error_iff.mp rest with slots | ⟨slots, written, assembled⟩
    · exact bind_eq_error_iff.mpr (.inl slots)
    · refine bind_eq_error_iff.mpr (.inr ⟨slots, written, ?_⟩)
      -- The terms differ in their parameters at most, and so not in what clause is empty.
      refine ofTerms_of_outline ?_ assembled
      rw [List.map_append, List.map_append, outline_of_collect made, outline_of_collect fresh]

end UpdateStatement

namespace DeleteStatement

variable {d : Dialect} {s : Prototypes} {r : Request} {e : Error}

theorem parameter_of_columnConditions (c : Column) (e : Error)
    (failed : columnConditions s c = .error e) : s.parameter c.name = .error e := by
  unfold columnConditions at failed
  split at failed
  · exact made_eq_error_iff.mp failed
  · cases failed

/-- With every prototype that it needs, a delete fails where it would with an empty cache. -/
theorem error_cases (table : String) (failed : ofRequest d s r = .error e) :
    s.Misses r.table e ∨ ofRequest d (.ofColumns table r.table.columns d) r = .error e := by
  rcases bind_eq_error_iff.mp failed with columns | ⟨conditions, made, assembled⟩
  · exact .inl (Prototypes.misses_of_collect parameter_of_columnConditions columns)
  · right
    have fresh := collect_selected (columnConditions_ofColumns d table r)
    have same := (columns_of_collect made).trans (columns_of_collect fresh).symm
    refine bind_eq_error_iff.mpr (.inr ⟨_, fresh, ?_⟩)
    have emptied := congrArg List.isEmpty same
    rw [List.isEmpty_map, List.isEmpty_map] at emptied
    unfold ofConditions at assembled ⊢
    rw [← emptied]
    split at assembled
    · next unfound =>
      rw [if_pos unfound]
      exact assembled
    · cases assembled

end DeleteStatement

namespace ProcedureCall

variable {d : Dialect} {s : Prototypes} {r : Request} {e : Error}

theorem parameter_of_rowParameters (c : Column) (e : Error)
    (failed : rowParameters s c = .error e) : s.parameter c.name = .error e :=
  made_eq_error_iff.mp failed

theorem parameter_of_keyParameters (c : Column) (e : Error)
    (failed : keyParameters s c = .error e) : s.parameter c.name = .error e := by
  unfold keyParameters at failed
  split at failed
  · exact made_eq_error_iff.mp failed
  · split at failed
    · exact made_eq_error_iff.mp failed
    · cases failed

/-- A call that passes a column has a parameter of the name of its prototype. -/
theorem exists_name_of_collect {columns : List Column} {rows : List Parameter}
    (made : collect (rowParameters s) columns = .ok rows) {c : Column} (mem : c ∈ columns) :
    ∃ p, s.parameter c.name = .ok p ∧ p.name ∈ rows.map Parameter.name := by
  obtain ⟨part, passed, within⟩ := exists_of_collect_ok made mem
  obtain ⟨p, found, same⟩ := bind_eq_ok_iff.mp passed
  cases same
  have there := within (rowParameter c p) List.mem_cons_self
  exact ⟨p, found, List.mem_map.mpr ⟨_, there, rfl⟩⟩

/-- No parameter is missed that a whole row passes. -/
theorem exists_returningAll {returned : List Column} {ps : List Parameter}
    (named : ∀ c ∈ returned, ∃ p, s.parameter c.name = .ok p ∧ p.name ∈ ps.map Parameter.name) :
    ∃ passed, returningAll s returned ps = .ok passed := by
  induction returned generalizing ps with
  | nil => exact ⟨ps, rfl⟩
  | cons c rest ih =>
      obtain ⟨p, found, present⟩ := named c List.mem_cons_self
      have kept : (Command.updateFirst (fun q => q.name == p.name) Parameter.returned ps).map
          Parameter.name = ps.map Parameter.name :=
        map_updateFirst Parameter.name_returned _ ps
      have later := @ih (Command.updateFirst (fun q => q.name == p.name) Parameter.returned ps) ?_
      · unfold returningAll
        rw [found]
        change ∃ passed, (returning p.name ps >>= _) = _
        rw [returning_of_mem present]
        exact later
      · intro other mem
        rw [kept]
        exact named other (List.mem_cons_of_mem c mem)

theorem misses_of_returningAll {returned : Column → Bool}
    (failed : (do
      returningAll s (r.table.columns.filter returned)
        (← collect (rowParameters s) r.table.columns)) = .error e) : s.Misses r.table e := by
  rcases bind_eq_error_iff.mp failed with columns | ⟨rows, made, missed⟩
  · exact Prototypes.misses_of_collect parameter_of_rowParameters columns
  · obtain ⟨passed, done⟩ := exists_returningAll fun c mem =>
      exists_name_of_collect made (List.mem_of_mem_filter mem)
    rw [done] at missed
    cases missed

/-- A call fails for want of a prototype only. -/
theorem misses_of_error {a : Action} {procedure : String}
    (failed : ofRequest d s r a procedure = .error e) : s.Misses r.table e := by
  have passed := made_eq_error_iff.mp failed
  cases a with
  | insert => exact misses_of_returningAll passed
  | update => exact misses_of_returningAll passed
  | delete => exact Prototypes.misses_of_collect parameter_of_keyParameters passed

end ProcedureCall

namespace Build

variable (d : Dialect) (cache : PrototypeCache) (r : Request) (changed : List String)

/-- Whatever the cache answers with, a build misses a prototype or fails as it would with an empty
cache. -/
theorem error_cases {b : Build} {e : Error} (failed : (run d cache r changed b).answer = .error e) :
    (cache.answer r d).Misses r.table e ∨ Fault d r changed b e := by
  cases b with
  | statement a =>
      cases a with
      | insert =>
          rw [answer_insert_eq_error_iff] at failed
          refine (InsertStatement.error_cases r.provider.destination failed).imp_right ?_
          intro fresh
          apply (insert_fails_iff d r changed e).mp
          exact (answer_insert_eq_error_iff _ _ _ _ _).mpr fresh
      | update =>
          rw [answer_update_eq_error_iff] at failed
          refine (UpdateStatement.error_cases r.provider.destination failed).imp_right ?_
          intro fresh
          apply (update_fails_iff d r changed e).mp
          exact (answer_update_eq_error_iff _ _ _ _ _).mpr fresh
      | delete =>
          rw [answer_delete_eq_error_iff] at failed
          refine (DeleteStatement.error_cases r.provider.destination failed).imp_right ?_
          intro fresh
          apply (delete_fails_iff d r changed e).mp
          exact (answer_delete_eq_error_iff _ _ _ _ _).mpr fresh
  | procedure a =>
      rcases (answer_procedure_eq_error_iff _ _ _ _ _ _).mp failed with
        ⟨unnamed, rfl⟩ | ⟨name, -, missed⟩
      · exact .inr (.noProcedure a unnamed)
      · exact .inl (ProcedureCall.misses_of_error missed)
  | query => exact .inr ((query_fails_iff d r changed e).mp failed)

end Build

/-- Whatever the cache holds and whatever was left before, a statement or a call changes nothing of
its request but what is to be read again. If it succeeds, that is what the build leaves; if it
fails, nothing, whether a prototype is missing among those of the cache or it would also have failed
with an empty one. -/
theorem build_leaves_request (d : Dialect) (cache : PrototypeCache) (r : Request)
    (changed : List String) (b : Build) (written : b ≠ .query) :
    (∀ command, (Build.run d cache r changed b).answer = .ok command →
        (Build.run d cache r changed b).request = r.withRefresh (b.leaves r changed)) ∧
      ∀ e, (Build.run d cache r changed b).answer = .error e →
        (Build.run d cache r changed b).request = r.withRefresh .empty ∧
          ((cache.answer r d).Misses r.table e ∨ Build.Fault d r changed b e) := by
  constructor
  · intro command answered
    exact Build.request_of_ok written answered
  · intro e failed
    exact ⟨Build.request_of_error written failed, Build.error_cases d cache r changed failed⟩

def PrototypeCache.someOrders : PrototypeCache :=
  [(.ofRequest .orders .standard,
    .ofColumns "some orders" (Request.orders.table.columns.take 2) .standard)]

/-- The update of an order has a condition and an assignment when it misses the version; nothing is
left of them, nor of what an insert had left. -/
theorem orders_update_misses_version :
    Build.statement .update ≠ .query ∧
      (Build.run .standard .someOrders (Request.orders.withRefresh .numberedId) ["Unit Price"]
        (.statement .update)).answer = .error (.unknownColumn "some orders" "Version") ∧
      (Build.run .standard .someOrders (Request.orders.withRefresh .numberedId) ["Unit Price"]
        (.statement .update)).request = Request.orders.withRefresh .empty := by
  have failed : (Build.run .standard .someOrders (Request.orders.withRefresh .numberedId)
      ["Unit Price"] (.statement .update)).answer =
        .error (.unknownColumn "some orders" "Version") := by
    decide +kernel
  have written : Build.statement .update ≠ .query := by decide
  exact ⟨written, failed, ((build_leaves_request _ _ _ _ _ written).2 _ failed).1⟩

end TableWrite
