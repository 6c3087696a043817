import TableWrite.Proofs.UpdateAlignment

set_option autoImplicit false

namespace TableWrite

/-- A name that is seen again in a list of names between commas. -/
def Listable (name : String) : Prop := name ≠ "" ∧ ',' ∉ name.toList

instance (name : String) : Decidable (Listable name) := inferInstanceAs (Decidable (_ ∧ _))

structure TableColumns.Listable (t : TableColumns) : Prop where
  columns : ∀ c ∈ t.columns, TableWrite.Listable c.name
  slots : ∀ s audit, t.slot s = some audit → TableWrite.Listable audit.column

def Delimiters.CommaFree (d : Delimiters) : Prop := ',' ∉ d.opening.toList ∧ ',' ∉ d.closing.toList

instance (d : Delimiters) : Decidable d.CommaFree := inferInstanceAs (Decidable (_ ∧ _))

theorem Listable.wrap {d : Delimiters} (apart : d.CommaFree) {name : String}
    (listable : Listable name) : Listable (d.wrap name) := by
  obtain ⟨named, free⟩ := listable
  unfold Delimiters.wrap
  constructor
  · intro empty
    rw [String.append_eq_empty_iff, String.append_eq_empty_iff] at empty
    exact named empty.1.2
  · rw [String.toList_append, String.toList_append, List.mem_append, List.mem_append]
    rintro ((inOpening | inName) | inClosing)
    · exact apart.1 inOpening
    · exact free inName
    · exact apart.2 inClosing

theorem intercalate_ne_empty {name : String} {rest : List String} (listable : Listable name) :
    ",".intercalate (name :: rest) ≠ "" := by
  cases rest with
  | nil =>
      rw [String.intercalate_singleton]
      exact listable.1
  | cons next rest =>
      rw [String.intercalate_cons_cons]
      intro empty
      rw [String.append_eq_empty_iff, String.append_eq_empty_iff] at empty
      exact listable.1 empty.1.1

/-- Cut at its commas, a list of names shows them again. -/
theorem splitOn_intercalate_toList {names : List String} (listable : ∀ n ∈ names, Listable n)
    (present : names ≠ []) :
    List.splitOn ',' (",".intercalate names).toList = names.map String.toList := by
  have free : ∀ chars ∈ names.map String.toList, ',' ∉ chars := by
    intro chars mem
    obtain ⟨name, inside, rfl⟩ := List.mem_map.mp mem
    exact (listable name inside).2
  have nonempty : names.map String.toList ≠ [] := by
    rw [ne_eq, List.map_eq_nil_iff]
    exact present
  rw [String.toList_intercalate]
  exact List.splitOn_intercalate ',' free nonempty

theorem intercalate_inj {names others : List String} (listable : ∀ n ∈ names, Listable n)
    (listable' : ∀ n ∈ others, Listable n)
    (same : ",".intercalate names = ",".intercalate others) : names = others := by
  cases names with
  | nil =>
      cases others with
      | nil => rfl
      | cons other rest =>
          rw [String.intercalate_nil] at same
          exact absurd same.symm (intercalate_ne_empty (listable' other List.mem_cons_self))
  | cons name rest =>
      cases others with
      | nil =>
          rw [String.intercalate_nil] at same
          exact absurd same (intercalate_ne_empty (listable name List.mem_cons_self))
      | cons other others =>
          have parts := congrArg (fun text => List.splitOn ',' text.toList) same
          rw [splitOn_intercalate_toList listable (List.cons_ne_nil _ _),
            splitOn_intercalate_toList listable' (List.cons_ne_nil _ _)] at parts
          exact (List.map_inj_right fun _ _ equal => String.toList_injective equal).mp parts

namespace Refresh

variable (column : Delimiters) (left : Refresh)

/-- What the keyed view has under its keys. -/
theorem get?_entries :
    left.get? column "AutoInc" = left.autoIncrement ∧
      left.get? column "Timestamp" = left.serverToken ∧
      left.get? column "Source" = left.source ∧
      left.get? column "EntitySpacesConcurrency" = left.versionToken ∧
      left.get? column "Defaults" =
        (if left.defaults = [] then none
          else some (",".intercalate (left.defaults.map column.wrap))) ∧
      left.get? column "Where" =
        if left.defaults = [] then none else some (",".intercalate left.keys) := by
  obtain ⟨numbered, source, stamped, versioned, defaults, keys⟩ := left
  cases numbered <;> cases source <;> cases stamped <;> cases versioned <;> cases defaults <;>
    simp [get?, entries, needed, List.lookup_cons, List.lookup_nil]

/-- What the fields of a refresh owe to the request: a source where the database numbered or
stamped the row, and all keys where there are defaults to read. -/
structure Coherent (r : Request) (left : Refresh) : Prop where
  source : left.source =
    if left.autoIncrement = none ∧ left.serverToken = none then none else some r.provider.source
  keys : left.keys = if left.defaults = [] then [] else r.table.keyNames

/-- A refresh that a successful statement for a request has left. -/
def LeftBy (r : Request) (a : Action) (left : Refresh) : Prop :=
  ∃ d cache changed command,
    (Build.run d cache r changed (.statement a)).answer = .ok command ∧
      (Build.run d cache r changed (.statement a)).request.refresh = left

theorem leftBy_cases {r : Request} {a : Action} {left : Refresh} (built : left.LeftBy r a) :
    (∃ changed, a = .insert ∧ left = InsertStatement.refresh r changed) ∨
      (∃ changed, a = .update ∧ left = UpdateStatement.refresh r changed) ∨
      a = .delete ∧ left = .empty := by
  obtain ⟨d, cache, changed, command, answered, rfl⟩ := built
  rw [Build.request_of_ok (by simp) answered]
  cases a with
  | insert => exact .inl ⟨changed, rfl, rfl⟩
  | update => exact .inr (.inl ⟨changed, rfl, rfl⟩)
  | delete => exact .inr (.inr ⟨rfl, rfl⟩)

theorem LeftBy.coherent {r : Request} {a : Action} {left : Refresh} (built : left.LeftBy r a) :
    left.Coherent r := by
  obtain ⟨changed, -, rfl⟩ | ⟨changed, -, rfl⟩ | ⟨-, rfl⟩ := leftBy_cases built
  · constructor
    · have named : ∀ numbered stamped : Option String,
          (if numbered.isSome || stamped.isSome then some r.provider.source else none) =
            if numbered = none ∧ stamped = none then none else some r.provider.source := by
        intro numbered stamped
        cases numbered <;> cases stamped <;> rfl
      exact named _ _
    · simp only [InsertStatement.refresh, List.isEmpty_iff]
  · constructor
    · rfl
    · simp only [UpdateStatement.refresh, List.isEmpty_iff]
  · exact ⟨rfl, rfl⟩

theorem LeftBy.sourceless {r : Request} {left : Refresh} (built : left.LeftBy r .update) :
    left.autoIncrement = none ∧ left.serverToken = none ∧ left.source = none := by
  obtain ⟨_, other, -⟩ | ⟨changed, -, rfl⟩ | ⟨other, -⟩ := leftBy_cases built
  · cases other
  · exact ⟨rfl, rfl, rfl⟩
  · cases other

/-- What lets the keyed view tell the lists of a refresh: there are keys with defaults only, and all
names can be listed. -/
structure Tellable (left : Refresh) : Prop where
  keyless : left.defaults = [] → left.keys = []
  defaults : ∀ n ∈ left.defaults, Listable n
  keys : ∀ n ∈ left.keys, Listable n

theorem LeftBy.tellable {r : Request} {a : Action} {left : Refresh}
    (listable : r.table.Listable) (built : left.LeftBy r a) : left.Tellable := by
  have slots : ∀ w, ∀ n ∈ (r.table.slotsOf w).map Prod.snd, Listable n := by
    rintro w n mem
    obtain ⟨⟨s, name⟩, written, rfl⟩ := List.mem_map.mp mem
    have filled := TableColumns.mem_serverSlots_iff.mp (List.mem_filter.mp written).1
    exact listable.slots s _ filled
  have chosen : ∀ (p : Column → Bool), ∀ n ∈ (r.table.columns.filter p).map Column.name,
      Listable n := by
    rintro p n mem
    obtain ⟨c, kept, rfl⟩ := List.mem_map.mp mem
    exact listable.columns c (List.mem_filter.mp kept).1
  constructor
  · intro none
    rw [built.coherent.keys, if_pos none]
  · obtain ⟨changed, -, rfl⟩ | ⟨changed, -, rfl⟩ | ⟨-, rfl⟩ := leftBy_cases built
    · intro n mem
      rcases List.mem_append.mp mem with defaulted | slotted
      · exact chosen _ n defaulted
      · exact slots .insert n slotted
    · exact slots .update
    · nofun
  · rw [built.coherent.keys]
    split
    · nofun
    · exact chosen Column.primaryKey

/-- A joined list of delimited names tells the names. -/
theorem wrapped_intercalate_inj {column : Delimiters} {names others : List String}
    (apart : column.CommaFree) (listable : ∀ n ∈ names, Listable n)
    (listable' : ∀ n ∈ others, Listable n)
    (same : ",".intercalate (names.map column.wrap) = ",".intercalate (others.map column.wrap)) :
    names = others := by
  have wrapped : ∀ names : List String, (∀ n ∈ names, Listable n) →
      ∀ n ∈ names.map column.wrap, Listable n := by
    intro names listable n mem
    obtain ⟨name, inside, rfl⟩ := List.mem_map.mp mem
    exact (listable name inside).wrap apart
  have joined := intercalate_inj (wrapped names listable) (wrapped others listable') same
  exact (List.map_inj_right fun _ _ equal => Delimiters.wrap_inj.mp equal).mp joined

/-- The two lists of a refresh are told by the entries of their keys. -/
theorem lists_eq_of_get?_eq {column : Delimiters} {left other : Refresh} (apart : column.CommaFree)
    (tellable : left.Tellable) (tellable' : other.Tellable)
    (found : ∀ key, left.get? column key = other.get? column key) :
    left.defaults = other.defaults ∧ left.keys = other.keys := by
  obtain ⟨-, -, -, -, defaulted, keyed⟩ := left.get?_entries column
  obtain ⟨-, -, -, -, defaulted', keyed'⟩ := other.get?_entries column
  rw [found, defaulted'] at defaulted
  rw [found, keyed'] at keyed
  by_cases none : left.defaults = []
  · by_cases none' : other.defaults = []
    · exact ⟨none.trans none'.symm,
        (tellable.keyless none).trans (tellable'.keyless none').symm⟩
    · rw [if_pos none, if_neg none'] at defaulted
      cases defaulted
  · by_cases none' : other.defaults = []
    · rw [if_neg none, if_pos none'] at defaulted
      cases defaulted
    · rw [if_neg none, if_neg none', Option.some.injEq] at defaulted keyed
      exact ⟨wrapped_intercalate_inj apart tellable.defaults tellable'.defaults defaulted.symm,
        intercalate_inj tellable.keys tellable'.keys keyed.symm⟩

/-- Refreshes whose lists the keyed view can tell are told apart by it. -/
theorem eq_of_entries_eq {column : Delimiters} {left other : Refresh} (apart : column.CommaFree)
    (tellable : left.Tellable) (tellable' : other.Tellable)
    (same : left.entries column = other.entries column) : left = other := by
  have found : ∀ key, left.get? column key = other.get? column key := by
    intro key
    unfold get?
    rw [same]
  have lists := lists_eq_of_get?_eq apart tellable tellable' found
  obtain ⟨numbered, stamped, source, versioned, -⟩ := left.get?_entries column
  obtain ⟨numbered', stamped', source', versioned', -⟩ := other.get?_entries column
  rw [found] at numbered stamped source versioned
  cases left
  cases other
  rw [Refresh.mk.injEq]
  exact ⟨numbered.symm.trans numbered', source.symm.trans source', stamped.symm.trans stamped',
    versioned.symm.trans versioned', lists.1, lists.2⟩

end Refresh

/-- What a statement leaves names a source exactly if the database numbered or stamped the row, and
names all keys if there are defaults to read, else none; an update is never numbered or stamped.
Hence its keyed view, in which no key is there twice, tells everything that was left. -/
theorem keyed_view_loses_nothing (d : Dialect) (apart : d.column.CommaFree) :
    (∀ (r : Request) (a : Action) (left : Refresh), left.LeftBy r a →
      left.Coherent r ∧
        (a = .update →
          left.autoIncrement = none ∧ left.serverToken = none ∧ left.source = none) ∧
        ((left.entries d.column).map Prod.fst).Nodup) ∧
      ∀ (r r' : Request) (a a' : Action) (left left' : Refresh),
        r.table.Listable → r'.table.Listable → left.LeftBy r a → left'.LeftBy r' a' →
          left.entries d.column = left'.entries d.column → left = left' := by
  constructor
  · intro r a left built
    refine ⟨built.coherent, ?_, left.nodup_keys_entries d.column⟩
    rintro rfl
    exact built.sourceless
  · intro r r' a a' left left' listable listable' built built' same
    exact Refresh.eq_of_entries_eq apart (built.tellable listable) (built'.tellable listable') same

theorem orders_view_loses_nothing :
    Dialect.standard.column.CommaFree ∧ Request.orders.table.Listable ∧
      ∃ left other : Refresh, left.LeftBy .orders .insert ∧ other.LeftBy .orders .update ∧
        left.entries Dialect.standard.column =
          [("AutoInc", "Id"), ("Source", ""), ("EntitySpacesConcurrency", "Version"),
            ("Defaults", "[Changed]"), ("Where", "Id")] ∧
        left.Coherent .orders ∧ other.source = none ∧
        left.entries Dialect.standard.column ≠ other.entries Dialect.standard.column := by
  have apart : Dialect.standard.column.CommaFree := by decide +kernel
  have listable : Request.orders.table.Listable := by
    refine ⟨by decide +kernel, ?_⟩
    intro s audit filled
    cases s <;> cases filled
    decide +kernel
  have inserted : (InsertStatement.refresh .orders ["Unit Price"]).LeftBy .orders .insert :=
    ⟨.standard, .empty, ["Unit Price"], _, rfl, rfl⟩
  have updated : (UpdateStatement.refresh .orders ["Unit Price"]).LeftBy .orders .update :=
    ⟨.standard, .empty, ["Unit Price"], _, rfl, rfl⟩
  obtain ⟨each, view⟩ := keyed_view_loses_nothing .standard apart
  refine ⟨apart, listable, _, _, inserted, updated, by decide +kernel, (each _ _ _ inserted).1,
    ((each _ _ _ updated).2.1 rfl).2.2, ?_⟩
  intro same
  have equal := view _ _ _ _ _ _ listable listable inserted updated same
  have differ : InsertStatement.refresh .orders ["Unit Price"] ≠
      UpdateStatement.refresh .orders ["Unit Price"] := by decide +kernel
  exact differ equal

end TableWrite
