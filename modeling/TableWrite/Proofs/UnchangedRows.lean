import TableWrite.Proofs.RowHistory

set_option autoImplicit false

namespace TableWrite

/-- Neither finite nor no number. -/
def Double.Infinite (x : Double) : Prop := x.isFinite = false ∧ x.isNaN = false

theorem Double.near_self_iff (x : Double) : x.near x = true ↔ x.isFinite = true := by
  constructor
  · intro near
    unfold Double.near at near
    simp only [Bool.and_self, Bool.and_eq_true] at near
    exact near.1
  · exact Double.near_refl x

/-- The difference of two infinities is no number, and so not small. -/
theorem Value.same_self_iff (v : Value) :
    v.same v = true ↔ ∀ x, v = .float x → ¬ x.Infinite := by
  cases v with
  | float x =>
      have finite := x.near_self_iff
      cases fits : x.isFinite <;> cases number : x.isNaN <;>
        simp [Value.same, Double.Infinite, finite, fits, number]
  | _ => simp [Value.same]

namespace Keyed

variable {α β : Type} [BEq α] [LawfulBEq α]

theorem nodup_keys_ofList (pairs : List (α × β)) : (keys (ofList pairs)).Nodup := by
  unfold ofList
  suffices folded : ∀ m : Keyed α β, (keys m).Nodup →
      (keys (pairs.foldl (fun m p => put p.1 p.2 m) m)).Nodup from folded [] List.nodup_nil
  induction pairs with
  | nil =>
      intro m distinct
      exact distinct
  | cons p rest ih =>
      intro m distinct
      exact ih (put p.1 p.2 m) (nodup_keys_put distinct)

/-- Where keys are distinct, the pairs are what is found. -/
theorem mem_iff_get? {m : Keyed α β} {p : α × β} (distinct : (keys m).Nodup) :
    p ∈ m ↔ get? m p.1 = some p.2 := by
  induction m with
  | nil => simp
  | cons first rest ih =>
      obtain ⟨fresh, distinct⟩ := List.nodup_cons.mp distinct
      rw [get?_cons, List.mem_cons, ih distinct]
      by_cases same : p.1 = first.1
      · have absent : get? rest p.1 ≠ some p.2 := by
          intro found
          have inside := (ih distinct).mpr found
          rw [← same] at fresh
          exact fresh (List.mem_map.mpr ⟨p, inside, rfl⟩)
        rw [same, if_pos (beq_self_eq_true _), ← same, Option.some.injEq, Prod.ext_iff]
        simp only [same, true_and]
        constructor
        · rintro (values | found)
          · exact values.symm
          · exact absurd (same ▸ found) absent
        · intro values
          exact .inl values.symm
      · have missed : (p.1 == first.1) = false := beq_eq_false_iff_ne.mpr same
        have differ : p ≠ first := fun equal => same (congrArg Prod.fst equal)
        rw [missed]
        simp only [differ, false_or, Bool.false_eq_true, ↓reduceIte]

end Keyed

namespace Row

/-- What every row keeps: its columns are distinct, and as long as it is unchanged, its values are
those that were read. -/
structure Consistent (row : Row) : Prop where
  columns : (Keyed.keys row.current).Nodup
  images : row.state = .unchanged → row.loaded = row.current

theorem consistent_added (values : List (String × Value)) : (added values).Consistent where
  columns := Keyed.nodup_keys_ofList values
  images := nofun

theorem consistent_unchanged (values : List (String × Value)) : (unchanged values).Consistent where
  columns := Keyed.nodup_keys_ofList values
  images _ := rfl

theorem state_set_ne_unchanged (column : String) (v : Value) (row : Row) :
    (row.set column v).state ≠ .unchanged := by
  unfold set
  dsimp only
  split
  · nofun
  · rename_i changed
    exact changed

theorem Consistent.apply {row : Row} (consistent : row.Consistent) (e : Edit) :
    (e.apply row).Consistent := by
  cases e with
  | set column v =>
      exact ⟨Keyed.nodup_keys_put consistent.columns,
        fun kept => absurd kept (state_set_ne_unchanged column v row)⟩
  | delete => exact ⟨consistent.columns, nofun⟩
  | accept => exact ⟨consistent.columns, fun _ => rfl⟩

theorem Consistent.run {row : Row} (consistent : row.Consistent) (edits : List Edit) :
    (row.run edits).Consistent := by
  induction edits generalizing row with
  | nil => exact consistent
  | cons e rest ih => exact ih (consistent.apply e)

/-- An unchanged row reports the columns whose values are not the same as themselves. -/
theorem Consistent.mem_changedColumns_iff {row : Row} (consistent : row.Consistent)
    (kept : row.state = .unchanged) (column : String) :
    column ∈ row.changedColumns ↔
      ∃ v, row.value? column .current = some v ∧ v.same v = false := by
  have differs : ∀ p ∈ row.current, row.differs p = !p.2.same p.2 := by
    intro p mem
    have found := (Keyed.mem_iff_get? consistent.columns).mp mem
    unfold Row.differs
    rw [consistent.images kept, found]
  have shows : row.value? column .current = Keyed.get? row.current column := by
    unfold value? shown
    rw [kept]
    rfl
  unfold changedColumns
  rw [List.mem_mergeSort, shows]
  constructor
  · intro changed
    obtain ⟨p, filtered, rfl⟩ := List.mem_map.mp changed
    obtain ⟨mem, differ⟩ := List.mem_filter.mp filtered
    rw [differs p mem, Bool.not_eq_true'] at differ
    exact ⟨p.2, (Keyed.mem_iff_get? consistent.columns).mp mem, differ⟩
  · rintro ⟨v, found, differ⟩
    have mem : (column, v) ∈ row.current := (Keyed.mem_iff_get? consistent.columns).mpr found
    refine List.mem_map.mpr ⟨(column, v), List.mem_filter.mpr ⟨mem, ?_⟩, rfl⟩
    rw [differs _ mem, differ]
    rfl

end Row

/-- Whatever happened to a row, once it is unchanged it reports exactly the columns that hold an
infinity, and thus none if it holds no infinity. -/
theorem unchanged_row_reports_iff (values : List (String × Value)) (edits : List Row.Edit)
    (row : Row) (reached : row = .run edits (.added values) ∨ row = .run edits (.unchanged values))
    (kept : row.state = .unchanged) :
    (∀ column, column ∈ row.changedColumns ↔
        ∃ x, row.value? column .current = some (.float x) ∧ x.Infinite) ∧
      (row.changedColumns = [] ↔
        ∀ column x, row.value? column .current = some (.float x) → ¬ x.Infinite) := by
  have consistent : row.Consistent := by
    rcases reached with rfl | rfl
    · exact (Row.consistent_added values).run edits
    · exact (Row.consistent_unchanged values).run edits
  have reports : ∀ column, column ∈ row.changedColumns ↔
      ∃ x, row.value? column .current = some (.float x) ∧ x.Infinite := by
    intro column
    rw [consistent.mem_changedColumns_iff kept]
    constructor
    · rintro ⟨v, found, differ⟩
      have infinite : ¬ ∀ x, v = .float x → ¬ x.Infinite := by
        rw [← Value.same_self_iff, differ]
        exact Bool.false_ne_true
      push Not at infinite
      obtain ⟨x, rfl, infinite⟩ := infinite
      exact ⟨x, found, infinite⟩
    · rintro ⟨x, found, infinite⟩
      refine ⟨.float x, found, ?_⟩
      rw [Bool.eq_false_iff, ne_eq, Value.same_self_iff]
      intro finite
      exact finite x rfl infinite
  refine ⟨reports, ?_⟩
  rw [List.eq_nil_iff_forall_not_mem]
  simp only [reports, not_exists, not_and]

def Double.infinity : Double := ⟨0x7ff0000000000000⟩

/-- A row whose price became too large a number before it was deleted and stored again. -/
def Row.unpriced : Row :=
  .run [.set "Price" (.float .infinity), .delete, .accept] (.unchanged [("Id", .integer 7)])

theorem unpriced_row_reports_price :
    Row.unpriced.state = .unchanged ∧ "Price" ∈ Row.unpriced.changedColumns ∧
      "Id" ∉ Row.unpriced.changedColumns := by
  obtain ⟨reports, -⟩ := unchanged_row_reports_iff [("Id", .integer 7)]
    [.set "Price" (.float .infinity), .delete, .accept] .unpriced (.inr rfl) rfl
  refine ⟨rfl, (reports "Price").mpr ⟨.infinity, by decide +kernel, ?_⟩, ?_⟩
  · exact ⟨by decide +kernel, by decide +kernel⟩
  · intro changed
    obtain ⟨x, found, -⟩ := (reports "Id").mp changed
    have shown : Row.unpriced.value? "Id" .current = some (.integer 7) := by decide +kernel
    rw [shown] at found
    cases found

/-- A row that was just read, and one that was just stored, ask for an update of an infinity. -/
theorem infinity_reported_unchanged :
    (Row.unchanged [("Price", .float .infinity)]).state = .unchanged ∧
      (Row.unchanged [("Price", .float .infinity)]).changedColumns = ["Price"] ∧
      (Row.added [("Price", .float .infinity)]).accept.state = .unchanged ∧
      (Row.added [("Price", .float .infinity)]).accept.changedColumns = ["Price"] := by
  have differs : ((Row.unchanged [("Price", .float .infinity)]).current.filter
      (Row.unchanged [("Price", .float .infinity)]).differs).map Prod.fst = ["Price"] := by
    decide +kernel
  have reports : (Row.unchanged [("Price", .float .infinity)]).changedColumns = ["Price"] := by
    unfold Row.changedColumns
    rw [differs]
    exact List.mergeSort_singleton "Price"
  exact ⟨rfl, reports, rfl, reports⟩

end TableWrite
