import TableWrite.Proofs.UpdateImages

set_option autoImplicit false

namespace TableWrite

namespace Parameter

/-- Does the row show the column that the parameter sends, if it sends one? -/
def Supplied (row : Row) (p : Parameter) : Prop :=
  ∀ column, p.direction.sends = true → p.source = some column →
    ∃ v, row.value? column p.image = some v

/-- The value that the parameter takes from a row: that of the column it sends, if the row shows
it. -/
def taken? (row : Row) (p : Parameter) : Option Value :=
  p.reads?.bind fun column => row.value? column p.image

def taking (row : Row) (p : Parameter) : Parameter :=
  { p with value := (p.taken? row).getD p.value }

/-- The first of some parameters that is not supplied, with its column and what stands around it. -/
structure StopsAt (row : Row) (ps before : List Parameter) (p : Parameter)
    (after : List Parameter) (column : String) : Prop where
  split : ps = before ++ p :: after
  supplied : ∀ q ∈ before, q.Supplied row
  unsupplied : ¬ p.Supplied row
  source : p.source = some column

section

variable {row : Row} {p : Parameter}

theorem reads?_eq_some_iff {column : String} :
    p.reads? = some column ↔ p.direction.sends = true ∧ p.source = some column := by
  unfold reads?
  cases p.direction.sends <;> simp

theorem supplied_iff :
    p.Supplied row ↔
      ∀ column, p.reads? = some column → ∃ v, row.value? column p.image = some v := by
  simp only [Supplied, reads?_eq_some_iff, and_imp]

theorem bind_of_supplied (supplied : p.Supplied row) : p.bind row = .ok (p.taking row) := by
  cases reads : p.reads? with
  | none => simp only [bind, taking, taken?, reads, Option.bind_none, Option.getD_none]
  | some column =>
      obtain ⟨v, found⟩ := supplied_iff.mp supplied column reads
      rw [bind_eq_ok_of_reads? reads found]
      simp only [taking, taken?, reads, Option.bind_some, found, Option.getD_some]

theorem bind_of_unsupplied (unsupplied : ¬ p.Supplied row) :
    ∃ column, p.source = some column ∧ p.bind row = .error column := by
  rw [supplied_iff] at unsupplied
  push Not at unsupplied
  obtain ⟨column, reads, missing⟩ := unsupplied
  have unfound : row.value? column p.image = none :=
    Option.eq_none_iff_forall_ne_some.mpr missing
  exact ⟨column, (reads?_eq_some_iff.mp reads).2, bind_eq_error_of_reads? reads unfound⟩

theorem bindAll_of_supplied {ps : List Parameter} (supplied : ∀ p ∈ ps, p.Supplied row) :
    bindAll row ps = (ps.map (taking row), none) :=
  bindAll_eq_map fun p mem => bind_of_supplied (supplied p mem)

theorem bindAll_of_stopsAt {ps before after : List Parameter} {column : String}
    (stops : StopsAt row ps before p after column) :
    bindAll row ps = (before.map (taking row) ++ p :: after, some column) := by
  obtain ⟨other, source, fails⟩ := bind_of_unsupplied stops.unsupplied
  have same : other = column := Option.some.inj (source.symm.trans stops.source)
  rw [stops.split, bindAll_append (bindAll_of_supplied stops.supplied), bindAll_cons_error fails,
    same]

/-- All parameters are supplied, or there is a first one that is not. -/
theorem supplied_or_stopsAt (row : Row) (ps : List Parameter) :
    (∀ p ∈ ps, p.Supplied row) ∨ ∃ before p after column, StopsAt row ps before p after column := by
  induction ps with
  | nil => exact .inl (List.forall_mem_nil _)
  | cons p rest ih =>
      by_cases supplied : p.Supplied row
      · rcases ih with all | ⟨before, q, after, column, stops⟩
        · exact .inl (List.forall_mem_cons.mpr ⟨supplied, all⟩)
        · refine .inr ⟨p :: before, q, after, column, ?_, ?_, stops.unsupplied, stops.source⟩
          · rw [stops.split, List.cons_append]
          · exact List.forall_mem_cons.mpr ⟨supplied, stops.supplied⟩
      · obtain ⟨column, source, -⟩ := bind_of_unsupplied supplied
        exact .inr ⟨[], p, rest, column, rfl, List.forall_mem_nil _, supplied, source⟩

end

/-- The second parameter is the first, possibly with another value. Only parameters that read a row
have other values. -/
def Rebound (p q : Parameter) : Prop :=
  ∃ v, q = { p with value := v } ∧ (p.reads? = none → v = p.value)

namespace Rebound

theorem refl (p : Parameter) : p.Rebound p := ⟨p.value, rfl, fun _ => rfl⟩

theorem of_bind {row : Row} {p bound : Parameter} (binds : p.bind row = .ok bound) :
    p.Rebound bound := by
  unfold bind at binds
  cases reads : p.reads? with
  | none =>
      simp only [reads, Except.ok.injEq] at binds
      rw [← binds]
      exact .refl p
  | some column =>
      cases found : row.value? column p.image with
      | none => simp only [reads, found, reduceCtorEq] at binds
      | some v =>
          simp only [reads, found, Except.ok.injEq] at binds
          exact ⟨v, binds.symm, fun silent => absurd (reads.symm.trans silent) (by simp)⟩

/-- A row gives the parameter the same value, whatever value it had. -/
theorem bind_eq {p q : Parameter} (rebound : p.Rebound q) (row : Row) :
    q.bind row = p.bind row := by
  obtain ⟨v, rfl, kept⟩ := rebound
  cases reads : p.reads? with
  | none => rw [kept reads]
  | some column =>
      have reads' : ({ p with value := v } : Parameter).reads? = some column := reads
      cases found : row.value? column p.image with
      | none => rw [bind_eq_error_of_reads? reads' found, bind_eq_error_of_reads? reads found]
      | some w => rw [bind_eq_ok_of_reads? reads' found, bind_eq_ok_of_reads? reads found]

end Rebound

theorem rebound_bindAll (row : Row) (ps : List Parameter) :
    List.Forall₂ Rebound ps (bindAll row ps).1 := by
  induction ps with
  | nil => exact .nil
  | cons p rest ih =>
      cases binds : p.bind row with
      | error column =>
          rw [bindAll_cons_error binds]
          exact List.forall₂_same.mpr fun q _ => .refl q
      | ok bound =>
          rw [bindAll_cons_ok binds]
          exact .cons (.of_bind binds) ih

theorem bindAll_of_rebound {ps qs : List Parameter} (rebound : List.Forall₂ Rebound ps qs)
    (row : Row) :
    (bindAll row qs).2 = (bindAll row ps).2 ∧
      ((bindAll row ps).2 = none → bindAll row qs = bindAll row ps) := by
  induction rebound with
  | nil => exact ⟨rfl, fun _ => rfl⟩
  | @cons p q ps qs head _ ih =>
      have same := head.bind_eq row
      cases binds : p.bind row with
      | error column =>
          rw [bindAll_cons_error binds, bindAll_cons_error (same.trans binds)]
          exact ⟨rfl, nofun⟩
      | ok bound =>
          rw [bindAll_cons_ok binds, bindAll_cons_ok (same.trans binds)]
          exact ⟨ih.1, fun complete => by rw [ih.2 complete]⟩

end Parameter

namespace Command

/-- The command after rows were bound one after the other, each as far as it went. -/
def bindRows (rows : List Row) (c : Command) : Command := rows.foldl (fun c row => c.bindRow row) c

theorem bindError?_eq_none_iff (row : Row) (c : Command) :
    c.bindError? row = none ↔ (Parameter.bindAll row c.parameters).2 = none :=
  Option.map_eq_none_iff

theorem bindRow_of_supplied {row : Row} {c : Command}
    (supplied : ∀ p ∈ c.parameters, p.Supplied row) :
    c.bindError? row = none ∧
      c.bindRow row = { c with parameters := c.parameters.map (Parameter.taking row) } := by
  simp only [bindError?, bindRow, Parameter.bindAll_of_supplied supplied, Option.map_none,
    and_self]

theorem bindRow_of_stopsAt {row : Row} {c : Command} {before after : List Parameter}
    {p : Parameter} {column : String}
    (stops : Parameter.StopsAt row c.parameters before p after column) :
    c.bindError? row = some (.unknownColumn "row" column) ∧
      c.bindRow row =
        { c with parameters := before.map (Parameter.taking row) ++ p :: after } := by
  simp only [bindError?, bindRow, Parameter.bindAll_of_stopsAt stops, Option.map_some, and_self]

/-- An earlier row decides neither whether a row can be bound nor, if it can, what comes of it. -/
theorem bindRow_bindRow (earlier row : Row) (c : Command) :
    (c.bindRow earlier).bindError? row = c.bindError? row ∧
      (c.bindError? row = none → (c.bindRow earlier).bindRow row = c.bindRow row) := by
  have again := Parameter.bindAll_of_rebound (Parameter.rebound_bindAll earlier c.parameters) row
  constructor
  · exact congrArg (Option.map _) again.1
  · intro binds
    have same := again.2 ((bindError?_eq_none_iff row c).mp binds)
    exact congrArg (fun ps : List Parameter × Option String => { c with parameters := ps.1 }) same

theorem bindRows_bindRow (earlier : List Row) (row : Row) (c : Command) :
    (c.bindRows earlier).bindError? row = c.bindError? row ∧
      (c.bindError? row = none → (c.bindRows earlier).bindRow row = c.bindRow row) := by
  induction earlier generalizing c with
  | nil => exact ⟨rfl, fun _ => rfl⟩
  | cons first rest ih =>
      have step := c.bindRow_bindRow first row
      have run := ih (c.bindRow first)
      change ((c.bindRow first).bindRows rest).bindError? row = _ ∧
        (_ → ((c.bindRow first).bindRows rest).bindRow row = _)
      constructor
      · rw [run.1, step.1]
      · intro binds
        rw [run.2 (step.1.trans binds), step.2 binds]

end Command

/-- A row can be bound exactly if it shows every column that a parameter sends. It then gives each
parameter its value and changes nothing else. Otherwise the first parameter whose column it does not
show is the error: those before it have their values, it and the rest are as they were. Rows that
were bound before leave nothing behind, however far they went. -/
theorem bind_row_exact (row : Row) (c : Command) :
    (c.bindError? row = none ↔ ∀ p ∈ c.parameters, p.Supplied row) ∧
      (c.bindError? row = none →
        c.bindRow row = { c with parameters := c.parameters.map (Parameter.taking row) }) ∧
      (∀ e, c.bindError? row = some e → ∃ before p after column,
        Parameter.StopsAt row c.parameters before p after column ∧
          e = .unknownColumn "row" column ∧
          c.bindRow row =
            { c with parameters := before.map (Parameter.taking row) ++ p :: after }) ∧
      ∀ earlier : List Row, (c.bindRows earlier).bindError? row = none →
        (c.bindRows earlier).bindRow row = c.bindRow row := by
  have again (earlier : List Row) : (c.bindRows earlier).bindError? row = none →
      (c.bindRows earlier).bindRow row = c.bindRow row := by
    obtain ⟨sameError, sameCommand⟩ := c.bindRows_bindRow earlier row
    intro binds
    exact sameCommand (sameError.symm.trans binds)
  rcases Parameter.supplied_or_stopsAt row c.parameters with
    supplied | ⟨before, p, after, column, stops⟩
  · obtain ⟨binds, bound⟩ := Command.bindRow_of_supplied supplied
    refine ⟨⟨fun _ => supplied, fun _ => binds⟩, fun _ => bound, ?_, again⟩
    intro e failed
    rw [binds] at failed
    cases failed
  · obtain ⟨fails, bound⟩ := Command.bindRow_of_stopsAt stops
    have mem : p ∈ c.parameters := by
      rw [stops.split]
      exact List.mem_append_right _ List.mem_cons_self
    refine ⟨?_, ?_, ?_, again⟩
    · rw [fails]
      exact ⟨nofun, fun supplied => absurd (supplied p mem) stops.unsupplied⟩
    · intro binds
      rw [fails] at binds
      cases binds
    · intro e failed
      rw [fails] at failed
      exact ⟨before, p, after, column, stops, (Option.some.inj failed).symm, bound⟩

def Row.unversionedOrder : Row := .added [("Id", .integer 7), ("Unit Price", .integer 3)]

/-- A row that lacks the version gives the update its price and its key and then fails. Of neither
is anything left when the order is bound as it was read. -/
theorem orders_update_bound_again :
    Command.ordersUpdate.bindError? .unversionedOrder = some (.unknownColumn "row" "Version") ∧
      (Command.ordersUpdate.bindRow .unversionedOrder).parameters.map Parameter.value =
        [.integer 3, .integer 7, .null] ∧
      (Command.ordersUpdate.bindRows [.unversionedOrder]).bindError?
        (.unchanged Row.orderRead) = none ∧
      (Command.ordersUpdate.bindRows [.unversionedOrder]).bindRow (.unchanged Row.orderRead) =
        Command.ordersUpdate.bindRow (.unchanged Row.orderRead) := by
  have binds : (Command.ordersUpdate.bindRows [.unversionedOrder]).bindError?
      (.unchanged Row.orderRead) = none := by decide +kernel
  refine ⟨by decide +kernel, by decide +kernel, binds, ?_⟩
  exact (bind_row_exact (.unchanged Row.orderRead) .ordersUpdate).2.2.2 [.unversionedOrder] binds

end TableWrite
