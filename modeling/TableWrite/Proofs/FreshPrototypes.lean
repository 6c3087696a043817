import TableWrite.Prototypes

set_option autoImplicit false

namespace TableWrite

namespace Keyed

variable {α β : Type} [BEq α]

theorem ofList_concat (pairs : List (α × β)) (last : α × β) :
    ofList (pairs ++ [last]) = put last.1 last.2 (ofList pairs) := by
  unfold ofList
  rw [List.foldl_append]
  rfl

variable [LawfulBEq α]

theorem get?_put (m : Keyed α β) (k l : α) (v : β) :
    get? (put k v m) l = if k == l then some v else get? m l := by
  by_cases same : l = k
  · subst l
    rw [lookup_put_self, if_pos (beq_self_eq_true k)]
  · have missed : (k == l) = false := beq_eq_false_iff_ne.2 (Ne.symm same)
    rw [lookup_put_of_ne v m same, missed]
    rfl

/-- The last pair of a key gives its value. -/
theorem get?_ofList (pairs : List (α × β)) (k : α) :
    get? (ofList pairs) k = (pairs.reverse.find? (·.1 == k)).map Prod.snd := by
  rw [← List.reverse_reverse pairs]
  generalize pairs.reverse = reversed
  rw [List.reverse_reverse]
  induction reversed with
  | nil => rfl
  | cons p rest ih =>
      rw [List.reverse_cons, ofList_concat, get?_put, ih, List.find?_cons]
      cases p.1 == k <;> rfl

end Keyed

/-- The parameter of a column: it has the column's name and sends its value in an image. -/
structure Parameter.Reads (d : Dialect) (column : String) (image : RowImage)
    (p : Parameter) : Prop where
  name : p.name = nameOf d column
  source : p.source = some column
  image : p.image = image
  direction : p.direction = .input

namespace TableColumns

/-- The column that answers to the name of a column. -/
def named (t : TableColumns) (c : Column) : Column :=
  (t.columns.reverse.find? (·.name == c.name)).getD c

theorem find?_named {t : TableColumns} {c : Column} (mem : c ∈ t.columns) :
    t.columns.reverse.find? (·.name == c.name) = some (t.named c) := by
  have present : ∃ found, t.columns.reverse.find? (·.name == c.name) = some found := by
    rw [← Option.isSome_iff_exists, List.find?_isSome]
    exact ⟨c, List.mem_reverse.mpr mem, beq_self_eq_true _⟩
  obtain ⟨found, finds⟩ := present
  unfold named
  rw [finds]
  rfl

theorem name_named (t : TableColumns) (c : Column) : (t.named c).name = c.name := by
  unfold named
  cases finds : t.columns.reverse.find? (·.name == c.name) with
  | none => rfl
  | some found =>
      have same := List.find?_some finds
      exact eq_of_beq same

def prototype (d : Dialect) (t : TableColumns) (c : Column) : Parameter := .ofColumn d (t.named c)

variable (d : Dialect) (t : TableColumns) (c : Column)

@[simp] theorem name_prototype : (t.prototype d c).name = Parameter.nameOf d c.name :=
  congrArg (Parameter.nameOf d) (name_named t c)

@[simp] theorem source_prototype : (t.prototype d c).source = some c.name :=
  congrArg some (name_named t c)

theorem prototype_reads : (t.prototype d c).Reads d c.name .current :=
  ⟨name_prototype d t c, source_prototype d t c, rfl, rfl⟩

end TableColumns

theorem PrototypeCache.answer_empty (r : Request) (d : Dialect) :
    empty.answer r d = .ofColumns r.provider.destination r.table.columns d := rfl

theorem Prototypes.parameter_ofColumns {t : TableColumns} {c : Column} (table : String)
    (d : Dialect) (mem : c ∈ t.columns) :
    (ofColumns table t.columns d).parameter c.name = .ok (t.prototype d c) := by
  have looked : Keyed.get? (ofColumns table t.columns d).parameters c.name =
      some (t.prototype d c) := by
    unfold ofColumns
    rw [Keyed.get?_ofList, ← List.map_reverse, List.find?_map]
    change Option.map _ (Option.map _ (t.columns.reverse.find? (·.name == c.name))) = _
    rw [TableColumns.find?_named mem]
    rfl
  unfold parameter
  rw [looked]

end TableWrite
