import Mathlib.Data.List.TakeWhile
import Mathlib.Tactic.MkIffOfInductiveProp
import TableWrite.Proofs.CacheIdentity

set_option autoImplicit false

namespace TableWrite

namespace Delimiters

variable (d : Delimiters)

/-- Can the end of a part be told? It holds no character of the closing delimiter and, where names
are not delimited, no dot. -/
@[mk_iff]
structure Legible (part : String) : Prop where
  unclosed : ∀ c ∈ part.toList, c ∉ d.closing.toList
  undotted : d.opening = "" → d.closing = "" → '.' ∉ part.toList

instance (part : String) : Decidable (d.Legible part) :=
  -- Only the characters of the part are looked at, not all that there are.
  haveI : Decidable (∀ c ∈ part.toList, c ∉ d.closing.toList) := List.decidableBAll _ _
  decidable_of_iff _ (d.legible_iff part).symm

/-- What stands behind a part in front of another one. -/
def ending : List Char := d.closing.toList ++ ['.']

def ended (part : String) : List Char := d.opening.toList ++ (part.toList ++ d.ending)

/-- Cuts off the part that a text begins with, and its ending. -/
def cutPart (text : List Char) : List Char × List Char :=
  let inside := text.drop d.opening.toList.length
  let part := inside.takeWhile fun c => d.ending.head? != some c
  (part, inside.drop (part.length + d.ending.length))

theorem ending_eq_cons : ∃ mark rest, d.ending = mark :: rest := by
  unfold ending
  cases d.closing.toList with
  | nil => exact ⟨'.', [], rfl⟩
  | cons c rest => exact ⟨c, rest ++ ['.'], rfl⟩

variable {d}

/-- No legible part holds the character that its ending begins with. -/
theorem Legible.head_ending_notMem {part : String} (paired : d.Paired) (legible : d.Legible part) :
    ∀ c ∈ part.toList, d.ending.head? ≠ some c := by
  intro c mem first
  unfold ending at first
  cases closing : d.closing.toList with
  | nil =>
      have unclosed : d.closing = "" := String.toList_eq_nil_iff.mp closing
      have unopened : d.opening = "" := by
        unfold Paired at paired
        rw [unclosed] at paired
        exact String.isEmpty_iff.mp paired
      rw [closing] at first
      cases first
      exact legible.undotted unopened unclosed mem
  | cons mark rest =>
      rw [closing] at first
      cases first
      apply legible.unclosed c mem
      rw [closing]
      exact List.mem_cons_self

theorem cutPart_ended {part : String} (paired : d.Paired) (legible : d.Legible part)
    (rest : List Char) : d.cutPart (d.ended part ++ rest) = (part.toList, rest) := by
  obtain ⟨mark, others, ending⟩ := d.ending_eq_cons
  have unmarked : ∀ c ∈ part.toList, (d.ending.head? != some c) = true := by
    intro c mem
    exact bne_iff_ne.mpr (legible.head_ending_notMem paired c mem)
  have inside : (d.ended part ++ rest).drop d.opening.toList.length =
      part.toList ++ (d.ending ++ rest) := by
    simp only [ended, List.append_assoc, List.drop_left]
  have stops : (d.ending ++ rest).takeWhile (fun c => d.ending.head? != some c) = [] := by
    rw [ending]
    exact List.takeWhile_cons_of_neg (by simp)
  have cut : (part.toList ++ (d.ending ++ rest)).takeWhile (fun c => d.ending.head? != some c) =
      part.toList := by
    rw [List.takeWhile_append_of_pos unmarked, stops, List.append_nil]
  simp only [cutPart, inside, cut]
  rw [← List.append_assoc, ← List.length_append, List.drop_left]

/-- From a row of ended parts, the parts can be told. -/
theorem parts_eq_of_ended_eq {parts others : List String} (paired : d.Paired)
    (legible : ∀ part ∈ parts, d.Legible part) (legible' : ∀ part ∈ others, d.Legible part)
    (same : parts.flatMap d.ended = others.flatMap d.ended) : parts = others := by
  have present (part : String) (rest : List String) : (part :: rest).flatMap d.ended ≠ [] := by
    obtain ⟨mark, after, ending⟩ := d.ending_eq_cons
    simp [ended, ending]
  induction parts generalizing others with
  | nil =>
      cases others with
      | nil => rfl
      | cons other rest => exact absurd same.symm (present other rest)
  | cons part parts ih =>
      cases others with
      | nil => exact absurd same (present part parts)
      | cons other others =>
          have cut := congrArg d.cutPart same
          rw [List.flatMap_cons, List.flatMap_cons,
            cutPart_ended paired (legible part List.mem_cons_self),
            cutPart_ended paired (legible' other List.mem_cons_self)] at cut
          obtain ⟨first, rest⟩ := Prod.mk.inj cut
          have tails := ih (fun p mem => legible p (List.mem_cons_of_mem _ mem))
            (fun p mem => legible' p (List.mem_cons_of_mem _ mem)) rest
          rw [String.toList_injective first, tails]

/-- A dot behind a name makes all of its parts end alike. -/
theorem toList_intercalate_wrap (part : String) (parts : List String) :
    (".".intercalate ((part :: parts).map d.wrap)).toList ++ ['.'] =
      (part :: parts).flatMap d.ended := by
  have wrapped (p : String) : (d.wrap p).toList ++ ['.'] = d.ended p := by
    simp only [wrap, ended, ending, String.toList_append, List.append_assoc]
  induction parts generalizing part with
  | nil =>
      rw [List.map_singleton, String.intercalate_singleton, List.flatMap_singleton]
      exact wrapped part
  | cons next rest ih =>
      rw [List.map_cons, List.map_cons, String.intercalate_cons_cons, String.toList_append,
        String.toList_append, List.flatMap_cons, ← ih next, ← wrapped part, List.map_cons,
        List.append_assoc]
      rfl

end Delimiters

namespace QualifiedName

def parts (n : QualifiedName) : List String := n.qualifiers ++ [n.base]

/-- The name with all of its parts delimited alike. -/
theorem text_eq (d : Dialect) (n : QualifiedName) :
    n.text d d.table = ".".intercalate (n.parts.map d.table.wrap) := by
  simp only [text, parts, List.map_append, List.map_singleton]

/-- Do two names stand for the same table? The catalog of a name without a schema does not count,
since it is not written. -/
@[mk_iff]
structure SameTable (n m : QualifiedName) : Prop where
  base : n.base = m.base
  schema : n.schema = m.schema
  catalog : n.schema ≠ none → n.catalog = m.catalog

theorem parts_eq_iff (n m : QualifiedName) : n.parts = m.parts ↔ n.SameTable m := by
  rw [sameTable_iff]
  obtain ⟨catalog, schema, base⟩ := n
  obtain ⟨catalog', schema', base'⟩ := m
  cases schema <;> cases schema' <;> cases catalog <;> cases catalog' <;>
    grind [parts, qualifiers]

theorem parts_eq_of_text_eq {d : Dialect} {n m : QualifiedName} (paired : d.table.Paired)
    (legible : ∀ part ∈ n.parts, d.table.Legible part)
    (legible' : ∀ part ∈ m.parts, d.table.Legible part)
    (same : n.text d d.table = m.text d d.table) : n.parts = m.parts := by
  have nonempty (n : QualifiedName) : ∃ part rest, n.parts = part :: rest :=
    List.exists_cons_of_ne_nil (List.append_ne_nil_of_right_ne_nil _ (List.cons_ne_nil _ _))
  apply Delimiters.parts_eq_of_ended_eq paired legible legible'
  obtain ⟨part, rest, written⟩ := nonempty n
  obtain ⟨part', rest', written'⟩ := nonempty m
  rw [text_eq, text_eq, written, written'] at same
  rw [written, written', ← Delimiters.toList_intercalate_wrap,
    ← Delimiters.toList_intercalate_wrap, same]

end QualifiedName

/-- Two requests write the same text for their tables exactly if these are the same: the same name
in the same schema and, where there is a schema, in the same catalog. -/
theorem table_text_tells_name (d : Dialect) (r q : Request) (usable : d.fault? = none)
    (legible : ∀ part ∈ r.tableName.parts, d.table.Legible part)
    (legible' : ∀ part ∈ q.tableName.parts, d.table.Legible part) :
    r.tableText d = q.tableText d ↔ r.tableName.SameTable q.tableName := by
  have paired : d.table.Paired := ((Dialect.fault?_eq_none_iff d).mp usable).2.1
  rw [← QualifiedName.parts_eq_iff]
  constructor
  · intro same
    exact QualifiedName.parts_eq_of_text_eq paired legible legible' same
  · intro same
    simp only [Request.tableText, QualifiedName.text_eq, same]

def Request.ownArchivedItems : Request :=
  { items with provider := { items.provider with schema := some "archive" } }

/-- Whether a query object or the provider names the schema, its items are the same table. -/
theorem archived_items_told :
    Dialect.standard.fault? = none ∧
      (∀ part ∈ Request.archivedItems.tableName.parts, Dialect.standard.table.Legible part) ∧
      (∀ part ∈ Request.ownArchivedItems.tableName.parts, Dialect.standard.table.Legible part) ∧
      Request.archivedItems.tableText .standard = "[archive].[Items]" ∧
      Request.ownArchivedItems.tableText .standard = "[archive].[Items]" ∧
      Request.archivedItems.tableName.SameTable Request.ownArchivedItems.tableName := by
  have usable : Dialect.standard.fault? = none := Dialect.fault?_standard
  have legible : ∀ part ∈ Request.archivedItems.tableName.parts,
      Dialect.standard.table.Legible part := by decide +kernel
  have legible' : ∀ part ∈ Request.ownArchivedItems.tableName.parts,
      Dialect.standard.table.Legible part := by decide +kernel
  have text : Request.archivedItems.tableText .standard = "[archive].[Items]" := by decide +kernel
  have text' : Request.ownArchivedItems.tableText .standard = "[archive].[Items]" := by
    decide +kernel
  exact ⟨usable, legible, legible', text, text',
    (table_text_tells_name _ _ _ usable legible legible').mp (text.trans text'.symm)⟩

/-- A table whose name holds a closing delimiter can pass for one in a schema. -/
example :
    Request.archivedItems.tableText .standard =
      { Request.items with
        provider := { Provider.blank with destination := "archive].[Items" } }.tableText
        .standard := by
  decide +kernel

end TableWrite
