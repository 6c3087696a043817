import Mathlib.Data.List.Forall2
import Mathlib.Data.List.Nodup
import TableWrite.Command

set_option autoImplicit false

namespace TableWrite

variable {α β : Type} {key : α → β}

theorem map_updateFirst {f : α → α} (keeps : ∀ a, key (f a) = key a) (p : α → Bool)
    (xs : List α) : (Command.updateFirst p f xs).map key = xs.map key := by
  induction xs with
  | nil => rfl
  | cons a rest ih =>
      by_cases first : p a = true
      · simp only [Command.updateFirst, first, ↓reduceIte, List.map_cons, keeps]
      · simp only [Command.updateFirst, first, Bool.false_eq_true, ↓reduceIte, List.map_cons, ih]

/-- A change to one element keeps what all elements go with. -/
theorem forall₂_updateFirst {R : α → β → Prop} {p : β → Bool} {f : β → β}
    {xs : List α} {ys : List β} (keeps : ∀ a b, R a b → R a (f b))
    (lined : List.Forall₂ R xs ys) : List.Forall₂ R xs (Command.updateFirst p f ys) := by
  induction lined with
  | nil => exact .nil
  | cons head tail ih =>
      unfold Command.updateFirst
      split
      · exact .cons (keeps _ _ head) tail
      · exact .cons head ih

section Distinct

variable [BEq β] [LawfulBEq β] {xs : List α}

/-- Where keys are distinct, an element is found by its key. -/
theorem find?_of_nodup_map {a : α} (distinct : (xs.map key).Nodup) (mem : a ∈ xs) :
    xs.find? (fun b => key b == key a) = some a := by
  have present : (xs.find? fun b => key b == key a).isSome := by
    rw [List.find?_isSome]
    exact ⟨a, mem, beq_self_eq_true _⟩
  obtain ⟨b, found⟩ := Option.isSome_iff_exists.mp present
  have keys := List.find?_some found
  have same := List.inj_on_of_nodup_map distinct (List.mem_of_find?_eq_some found) mem
    (eq_of_beq keys)
  rw [found, same]

/-- Where keys are distinct and each contribution has the key of its element, a key singles out
what its element has contributed. -/
theorem filter_flatMap_of_nodup_map {γ : Type} {f : α → List γ} {keyOf : γ → β} {a : α}
    (distinct : (xs.map key).Nodup) (owned : ∀ b ∈ xs, ∀ c ∈ f b, keyOf c = key b)
    (mem : a ∈ xs) : (xs.flatMap f).filter (fun c => keyOf c == key a) = f a := by
  induction xs with
  | nil => cases mem
  | cons first rest ih =>
      obtain ⟨fresh, distinct⟩ := List.nodup_cons.mp distinct
      have head : ∀ c ∈ f first, keyOf c = key first := owned first List.mem_cons_self
      have tail : ∀ b ∈ rest, ∀ c ∈ f b, keyOf c = key b := fun b inside =>
        owned b (List.mem_cons_of_mem first inside)
      rw [List.flatMap_cons, List.filter_append]
      rcases List.mem_cons.mp mem with rfl | inside
      · have own : (f a).filter (fun c => keyOf c == key a) = f a := by
          rw [List.filter_eq_self]
          intro c contributed
          rw [head c contributed]
          exact beq_self_eq_true _
        have others : (rest.flatMap f).filter (fun c => keyOf c == key a) = [] := by
          rw [List.filter_eq_nil_iff]
          intro c contributed same
          obtain ⟨b, there, adds⟩ := List.mem_flatMap.mp contributed
          rw [tail b there c adds] at same
          exact fresh (List.mem_map.mpr ⟨b, there, eq_of_beq same⟩)
        rw [own, others, List.append_nil]
      · have foreign : (f first).filter (fun c => keyOf c == key a) = [] := by
          rw [List.filter_eq_nil_iff]
          intro c contributed same
          rw [head c contributed] at same
          exact fresh (List.mem_map.mpr ⟨a, inside, (eq_of_beq same).symm⟩)
        rw [foreign, List.nil_append, ih distinct tail inside]

/-- Where keys are distinct, the first element of a key is the only one. -/
theorem updateFirst_of_nodup_map (distinct : (xs.map key).Nodup) (k : β) (f : α → α) :
    Command.updateFirst (fun a => key a == k) f xs =
      xs.map fun a => if key a == k then f a else a := by
  induction xs with
  | nil => rfl
  | cons a rest ih =>
      obtain ⟨fresh, distinct⟩ := List.nodup_cons.mp distinct
      unfold Command.updateFirst
      rw [List.map_cons]
      by_cases same : (key a == k) = true
      · have others : rest.map (fun b => if key b == k then f b else b) = rest.map id := by
          apply List.map_congr_left
          intro b mem
          have differ : ¬ (key b == k) = true := by
            intro again
            rw [← eq_of_beq same] at again
            exact fresh (List.mem_map.mpr ⟨b, mem, eq_of_beq again⟩)
          rw [if_neg differ]
          rfl
        rw [if_pos same, if_pos same, others, List.map_id]
      · rw [if_neg same, if_neg same, ih distinct]

/-- Where keys are distinct, the first element of a key is the one at the place of the key. -/
theorem updateFirst_eq_modify {i : Nat} {k : β} (distinct : (xs.map key).Nodup)
    (placed : (xs.map key)[i]? = some k) (f : α → α) :
    Command.updateFirst (fun a => key a == k) f xs = xs.modify i f := by
  induction xs generalizing i with
  | nil => cases placed
  | cons a rest ih =>
      obtain ⟨fresh, distinct⟩ := List.nodup_cons.mp distinct
      unfold Command.updateFirst
      cases i with
      | zero =>
          have first : key a = k := Option.some.inj placed
          rw [first, if_pos (beq_self_eq_true k)]
          rfl
      | succ i =>
          have later : (rest.map key)[i]? = some k := placed
          have differ : ¬ (key a == k) = true := by
            intro same
            rw [eq_of_beq same] at fresh
            exact fresh (List.mem_of_getElem? later)
          rw [if_neg differ, ih distinct later]
          rfl

/-- Where keys are distinct, changing the elements of some keys one after the other changes all
elements of those keys. -/
theorem foldl_updateFirst_of_nodup_map {f : α → α} (keeps : ∀ a, key (f a) = key a)
    (again : ∀ a, f (f a) = f a) (distinct : (xs.map key).Nodup) (ks : List β) :
    ks.foldl (fun xs k => Command.updateFirst (fun a => key a == k) f xs) xs =
      xs.map fun a => if ks.contains (key a) then f a else a := by
  induction ks generalizing xs with
  | nil => exact (List.map_id xs).symm
  | cons k rest ih =>
      have kept : ((Command.updateFirst (fun a => key a == k) f xs).map key).Nodup := by
        rw [map_updateFirst keeps]
        exact distinct
      rw [List.foldl_cons, ih kept, updateFirst_of_nodup_map distinct, List.map_map]
      apply List.map_congr_left
      intro a _
      rw [Function.comp_apply, List.contains_cons]
      by_cases first : (key a == k) = true
      · simp only [first, ↓reduceIte, keeps, again, Bool.true_or, ite_self]
      · simp only [first, Bool.false_eq_true, ↓reduceIte, Bool.false_or]

end Distinct

end TableWrite
