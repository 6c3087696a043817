set_option autoImplicit false

namespace TableWrite

abbrev Keyed (α β : Type) := List (α × β)

namespace Keyed

variable {α β : Type} [BEq α]

def keys (m : Keyed α β) : List α := m.map Prod.fst

/-- The value of a key. -/
def get? (m : Keyed α β) (k : α) : Option β := List.lookup k m

/-- Gives a key a value, in the place of the one it had. -/
def put (k : α) (v : β) : Keyed α β → Keyed α β
  | [] => [(k, v)]
  | (l, w) :: rest => if k == l then (k, v) :: rest else (l, w) :: put k v rest

/-- The map of some pairs; the last pair of a key gives its value. -/
def ofList (pairs : List (α × β)) : Keyed α β := pairs.foldl (fun m p => put p.1 p.2 m) []

@[simp] theorem get?_nil (k : α) : get? ([] : Keyed α β) k = none := rfl

theorem get?_cons (k : α) (p : α × β) (rest : Keyed α β) :
    get? (p :: rest) k = if k == p.1 then some p.2 else get? rest k := by
  obtain ⟨l, v⟩ := p
  rw [get?, List.lookup_cons]
  cases k == l <;> rfl

variable [LawfulBEq α]

theorem lookup_put_self (k : α) (v : β) (m : Keyed α β) : get? (put k v m) k = some v := by
  induction m with
  | nil => simp [put, get?_cons]
  | cons p rest ih =>
    unfold put
    split
    · simp [get?_cons]
    · next differ => simpa [get?_cons, differ] using ih

theorem lookup_put_of_ne {k l : α} (v : β) (m : Keyed α β) (differ : l ≠ k) :
    get? (put k v m) l = get? m l := by
  have missed : (l == k) = false := beq_eq_false_iff_ne.2 differ
  induction m with
  | nil => simp [put, get?_cons, missed]
  | cons p rest ih =>
    unfold put
    split
    · next same =>
      have same : k = p.1 := eq_of_beq same
      simp [get?_cons, missed, ← same]
    · rw [get?_cons, get?_cons, ih]

theorem mem_keys_put {k l : α} {v : β} {m : Keyed α β} (mem : l ∈ keys (put k v m)) :
    l = k ∨ l ∈ keys m := by
  induction m with
  | nil => simpa [put, keys] using mem
  | cons p rest ih =>
    unfold put at mem
    split at mem
    · next same =>
      have same : k = p.1 := eq_of_beq same
      simp only [keys, List.map_cons, List.mem_cons] at mem ⊢
      rcases mem with head | tail
      · exact .inl head
      · exact .inr (.inr tail)
    · simp only [keys, List.map_cons, List.mem_cons] at mem ih ⊢
      rcases mem with head | tail
      · exact .inr (.inl head)
      · exact (ih tail).imp_right .inr

theorem nodup_keys_put {k : α} {v : β} {m : Keyed α β} (distinct : (keys m).Nodup) :
    (keys (put k v m)).Nodup := by
  induction m with
  | nil => simp [put, keys]
  | cons p rest ih =>
    have parts : p.1 ∉ keys rest ∧ (keys rest).Nodup := by simpa [keys] using distinct
    unfold put
    split
    · next same =>
      have same : k = p.1 := eq_of_beq same
      simpa [keys, same] using parts
    · next differ =>
      have missing : p.1 ∉ keys (put k v rest) := by
        intro mem
        rcases mem_keys_put mem with head | tail
        · exact differ (by simp [head])
        · exact parts.1 tail
      simpa [keys] using And.intro missing (ih parts.2)

end Keyed
end TableWrite
