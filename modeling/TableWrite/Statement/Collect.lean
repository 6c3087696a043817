set_option autoImplicit false

namespace TableWrite

variable {ε α β : Type}

/-- The contributions of all elements in their order, or the first failure. -/
def collect (f : α → Except ε (List β)) : List α → Except ε (List β)
  | [] => .ok []
  | a :: rest =>
    match f a, collect f rest with
    | .error e, _ => .error e
    | .ok _, .error e => .error e
    | .ok first, .ok others => .ok (first ++ others)

@[simp] theorem collect_nil (f : α → Except ε (List β)) : collect f [] = .ok [] := rfl

theorem collect_cons_ok {f : α → Except ε (List β)} {a : α} {rest : List α} {first others : List β}
    (head : f a = .ok first) (tail : collect f rest = .ok others) :
    collect f (a :: rest) = .ok (first ++ others) := by
  simp [collect, head, tail]

theorem collect_ok {f : α → Except ε (List β)} {g : α → List β} {xs : List α}
    (each : ∀ a ∈ xs, f a = .ok (g a)) : collect f xs = .ok (xs.flatMap g) := by
  induction xs with
  | nil => rfl
  | cons a rest ih =>
    rw [List.flatMap_cons]
    exact collect_cons_ok (each a (by simp)) (ih fun b mem => each b (by simp [mem]))

theorem collect_congr {f g : α → Except ε (List β)} {xs : List α} (same : ∀ a ∈ xs, f a = g a) :
    collect f xs = collect g xs := by
  induction xs with
  | nil => rfl
  | cons a rest ih =>
    rw [collect, collect, same a List.mem_cons_self,
      ih fun b mem => same b (List.mem_cons_of_mem a mem)]

/-- What an element contributed to a success is in it. -/
theorem exists_of_collect_ok {f : α → Except ε (List β)} {xs : List α} {bs : List β}
    (done : collect f xs = .ok bs) {a : α} (mem : a ∈ xs) :
    ∃ part, f a = .ok part ∧ ∀ b ∈ part, b ∈ bs := by
  induction xs generalizing bs with
  | nil => cases mem
  | cons first rest ih =>
      cases head : f first with
      | error e => simp [collect, head] at done
      | ok part =>
          cases tail : collect f rest with
          | error e => simp [collect, head, tail] at done
          | ok others =>
              simp only [collect, head, tail, Except.ok.injEq] at done
              subst done
              rcases List.mem_cons.mp mem with rfl | inside
              · exact ⟨part, head, fun b there => List.mem_append_left _ there⟩
              · obtain ⟨later, found, within⟩ := ih tail inside
                exact ⟨later, found, fun b there => List.mem_append_right _ (within b there)⟩

/-- What is seen of all contributions is what is seen of each of them. -/
theorem seen_of_collect {γ : Type} {f : α → Except ε (List β)} {see : List β → List γ}
    {seen : α → List γ} {xs : List α} {bs : List β} (nothing : see [] = [])
    (together : ∀ part others, see (part ++ others) = see part ++ see others)
    (each : ∀ a ∈ xs, ∀ part, f a = .ok part → see part = seen a)
    (done : collect f xs = .ok bs) : see bs = xs.flatMap seen := by
  induction xs generalizing bs with
  | nil =>
      cases done
      exact nothing
  | cons a rest ih =>
      cases head : f a with
      | error e => simp [collect, head] at done
      | ok first =>
          cases tail : collect f rest with
          | error e => simp [collect, head, tail] at done
          | ok others =>
              have later := ih (fun b mem => each b (List.mem_cons_of_mem a mem)) tail
              simp only [collect, head, tail, Except.ok.injEq] at done
              rw [← done, together, List.flatMap_cons, each a List.mem_cons_self first head, later]

theorem exists_of_collect_error {f : α → Except ε (List β)} {xs : List α} {e : ε}
    (failed : collect f xs = .error e) : ∃ a ∈ xs, f a = .error e := by
  induction xs with
  | nil => simp at failed
  | cons a rest ih =>
    cases head : f a with
    | error e' =>
      simp only [collect, head, Except.error.injEq] at failed
      exact ⟨a, by simp, failed ▸ head⟩
    | ok first =>
      cases tail : collect f rest with
      | error e' =>
        simp only [collect, head, tail, Except.error.injEq] at failed
        obtain ⟨b, mem, fails⟩ := ih (failed ▸ tail)
        exact ⟨b, by simp [mem], fails⟩
      | ok others => simp [collect, head, tail] at failed

end TableWrite
