set_option autoImplicit false

namespace TableWrite.Text

/-- The parts between the separators; there is always one more part than separators. -/
def splitAt (separator : Char) : List Char → List (List Char)
  | [] => [[]]
  | c :: rest =>
    if c = separator then [] :: splitAt separator rest
    else
      match splitAt separator rest with
      | part :: others => (c :: part) :: others
      | [] => [[c]]

theorem splitAt_ne_nil (separator : Char) (s : List Char) : splitAt separator s ≠ [] := by
  induction s with
  | nil => simp [splitAt]
  | cons c rest ih =>
    unfold splitAt
    split
    · simp
    · split <;> simp

theorem splitAt_of_not_mem {separator : Char} {s : List Char} (free : separator ∉ s) :
    splitAt separator s = [s] := by
  induction s with
  | nil => rfl
  | cons c rest ih =>
    have parts : separator ≠ c ∧ separator ∉ rest := by simpa using free
    simp [splitAt, parts.1.symm, ih parts.2]

theorem splitAt_append_cons {separator : Char} {s : List Char} (free : separator ∉ s)
    (rest : List Char) :
    splitAt separator (s ++ separator :: rest) = s :: splitAt separator rest := by
  induction s with
  | nil => simp [splitAt]
  | cons c others ih =>
    have parts : separator ≠ c ∧ separator ∉ others := by simpa using free
    simp [splitAt, parts.1.symm, ih parts.2]

end TableWrite.Text
