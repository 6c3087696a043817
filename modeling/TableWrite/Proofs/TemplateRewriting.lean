import TableWrite.Statement.Template

set_option autoImplicit false

namespace TableWrite.Template

open Text

/-- Are these the digits of a token? -/
def TokenDigits (digits : List Char) : Prop :=
  digits ≠ [] ∧ ∀ c ∈ digits, isDecimalDigit c = true

theorem brace_not_digit : isDecimalDigit '{' = false ∧ isDecimalDigit '}' = false := by
  decide +kernel

theorem tokenRest?_close {digits : List Char} (written : TokenDigits digits) (rest : List Char) :
    ∃ after, tokenRest? (digits ++ '}' :: rest) = some (digits, after) ∧ after.val = rest := by
  have run : (digits ++ '}' :: rest).takeWhile isDecimalDigit = digits := by
    rw [List.takeWhile_append_of_pos written.2, List.takeWhile_cons, brace_not_digit.2]
    simp
  have behind : (digits ++ '}' :: rest).dropWhile isDecimalDigit = '}' :: rest := by
    rw [List.dropWhile_append_of_pos written.2, List.dropWhile_cons, brace_not_digit.2]
    simp
  have filled : digits.isEmpty = false := by simpa using written.1
  unfold tokenRest?
  simp only [run, filled]
  split
  · contradiction
  · split
    · rename_i kept found
      rw [behind] at found
      cases found
      exact ⟨⟨rest, by simp; omega⟩, rfl, rfl⟩
    · rename_i unclosed
      exact absurd behind (unclosed rest)

theorem tokenDigits_of_tokenRest? {s digits : List Char} {rest}
    (found : tokenRest? s = some (digits, rest)) : TokenDigits digits := by
  simp only [tokenRest?] at found
  split at found
  · contradiction
  · rename_i filled
    split at found
    · simp only [Option.some.injEq, Prod.mk.injEq] at found
      obtain ⟨rfl, -⟩ := found
      exact ⟨by simpa using filled, List.all_eq_true.mp List.all_takeWhile⟩
    · contradiction

theorem scan_nil : scan [] = [] := by
  rw [scan]

theorem scan_cons_of_ne {c : Char} (plain : c ≠ '{') (s : List Char) :
    scan (c :: s) = .char c :: scan s := by
  rw [scan, if_neg plain]

theorem scan_brace_of_none {s : List Char} (unclosed : tokenRest? s = none) :
    scan ('{' :: s) = .char '{' :: scan s := by
  rw [scan, if_pos rfl, unclosed]

theorem scan_token {digits : List Char} (written : TokenDigits digits) (rest : List Char) :
    scan ('{' :: (digits ++ '}' :: rest)) = .token digits :: scan rest := by
  obtain ⟨after, found, same⟩ := tokenRest?_close written rest
  rw [scan, if_pos rfl, found]
  dsimp only
  rw [same]

theorem tokens_cons_of_ne {c : Char} (plain : c ≠ '{') (s : List Char) :
    tokens (c :: s) = tokens s := by
  unfold tokens
  rw [scan_cons_of_ne plain]
  rfl

theorem tokens_brace_of_none {s : List Char} (unclosed : tokenRest? s = none) :
    tokens ('{' :: s) = tokens s := by
  unfold tokens
  rw [scan_brace_of_none unclosed]
  rfl

/-- No token begins where no brace opens. -/
theorem tokens_append_of_free {words : List Char} (free : '{' ∉ words) (s : List Char) :
    tokens (words ++ s) = tokens s := by
  induction words with
  | nil => rfl
  | cons c rest ih =>
      have parts : '{' ≠ c ∧ '{' ∉ rest := by simpa using free
      rw [List.cons_append, tokens_cons_of_ne (Ne.symm parts.1), ih parts.2]

theorem tokens_token {digits : List Char} (written : TokenDigits digits) (rest : List Char) :
    tokens ('{' :: (digits ++ '}' :: rest)) = digits :: tokens rest := by
  unfold tokens
  rw [scan_token written]
  rfl

theorem free_of_tokenDigits {digits : List Char} (written : TokenDigits digits) :
    '{' ∉ digits := by
  intro mem
  have decimal := written.2 _ mem
  rw [brace_not_digit.1] at decimal
  cases decimal

section Rewriting

variable {placeholder : List Char} {count : Nat}

theorem substitute_nil : substitute placeholder count [] = [] := by
  unfold substitute
  rw [scan_nil]
  rfl

theorem substitute_cons_of_ne {c : Char} (plain : c ≠ '{') (s : List Char) :
    substitute placeholder count (c :: s) = c :: substitute placeholder count s := by
  unfold substitute
  rw [scan_cons_of_ne plain]
  rfl

theorem substitute_brace_of_none {s : List Char} (unclosed : tokenRest? s = none) :
    substitute placeholder count ('{' :: s) = '{' :: substitute placeholder count s := by
  unfold substitute
  rw [scan_brace_of_none unclosed]
  rfl

theorem substitute_token {digits : List Char} (written : TokenDigits digits) (rest : List Char) :
    substitute placeholder count ('{' :: (digits ++ '}' :: rest)) =
      substitutePiece placeholder count (.token digits) ++ substitute placeholder count rest := by
  unfold substitute
  rw [scan_token written]
  rfl

/-- A token has its number, and gives way, or it stays. -/
theorem substitutePiece_token (digits : List Char) :
    substitutePiece placeholder count (.token digits) =
      if (index? count digits).isSome then placeholder else '{' :: (digits ++ ['}']) := by
  unfold substitutePiece Piece.digits? Piece.chars
  dsimp only [Option.bind_some]
  cases index? count digits <;> rfl

/-- A character in front of which no brace opens was there before, or comes from a placeholder. -/
theorem origin_of_substitute {c : Char} {s t : List Char} (plain : c ≠ '{')
    (rewritten : substitute placeholder count s = c :: t) :
    (∃ before, s = c :: before ∧ substitute placeholder count before = t) ∨
      ∃ after, placeholder ++ after = c :: t := by
  cases s with
  | nil =>
      rw [substitute_nil] at rewritten
      cases rewritten
  | cons first rest =>
      by_cases opens : first = '{'
      · subst opens
        cases found : tokenRest? rest with
        | none =>
            rw [substitute_brace_of_none found] at rewritten
            exact absurd (List.head_eq_of_cons_eq rewritten).symm plain
        | some token =>
            obtain ⟨digits, after⟩ := token
            rw [tokenRest?_eq_some found, substitute_token (tokenDigits_of_tokenRest? found),
              substitutePiece_token] at rewritten
            split at rewritten
            · exact .inr ⟨_, rewritten⟩
            · exact absurd (List.head_eq_of_cons_eq rewritten).symm plain
      · rw [substitute_cons_of_ne opens] at rewritten
        obtain ⟨rfl, same⟩ := List.cons.inj rewritten
        exact .inl ⟨rest, rfl, same⟩

theorem subset_of_append_eq {digits rest after : List Char} (free : '}' ∉ placeholder)
    (same : placeholder ++ after = digits ++ '}' :: rest) : placeholder ⊆ digits := by
  rcases List.append_eq_append_iff.mp same with ⟨others, rfl, -⟩ | ⟨others, rfl, rest_eq⟩
  · exact List.subset_append_left _ _
  · cases others with
    | nil =>
        rw [List.append_nil]
        exact List.Subset.refl _
    | cons c others =>
        obtain ⟨rfl, -⟩ := List.cons.inj rest_eq
        exact absurd (List.mem_append_right _ List.mem_cons_self) free

/-- Digits and a closing brace stood in the text before, or hold a whole placeholder. -/
theorem closed_of_substitute (free : '}' ∉ placeholder) {s digits rest : List Char}
    (decimal : ∀ c ∈ digits, isDecimalDigit c = true)
    (rewritten : substitute placeholder count s = digits ++ '}' :: rest) :
    (∃ before, s = digits ++ '}' :: before) ∨ placeholder ⊆ digits := by
  induction digits generalizing s with
  | nil =>
      rcases origin_of_substitute (by decide) rewritten with ⟨before, rfl, -⟩ | ⟨after, same⟩
      · exact .inl ⟨before, rfl⟩
      · exact .inr (subset_of_append_eq free same)
  | cons d digits ih =>
      have plain : d ≠ '{' := by
        rintro rfl
        have digit := decimal _ List.mem_cons_self
        rw [brace_not_digit.1] at digit
        cases digit
      rcases origin_of_substitute plain rewritten with ⟨others, rfl, same⟩ | ⟨after, same⟩
      · rcases ih (fun c mem => decimal c (List.mem_cons_of_mem _ mem)) same with
          ⟨before, rfl⟩ | inside
        · exact .inl ⟨before, rfl⟩
        · exact .inr (List.subset_cons_of_subset _ inside)
      · have whole : placeholder ++ after = (d :: digits) ++ '}' :: rest := same
        exact .inr (subset_of_append_eq free whole)

/-- A token of the rewritten text has no number that gives way, or it holds a whole
placeholder. -/
theorem mem_tokens_substitute (free : '{' ∉ placeholder ∧ '}' ∉ placeholder) {s digits : List Char}
    (mem : digits ∈ tokens (substitute placeholder count s)) :
    index? count digits = none ∨ placeholder ⊆ digits := by
  fun_induction scan s with
  | case1 =>
      rw [substitute_nil] at mem
      unfold tokens at mem
      rw [scan_nil] at mem
      cases mem
  | case2 s own rest found ih =>
      have written := tokenDigits_of_tokenRest? found
      rw [tokenRest?_eq_some found, substitute_token written, substitutePiece_token] at mem
      split at mem
      · rw [tokens_append_of_free free.1] at mem
        exact ih mem
      · rename_i stays
        rw [List.cons_append, List.append_assoc, List.singleton_append, tokens_token written,
          List.mem_cons] at mem
        rcases mem with rfl | later
        · left
          simpa using stays
        · exact ih later
  | case3 s unclosed ih =>
      rw [substitute_brace_of_none unclosed] at mem
      cases found : tokenRest? (substitute placeholder count s) with
      | none =>
          rw [tokens_brace_of_none found] at mem
          exact ih mem
      | some token =>
          -- A brace that opened no token before can do so now, with a placeholder behind it.
          obtain ⟨own, after⟩ := token
          have written := tokenDigits_of_tokenRest? found
          have whole := tokenRest?_eq_some found
          rw [whole, tokens_token written, List.mem_cons] at mem
          rcases mem with rfl | later
          · rcases closed_of_substitute free.2 written.2 whole with ⟨before, rfl⟩ | inside
            · obtain ⟨after, closed, -⟩ := tokenRest?_close written before
              rw [closed] at unclosed
              cases unclosed
            · exact .inr inside
          · apply ih
            rw [whole, tokens_append_of_free (free_of_tokenDigits written),
              tokens_cons_of_ne (by decide)]
            exact later
  | case4 c s plain ih =>
      rw [substitute_cons_of_ne plain, tokens_cons_of_ne plain] at mem
      exact ih mem

/-- With a placeholder that no number can be written with, rewriting is done at once. -/
theorem substitute_substitute (free : '{' ∉ placeholder ∧ '}' ∉ placeholder)
    {c : Char} (odd : c ∈ placeholder) (undigit : c.isDigit = false) (s : List Char) :
    substitute placeholder count (substitute placeholder count s) =
      substitute placeholder count s := by
  apply substitute_of_no_index
  intro digits mem
  rcases mem_tokens_substitute free mem with stayed | inside
  · exact stayed
  · have mixed : digits.all Char.isDigit = false :=
      List.all_eq_false.mpr ⟨c, inside odd, by rw [undigit]; simp⟩
    unfold index?
    rw [mixed]
    rfl

end Rewriting

end TableWrite.Template
