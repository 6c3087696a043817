import TableWrite.Proofs.TemplateRewriting

set_option autoImplicit false

namespace TableWrite

open Text

namespace Template

/-- Does a token stand somewhere in the text? -/
def HasToken (s : List Char) : Prop :=
  ∃ before digits after, TokenDigits digits ∧ s = before ++ '{' :: (digits ++ '}' :: after)

/-- A brace closes no token that another brace opened before it. -/
theorem tokenRest?_append_brace {s : List Char} (unclosed : tokenRest? s = none)
    (rest : List Char) : tokenRest? (s ++ '{' :: rest) = none := by
  cases found : tokenRest? (s ++ '{' :: rest) with
  | none => rfl
  | some token =>
      obtain ⟨digits, after⟩ := token
      have written := tokenDigits_of_tokenRest? found
      rcases List.append_eq_append_iff.mp (tokenRest?_eq_some found) with
        ⟨others, rfl, behind⟩ | ⟨others, rfl, behind⟩
      · -- The brace would be a digit, or be the closing one.
        cases others with
        | nil => cases behind
        | cons c others =>
            obtain ⟨rfl, -⟩ := List.cons.inj behind
            exact absurd (List.mem_append_right _ List.mem_cons_self) (free_of_tokenDigits written)
      · cases others with
        | nil => cases behind
        | cons c others =>
            obtain ⟨rfl, -⟩ := List.cons.inj behind
            obtain ⟨_, closed, -⟩ := tokenRest?_close written others
            rw [unclosed] at closed
            cases closed

/-- What stands before a token and what stands behind it are scanned on their own. -/
theorem scan_append_token (before : List Char) {digits : List Char} (written : TokenDigits digits)
    (after : List Char) :
    scan (before ++ '{' :: (digits ++ '}' :: after)) =
      scan before ++ .token digits :: scan after := by
  fun_induction scan before with
  | case1 => exact scan_token written after
  | case2 s own rest found ih =>
      obtain ⟨rest, shorter⟩ := rest
      have split : s = own ++ '}' :: rest := tokenRest?_eq_some found
      dsimp only at ih ⊢
      rw [split, List.cons_append, List.append_assoc, List.cons_append,
        scan_token (tokenDigits_of_tokenRest? found), ih]
      rfl
  | case3 s unclosed ih =>
      rw [List.cons_append, scan_brace_of_none (tokenRest?_append_brace unclosed _), ih]
      rfl
  | case4 c s plain ih =>
      rw [List.cons_append, scan_cons_of_ne plain, ih]
      rfl

theorem tokenDigits_of_mem_tokens {s digits : List Char} (mem : digits ∈ tokens s) :
    TokenDigits digits := by
  fun_induction scan s with
  | case1 =>
      unfold tokens at mem
      rw [scan_nil] at mem
      cases mem
  | case2 s own rest found ih =>
      have written := tokenDigits_of_tokenRest? found
      rw [tokenRest?_eq_some found, tokens_token written, List.mem_cons] at mem
      rcases mem with rfl | later
      · exact written
      · exact ih later
  | case3 s unclosed ih =>
      rw [tokens_brace_of_none unclosed] at mem
      exact ih mem
  | case4 c s plain ih =>
      rw [tokens_cons_of_ne plain] at mem
      exact ih mem

theorem tokens_eq_nil_iff (s : List Char) : tokens s = [] ↔ ¬ HasToken s := by
  constructor
  · rintro none_read ⟨before, digits, after, written, rfl⟩
    unfold tokens at none_read
    rw [scan_append_token before written, List.filterMap_append] at none_read
    cases (List.append_eq_nil_iff.mp none_read).2
  · intro none_written
    refine List.eq_nil_iff_forall_not_mem.mpr fun digits mem => none_written ?_
    obtain ⟨p, scanned, own⟩ := List.mem_filterMap.mp mem
    obtain ⟨front, back, split⟩ := List.append_of_mem scanned
    cases p with
    | char c => cases own
    | token ds =>
        cases own
        refine ⟨front.flatMap Piece.chars, digits, back.flatMap Piece.chars,
          tokenDigits_of_mem_tokens mem, ?_⟩
        rw [← joined_scan s, split]
        simp [Piece.chars]

theorem isSome_index?_iff (count : Nat) (digits : List Char) :
    (index? count digits).isSome = true ↔
      digits.all Char.isDigit = true ∧ ofDigits digits < count := by
  unfold index?
  split
  · rename_i numbered
    simpa using numbered
  · rename_i unnumbered
    simpa using unnumbered

end Template

open Template

/-- Rewriting cuts a text at each of its tokens: the token gives way if it is written in ASCII
digits, leading zeros included, and its number is below the count of parameters (which a machine
word holds, and so the number too); otherwise it stays, and what stands around it is rewritten on
its own. A text without tokens stays as it is. With a placeholder that has no brace, and not only
digits, nothing is left to rewrite. -/
theorem text_rewritten_around_tokens (placeholder : List Char) (count : Nat) :
    (∀ before digits after, TokenDigits digits →
      substitute placeholder count (before ++ '{' :: (digits ++ '}' :: after)) =
        substitute placeholder count before ++
          (if digits.all Char.isDigit = true ∧ ofDigits digits < count then placeholder
            else '{' :: (digits ++ ['}'])) ++
          substitute placeholder count after) ∧
      (∀ s, ¬ HasToken s → substitute placeholder count s = s) ∧
      ('{' ∉ placeholder → '}' ∉ placeholder → (∃ c ∈ placeholder, isDecimalDigit c = false) →
        ∀ s, substitute placeholder count (substitute placeholder count s) =
          substitute placeholder count s) := by
  refine ⟨?_, ?_, ?_⟩
  · intro before digits after written
    have piece : substitutePiece placeholder count (.token digits) =
        if (index? count digits).isSome then placeholder else '{' :: (digits ++ ['}']) :=
      substitutePiece_token digits
    simp only [isSome_index?_iff] at piece
    unfold substitute
    rw [scan_append_token before written, List.flatMap_append, List.flatMap_cons, piece,
      List.append_assoc]
  · intro s none_written
    exact substitute_of_no_token ((tokens_eq_nil_iff s).mpr none_written)
  · rintro unopened unclosed ⟨c, mem, odd⟩ s
    refine substitute_substitute ⟨unopened, unclosed⟩ mem ?_ s
    cases ascii : c.isDigit with
    | false => rfl
    | true =>
        rw [isDecimalDigit_of_isDigit c ascii] at odd
        cases odd

/-- A text that doubles the braces of one number and pads another with zeros, and one that only
looks as if it had a token. -/
theorem padded_number_rewritten :
    TokenDigits "007".toList ∧
      substitute ['?'] 8 "{{0}}, {007}, {8}".toList = "{?}, ?, {8}".toList ∧
      (¬ HasToken "{ 0}, {+1}".toList ∧
        substitute ['?'] 8 "{ 0}, {+1}".toList = "{ 0}, {+1}".toList) ∧
      substitute ['?'] 8 "{?}, ?, {8}".toList = "{?}, ?, {8}".toList := by
  obtain ⟨around, untouched, once⟩ := text_rewritten_around_tokens ['?'] 8
  have written : TokenDigits "007".toList :=
    ⟨by decide +kernel, List.all_eq_true.mp (by decide +kernel)⟩
  have none_written : ¬ HasToken "{ 0}, {+1}".toList :=
    (tokens_eq_nil_iff _).mp (by decide +kernel)
  have rewritten : substitute ['?'] 8 "{{0}}, {007}, {8}".toList = "{?}, ?, {8}".toList :=
    (around "{{0}}, ".toList "007".toList ", {8}".toList written).trans (by decide +kernel)
  have again := once (by decide) (by decide) ⟨'?', List.mem_singleton_self _, by decide +kernel⟩
    "{{0}}, {007}, {8}".toList
  rw [rewritten] at again
  exact ⟨written, rewritten, ⟨none_written, untouched _ none_written⟩, again⟩

end TableWrite
