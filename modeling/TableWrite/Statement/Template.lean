import TableWrite.Text.DecimalDigit

set_option autoImplicit false

namespace TableWrite

open Text

inductive Piece where
  | char (c : Char)
  /-- A token by its digits. -/
  | token (digits : List Char)
deriving DecidableEq

namespace Piece

/-- The characters that a piece was scanned from. -/
def chars : Piece → List Char
  | char c => [c]
  | token digits => '{' :: (digits ++ ['}'])

def digits? : Piece → Option (List Char)
  | char _ => none
  | token digits => some digits

end Piece

namespace Template

/-- What follows a token's opening brace, if it is the rest of a token: the digits, and the
characters after the closing brace. -/
def tokenRest? (s : List Char) :
    Option (List Char × { rest : List Char // rest.length < s.length }) :=
  let run := s.takeWhile isDecimalDigit
  if run.isEmpty then none
  else
    match found : s.dropWhile isDecimalDigit with
    | '}' :: rest =>
      have shorter : rest.length < s.length := by
        have whole := congrArg List.length <|
          List.takeWhile_append_dropWhile (p := isDecimalDigit) (l := s)
        simp only [found, List.length_append, List.length_cons] at whole
        omega
      some (run, ⟨rest, shorter⟩)
    | _ => none

/-- The pieces of a text, from left to right. -/
def scan : List Char → List Piece
  | [] => []
  | c :: s =>
    if c = '{' then
      match tokenRest? s with
      | some (digits, rest) => .token digits :: scan rest.val
      | none => .char c :: scan s
    else .char c :: scan s
termination_by s => s.length
decreasing_by
  · have := rest.property
    simp only [List.length_cons]
    omega
  · simp
  · simp

theorem tokenRest?_eq_some {s digits : List Char} {rest}
    (found : tokenRest? s = some (digits, rest)) : s = digits ++ '}' :: rest.val := by
  have whole := List.takeWhile_append_dropWhile (p := isDecimalDigit) (l := s)
  simp only [tokenRest?] at found
  split at found
  · contradiction
  · split at found
    · next after dropped =>
      simp only [Option.some.injEq, Prod.mk.injEq] at found
      obtain ⟨rfl, rfl⟩ := found
      rw [dropped] at whole
      exact whole.symm
    · contradiction

/-- Scanning loses nothing. -/
theorem joined_scan (s : List Char) : (scan s).flatMap Piece.chars = s := by
  fun_induction scan s with
  | case1 => rfl
  | case2 s digits rest found ih => simp [Piece.chars, ih, tokenRest?_eq_some found]
  | case3 s _ ih => simp [Piece.chars, ih]
  | case4 c s _ ih => simp [Piece.chars, ih]

/-- The digits of the tokens, from left to right. -/
def tokens (s : List Char) : List (List Char) := (scan s).filterMap Piece.digits?

/-- The number of a token, if it is written in ASCII digits and below `count`. -/
def index? (count : Nat) (digits : List Char) : Option Nat :=
  if digits.all Char.isDigit && ofDigits digits < count then some (ofDigits digits) else none

/-- A piece after every token with a number below `count` gave way to the placeholder. -/
def substitutePiece (placeholder : List Char) (count : Nat) (p : Piece) : List Char :=
  match p.digits?.bind (index? count) with
  | some _ => placeholder
  | none => p.chars

def substitute (placeholder : List Char) (count : Nat) (s : List Char) : List Char :=
  (scan s).flatMap (substitutePiece placeholder count)

/-- A text of which no token has a number below `count` is left as it is. -/
theorem substitute_of_no_index {placeholder : List Char} {count : Nat} {s : List Char}
    (unnumbered : ∀ digits ∈ tokens s, index? count digits = none) :
    substitute placeholder count s = s := by
  have plain : ∀ p ∈ scan s, substitutePiece placeholder count p = p.chars := by
    intro p mem
    cases p with
    | char c => rfl
    | token digits =>
      have missing := unnumbered digits (List.mem_filterMap.2 ⟨_, mem, rfl⟩)
      simp [substitutePiece, Piece.digits?, missing]
  rw [substitute, List.flatMap, List.map_congr_left plain]
  exact joined_scan s

theorem substitute_of_no_token {placeholder : List Char} {count : Nat} {s : List Char}
    (none_found : tokens s = []) : substitute placeholder count s = s :=
  substitute_of_no_index fun digits mem => by simp [none_found] at mem

end Template
end TableWrite
