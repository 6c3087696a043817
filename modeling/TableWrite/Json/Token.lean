import TableWrite.Json.Basic
import TableWrite.Text.Hex

set_option autoImplicit false

namespace TableWrite

open Text

namespace Json

inductive Token where
  | openArray
  | closeArray
  | openObject
  | closeObject
  | comma
  | colon
  | null
  | bool (b : Bool)
  | number (n : Numeral)
  /-- A string; none if half of a surrogate pair is left in it. -/
  | string (s : Option String)
deriving DecidableEq

namespace Token

/-- The four characters that may stand between tokens. -/
def isSpace (c : Char) : Bool := c == ' ' || c == '\t' || c == '\n' || c == '\r'

/-- The character of a short escape. -/
def shortEscape? : Char → Option Char
  | '"' => some '"'
  | '\\' => some '\\'
  | '/' => some '/'
  | 'b' => some '\x08'
  | 'f' => some '\x0c'
  | 'n' => some '\n'
  | 'r' => some '\r'
  | 't' => some '\t'
  | _ => none

/-- The code unit that four hexadecimal digits write. -/
def codeUnit? (a b c d : Char) : Option Nat := do
  let ds ← [a, b, c, d].mapM hexValue?
  return ds.foldl (fun n d => 16 * n + d.val) 0

/-- The rest of a string behind its opening quote: its code points and code units, and what
follows the closing quote. -/
def stringUnits? : List Char → Option (List Nat × List Char)
  | [] => none
  | '"' :: rest => some ([], rest)
  | '\\' :: 'u' :: a :: b :: c :: d :: rest => do
    let unit ← codeUnit? a b c d
    let (units, after) ← stringUnits? rest
    return (unit :: units, after)
  | '\\' :: c :: rest => do
    let escaped ← shortEscape? c
    let (units, after) ← stringUnits? rest
    return (escaped.toNat :: units, after)
  | c :: rest =>
    if c.toNat < 0x20 then none
    else do
      let (units, after) ← stringUnits? rest
      return (c.toNat :: units, after)

def isHighSurrogate (n : Nat) : Bool := 0xd800 ≤ n && n < 0xdc00

def isLowSurrogate (n : Nat) : Bool := 0xdc00 ≤ n && n < 0xe000

/-- The characters of code points and code units: surrogates count in pairs only. -/
def joinUnits? : List Nat → Option (List Char)
  | [] => some []
  | n :: rest =>
    if isHighSurrogate n then
      match rest with
      | m :: others =>
        if isLowSurrogate m then
          (joinUnits? others).map (Char.ofNat (0x10000 + (n - 0xd800) * 0x400 + (m - 0xdc00)) :: ·)
        else none
      | [] => none
    else if isLowSurrogate n then none
    else (joinUnits? rest).map (Char.ofNat n :: ·)

/-- Splits off the digits at the front; there has to be one. -/
def digitRun? (s : List Char) : Option (List Char × List Char) :=
  let run := s.takeWhile Char.isDigit
  if run.isEmpty then none else some (run, s.dropWhile Char.isDigit)

/-- The digits before the point: no zero stands in front of others. -/
def whole? (s : List Char) : Option (List Char × List Char) := do
  let (run, rest) ← digitRun? s
  if run.head? = some '0' ∧ 1 < run.length then none else some (run, rest)

def fraction? : List Char → Option (List Char × List Char)
  | '.' :: rest => digitRun? rest
  | rest => some ([], rest)

def exponentSign : List Char → Bool × List Char
  | '-' :: rest => (true, rest)
  | '+' :: rest => (false, rest)
  | rest => (false, rest)

def exponent? : List Char → Option (Option Exponent × List Char)
  | c :: rest =>
    if c = 'e' ∨ c = 'E' then do
      let (negative, afterSign) := exponentSign rest
      let (run, after) ← digitRun? afterSign
      return (some ⟨negative, run⟩, after)
    else some (none, c :: rest)
  | [] => some (none, [])

/-- A number without its sign. -/
def number? (negative : Bool) (s : List Char) : Option (Numeral × List Char) := do
  let (whole, afterWhole) ← whole? s
  let (fraction, afterFraction) ← fraction? afterWhole
  let (exponent, after) ← exponent? afterFraction
  return (⟨negative, whole, fraction, exponent⟩, after)

/-- The token at the front of a text, and what follows it. -/
def next? : List Char → Option (Token × List Char)
  | '[' :: rest => some (openArray, rest)
  | ']' :: rest => some (closeArray, rest)
  | '{' :: rest => some (openObject, rest)
  | '}' :: rest => some (closeObject, rest)
  | ',' :: rest => some (comma, rest)
  | ':' :: rest => some (colon, rest)
  | 'n' :: 'u' :: 'l' :: 'l' :: rest => some (null, rest)
  | 't' :: 'r' :: 'u' :: 'e' :: rest => some (bool true, rest)
  | 'f' :: 'a' :: 'l' :: 's' :: 'e' :: rest => some (bool false, rest)
  | '"' :: rest => do
    let (units, after) ← stringUnits? rest
    return (string ((joinUnits? units).map String.ofList), after)
  | '-' :: rest => do
    let (n, after) ← number? true rest
    return (number n, after)
  | rest => do
    let (n, after) ← number? false rest
    return (number n, after)

theorem length_digitRun? {s run rest : List Char} (taken : digitRun? s = some (run, rest)) :
    rest.length < s.length := by
  have whole := congrArg List.length (List.takeWhile_append_dropWhile (p := Char.isDigit) (l := s))
  simp only [digitRun?] at taken
  split at taken
  · contradiction
  · next nonempty =>
    simp only [Option.some.injEq, Prod.mk.injEq] at taken
    obtain ⟨rfl, rfl⟩ := taken
    have : 0 < (s.takeWhile Char.isDigit).length :=
      List.length_pos_iff.2 fun h => nonempty (by simp [h])
    simp only [List.length_append] at whole
    omega

theorem length_fraction? {s run rest : List Char} (taken : fraction? s = some (run, rest)) :
    rest.length ≤ s.length := by
  unfold fraction? at taken
  split at taken
  · have := length_digitRun? taken
    simp only [List.length_cons]
    omega
  · simp only [Option.some.injEq, Prod.mk.injEq] at taken
    simp [taken.2]

theorem length_exponentSign (s : List Char) : (exponentSign s).2.length ≤ s.length := by
  unfold exponentSign
  split <;> simp

theorem length_exponent? {s rest : List Char} {e : Option Exponent}
    (taken : exponent? s = some (e, rest)) : rest.length ≤ s.length := by
  unfold exponent? at taken
  split at taken
  · next c after =>
    split at taken
    · simp only [Option.pure_def, Option.bind_eq_bind, Option.bind_eq_some_iff, Option.some.injEq,
        Prod.mk.injEq, Prod.exists] at taken
      obtain ⟨run, left, found, -, rfl⟩ := taken
      have digits := length_digitRun? found
      have sign := length_exponentSign after
      simp only [List.length_cons]
      omega
    · simp only [Option.some.injEq, Prod.mk.injEq] at taken
      simp [← taken.2]
  · simp only [Option.some.injEq, Prod.mk.injEq] at taken
    simp [← taken.2]

theorem length_number? {negative : Bool} {s rest : List Char} {n : Numeral}
    (taken : number? negative s = some (n, rest)) : rest.length < s.length := by
  simp only [number?, whole?, Option.pure_def, Option.bind_eq_bind, Option.bind_eq_some_iff,
    Option.some.injEq, Prod.mk.injEq, Prod.exists] at taken
  obtain ⟨whole, afterWhole, ⟨run, left, found, kept⟩, fraction, afterFraction, point, e, after,
    exponent, -, rfl⟩ := taken
  split at kept
  · contradiction
  · simp only [Option.some.injEq, Prod.mk.injEq] at kept
    obtain ⟨-, rfl⟩ := kept
    have first := length_digitRun? found
    have second := length_fraction? point
    have third := length_exponent? exponent
    omega

theorem length_stringUnits? {s rest : List Char} {units : List Nat}
    (taken : stringUnits? s = some (units, rest)) : rest.length < s.length := by
  fun_induction stringUnits? s generalizing units with
  | case1 => contradiction
  | case2 after =>
    simp only [Option.some.injEq, Prod.mk.injEq] at taken
    simp [← taken.2]
  | case3 a b c d after ih =>
    simp only [Option.pure_def, Option.bind_eq_bind, Option.bind_eq_some_iff, Option.some.injEq,
      Prod.mk.injEq, Prod.exists] at taken
    obtain ⟨unit, -, others, left, found, -, rfl⟩ := taken
    have := ih found
    simp only [List.length_cons]
    omega
  | case4 c after _ ih =>
    simp only [Option.pure_def, Option.bind_eq_bind, Option.bind_eq_some_iff, Option.some.injEq,
      Prod.mk.injEq, Prod.exists] at taken
    obtain ⟨escaped, -, others, left, found, -, rfl⟩ := taken
    have := ih found
    simp only [List.length_cons]
    omega
  | case5 => contradiction
  | case6 c after _ _ _ _ ih =>
    simp only [Option.pure_def, Option.bind_eq_bind, Option.bind_eq_some_iff, Option.some.injEq,
      Prod.mk.injEq, Prod.exists] at taken
    obtain ⟨others, left, found, -, rfl⟩ := taken
    have := ih found
    simp only [List.length_cons]
    omega

theorem length_rest_lt {s rest : List Char} {t : Token} (taken : next? s = some (t, rest)) :
    rest.length < s.length := by
  unfold next? at taken
  split at taken
  case h_10 after =>
    simp only [Option.pure_def, Option.bind_eq_bind, Option.bind_eq_some_iff, Option.some.injEq,
      Prod.mk.injEq, Prod.exists] at taken
    obtain ⟨units, left, found, -, rfl⟩ := taken
    have := length_stringUnits? found
    simp only [List.length_cons]
    omega
  case h_11 after =>
    simp only [Option.pure_def, Option.bind_eq_bind, Option.bind_eq_some_iff, Option.some.injEq,
      Prod.mk.injEq, Prod.exists] at taken
    obtain ⟨n, left, found, -, rfl⟩ := taken
    have := length_number? found
    simp only [List.length_cons]
    omega
  case h_12 =>
    simp only [Option.pure_def, Option.bind_eq_bind, Option.bind_eq_some_iff, Option.some.injEq,
      Prod.mk.injEq, Prod.exists] at taken
    obtain ⟨n, left, found, -, rfl⟩ := taken
    exact length_number? found
  all_goals
    simp only [Option.some.injEq, Prod.mk.injEq] at taken
    simp only [← taken.2, List.length_cons]
    omega

/-- The tokens of a text. -/
def scan? (s : List Char) : Option (List Token) :=
  match spaces : s.dropWhile isSpace with
  | [] => some []
  | c :: rest =>
    match taken : next? (c :: rest) with
    | none => none
    | some (t, after) =>
      have shorter : after.length < s.length := by
        have token := length_rest_lt taken
        have kept := (List.dropWhile_suffix (l := s) isSpace).length_le
        rw [spaces] at kept
        omega
      (scan? after).map (t :: ·)
termination_by s.length

end Token
end Json
end TableWrite
