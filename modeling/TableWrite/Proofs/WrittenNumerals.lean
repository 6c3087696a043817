import TableWrite.Json.Token

set_option autoImplicit false

namespace TableWrite

namespace Text

theorem ofDigits_digits (n : Nat) : ofDigits (digits n) = n := Nat.ofDigitChars_ten_toDigits

theorem digits_ne_nil (n : Nat) : digits n ≠ [] := Nat.toDigits_ne_nil

/-- No zero stands in front of a number. -/
theorem head?_digits_ne_zero {n : Nat} (positive : 0 < n) : (digits n).head? ≠ some '0' := by
  induction n using Nat.strongRecOn with
  | ind n ih =>
      unfold digits
      rw [Nat.toDigits_eq_if (by decide)]
      split
      · intro zero
        have none := Nat.digitChar_eq_zero.mp (Option.some.inj zero)
        omega
      · rename_i large
        have shorter := ih (n / 10) (by omega) (by omega)
        intro zero
        rw [List.head?_append] at zero
        cases first : (Nat.toDigits 10 (n / 10)).head? with
        | none => exact Nat.toDigits_ne_nil (List.head?_eq_none_iff.mp first)
        | some c =>
            rw [first] at zero
            exact shorter (first.trans zero)

/-- One ASCII digit and more. -/
structure IsRun (s : List Char) : Prop where
  nonempty : s ≠ []
  digits : ∀ c ∈ s, c.isDigit = true

theorem IsRun.isEmpty {run : List Char} (isRun : IsRun run) : run.isEmpty = false := by
  simpa using isRun.nonempty

theorem isRun_digits (n : Nat) : IsRun (digits n) :=
  ⟨digits_ne_nil n, fun _ mem => isDigit_of_mem_digits mem⟩

/-- Does a run of digits end before this text? -/
def EndsRun (rest : List Char) : Prop := ∀ c, rest.head? = some c → c.isDigit = false

theorem takeWhile_isDigit_append {run rest : List Char} (digits : ∀ c ∈ run, c.isDigit = true)
    (ends : EndsRun rest) : (run ++ rest).takeWhile Char.isDigit = run := by
  rw [List.takeWhile_append_of_pos digits]
  cases rest with
  | nil => simp
  | cons c rest => simp [ends c rfl]

theorem dropWhile_isDigit_append {run rest : List Char} (digits : ∀ c ∈ run, c.isDigit = true)
    (ends : EndsRun rest) : (run ++ rest).dropWhile Char.isDigit = rest := by
  rw [List.dropWhile_append_of_pos digits]
  cases rest with
  | nil => rfl
  | cons c rest => simp [ends c rfl]

end Text

open Text

namespace Numeral

/-- A numeral as a document may hold it: no zero stands in front of other digits. -/
structure Grammatical (n : Numeral) : Prop where
  whole : IsRun n.whole
  leading : n.whole.head? = some '0' → n.whole.length = 1
  fraction : ∀ c ∈ n.fraction, c.isDigit = true
  exponent : ∀ e, n.exponent = some e → IsRun e.digits

theorem grammatical_ofInt (i : Int) : (ofInt i).Grammatical where
  whole := isRun_digits i.natAbs
  leading := by
    intro zero
    by_cases none : i.natAbs = 0
    · simp only [ofInt, none]
      rfl
    · exact absurd zero (head?_digits_ne_zero (by omega))
  fraction := nofun
  exponent := nofun

def fractionChars (n : Numeral) : List Char := if n.fraction.isEmpty then [] else '.' :: n.fraction

def exponentChars (n : Numeral) : List Char :=
  match n.exponent with
  | none => []
  | some e => 'e' :: (if e.negative then '-' else '+') :: e.digits

theorem chars_eq (n : Numeral) :
    n.chars = sign n.negative ++ (n.whole ++ (n.fractionChars ++ n.exponentChars)) := by
  change sign n.negative ++ n.whole ++ n.fractionChars ++ n.exponentChars = _
  rw [List.append_assoc, List.append_assoc]

end Numeral

namespace Json.Token

def EndsNumber (rest : List Char) : Prop :=
  ∀ c, rest.head? = some c → c.isDigit = false ∧ c ≠ '.' ∧ c ≠ 'e' ∧ c ≠ 'E'

theorem digitRun?_append {run rest : List Char} (isRun : IsRun run) (ends : EndsRun rest) :
    digitRun? (run ++ rest) = some (run, rest) := by
  simp only [digitRun?, takeWhile_isDigit_append isRun.digits ends,
    dropWhile_isDigit_append isRun.digits ends, isRun.isEmpty, Bool.false_eq_true, ↓reduceIte]

theorem whole?_append {run rest : List Char} (isRun : IsRun run)
    (leading : run.head? = some '0' → run.length = 1) (ends : EndsRun rest) :
    whole? (run ++ rest) = some (run, rest) := by
  have plain : ¬ (run.head? = some '0' ∧ 1 < run.length) := by
    rintro ⟨zero, long⟩
    have := leading zero
    omega
  simp only [whole?, digitRun?_append isRun ends, Option.bind_eq_bind, Option.bind_some, plain,
    ↓reduceIte]

variable {n : Numeral} {rest : List Char}

theorem fraction?_append (digits : ∀ c ∈ n.fraction, c.isDigit = true) (ends : EndsRun rest)
    (pointless : ∀ c, rest.head? = some c → c ≠ '.') :
    fraction? (n.fractionChars ++ rest) = some (n.fraction, rest) := by
  unfold Numeral.fractionChars
  cases given : n.fraction with
  | nil =>
      cases rest with
      | nil => rfl
      | cons c rest =>
          have other := pointless c rfl
          simp only [List.isEmpty_nil, ↓reduceIte, List.nil_append]
          unfold fraction?
          split
          · rename_i same
            cases same
            exact absurd rfl other
          · rfl
  | cons c others =>
      rw [given] at digits
      exact digitRun?_append ⟨List.cons_ne_nil c others, digits⟩ ends

theorem exponent?_append (runs : ∀ e, n.exponent = some e → IsRun e.digits)
    (ends : EndsNumber rest) :
    exponent? (n.exponentChars ++ rest) = some (n.exponent, rest) := by
  unfold Numeral.exponentChars
  cases given : n.exponent with
  | none =>
      cases rest with
      | nil => rfl
      | cons c rest =>
          obtain ⟨-, -, lower, upper⟩ := ends c rfl
          simp only [List.nil_append, exponent?, lower, upper, or_self, ↓reduceIte]
  | some e =>
      have read := digitRun?_append (runs e given) fun c head => (ends c head).1
      cases e with
      | mk negative digits =>
          cases negative <;>
            simp only [List.cons_append, exponent?, true_or, ↓reduceIte, exponentSign,
              Bool.false_eq_true, read, Option.bind_eq_bind, Option.bind_some, Option.pure_def]

/-- Behind the digits before the point stands no further digit. -/
theorem endsRun_exponentChars (ends : EndsNumber rest) : EndsRun (n.exponentChars ++ rest) := by
  intro c head
  unfold Numeral.exponentChars at head
  cases given : n.exponent with
  | none =>
      rw [given] at head
      exact (ends c head).1
  | some e =>
      rw [given] at head
      cases head
      rfl

theorem endsRun_fractionChars (ends : EndsNumber rest) :
    EndsRun (n.fractionChars ++ (n.exponentChars ++ rest)) := by
  intro c head
  unfold Numeral.fractionChars at head
  cases given : n.fraction with
  | nil =>
      rw [given] at head
      exact endsRun_exponentChars ends c head
  | cons first others =>
      rw [given] at head
      cases head
      rfl

theorem number?_append (grammatical : n.Grammatical) (ends : EndsNumber rest) :
    number? n.negative (n.whole ++ (n.fractionChars ++ (n.exponentChars ++ rest))) =
      some (n, rest) := by
  have pointless : ∀ c, (n.exponentChars ++ rest).head? = some c → c ≠ '.' := by
    intro c head
    unfold Numeral.exponentChars at head
    cases given : n.exponent with
    | none =>
        rw [given] at head
        exact (ends c head).2.1
    | some e =>
        rw [given] at head
        cases head
        decide
  simp only [number?,
    whole?_append grammatical.whole grammatical.leading (endsRun_fractionChars ends),
    fraction?_append grammatical.fraction (endsRun_exponentChars ends) pointless,
    exponent?_append grammatical.exponent ends, Option.bind_eq_bind, Option.bind_some,
    Option.pure_def]

/-- A digit opens a number without a sign. -/
theorem next?_of_isDigit {c : Char} (digit : c.isDigit = true) (others : List Char) :
    next? (c :: others) =
      (number? false (c :: others)).map fun read => (number read.1, read.2) := by
  unfold next?
  split
  case h_12 => cases number? false (c :: others) <;> rfl
  -- Every other token opens with a character that is no digit.
  all_goals
    rename_i same
    cases same
    cases digit

theorem next?_numeral (grammatical : n.Grammatical) (ends : EndsNumber rest) :
    next? (n.chars ++ rest) = some (number n, rest) := by
  have read := number?_append grammatical ends
  rw [n.chars_eq]
  simp only [List.append_assoc]
  cases negative : n.negative with
  | true =>
      rw [negative] at read
      simp only [Numeral.sign, ↓reduceIte, List.singleton_append, next?, read, Option.bind_eq_bind,
        Option.bind_some, Option.pure_def]
  | false =>
      rw [negative] at read
      cases whole : n.whole with
      | nil => exact absurd whole grammatical.whole.nonempty
      | cons c others =>
          have digit := grammatical.whole.digits c (whole ▸ List.mem_cons_self)
          rw [whole] at read
          simp only [Numeral.sign, Bool.false_eq_true, ↓reduceIte, List.nil_append]
          rw [List.cons_append, next?_of_isDigit digit, ← List.cons_append, read]
          rfl

end Json.Token
end TableWrite
