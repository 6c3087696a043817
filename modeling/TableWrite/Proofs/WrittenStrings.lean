import TableWrite.Json.Print
import TableWrite.Json.Token

set_option autoImplicit false

namespace TableWrite

open Text

namespace Json.Token

/-- A control character is read back from the two digits of its escape. -/
theorem codeUnit?_lowerHex (b : UInt8) :
    codeUnit? '0' '0' (hexChar (byteDigits b).1) (hexChar (byteDigits b).2) = some b.toNat := by
  have zero : hexValue? '0' = some 0 := hexValue?_hexChar 0
  have bound := b.toNat_lt
  simp only [codeUnit?, List.mapM_cons, List.mapM_nil, zero, hexValue?_hexChar, Option.pure_def,
    Option.bind_eq_bind, Option.bind_some, List.foldl_cons, List.foldl_nil, byteDigits,
    Fin.val_ofNat, Fin.val_zero, Option.some.injEq]
  omega

theorem stringUnits?_short {letter c : Char} (short : shortEscape? letter = some c)
    (rest : List Char) :
    stringUnits? ('\\' :: letter :: rest) =
      (stringUnits? rest).map fun read => (c.toNat :: read.1, read.2) := by
  have other : letter ≠ 'u' := by
    rintro rfl
    cases short
  rw [stringUnits?.eq_4 letter rest (by simp [other])]
  simp only [short, Option.bind_eq_bind, Option.bind_some]
  cases stringUnits? rest <;> rfl

theorem stringUnits?_plain {c : Char} (quote : c ≠ '"') (backslash : c ≠ '\\')
    (printed : ¬ c.toNat < 0x20) (rest : List Char) :
    stringUnits? (c :: rest) =
      (stringUnits? rest).map fun read => (c.toNat :: read.1, read.2) := by
  rw [stringUnits?.eq_5 c rest quote (by simp [backslash]) (by simp [backslash])]
  simp only [printed, ↓reduceIte]
  cases stringUnits? rest <;> rfl

theorem stringUnits?_control {c : Char} (control : c.toNat < 0x20) (rest : List Char) :
    stringUnits? (['\\', 'u', '0', '0'] ++ lowerHex (.ofNat c.toNat) ++ rest) =
      (stringUnits? rest).map fun read => (c.toNat :: read.1, read.2) := by
  have unit := codeUnit?_lowerHex (.ofNat c.toNat)
  have small : (UInt8.ofNat c.toNat).toNat = c.toNat := by
    rw [UInt8.toNat_ofNat']
    omega
  rw [small] at unit
  simp only [lowerHex, List.cons_append, List.nil_append, stringUnits?, unit, Option.bind_eq_bind,
    Option.bind_some]
  cases stringUnits? rest <;> rfl

/-- The three ways to write a character. -/
theorem escape_cases (c : Char) :
    (∃ letter, shortEscape? letter = some c ∧ escape c = ['\\', letter]) ∨
      (c.toNat < 0x20 ∧ escape c = ['\\', 'u', '0', '0'] ++ lowerHex (.ofNat c.toNat)) ∨
      (c ≠ '"' ∧ c ≠ '\\' ∧ ¬ c.toNat < 0x20) ∧ escape c = [c] := by
  unfold escape
  by_cases quote : c = '"'
  · subst quote
    exact .inl ⟨'"', rfl, rfl⟩
  · by_cases backslash : c = '\\'
    · subst backslash
      exact .inl ⟨'\\', rfl, rfl⟩
    · rw [if_neg quote, if_neg backslash]
      iterate 5
        split
        · rename_i same
          subst same
          refine .inl ⟨_, ?_, rfl⟩
          rfl
      split
      · rename_i control
        exact .inr (.inl ⟨control, rfl⟩)
      · rename_i printed
        exact .inr (.inr ⟨⟨quote, backslash, printed⟩, rfl⟩)

/-- A character is read back from what is written for it, in front of whatever follows. -/
theorem stringUnits?_escape (c : Char) (rest : List Char) :
    stringUnits? (escape c ++ rest) =
      (stringUnits? rest).map fun read => (c.toNat :: read.1, read.2) := by
  obtain ⟨letter, short, written⟩ | ⟨control, written⟩ | ⟨⟨quote, backslash, printed⟩, written⟩ :=
    escape_cases c
  · rw [written]
    exact stringUnits?_short short rest
  · rw [written]
    exact stringUnits?_control control rest
  · rw [written]
    exact stringUnits?_plain quote backslash printed rest

theorem stringUnits?_flatMap_escape (s rest : List Char) :
    stringUnits? (s.flatMap escape ++ '"' :: rest) = some (s.map Char.toNat, rest) := by
  induction s with
  | nil => rfl
  | cons c others ih =>
      rw [List.flatMap_cons, List.append_assoc, stringUnits?_escape, ih]
      rfl

/-- No character is half of a surrogate pair. -/
theorem joinUnits?_map_toNat (s : List Char) : joinUnits? (s.map Char.toNat) = some s := by
  induction s with
  | nil => rfl
  | cons c rest ih =>
      have valid : c.toNat < 0xd800 ∨ 0xdfff < c.toNat ∧ c.toNat < 0x110000 := c.valid
      have high : isHighSurrogate c.toNat = false := by
        simp only [isHighSurrogate, Bool.and_eq_false_iff, decide_eq_false_iff_not]
        omega
      have low : isLowSurrogate c.toNat = false := by
        simp only [isLowSurrogate, Bool.and_eq_false_iff, decide_eq_false_iff_not]
        omega
      rw [List.map_cons, joinUnits?.eq_def]
      simp only [high, low, ih, Bool.false_eq_true, ↓reduceIte, Option.map_some,
        Char.ofNat_toNat]

theorem next?_quoted (s : String) (rest : List Char) :
    next? (quoted s ++ rest) = some (string (some s), rest) := by
  have units := stringUnits?_flatMap_escape s.toList rest
  simp only [quoted, List.cons_append, List.append_assoc, List.nil_append, next?, units,
    joinUnits?_map_toNat, Option.bind_eq_bind, Option.bind_some, Option.map_some,
    String.ofList_toList, Option.pure_def]

end Json.Token
end TableWrite
