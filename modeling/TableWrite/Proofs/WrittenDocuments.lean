import TableWrite.Json.Parse
import TableWrite.Proofs.WrittenNumerals
import TableWrite.Proofs.WrittenStrings

set_option autoImplicit false

namespace TableWrite.Json

open Token

mutual

/-- The tokens that a document is written with. -/
def tokens : Json → List Token
  | null => [.null]
  | bool b => [.bool b]
  | number n => [.number n]
  | string s => [.string (some s)]
  | array items => .openArray :: (itemTokens items ++ [.closeArray])
  | object fields => .openObject :: (fieldTokens fields ++ [.closeObject])
  | garbled => [.string none]

def itemTokens : List Json → List Token
  | [] => []
  | [j] => tokens j
  | j :: k :: rest => tokens j ++ .comma :: itemTokens (k :: rest)

def fieldTokens : List (String × Json) → List Token
  | [] => []
  | [(key, j)] => .string (some key) :: .colon :: tokens j
  | (key, j) :: f :: rest =>
    .string (some key) :: .colon :: (tokens j ++ .comma :: fieldTokens (f :: rest))

end

/-- Do all numbers among some tokens keep to the grammar? -/
def Numbered (ts : List Token) : Prop := ∀ n, .number n ∈ ts → n.Grammatical

theorem numbered_append {first second : List Token} :
    Numbered (first ++ second) ↔ Numbered first ∧ Numbered second := by
  simp only [Numbered, List.mem_append, or_imp, forall_and]

theorem Numbered.of_cons {t : Token} {ts : List Token} (numbered : Numbered (t :: ts)) :
    Numbered ts := fun n mem => numbered n (List.mem_cons_of_mem t mem)

theorem Numbered.cons {t : Token} {ts : List Token} (other : ∀ n, .number n ≠ t)
    (numbered : Numbered ts) : Numbered (t :: ts) := fun n mem =>
  numbered n ((List.mem_cons.mp mem).resolve_left (other n))

theorem numbered_number {n : Numeral} (grammatical : n.Grammatical) :
    Numbered (tokens (number n)) := by
  intro m mem
  cases List.mem_singleton.mp mem
  exact grammatical

theorem numbered_ofInt (i : Int) : Numbered (tokens (ofInt i)) :=
  numbered_number (Numeral.grammatical_ofInt i)

theorem numbered_nil : Numbered [] := nofun

theorem numbered_string (s : String) : Numbered (tokens (string s)) := .cons nofun numbered_nil

theorem numbered_itemTokens (items : List Json) (each : ∀ j ∈ items, Numbered (tokens j)) :
    Numbered (itemTokens items) := by
  induction items with
  | nil => exact numbered_nil
  | cons j others ih =>
      obtain ⟨first, further⟩ := List.forall_mem_cons.mp each
      cases others with
      | nil => exact first
      | cons k more => exact numbered_append.mpr ⟨first, .cons nofun (ih further)⟩

theorem numbered_array {items : List Json} (each : ∀ j ∈ items, Numbered (tokens j)) :
    Numbered (tokens (array items)) :=
  .cons nofun (numbered_append.mpr ⟨numbered_itemTokens items each, .cons nofun numbered_nil⟩)

theorem numbered_fieldTokens (fields : List (String × Json))
    (each : ∀ f ∈ fields, Numbered (tokens f.2)) : Numbered (fieldTokens fields) := by
  induction fields with
  | nil => exact numbered_nil
  | cons f others ih =>
      obtain ⟨first, further⟩ := List.forall_mem_cons.mp each
      cases others with
      | nil => exact .cons nofun (.cons nofun first)
      | cons g more =>
          exact .cons nofun (.cons nofun (numbered_append.mpr ⟨first, .cons nofun (ih further)⟩))

theorem numbered_object {fields : List (String × Json)}
    (each : ∀ f ∈ fields, Numbered (tokens f.2)) : Numbered (tokens (object fields)) :=
  .cons nofun (numbered_append.mpr ⟨numbered_fieldTokens fields each, .cons nofun numbered_nil⟩)

theorem next?_of_isSpace {c : Char} (space : isSpace c = true) (rest : List Char) :
    next? (c :: rest) = none := by
  simp only [isSpace, Bool.or_eq_true, beq_iff_eq] at space
  obtain ((rfl | rfl) | rfl) | rfl := space <;>
    simp [next?, number?, whole?, digitRun?]

theorem scan?_of_next? {s rest : List Char} {t : Token} (taken : next? s = some (t, rest)) :
    scan? s = (scan? rest).map (t :: ·) := by
  have kept : s.dropWhile isSpace = s := by
    cases s with
    | nil => rfl
    | cons c others =>
        have spaceless : ¬ isSpace c = true := by
          intro space
          rw [next?_of_isSpace space] at taken
          cases taken
        exact List.dropWhile_cons_of_neg spaceless
  rw [scan?.eq_def s]
  split
  · rename_i empty
    rw [kept] at empty
    subst empty
    cases taken
  · rename_i c others spaces
    rw [kept] at spaces
    subst spaces
    split
    · rename_i missing
      rw [taken] at missing
      cases missing
    · rename_i t' rest' taken'
      rw [taken] at taken'
      cases taken'
      rfl

/-- Is a text scanned into these tokens, whatever follows it? -/
def ScansAs (s : List Char) (ts : List Token) : Prop :=
  ∀ rest, EndsNumber rest → scan? (s ++ rest) = (scan? rest).map (ts ++ ·)

theorem scansAs_nil : ScansAs [] [] := by
  intro rest _
  simp

theorem scansAs_token {s : List Char} {t : Token}
    (taken : ∀ rest, EndsNumber rest → next? (s ++ rest) = some (t, rest)) : ScansAs s [t] :=
  fun rest ends => scan?_of_next? (taken rest ends)

/-- A token of one character ends there, whatever follows it. -/
theorem ScansAs.cons {c : Char} {t : Token} {s : List Char} {ts : List Token}
    (taken : ∀ rest, next? (c :: rest) = some (t, rest)) (others : ScansAs s ts) :
    ScansAs (c :: s) (t :: ts) := by
  intro rest ends
  rw [List.cons_append, scan?_of_next? (taken (s ++ rest)), others rest ends, Option.map_map]
  rfl

/-- Is a character a token of its own, and none that a number can go on with? -/
structure Separates (c : Char) (t : Token) : Prop where
  taken : ∀ rest, next? (c :: rest) = some (t, rest)
  other : c.isDigit = false ∧ c ≠ '.' ∧ c ≠ 'e' ∧ c ≠ 'E'

theorem Separates.endsNumber {c : Char} {t : Token} (separates : Separates c t) (rest : List Char) :
    EndsNumber (c :: rest) := by
  intro d head
  cases head
  exact separates.other

theorem separates_comma : Separates ',' .comma := ⟨fun _ => rfl, by decide⟩

theorem separates_colon : Separates ':' .colon := ⟨fun _ => rfl, by decide⟩

theorem separates_closeArray : Separates ']' .closeArray := ⟨fun _ => rfl, by decide⟩

theorem separates_closeObject : Separates '}' .closeObject := ⟨fun _ => rfl, by decide⟩

/-- What stands before a separator is scanned on its own, and so is what stands behind it. -/
theorem ScansAs.separated {s s' : List Char} {ts us : List Token} {c : Char} {t : Token}
    (first : ScansAs s ts) (separates : Separates c t) (second : ScansAs s' us) :
    ScansAs (s ++ c :: s') (ts ++ t :: us) := by
  intro rest ends
  have further := second.cons separates.taken rest ends
  rw [List.append_assoc, first (c :: s' ++ rest) (separates.endsNumber (s' ++ rest)), further,
    Option.map_map]
  simp only [Function.comp_def, List.append_assoc]

theorem scansAs_quoted (s : String) : ScansAs (quoted s) [.string (some s)] :=
  scansAs_token fun rest _ => next?_quoted s rest

/-- Half of a surrogate pair makes no text. -/
theorem next?_garbled (rest : List Char) :
    next? (garbledChars ++ rest) = some (.string none, rest) := by
  have unit : codeUnit? 'd' '8' '0' '0' = some 0xd800 := by decide
  simp only [garbledChars, List.cons_append, List.nil_append, next?, stringUnits?, unit,
    Option.bind_eq_bind, Option.bind_some, Option.pure_def]
  rfl

mutual

theorem scansAs_chars (j : Json) (numbered : Numbered (tokens j)) : ScansAs (chars j) (tokens j) :=
  match j with
  | null => scansAs_token fun _ _ => rfl
  | bool true => scansAs_token fun _ _ => rfl
  | bool false => scansAs_token fun _ _ => rfl
  | number n => scansAs_token fun _ ends => next?_numeral (numbered n List.mem_cons_self) ends
  | string s => scansAs_quoted s
  | array items => by
      have inner := scansAs_itemChars items (numbered_append.mp numbered.of_cons).1
      exact .cons (fun _ => rfl) (inner.separated separates_closeArray scansAs_nil)
  | object fields => by
      have inner := scansAs_fieldChars fields (numbered_append.mp numbered.of_cons).1
      exact .cons (fun _ => rfl) (inner.separated separates_closeObject scansAs_nil)
  | garbled => scansAs_token fun rest _ => next?_garbled rest

theorem scansAs_itemChars (items : List Json) (numbered : Numbered (itemTokens items)) :
    ScansAs (itemChars items) (itemTokens items) :=
  match items with
  | [] => scansAs_nil
  | [j] => scansAs_chars j numbered
  | j :: k :: rest => by
      obtain ⟨first, others⟩ := numbered_append.mp numbered
      exact (scansAs_chars j first).separated separates_comma
        (scansAs_itemChars (k :: rest) others.of_cons)

theorem scansAs_fieldChars (fields : List (String × Json))
    (numbered : Numbered (fieldTokens fields)) :
    ScansAs (fieldChars fields) (fieldTokens fields) :=
  match fields with
  | [] => scansAs_nil
  | [(key, j)] =>
    (scansAs_quoted key).separated separates_colon (scansAs_chars j numbered.of_cons.of_cons)
  | (key, j) :: f :: rest => by
      obtain ⟨first, others⟩ := numbered_append.mp numbered.of_cons.of_cons
      have value := (scansAs_chars j first).separated separates_comma
        (scansAs_fieldChars (f :: rest) others.of_cons)
      have field := (scansAs_quoted key).separated separates_colon value
      rw [fieldChars, List.append_assoc]
      exact field

end

namespace Progress

variable {frames : List Frame} {rest : List Token}

theorem run_cons (p : Progress) (t : Token) (ts : List Token) :
    p.run (t :: ts) = (p.step t).bind (·.run ts) := rfl

/-- A document does not open with the end of an array. -/
theorem run_firstItem (j : Json) :
    (firstItem frames).run (tokens j ++ rest) =
      (value (.array [] :: frames)).run (tokens j ++ rest) := by
  cases j <;> rfl

theorem run_firstItem_itemTokens (j : Json) (others : List Json) :
    (firstItem frames).run (itemTokens (j :: others) ++ rest) =
      (value (.array [] :: frames)).run (itemTokens (j :: others) ++ rest) := by
  cases others with
  | nil => exact run_firstItem j
  | cons k more =>
      rw [itemTokens, List.append_assoc]
      exact run_firstItem j

/-- The first field of an object is read like every further one. -/
theorem run_firstKey_fieldTokens (f : String × Json) (others : List (String × Json)) :
    (firstKey frames).run (fieldTokens (f :: others) ++ rest) =
      (nextKey [] frames).run (fieldTokens (f :: others) ++ rest) := by
  cases others <;> rfl

theorem ofFields_map (fields : List (String × Json)) :
    ofFields (fields.map fun f => (some f.1, f.2)) = .object fields := by
  have named : (fields.map fun f => (some f.1, f.2)).mapM (fun f => f.1.map (·, f.2)) =
      some fields := by
    induction fields with
    | nil => rfl
    | cons f others ih => simp [List.mapM_cons, ih]
  simp only [ofFields, named]

mutual

/-- The tokens of a document complete it where a value has to follow. -/
theorem run_tokens (j : Json) (frames : List Frame) (rest : List Token) :
    (value frames).run (tokens j ++ rest) = (after j frames).run rest :=
  match j with
  | null | bool _ | number _ | string _ | garbled => rfl
  | array [] | object [] => rfl
  | array (j :: others) => by
      have opened : (value frames).run (tokens (array (j :: others)) ++ rest) =
          (firstItem frames).run (itemTokens (j :: others) ++ .closeArray :: rest) := by
        rw [tokens, List.cons_append, run_cons, List.append_assoc]
        rfl
      rw [opened, run_firstItem_itemTokens, run_itemTokens (j :: others) nofun [] frames rest]
      rfl
  | object (f :: others) => by
      have opened : (value frames).run (tokens (object (f :: others)) ++ rest) =
          (firstKey frames).run (fieldTokens (f :: others) ++ .closeObject :: rest) := by
        rw [tokens, List.cons_append, run_cons, List.append_assoc]
        rfl
      rw [opened, run_firstKey_fieldTokens, run_fieldTokens (f :: others) nofun [] frames rest,
        List.reverse_nil, List.nil_append, ofFields_map]

theorem run_itemTokens (items : List Json) (nonempty : items ≠ []) (done : List Json)
    (frames : List Frame) (rest : List Token) :
    (value (.array done :: frames)).run (itemTokens items ++ .closeArray :: rest) =
      (after (.array (done.reverse ++ items)) frames).run rest :=
  match items with
  | [] => absurd rfl nonempty
  | [j] => by
      rw [itemTokens, run_tokens j, run_cons]
      simp [step]
  | j :: k :: more => by
      have further := run_itemTokens (k :: more) nofun (j :: done) frames rest
      rw [List.reverse_cons, List.append_assoc] at further
      rw [itemTokens, List.append_assoc, run_tokens j, List.cons_append, run_cons]
      exact further

theorem run_fieldTokens (fields : List (String × Json)) (nonempty : fields ≠ [])
    (done : List (Option String × Json)) (frames : List Frame) (rest : List Token) :
    (nextKey done frames).run (fieldTokens fields ++ .closeObject :: rest) =
      (after (ofFields (done.reverse ++ fields.map fun f => (some f.1, f.2))) frames).run rest :=
  match fields with
  | [] => absurd rfl nonempty
  | [(key, j)] => by
      have read : (nextKey done frames).run (fieldTokens [(key, j)] ++ .closeObject :: rest) =
          (value (.object done (some key) :: frames)).run (tokens j ++ .closeObject :: rest) := rfl
      rw [read, run_tokens j, run_cons]
      simp [step]
  | (key, j) :: f :: more => by
      have further := run_fieldTokens (f :: more) nofun ((some key, j) :: done) frames rest
      rw [List.reverse_cons, List.append_assoc] at further
      have read : (nextKey done frames).run
            (fieldTokens ((key, j) :: f :: more) ++ .closeObject :: rest) =
          (value (.object done (some key) :: frames)).run
            (tokens j ++ .comma :: (fieldTokens (f :: more) ++ .closeObject :: rest)) := by
        rw [fieldTokens, List.cons_append, List.cons_append, List.append_assoc]
        rfl
      rw [read, run_tokens j, run_cons]
      exact further

end

end Progress

theorem ofTokens?_tokens (j : Json) : ofTokens? (tokens j) = some j := by
  have whole := Progress.run_tokens j [] []
  rw [List.append_nil] at whole
  rw [ofTokens?, whole]
  rfl

/-- A document whose numbers keep to the grammar is read back from its text. -/
theorem ofString?_text (j : Json) (numbered : Numbered (tokens j)) : ofString? j.text = some j := by
  have scanned := scansAs_chars j numbered [] nofun
  rw [List.append_nil] at scanned
  have empty : scan? [] = some [] := by
    rw [scan?.eq_def]
    rfl
  rw [ofString?, text, String.toList_ofList, scanned, empty]
  simp [ofTokens?_tokens]

end TableWrite.Json
