import TableWrite.Json.Parameter
import TableWrite.Proofs.ShortestDigits
import TableWrite.Proofs.TimestampTexts
import TableWrite.Proofs.UnchangedRows
import TableWrite.Proofs.WrittenDocuments

set_option autoImplicit false

namespace TableWrite

open Text

open Json

namespace Json

theorem numbered_ofOption {α : Type} {write : α → Json}
    (each : ∀ a, Numbered (tokens (write a))) (given : Option α) :
    Numbered (tokens (ofOption write given)) := by
  cases given with
  | none => exact .cons nofun numbered_nil
  | some a => exact each a

theorem nullable?_ofOption {α : Type} {write : α → Json} {read : Json → Option α}
    (there : ∀ a, write a ≠ null) (back : ∀ a, read (write a) = some a) (given : Option α) :
    nullable? read (ofOption write given) = some given := by
  cases given with
  | none => rfl
  | some a => simp [ofOption, nullable?, there, back]

/-- What is read from the text of what is written. Text and document are those of `serde_json`, as
`Json.text` and `Json.ofString?` follow them. -/
def reread? {α : Type} (write : α → Json) (read : Json → Option α) (a : α) : Option α :=
  (ofString? (write a).text).bind read

/-- Nothing is lost between a document and its text. -/
theorem reread?_eq {α : Type} {write : α → Json} {a : α} (numbered : Numbered (tokens (write a)))
    (read : Json → Option α) : reread? write read a = read (write a) := by
  rw [reread?, ofString?_text (write a) numbered, Option.bind_some]

theorem toInt?_ofInt (i : Int) : (Numeral.ofInt i).toInt? = some i := by
  simp only [Numeral.toInt?, Numeral.ofInt, ofDigits_digits, List.isEmpty_nil, Option.isNone_none,
    Bool.and_self, ↓reduceIte, decide_eq_true_eq]
  split
  · rename_i negative
    rw [if_neg (by omega)]
    congr 1
    omega
  · congr 1
    omega

theorem int64?_ofInt (i : Int64) : int64? (ofInt i.toInt) = some i := by
  have fits : Int64.minValue.toInt ≤ i.toInt ∧ i.toInt ≤ Int64.maxValue.toInt :=
    ⟨i.minValue_le_toInt, i.toInt_le⟩
  simp only [int64?, int?, ofInt, toInt?_ofInt, Option.bind_eq_bind, Option.bind_some, fits,
    and_self, ↓reduceIte, Int64.ofInt_toInt]

theorem byte?_ofInt (b : UInt8) : byte? (ofInt b.toNat) = some b := by
  have fits : (0 : Int) ≤ b.toNat ∧ (b.toNat : Int) < 256 :=
    ⟨Int.natCast_nonneg _, Int.ofNat_lt.mpr b.toNat_lt⟩
  simp only [byte?, int?, ofInt, toInt?_ofInt, Option.bind_eq_bind, Option.bind_some, fits,
    and_self, ↓reduceIte, Int.toNat_natCast, UInt8.ofNat_toNat]

end Json

theorem ProviderType.ofJson?_name (t : ProviderType) : ofJson? (.string t.name) = some t :=
  t.ofName?_name

theorem Direction.ofJson?_name (d : Direction) : ofJson? (.string d.name) = some d :=
  d.ofName?_name

theorem RowImage.ofJson?_name (i : RowImage) : ofJson? (.string i.name) = some i :=
  i.ofName?_name

namespace Value

theorem numbered_toJson (v : Value) : Numbered (tokens v.toJson) := by
  cases v with
  | null | boolean => exact .cons nofun numbered_nil
  | integer i => exact numbered_ofInt i.toInt
  | float x =>
      simp only [toJson, doubleToJson]
      split
      · exact numbered_number (Layout.grammatical_numeral (isRun_digits 0).digits x)
      · exact .cons nofun numbered_nil
  | uuid | timestamp | text => exact numbered_string _
  | bytes bs =>
      refine numbered_array fun j mem => ?_
      obtain ⟨b, -, rfl⟩ := List.mem_map.mp mem
      exact numbered_ofInt b.toNat

def reread? (v : Value) : Option Value := Json.reread? toJson ofJson? v

theorem reread?_eq (v : Value) : v.reread? = ofJson? v.toJson :=
  Json.reread?_eq v.numbered_toJson ofJson?

end Value

namespace Parameter

def reread? (p : Parameter) : Option Parameter := Json.reread? toJson ofJson? p

theorem numbered_toJson (p : Parameter) : Numbered (tokens p.toJson) := by
  refine numbered_object ?_
  simp only [List.forall_mem_cons, numbered_string, numbered_ofInt,
    p.value.numbered_toJson, ofText?, numbered_ofOption numbered_string, true_and]
  exact nofun

theorem ofJson?_toJson (p : Parameter) :
    ofJson? p.toJson = (Value.ofJson? p.value.toJson).map fun w => { p with value := w } := by
  have source : nullable? string? (ofOption string p.source) = some p.source :=
    @nullable?_ofOption _ string string? nofun (fun _ => rfl) p.source
  rw [ofJson?, toJson, record?_object]
  · simp only [required?, optional?, Keyed.get?_cons, String.reduceBEq, beq_self_eq_true,
      Bool.false_eq_true, ↓reduceIte, Option.bind_eq_bind, Option.bind_some, string?,
      ProviderType.ofJson?_name, int64?_ofInt, byte?_ofInt, Direction.ofJson?_name,
      ofText?, source, RowImage.ofJson?_name]
    cases Value.ofJson? p.value.toJson <;> rfl
  · simp [fieldNames]
  · change fieldNames.Nodup
    decide

/-- A parameter is read back as it was, but for its value. -/
theorem reread?_eq (p : Parameter) :
    p.reread? = p.value.reread?.map fun w => { p with value := w } := by
  rw [reread?, Json.reread?_eq p.numbered_toJson, ofJson?_toJson, p.value.reread?_eq]

end Parameter

namespace QueryParameter

def reread? (q : QueryParameter) : Option QueryParameter := Json.reread? toJson ofJson? q

theorem numbered_toJson (q : QueryParameter) : Numbered (tokens q.toJson) := by
  refine numbered_object ?_
  simp only [List.forall_mem_cons, numbered_string, numbered_ofInt, q.value.numbered_toJson,
    numbered_ofOption fun t : ProviderType => numbered_string t.name, true_and]
  exact nofun

theorem ofJson?_toJson (q : QueryParameter) :
    ofJson? q.toJson = (Value.ofJson? q.value.toJson).map fun w => { q with value := w } := by
  have type : nullable? ProviderType.ofJson? (ofOption (fun t => .string t.name) q.type) =
      some q.type := nullable?_ofOption nofun ProviderType.ofJson?_name q.type
  rw [ofJson?, toJson, record?_object]
  · simp only [required?, optional?, Keyed.get?_cons, String.reduceBEq, beq_self_eq_true,
      Bool.false_eq_true, ↓reduceIte, Option.bind_eq_bind, Option.bind_some, string?,
      Direction.ofJson?_name, type, int64?_ofInt, byte?_ofInt]
    cases Value.ofJson? q.value.toJson <;> rfl
  · simp [fieldNames]
  · change fieldNames.Nodup
    decide

/-- A parameter of a query is read back as it was, but for its value. -/
theorem reread?_eq (q : QueryParameter) :
    q.reread? = q.value.reread?.map fun w => { q with value := w } := by
  rw [reread?, Json.reread?_eq q.numbered_toJson, ofJson?_toJson, q.value.reread?_eq]

end QueryParameter

end TableWrite
