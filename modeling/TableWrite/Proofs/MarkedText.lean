import TableWrite.Parameter

set_option autoImplicit false

namespace TableWrite

/-- A stretch of a text: words of its own, or the place of a parameter, where its name stands. -/
inductive Stretch where
  | words (text : String)
  | place (p : Parameter)
deriving DecidableEq

namespace Stretch

def text : Stretch → String
  | words text => text
  | place p => p.name

def place? : Stretch → Option Parameter
  | words _ => none
  | place p => some p

end Stretch

abbrev MarkedText := List Stretch

namespace MarkedText

def text (m : MarkedText) : String := String.join (m.map Stretch.text)

/-- The parameters whose places the text marks, in reading order. -/
def places (m : MarkedText) : List Parameter := m.filterMap Stretch.place?

/-- Several texts with words between them. -/
def separated (separator : String) : List MarkedText → MarkedText
  | [] => []
  | [last] => last
  | first :: next :: rest => first ++ .words separator :: separated separator (next :: rest)

@[simp] theorem text_nil : text [] = "" := rfl

@[simp] theorem text_cons (s : Stretch) (rest : MarkedText) :
    text (s :: rest) = s.text ++ text rest := by
  unfold text
  rw [List.map_cons, String.join_cons]

@[simp] theorem text_append (first second : MarkedText) :
    text (first ++ second) = first.text ++ second.text := by
  unfold text
  rw [List.map_append, String.join_append]

@[simp] theorem places_nil : places [] = [] := rfl

@[simp] theorem places_words (words : String) (rest : MarkedText) :
    places (.words words :: rest) = places rest := rfl

@[simp] theorem places_append (first second : MarkedText) :
    places (first ++ second) = first.places ++ second.places :=
  List.filterMap_append

theorem text_separated (separator : String) (parts : List MarkedText) :
    text (separated separator parts) = separator.intercalate (parts.map text) := by
  induction parts with
  | nil => rfl
  | cons first rest ih =>
      cases rest with
      | nil => rw [separated, List.map_cons, List.map_nil, String.intercalate_singleton]
      | cons next rest =>
          rw [separated, text_append, text_cons, ih]
          simp only [List.map_cons, String.intercalate_cons_cons, String.append_assoc, Stretch.text]

theorem places_separated (separator : String) (parts : List MarkedText) :
    places (separated separator parts) = parts.flatMap places := by
  induction parts with
  | nil => rfl
  | cons first rest ih =>
      cases rest with
      | nil => rw [separated, List.flatMap_singleton]
      | cons next rest =>
          rw [separated, places_append, places_words, ih]
          simp only [List.flatMap_cons]

end MarkedText
end TableWrite
