set_option autoImplicit false

namespace TableWrite

structure Delimiters where
  opening : String
  closing : String
deriving DecidableEq

namespace Delimiters

def brackets : Delimiters := ⟨"[", "]"⟩

def wrap (d : Delimiters) (name : String) : String := d.opening ++ name ++ d.closing

theorem wrap_inj {d : Delimiters} {a b : String} : d.wrap a = d.wrap b ↔ a = b := by
  unfold wrap
  rw [String.append_left_inj, String.append_right_inj]

/-- Names are delimited on both sides or on neither. -/
def Paired (d : Delimiters) : Prop := d.opening.isEmpty = d.closing.isEmpty

instance (d : Delimiters) : Decidable d.Paired := by
  unfold Paired
  infer_instance

end Delimiters
end TableWrite
