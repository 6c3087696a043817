import TableWrite.Proofs.WrittenNumerals
import TableWrite.Time.Timestamp
import TableWrite.Uuid

set_option autoImplicit false

namespace TableWrite

open Text

namespace Text

namespace Reader

variable {α β : Type} {s rest : List Char}

end Reader
end Text

namespace Timestamp

open Reader

variable {rest : List Char}

theorem endsRun_cons {c : Char} (other : c.isDigit = false) (s : List Char) :
    EndsRun (c :: s) := by
  rintro d ⟨⟩
  exact other

theorem endsRun_fractionChars (n : Nat) : EndsRun (fractionChars n ++ ['Z']) := by
  unfold fractionChars
  iterate 3
    split
    · exact endsRun_cons rfl _
  exact endsRun_cons rfl _

end Timestamp

namespace Uuid

end Uuid

end TableWrite
