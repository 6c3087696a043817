import Mathlib.Data.List.Basic
import TableWrite.Proofs.QueryCommands
import TableWrite.Proofs.TemplateRewriting

set_option autoImplicit false

namespace TableWrite

namespace Request

variable {d : Dialect} (r : Request)

end Request

end TableWrite
