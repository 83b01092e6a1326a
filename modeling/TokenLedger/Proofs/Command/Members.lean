import Mathlib.Data.List.OfFn
import TokenLedger.Proofs.Command.Outcome

/-! # Members of a batch

A batch is an array of texts of proposals, and each of them is judged as it is judged alone. What
stands beside it in the array makes no difference, not even a proposal that consumes the same
record.
-/
namespace TokenLedger

open Json

namespace Batch

end Batch

end TokenLedger
