import DocSnippets.Files.Glob
import DocSnippets.Files.Tree

/-!
# DocSnippets.Files.Ways

**The ways through a tree that a pattern matches.** A way is a path from a folder to a file or to
another folder, with a step up wherever the pattern has one. Ways are listed in the order of their
steps as they are written. A search knows of the names in the folders that it may list; a folder
that it may not list, or not enter, is passed over without a word.

That is not so for a path that is too long, nor for a look at what was found. `Glob.searched` are
the ways on which the search itself looks at something, and `Glob.found` those that it comes up
with and that are looked at afterwards.
-/

namespace DocSnippets

namespace Glob

/-- What a way leads to. -/
inductive Goal
  | folder
  | file
  deriving DecidableEq, Repr

/-- The locations of what a way may lead to below a folder, counted from the folder, in order. -/
def Goal.below (goal : Goal) (t : Tree) (here : Location) : List Location :=
  match goal with
  | .folder => t.foldersBelow here
  | .file => t.filesBelow here

/-- Whether a block of segments ends with a single name, which is asked for and not listed. -/
def asksLast (block : List Segment) : Bool :=
  match block.getLast? with
  | some (.exact _) => true
  | _ => false

/-- The locations below a folder whose names a block of segments matches. -/
def matching (t : Tree) (goal : Goal) (here : Location) (block : List Segment) : List Location :=
  (goal.below t here).filter fun l =>
    matchNames (decide (goal = .folder)) block l.texts &&
      (!asksLast block || t.enters here l.dropLast)

/-- The ways from a folder that a block of segments matches, and then later ones, each after a step
up. -/
def ways (t : Tree) (goal : Goal) (here : Location) (first : List Segment) :
    List (List Segment) → List Path
  | [] => (matching t goal here first).map Path.ofLocation
  | next :: later =>
    -- a step up is asked for like a name, in the folder that it leaves
    ((matching t .folder here first).filter (t.enters here)).flatMap fun l =>
      (ways t goal (here ++ l).dropLast next later).map fun way =>
        ((Path.ofLocation l).append .up).append way

theorem mem_ways_nil {t : Tree} {goal : Goal} {here : Location} {first : List Segment}
    {way : Path} :
    way ∈ ways t goal here first [] ↔ ∃ l ∈ matching t goal here first, way = .ofLocation l := by
  simp [ways, eq_comm]

/-! ### Order -/

/-- The steps of a path as they are written. -/
def written (p : Path) : List Text := p.steps.map Step.text

/-- Puts a way before the first one that does not come before it. -/
def insertWay (way : Path) : List Path → List Path
  | [] => [way]
  | other :: rest =>
    if written other < written way then other :: insertWay way rest else way :: other :: rest

/-- Ways in the order of their steps as they are written. -/
def inOrder (paths : List Path) : List Path := paths.foldr insertWay []

theorem mem_insertWay {way p : Path} {paths : List Path} :
    p ∈ insertWay way paths ↔ p = way ∨ p ∈ paths := by
  induction paths with
  | nil => simp [insertWay]
  | cons other rest ih =>
    unfold insertWay
    split
    · simp only [List.mem_cons, ih]
      exact or_left_comm
    · simp

@[simp] theorem mem_inOrder {p : Path} {paths : List Path} : p ∈ inOrder paths ↔ p ∈ paths := by
  induction paths with
  | nil => rfl
  | cons way rest ih => rw [inOrder, List.foldr_cons, mem_insertWay, ← inOrder, ih, List.mem_cons]

theorem pairwise_insertWay {way : Path} {paths : List Path}
    (h : paths.Pairwise fun p q => ¬ written q < written p) :
    (insertWay way paths).Pairwise fun p q => ¬ written q < written p := by
  induction paths with
  | nil => simp [insertWay]
  | cons other rest ih =>
    obtain ⟨first, tail⟩ := List.pairwise_cons.1 h
    unfold insertWay
    split
    · rename_i hb
      refine List.pairwise_cons.2 ⟨fun p hp => ?_, ih tail⟩
      rcases mem_insertWay.1 hp with rfl | hp
      · exact fun hc => List.lt_irrefl _ (List.lt_trans hb hc)
      · exact first p hp
    · rename_i hb
      refine List.pairwise_cons.2 ⟨fun p hp => ?_, h⟩
      rcases List.mem_cons.1 hp with rfl | hp
      · exact hb
      · exact fun hc => first p hp (Std.lt_of_lt_of_le (α := List Text) hc (Std.not_lt.1 hb))

theorem pairwise_inOrder (paths : List Path) :
    (inOrder paths).Pairwise fun p q => ¬ written q < written p := by
  induction paths with
  | nil => exact List.Pairwise.nil
  | cons way rest ih => exact pairwise_insertWay ih

/-! ### Patterns -/

/-- The ways from a folder to the files that a pattern matches. -/
def files (g : Glob) (t : Tree) (here : Location) : List Path :=
  if g.foldersOnly then [] else inOrder (ways t .file here g.first g.later)

/-- The ways from a folder to the folders and files that a pattern matches. -/
def found (g : Glob) (t : Tree) (here : Location) : List Path :=
  inOrder (ways t .folder here g.first g.later ++
    if g.foldersOnly then [] else ways t .file here g.first g.later)

/-- The ways from a folder on which a search looks at something: those to the folders that a start
of the pattern leads to, each with the step that is asked for next. -/
def searched (g : Glob) (t : Tree) (here : Location) : List (Path × List Step) :=
  (starts g.first g.later).flatMap fun (first, later, asked) =>
    (ways t .folder here first later).map fun way => (way, asked)

theorem mem_found_of_mem_files {g : Glob} {t : Tree} {here : Location} {way : Path}
    (h : way ∈ g.files t here) : way ∈ g.found t here := by
  unfold files at h
  split at h
  · cases h
  · rename_i files
    rw [found, mem_inOrder, List.mem_append, if_neg files]
    exact .inr (mem_inOrder.1 h)

theorem mem_files_of_later_eq_nil {g : Glob} {t : Tree} {here : Location} {way : Path}
    (h : g.later = []) :
    way ∈ g.files t here ↔
      g.foldersOnly = false ∧ ∃ l ∈ matching t .file here g.first, way = .ofLocation l := by
  unfold files
  split
  · rename_i hf; simp [hf]
  · rename_i hf
    rw [mem_inOrder, h, mem_ways_nil]
    simp [hf]

end Glob

end DocSnippets
