import DocSnippets.Proofs.Build.Conservation
import DocSnippets.Proofs.Build.Faults
import DocSnippets.Proofs.Files.Below

/-!
# DocSnippets.Proofs.Build.Roots

**Builds compose over roots.** A build of some roots and then of others gives the records, the
errors and the count of the first build and then those of the second one. The first root that
cannot be listed decides the fault, and of the things that may be wrong with one root the first one
that the listing comes to: `Listing.Refuses` has them in that order.

Processing pages never fails, so a build is refused only while its roots are listed; that all roots
are listed before any page is processed is not to be told from the outside. `Build.run_composes`
puts the two together.
-/

namespace DocSnippets

/-! ### One root -/

namespace Listing

variable {t : Tree} {extension : Text} {patterns : List Text} {root : Path}

/-- Why the pages below a root cannot be listed. Each reason says what was found in order before
it, and nothing of what comes after it. -/
inductive Refuses (t : Tree) (extension : Text) (patterns : List Text) (root : Path) :
    Fault → Prop
  /-- The root is longer than any file system takes, so that it is not even asked for a folder. -/
  | longRoot (long : t.resolve root = .error .tooLong) :
      Refuses t extension patterns root (.file ⟨.tooLong, root⟩)
  /-- A folder on the way to the root may not be entered. -/
  | deniedRoot (denied : t.resolve root = .error .denied) :
      Refuses t extension patterns root (.file ⟨.denied, root⟩)
  /-- The root is no folder, whatever the patterns and the extension are. -/
  | notFolder (short : t.resolve root ≠ .error .tooLong) (entered : t.resolve root ≠ .error .denied)
      (missing : t.folder? root = none) : Refuses t extension patterns root (.notFolder root)
  /-- An exclusion pattern is refused, and none before it is. -/
  | pattern {folder : Location} {before after : List Text} {pattern : Text} {f : Ignore.Fault}
      (there : t.folder? root = some folder) (split : patterns = before ++ pattern :: after)
      (accepted : ∀ other ∈ before, ∃ rule, Ignore.Rule.ofLine other = .ok rule)
      (refused : Ignore.Rule.ofLine pattern = .error f) :
      Refuses t extension patterns root (.ignore f)
  /-- The extension makes no pattern. -/
  | glob {folder : Location} {f : Glob.Fault} (there : t.folder? root = some folder)
      (accepted : ∀ pattern ∈ patterns, ∃ rule, Ignore.Rule.ofLine pattern = .ok rule)
      (refused : patternFor extension = .error f) :
      Refuses t extension patterns root (.glob f)
  /-- A look at something below the root gives no answer, and none before it is without one. -/
  | hindered {folder : Location} {g : Glob} {f : Tree.PathFault}
      (there : t.folder? root = some folder)
      (accepted : ∀ pattern ∈ patterns, ∃ rule, Ignore.Rule.ofLine pattern = .ok rule)
      (known : patternFor extension = .ok g) (found : fault? t root folder g = some f) :
      Refuses t extension patterns root (.file f)

/-- A look at a path gives an answer, unless it is too long or goes through a folder that may not be
entered. -/
theorem blocked?_eq_none {p : Path} (short : t.resolve p ≠ .error .tooLong)
    (entered : t.resolve p ≠ .error .denied) : t.blocked? p = none := by
  cases blocked : t.blocked? p with
  | none => rfl
  | some f =>
    rcases Tree.blocked?_eq_some blocked with ⟨-, denied⟩ | ⟨-, long⟩
    · exact absurd denied entered
    · exact absurd long short

theorem rootFolder_eq_ok_iff {folder : Location} :
    rootFolder t root = .ok folder ↔ t.folder? root = some folder := by
  unfold rootFolder
  constructor
  · intro h
    split at h
    · cases h
    · split at h
      · cases h
      · rename_i found
        cases h
        exact found
  · intro there
    obtain ⟨leads, -⟩ := Tree.folder?_eq_some_iff.1 there
    rw [blocked?_eq_none (by simp [leads]) (by simp [leads])]
    simp only [there]

theorem rootFolder_of_blocked {f : Tree.PathFault} (blocked : t.blocked? root = some f) :
    rootFolder t root = .error (.file f) := by
  rw [rootFolder, blocked]

theorem rootFolder_of_missing (clear : t.blocked? root = none)
    (missing : t.folder? root = none) : rootFolder t root = .error (.notFolder root) := by
  rw [rootFolder, clear]
  simp only [missing]

theorem refuses_of_pages {f : Fault} (h : pages t extension patterns root = .error f) :
    Refuses t extension patterns root f := by
  cases there : t.folder? root with
  | none =>
    -- the root is no folder, or a look at it gives no answer
    cases blocked : t.blocked? root with
    | some g =>
      rw [pages, rootFolder_of_blocked blocked] at h
      cases h
      rcases Tree.blocked?_eq_some blocked with ⟨rfl, denied⟩ | ⟨rfl, long⟩
      · exact .deniedRoot denied
      · exact .longRoot long
    | none =>
      rw [pages, rootFolder_of_missing blocked there] at h
      cases h
      refine .notFolder (fun long => ?_) (fun denied => ?_) there
      · simp [Tree.blocked?, long] at blocked
      · simp [Tree.blocked?, denied] at blocked
  | some folder =>
    rw [pages, rootFolder_eq_ok_iff.2 there] at h
    simp only at h
    split at h
    · rename_i g hg
      cases h
      obtain ⟨before, pattern, after, split, accepted, refused⟩ :=
        Ignore.ofPatterns_eq_error_iff.1 hg
      exact .pattern there split accepted refused
    · rename_i rules hr
      have accepted := Ignore.exists_ofPatterns_iff.1 ⟨rules, hr⟩
      split at h
      · rename_i g hg
        cases h
        exact .glob there accepted hg
      · rename_i g known
        split at h
        · rename_i f found
          cases h
          exact .hindered there accepted known found
        · cases h

theorem pages_of_refuses {f : Fault} (refuses : Refuses t extension patterns root f) :
    pages t extension patterns root = .error f := by
  cases refuses with
  | longRoot long => rw [pages, rootFolder_of_blocked (by rw [Tree.blocked?, long])]
  | deniedRoot denied => rw [pages, rootFolder_of_blocked (by rw [Tree.blocked?, denied])]
  | notFolder short entered missing =>
    rw [pages, rootFolder_of_missing (blocked?_eq_none short entered) missing]
  | pattern there split accepted refused =>
    have first := Ignore.ofPatterns_eq_error_iff.2 ⟨_, _, _, split, accepted, refused⟩
    rw [pages, rootFolder_eq_ok_iff.2 there]
    simp only [first]
  | glob there accepted refused =>
    obtain ⟨rules, hr⟩ := Ignore.exists_ofPatterns_iff.2 accepted
    rw [pages, rootFolder_eq_ok_iff.2 there]
    simp only [hr, refused]
  | hindered there accepted known found =>
    obtain ⟨rules, hr⟩ := Ignore.exists_ofPatterns_iff.2 accepted
    rw [pages, rootFolder_eq_ok_iff.2 there]
    simp only [hr, known, found]

/-- A root is refused for one of those reasons, and for no other. -/
theorem pages_eq_error_iff {f : Fault} :
    pages t extension patterns root = .error f ↔ Refuses t extension patterns root f :=
  ⟨refuses_of_pages, pages_of_refuses⟩

end Listing

namespace Build

/-! ### Roots one after the other -/

/-- The result of a build and then that of another one. -/
def Result.append (first second : Result) : Result where
  records := first.records ++ second.records
  errors := first.errors ++ second.errors
  fileCount := first.fileCount + second.fileCount

theorem gathered_append (first second : List (Except Record.Fault Outcome)) :
    Result.gathered (first ++ second) = (Result.gathered first).bind fun r =>
      (Result.gathered second).map r.append := by
  simp only [Result.gathered, List.mapM_append]
  cases first.mapM id with
  | error f => rfl
  | ok os =>
    cases second.mapM id with
    | error f => rfl
    | ok qs => exact congrArg Except.ok (Result.ofOutcomes_append os qs)

variable {plan : Plan} {t : Tree}

theorem run_of_not_listed {roots : List Path} {f : Listing.Fault}
    (h : listAll t plan.extension plan.patterns roots = .error f) :
    run plan t roots = .error (.listing f) := by
  rw [run, h]

theorem exists_run_of_listed {roots : List Path} {pages : List Page}
    (h : listAll t plan.extension plan.patterns roots = .ok pages) :
    ∃ result, run plan t roots = .ok result ∧
      Result.gathered (pages.map (process t plan.languages)) = .ok result := by
  obtain ⟨result, gathered, -⟩ := exists_gathered t plan.languages pages
  refine ⟨result, ?_, gathered⟩
  rw [run_eq_gathered plan h, processAll_eq_map, gathered]
  rfl

/-- A build of some roots and then of others is the first build and then the second one. -/
theorem run_append (plan : Plan) (t : Tree) (first second : List Path) :
    run plan t (first ++ second) =
      (run plan t first).bind fun r => (run plan t second).map r.append := by
  have both := listAll_append t plan.extension plan.patterns first second
  -- all roots are listed before any page is processed, so what listing says of them decides
  cases hf : listAll t plan.extension plan.patterns first with
  | error f =>
    rw [hf] at both
    rw [run_of_not_listed hf, run_of_not_listed both]
    rfl
  | ok ps =>
    obtain ⟨r, built, ofFirst⟩ := exists_run_of_listed hf
    cases hs : listAll t plan.extension plan.patterns second with
    | error f =>
      rw [hf, hs] at both
      rw [built, run_of_not_listed hs, run_of_not_listed both]
      rfl
    | ok qs =>
      obtain ⟨s, builtToo, ofSecond⟩ := exists_run_of_listed hs
      rw [hf, hs] at both
      obtain ⟨all, builtAll, ofAll⟩ := exists_run_of_listed both
      rw [List.map_append, gathered_append, ofFirst, ofSecond] at ofAll
      rw [builtAll, built, builtToo]
      exact congrArg Except.ok (Except.ok.inj ofAll).symm

/-- A build of one root fails where the root is refused. -/
theorem run_singleton_eq_error_iff {root : Path} {f : Fault} :
    run plan t [root] = .error f ↔
      ∃ g, f = .listing g ∧ Listing.Refuses t plan.extension plan.patterns root g := by
  have one : listAll t plan.extension plan.patterns [root] =
      Listing.pages t plan.extension plan.patterns root := by
    unfold listAll
    rw [List.mapM_cons, List.mapM_nil]
    cases Listing.pages t plan.extension plan.patterns root with
    | error g => rfl
    | ok pages => simp [bind, Except.bind, pure, Except.pure, Except.map]
  cases hp : Listing.pages t plan.extension plan.patterns root with
  | error g =>
    rw [run_of_not_listed (one.trans hp)]
    constructor
    · intro h
      cases h
      exact ⟨g, rfl, Listing.pages_eq_error_iff.1 hp⟩
    · intro refused
      obtain ⟨other, rfl, refuses⟩ := refused
      rw [Listing.pages_eq_error_iff.2 refuses] at hp
      cases hp
      rfl
  | ok pages =>
    obtain ⟨result, built, -⟩ := exists_run_of_listed (one.trans hp)
    rw [built]
    constructor
    · intro h
      cases h
    · intro refused
      obtain ⟨other, -, refuses⟩ := refused
      rw [Listing.pages_eq_error_iff.2 refuses] at hp
      cases hp

theorem run_nil (plan : Plan) (t : Tree) : run plan t [] = .ok ⟨[], [], 0⟩ := by
  have none : listAll t plan.extension plan.patterns [] = .ok [] := rfl
  rw [run_eq_gathered plan none, processAll_eq_map]
  rfl

/-- The first root that is refused decides the fault of a build. -/
theorem run_eq_error_iff {roots : List Path} {f : Fault} :
    run plan t roots = .error f ↔
      ∃ before root after, roots = before ++ root :: after ∧
        (∃ r, run plan t before = .ok r) ∧ run plan t [root] = .error f := by
  constructor
  · intro h
    induction roots with
    | nil =>
      rw [run_nil] at h
      cases h
    | cons root rest ih =>
      rw [← List.singleton_append, run_append] at h
      cases one : run plan t [root] with
      | error g =>
        rw [one] at h
        cases h
        exact ⟨[], root, rest, rfl, ⟨_, run_nil plan t⟩, one⟩
      | ok r =>
        -- the first root is listed, so the one that is refused is among the others
        cases others : run plan t rest with
        | ok s =>
          rw [one, others] at h
          cases h
        | error g =>
          rw [one, others] at h
          cases h
          obtain ⟨before, refused, after, rfl, ⟨s, built⟩, failed⟩ := ih others
          refine ⟨root :: before, refused, after, rfl, ⟨r.append s, ?_⟩, failed⟩
          rw [← List.singleton_append, run_append, one, built]
          rfl
  · intro found
    obtain ⟨before, root, after, rfl, ⟨r, built⟩, failed⟩ := found
    rw [← List.singleton_append, run_append, built, run_append, failed]
    rfl

/-- **Builds compose over roots, errors included.** A build of some roots and then of others gives
what the first build gives and then what the second one gives; where the first one is refused, so
is the whole, and with the same fault; where only the second one is refused, the whole is refused
with its fault. A single root is refused exactly for the reasons of `Listing.Refuses`, each of
which comes before those after it: a path that is too long or that may not be entered, no folder,
the first exclusion pattern that is refused, the extension, and a look below the root that gives no
answer. The build of no roots is never refused. -/
theorem run_composes (plan : Plan) (t : Tree) :
    (∀ first second, run plan t (first ++ second) =
      match run plan t first with
      | .error f => .error f
      | .ok r =>
        match run plan t second with
        | .error f => .error f
        | .ok s => .ok ⟨r.records ++ s.records, r.errors ++ s.errors, r.fileCount + s.fileCount⟩) ∧
    (∀ root f, run plan t [root] = .error f ↔
      ∃ g, f = .listing g ∧ Listing.Refuses t plan.extension plan.patterns root g) ∧
    run plan t [] = .ok ⟨[], [], 0⟩ := by
  refine ⟨fun first second => ?_, fun root f => run_singleton_eq_error_iff, run_nil plan t⟩
  rw [run_append]
  cases run plan t first with
  | error f => rfl
  | ok r => cases run plan t second <;> rfl

/-- A root whose name has 256 letters. -/
def longRoot : Path := .ofText (List.replicate 256 'n')

/-- Where there is no such folder, a build below that root is refused, but the reason given is not
that the root is no folder. -/
theorem longRoot_not_notFolder :
    Tree.empty.folder? longRoot = none ∧
    run ⟨".rst".toList, [], 1, .standard, by decide, by decide⟩ Tree.empty [longRoot] =
      .error (.listing (.file ⟨.tooLong, longRoot⟩)) ∧
    run ⟨".rst".toList, [], 1, .standard, by decide, by decide⟩ Tree.empty [longRoot] ≠
      .error (.listing (.notFolder longRoot)) := by
  have long : Tree.empty.resolve longRoot = .error .tooLong := by decide +kernel
  have refused (plan : Plan) :
      run plan Tree.empty [longRoot] = .error (.listing (.file ⟨.tooLong, longRoot⟩)) :=
    run_singleton_eq_error_iff.2 ⟨_, rfl, .longRoot long⟩
  refine ⟨by rw [Tree.folder?, long], refused _, ?_⟩
  rw [refused]
  simp

end Build

end DocSnippets
