import DocSnippets.Files.Tree

/-!
# DocSnippets.Proofs.Files.Faults

**What a fault tells about its path.** A path is found to hold a NUL character, or to be too long,
only where it is, and only making folders gives up because too many of them are missing. All other
faults come from what the tree holds and from what may be done there, and the file system tells of
them: `read_eq_error` and `makeFolders_eq_error` say so for reading a file and for making all
folders on a way.
-/

namespace DocSnippets

namespace Tree

/-! ### Finding a location -/

/-- Steps come to no location where something is missing, a file is in the way or a folder may not
be entered, or where one of them is too long. -/
theorem resolveFrom_eq_error {t : Tree} {here : Location} {steps : List Step} {f : Fault}
    (h : t.resolveFrom here steps = .error f) :
    f = .missing ∨ f = .notFolder ∨ f = .denied ∨
      f = .tooLong ∧ steps.any Step.isLong = true := by
  induction steps generalizing here with
  | nil => cases h
  | cons step rest ih =>
    -- a fault of the steps that follow is one of these
    have later : ∀ {there : Location}, t.resolveFrom there rest = .error f →
        f = .missing ∨ f = .notFolder ∨ f = .denied ∨
          f = .tooLong ∧ (step :: rest).any Step.isLong = true := by
      intro there hr
      refine (ih hr).imp_right (Or.imp_right (Or.imp_right (And.imp_right fun long => ?_)))
      rw [List.any_cons, long, Bool.or_true]
    unfold resolveFrom at h
    split at h
    · exact .inl (Except.error.inj h).symm
    · exact .inr (.inl (Except.error.inj h).symm)
    · split at h
      · split at h
        · exact later h
        · rename_i n
          split at h
          · rename_i long
            refine .inr (.inr (.inr ⟨(Except.error.inj h).symm, ?_⟩))
            rw [List.any_cons, Step.isLong, long, Bool.true_or]
          · exact later h
      · exact .inr (.inr (.inl (Except.error.inj h).symm))

theorem namesPath_of_resolveFrom {t : Tree} {here : Location} {steps : List Step} {f : Fault}
    (h : t.resolveFrom here steps = .error f) : f.namesPath = true := by
  rcases resolveFrom_eq_error h with rfl | rfl | rfl | ⟨rfl, -⟩
  all_goals rfl

/-- What is known where a path leads nowhere. -/
theorem resolve_eq_error {t : Tree} {p : Path} {f : Fault} (h : t.resolve p = .error f) :
    f = .missing ∨ f = .notFolder ∨ f = .denied ∨ f = .tooLong ∧ p.isTooLong = true ∨
      f = .nulInPath ∧ p.hasNul = true := by
  unfold resolve at h
  split at h
  · rename_i nul
    exact .inr (.inr (.inr (.inr ⟨(Except.error.inj h).symm, nul⟩)))
  · split at h
    · rename_i long
      refine .inr (.inr (.inr (.inl ⟨(Except.error.inj h).symm, ?_⟩)))
      rw [Path.isTooLong, long, Bool.true_or]
    · rcases resolveFrom_eq_error h with missing | file | denied | ⟨rfl, long⟩
      · exact .inl missing
      · exact .inr (.inl file)
      · exact .inr (.inr (.inl denied))
      · refine .inr (.inr (.inr (.inl ⟨rfl, ?_⟩)))
        rw [Path.isTooLong, long, Bool.or_true]

theorem namesPath_of_resolve {t : Tree} {p : Path} {f : Fault} (h : t.resolve p = .error f) :
    f.namesPath = true ∨ f = .nulInPath ∧ p.hasNul = true := by
  rcases resolve_eq_error h with rfl | rfl | rfl | ⟨rfl, -⟩ | nul
  · exact .inl rfl
  · exact .inl rfl
  · exact .inl rfl
  · exact .inl rfl
  · exact .inr nul

/-- A look at a path gives no answer where a folder on the way may not be entered or the path is
too long. -/
theorem blocked?_eq_some {t : Tree} {p : Path} {f : PathFault} (h : t.blocked? p = some f) :
    f = ⟨.denied, p⟩ ∧ t.resolve p = .error .denied ∨
      f = ⟨.tooLong, p⟩ ∧ t.resolve p = .error .tooLong := by
  unfold blocked? at h
  split at h
  · rename_i long
    exact .inr ⟨(Option.some.inj h).symm, long⟩
  · rename_i denied
    exact .inl ⟨(Option.some.inj h).symm, denied⟩
  · cases h

/-! ### Reading and writing -/

theorem makeAt_eq_error {t : Tree} {l : Location} {f : Fault} (h : t.makeAt l = .error f) :
    f.namesPath = true := by
  unfold makeAt at h
  split at h
  · split at h
    · split at h
      · cases h
      · cases h
        rfl
    · cases h
      rfl
  · cases h
    rfl

theorem ensureAt_eq_error {t : Tree} {p : Path} {l : Location} {f : PathFault}
    (h : (t.ensureAt p l).2 = .error f) : f.fault.namesPath = true := by
  unfold ensureAt at h
  split at h
  · cases h
  · rename_i g hg
    split at h
    · cases h
    · cases h
      exact makeAt_eq_error hg

/-- A fault in making all folders of a way, its steps given from the last one back: it is told with
a path, or a step holds a NUL, or more steps are missing than may be. -/
theorem makeFoldersTo_eq_error {t : Tree} {start : Start} {missing : Nat} {back : List Step}
    {f : PathFault} (h : (t.makeFoldersTo start missing back).2 = .error f) :
    f.fault.namesPath = true ∨ f.fault = .nulInPath ∧ Path.hasNul ⟨back, start⟩ = true ∨
      f.fault = .tooDeep ∧ missing < back.length := by
  induction back generalizing missing with
  | nil =>
    rw [makeFoldersTo] at h
    cases h
  | cons step back ih =>
    cases missing with
    | zero =>
      rw [makeFoldersTo] at h
      cases h
      exact .inr (.inr ⟨rfl, Nat.succ_pos _⟩)
    | succ missing =>
      rw [makeFoldersTo] at h
      split at h
      · -- the path itself has no folder above it, so those are made first
        split at h
        · rename_i made g eq
          cases h
          rcases ih (congrArg Prod.snd eq) with system | ⟨fault, nul⟩ | ⟨fault, deep⟩
          · exact .inl system
          · refine .inr (.inl ⟨fault, ?_⟩)
            simp only [Path.hasNul, List.any_cons] at nul ⊢
            rw [nul, Bool.or_true]
          · exact .inr (.inr ⟨fault, Nat.succ_lt_succ deep⟩)
        · split at h
          · rename_i g hg
            cases h
            exact .inl (namesPath_of_resolveFrom hg)
          · exact .inl (ensureAt_eq_error h)
      · split at h
        · rename_i g hg
          cases h
          rcases namesPath_of_resolve hg with system | ⟨fault, nul⟩
          · exact .inl system
          · refine .inr (.inl ⟨fault, ?_⟩)
            simpa only [Path.hasNul, List.any_reverse] using nul
        · exact .inl (ensureAt_eq_error h)

theorem makeFolders_eq_error {t : Tree} {p : Path} {f : PathFault}
    (h : (t.makeFolders p).2 = some f) :
    f.fault.namesPath = true ∨ f.fault = .nulInPath ∧ p.hasNul = true ∨
      f.fault = .tooDeep ∧ maxMissing < p.steps.length := by
  unfold makeFolders at h
  split at h
  · cases h
  · rename_i u g eq
    cases h
    have known := makeFoldersTo_eq_error (congrArg Prod.snd eq)
    simpa only [Path.hasNul, List.any_reverse, List.length_reverse] using known

end Tree

end DocSnippets
