import DocSnippets.Files.Tree

/-!
# DocSnippets.Proofs.Files.Folders

**Making folders touches nothing else.** Whether all folders on the way of a path could be made or
not, every entry that was in the tree before is still there as it was, and whatever is new is a
folder where a part of the way leads. `FoldersMade` says that of two trees, and
`foldersMade_makeFolders` proves it of making folders, by induction on the steps of the way.

That ways which led somewhere before still do, once there are more folders, is what the steps of
that induction rest on; `Keeps` names what it takes, and `resolveFrom_cons_eq_ok_iff` says what one
step of a way needs.
-/

namespace DocSnippets

namespace Tree

/-! ### One step of a way -/

/-- Where a step leads from a folder, unless its name is too long. -/
def next? (here : Location) : Step → Option Location
  | .up => some here.dropLast
  | .name n => if n.isLong then none else some (here ++ [n])

theorem resolveFrom_cons {t : Tree} {here there : Location} {step : Step}
    (folder : t.get? here = some .folder) (may : t.opens here = true)
    (leads : next? here step = some there) (rest : List Step) :
    t.resolveFrom here (step :: rest) = t.resolveFrom there rest := by
  conv => lhs; unfold resolveFrom
  rw [folder]
  simp only [if_pos may]
  cases step with
  | up =>
    cases leads
    rfl
  | name n =>
    obtain ⟨short, there⟩ := Option.ite_none_left_eq_some.1 leads
    cases there
    exact if_neg short

/-- A way leads somewhere if it starts in a folder that may be entered, its first step leads
somewhere, and the other steps do from there. -/
theorem resolveFrom_cons_eq_ok_iff {t : Tree} {here l : Location} {step : Step}
    {rest : List Step} :
    t.resolveFrom here (step :: rest) = .ok l ↔
      t.get? here = some .folder ∧ t.opens here = true ∧
        ∃ there, next? here step = some there ∧ t.resolveFrom there rest = .ok l := by
  constructor
  · intro h
    unfold resolveFrom at h
    split at h
    · cases h
    · cases h
    · rename_i folder
      split at h
      · rename_i may
        refine ⟨folder, may, ?_⟩
        cases step with
        | up => exact ⟨_, rfl, h⟩
        | name n =>
          simp only at h
          split at h
          · cases h
          · rename_i short
            exact ⟨_, if_neg short, h⟩
      · cases h
  · intro known
    obtain ⟨folder, may, there, leads, later⟩ := known
    rw [resolveFrom_cons folder may leads, later]

/-! ### Trees with the folders of another one -/

/-- A tree has all folders of another one, in the same system. -/
structure Keeps (t u : Tree) : Prop where
  system : u.system = t.system
  folder : ∀ l, t.get? l = some .folder → u.get? l = some .folder

namespace Keeps

variable {t u : Tree}

theorem opens (k : Keeps t u) (l : Location) : u.opens l = t.opens l := by
  rw [Tree.opens, Tree.opens, k.system]

theorem startOf (k : Keeps t u) (start : Start) : u.startOf start = t.startOf start := by
  unfold Tree.startOf
  rw [k.system]

/-- A path that leads somewhere leads there in any tree that keeps the folders. -/
theorem resolveFrom (k : Keeps t u) {steps : List Step} {here l : Location}
    (h : t.resolveFrom here steps = .ok l) : u.resolveFrom here steps = .ok l := by
  induction steps generalizing here with
  | nil => exact h
  | cons step rest ih =>
    obtain ⟨folder, may, there, leads, later⟩ := resolveFrom_cons_eq_ok_iff.1 h
    have mayToo : u.opens here = true := (k.opens here).trans may
    exact resolveFrom_cons_eq_ok_iff.2 ⟨k.folder here folder, mayToo, there, leads, ih later⟩

theorem resolve (k : Keeps t u) {p : Path} {l : Location} (h : t.resolve p = .ok l) :
    u.resolve p = .ok l := by
  unfold Tree.resolve at h ⊢
  split at h
  · cases h
  · rename_i noNul
    rw [if_neg noNul]
    split at h
    · cases h
    · rename_i short
      rw [if_neg short, k.startOf]
      exact k.resolveFrom h

end Keeps

/-! ### Trees that differ by folders -/

/-- A tree has the entries of another one and, beyond them, only folders on the way of a path. -/
structure FoldersMade (t u : Tree) (way : Path) : Prop where
  system : u.system = t.system
  entries : ∀ l, u.get? l = t.get? l ∨
    t.get? l = none ∧ u.get? l = some .folder ∧
      ∃ steps, steps <+: way.steps ∧ u.resolveFrom (u.startOf way.start) steps = .ok l

namespace FoldersMade

variable {t u v : Tree} {way : Path}

theorem refl (t : Tree) (way : Path) : FoldersMade t t way := ⟨rfl, fun _ => .inl rfl⟩

theorem keeps (h : FoldersMade t u way) : Keeps t u := by
  refine ⟨h.system, fun l hl => ?_⟩
  rcases h.entries l with same | ⟨none, -, -⟩
  · rw [same, hl]
  · rw [none] at hl
    cases hl

theorem file_iff (h : FoldersMade t u way) {l : Location} {content : List UInt8} :
    u.get? l = some (.file content) ↔ t.get? l = some (.file content) := by
  rcases h.entries l with same | ⟨none, folder, -⟩
  · rw [same]
  · rw [none, folder]
    simp

theorem mono (h : FoldersMade t u way) {longer : Path} (start : longer.start = way.start)
    (le : way.steps <+: longer.steps) : FoldersMade t u longer := by
  refine ⟨h.system, fun l => ?_⟩
  rcases h.entries l with same | ⟨none, folder, steps, hs, leads⟩
  · exact .inl same
  · exact .inr ⟨none, folder, steps, hs.trans le, start ▸ leads⟩

theorem trans (h : FoldersMade t u way) (g : FoldersMade u v way) : FoldersMade t v way := by
  refine ⟨g.system.trans h.system, fun l => ?_⟩
  rcases g.entries l with same | ⟨none, folder, path⟩
  · rcases h.entries l with before | ⟨none, folder, steps, hs, leads⟩
    · exact .inl (same.trans before)
    · -- the way that led there still does, as all folders stay
      rw [← g.keeps.startOf] at leads
      exact .inr ⟨none, same.trans folder, steps, hs, g.keeps.resolveFrom leads⟩
  · rcases h.entries l with before | ⟨-, folder', -⟩
    · exact .inr ⟨before.symm.trans none, folder, path⟩
    · rw [folder'] at none
      cases none

end FoldersMade

/-! ### One folder -/

theorem makeAt_eq_ok {t u : Tree} {l : Location} (h : t.makeAt l = .ok u) :
    t.get? l = none ∧ u.system = t.system ∧
      ∀ m, u.get? m = if m = l then some .folder else t.get? m := by
  unfold makeAt at h
  split at h
  · rename_i free
    split at h
    · split at h
      · cases h
        exact ⟨free, rfl, fun m => get?_put m⟩
      · cases h
    · cases h
  · cases h

/-- A folder is made at the end of the way, if it was not there. -/
theorem foldersMade_ensureAt {t : Tree} {p way : Path} {l : Location}
    (leads : t.resolveFrom (t.startOf way.start) way.steps = .ok l) :
    FoldersMade t (t.ensureAt p l).1 way := by
  unfold ensureAt
  cases hm : t.makeAt l with
  | error f =>
    simp only
    split
    · exact .refl t way
    · exact .refl t way
  | ok made =>
    obtain ⟨free, system, after⟩ := makeAt_eq_ok hm
    have keeps : Keeps t made := by
      refine ⟨system, fun m hf => ?_⟩
      rw [after m]
      split
      · rfl
      · exact hf
    refine ⟨system, fun m => ?_⟩
    by_cases here : m = l
    · subst here
      refine .inr ⟨free, by rw [after m, if_pos rfl], _, List.prefix_refl way.steps, ?_⟩
      rw [keeps.startOf]
      exact keeps.resolveFrom leads
    · exact .inl (by rw [after m, if_neg here])

theorem ensureAt_eq_ok {t : Tree} {p : Path} {l m : Location}
    (h : (t.ensureAt p l).2 = .ok m) : m = l := by
  unfold ensureAt at h
  split at h
  · exact (Except.ok.inj h).symm
  · split at h
    · exact (Except.ok.inj h).symm
    · cases h

/-! ### All folders of a way -/

/-- Steps lead where the last ones lead from where the first ones lead. -/
theorem resolveFrom_append {t : Tree} {first : List Step} {here there : Location}
    (h : t.resolveFrom here first = .ok there) (second : List Step) :
    t.resolveFrom here (first ++ second) = t.resolveFrom there second := by
  induction first generalizing here with
  | nil =>
    cases h
    rfl
  | cons step rest ih =>
    obtain ⟨folder, may, between, leads, later⟩ := resolveFrom_cons_eq_ok_iff.1 h
    rw [List.cons_append, resolveFrom_cons folder may leads, ih later]

theorem resolveFrom_of_resolve {t : Tree} {p : Path} {l : Location} (h : t.resolve p = .ok l) :
    t.resolveFrom (t.startOf p.start) p.steps = .ok l := by
  unfold resolve at h
  split at h
  · cases h
  · split at h
    · cases h
    · exact h

theorem resolveFrom_ensureAt {t : Tree} {p way : Path} {l m : Location}
    (leads : t.resolveFrom (t.startOf way.start) way.steps = .ok l)
    (h : (t.ensureAt p l).2 = .ok m) :
    (t.ensureAt p l).1.resolveFrom ((t.ensureAt p l).1.startOf way.start) way.steps = .ok m := by
  have keeps := (foldersMade_ensureAt (p := p) leads).keeps
  rw [ensureAt_eq_ok h, keeps.startOf]
  exact keeps.resolveFrom leads

/-- Making all folders of a way, its steps given from the last one back, makes folders on it only;
where all could be made, the way leads to the last one. -/
theorem foldersMade_makeFoldersTo (t : Tree) (start : Start) (missing : Nat) (back : List Step) :
    let after := t.makeFoldersTo start missing back
    FoldersMade t after.1 ⟨back.reverse, start⟩ ∧
      ∀ l, after.2 = .ok l →
        after.1.resolveFrom (after.1.startOf start) back.reverse = .ok l := by
  intro after
  unfold after
  induction back generalizing missing with
  | nil =>
    rw [makeFoldersTo]
    refine ⟨.refl t _, fun l hl => ?_⟩
    cases hl
    rfl
  | cons step back ih =>
    cases missing with
    | zero =>
      rw [makeFoldersTo]
      exact ⟨.refl t _, fun l hl => by cases hl⟩
    | succ missing =>
      have last : (step :: back).reverse = back.reverse ++ [step] := List.reverse_cons
      rw [makeFoldersTo]
      split
      · -- the folders above are made first, and then the last one in the tree with them
        obtain ⟨made, leads⟩ := ih missing
        have above : FoldersMade t _ ⟨(step :: back).reverse, start⟩ :=
          made.mono rfl (last ▸ List.prefix_append _ _)
        split
        · rename_i half f eq
          rw [eq] at above
          exact ⟨above, fun l hl => by cases hl⟩
        · rename_i half there eq
          rw [eq] at above leads
          split
          · exact ⟨above, fun l hl => by cases hl⟩
          · rename_i l hl
            have whole : half.resolveFrom (half.startOf start) (step :: back).reverse = .ok l := by
              rw [last]
              exact (resolveFrom_append (leads there rfl) _).trans hl
            refine ⟨above.trans (foldersMade_ensureAt whole), fun m made => ?_⟩
            exact @resolveFrom_ensureAt _ _ ⟨_, start⟩ _ _ whole made
      · split
        · exact ⟨.refl t _, fun l hl => by cases hl⟩
        · rename_i l hl
          have whole := resolveFrom_of_resolve hl
          exact ⟨foldersMade_ensureAt whole, fun m => resolveFrom_ensureAt whole⟩

/-- **Making folders.** Whether they could all be made or not, only folders on the way are new. -/
theorem foldersMade_makeFolders (t : Tree) (p : Path) : FoldersMade t (t.makeFolders p).1 p := by
  have made := (foldersMade_makeFoldersTo t p.start maxMissing p.steps.reverse).1
  rw [List.reverse_reverse] at made
  unfold makeFolders
  split
  · rename_i u l eq
    rw [eq] at made
    exact made
  · rename_i u f eq
    rw [eq] at made
    exact made

end Tree

end DocSnippets
