import DocSnippets.Proofs.Files.Folders
import DocSnippets.Build.Basic
import DocSnippets.Proofs.Results
import DocSnippets.Proofs.Table.Languages
import DocSnippets.Proofs.Text.Utf8

/-!
# DocSnippets.Proofs.Build.Conservation

**Nothing is lost in a build.** Once all roots are listed, the build succeeds, and each page listed
contributes once for each time that it is listed: its records, or the one error that its file may
not be opened or that its bytes are no UTF-8. `Contributes` says so of one page, by its bytes and
its name and not by how it is processed; `run_conserves` says it of a build, in the order of the
listing.

Processing cannot fail otherwise, since the only thing that a record is refused for is an empty key,
and no stem of a file's name is empty.
-/

namespace DocSnippets

/-! ### Files -/

theorem Tree.read_of_isFile {t : Tree} {p : Path} (h : t.isFile p = true) :
    (∃ bytes, t.read p = .ok bytes) ∨ t.read p = .error .denied := by
  obtain ⟨l, content, leads, there⟩ := isFile_iff.1 h
  rw [read, leads]
  simp only [there]
  by_cases may : t.opens l = true
  · exact .inl ⟨content, if_pos may⟩
  · exact .inr (if_neg may)

theorem lastName_ne_nil_of_isFile {t : Tree} {p : Path} (h : t.isFile p = true) :
    p.lastName ≠ [] := by
  obtain ⟨l, content, leads, there⟩ := Tree.isFile_iff.1 h
  unfold Path.lastName
  cases last : p.steps.getLast? with
  | none =>
    -- without steps it would be where paths start, and there is a folder
    have steps := Tree.resolveFrom_of_resolve leads
    rw [List.getLast?_eq_none_iff.1 last] at steps
    cases steps
    rw [Tree.get?_startOf] at there
    cases there
  | some step => exact Path.text_ne_nil step

namespace Build

/-! ### One page -/

/-- What a page contributes, by its bytes and its name. -/
inductive Contributes (t : Tree) (languages : Languages) (page : Page) : Outcome → Prop
  /-- The file may not be opened: one error, at the place of the page below its root. -/
  | unopened (denied : t.read page.path = .error .denied) :
      Contributes t languages page
        (.failed ⟨page.relative, (Tree.PathFault.mk .denied page.path).message⟩)
  /-- The bytes are no UTF-8: one error likewise. -/
  | undecodable {bytes : List UInt8} {f : Utf8.Fault} (file : t.read page.path = .ok bytes)
      (invalid : ∀ text, bytes ≠ Utf8.encode text) (why : Utf8.decode bytes = .error f) :
      Contributes t languages page (.failed ⟨page.relative, f.message⟩)
  /-- The stem is no template name: one record, keyed by the stem. -/
  | plain {raw s : Text} {r : Record} (file : t.read page.path = .ok (Utf8.encode raw))
      (named : IsStem page.path.lastName s) (name : Template.split? s = none) (key : r.key = s)
      (parts : ⟨r.synopsis, r.usage⟩ = Snippet.ofText raw.unifyBreaks) :
      Contributes t languages page (.records [r])
  /-- The stem is a template name: one record for each language, in the order of the languages. -/
  | template {raw s before after : Text} {rs : List Record}
      (file : t.read page.path = .ok (Utf8.encode raw)) (named : IsStem page.path.lastName s)
      (name : Template.split? s = some (before, after))
      (each : List.Forall₂ (fun language r => r.key = Languages.entity before language after ∧
        ⟨r.synopsis, r.usage⟩ = Snippet.ofText raw.unifyBreaks) languages.names rs) :
      Contributes t languages page (.records rs)

/-- Processing a page that is a file never fails, and gives what the page contributes. -/
theorem process_contributes (languages : Languages) {t : Tree} {page : Page}
    (h : t.isFile page.path = true) :
    ∃ outcome, process t languages page = .ok outcome ∧ Contributes t languages page outcome := by
  -- the cases are those of `Contributes`, in the order in which processing comes to them
  rcases Tree.read_of_isFile h with ⟨bytes, file⟩ | denied
  · cases hd : Utf8.decode bytes with
    | error f =>
      have failed : Source.read t page.path = .error (.encoding f) := by
        simp [Source.read, Source.readText, file, hd, Except.map]
      refine ⟨_, by rw [process, failed], ?_⟩
      exact .undecodable file (Utf8.decode_eq_error_iff.1 ⟨f, hd⟩) hd
    | ok raw =>
      obtain rfl := Utf8.decode_eq_ok_iff.1 hd
      have source : Source.read t page.path =
          .ok ⟨page.path, stem page.path.lastName, raw.unifyBreaks⟩ := by
        simp [Source.read, Source.readText, file, hd, Except.map]
      have named := isStem_stem page.path.lastName
      have filled := stem_ne_nil (lastName_ne_nil_of_isFile h)
      cases hs : Template.split? (stem page.path.lastName) with
      | none =>
        have done : process t languages page = .ok (.records [⟨stem page.path.lastName,
            (Snippet.ofText raw.unifyBreaks).synopsis, (Snippet.ofText raw.unifyBreaks).usage,
            filled⟩]) := by
          rw [process, source]
          simp only [Languages.expand_of_plain filled hs]
          rfl
        exact ⟨_, done, .plain file named hs rfl rfl⟩
      | some sides =>
        obtain ⟨before, after⟩ := sides
        have done : process t languages page = .ok (.records (languages.names.map
            (Languages.templateRecord before after (Snippet.ofText raw.unifyBreaks)))) := by
          rw [process, source]
          simp only [Languages.expand_of_split? hs]
          rfl
        exact ⟨_, done, .template file named hs (Languages.forall₂_templateRecord before after _ _)⟩
  · have failed : Source.read t page.path = .error (.file ⟨.denied, page.path⟩) := by
      simp [Source.read, Source.readText, denied, Except.map]
    exact ⟨_, by rw [process, failed]; rfl, .unopened denied⟩

theorem process_succeeds (t : Tree) (languages : Languages) (page : Page) :
    ∃ outcome, process t languages page = .ok outcome := by
  cases file : t.isFile page.path with
  | true =>
    obtain ⟨outcome, done, -⟩ := process_contributes languages file
    exact ⟨outcome, done⟩
  | false =>
    cases hr : t.read page.path with
    | ok bytes =>
      rw [Tree.isFile_of_read hr] at file
      cases file
    | error f =>
      refine ⟨.failed ⟨page.relative, (Source.Fault.file ⟨f, page.path⟩).message⟩, ?_⟩
      simp [process, Source.read, Source.readText, hr, Except.map]

/-! ### The pages below a root -/

/-- Pages in the order of their places, compared step by step as the steps are written. -/
def Sorted (pages : List Page) : Prop :=
  pages.Pairwise fun p q => ¬ Glob.written q.place < Glob.written p.place

/-- A listing holds files below its root, in order. -/
theorem pages_spec {t : Tree} {extension : Text} {patterns : List Text} {root : Path}
    {pages : List Page} (h : Listing.pages t extension patterns root = .ok pages) :
    (∀ page ∈ pages, page.root = root ∧ t.isFile page.path = true) ∧ Sorted pages := by
  unfold Listing.pages at h
  split at h
  · cases h
  split at h
  · cases h
  split at h
  · cases h
  split at h
  · cases h
  · rename_i folder _ _ rules _ _ g _ _ _
    cases h
    constructor
    · intro page hp
      obtain ⟨hroot, -, file, -⟩ := Listing.mem_select_iff.1 hp
      exact ⟨hroot, file⟩
    · have files : (g.files t folder).Pairwise fun p q =>
          ¬ Glob.written q < Glob.written p := by
        unfold Glob.files
        split
        · exact List.Pairwise.nil
        · exact Glob.pairwise_inOrder _
      -- a page is made of a file at the same place, so picking pages keeps the order
      refine List.Pairwise.filterMap _ ?_ files
      intro p q hpq page hp other ho
      obtain ⟨-, rfl⟩ := by simpa using hp
      obtain ⟨-, rfl⟩ := by simpa using ho
      exact hpq

/-! ### The build -/

/-- The result of what was gathered from pages, unless one of them failed. -/
def Result.gathered (outcomes : List (Except Record.Fault Outcome)) : Except Record.Fault Result :=
  (outcomes.mapM id).map Result.ofOutcomes

theorem run_eq_gathered (plan : Plan) {t : Tree} {roots : List Path} {pages : List Page}
    (listed : listAll t plan.extension plan.patterns roots = .ok pages) :
    run plan t roots =
      (Result.gathered (processAll plan (process t plan.languages) pages)).mapError .record := by
  simp only [run, listed, Result.gathered]
  cases (processAll plan (process t plan.languages) pages).mapM id <;> rfl

theorem gathered_of_outcomes {t : Tree} {languages : Languages} {pages : List Page}
    {outcomes : List Outcome}
    (done : List.Forall₂ (fun page outcome => process t languages page = .ok outcome)
      pages outcomes) :
    Result.gathered (pages.map (process t languages)) = .ok (Result.ofOutcomes outcomes) := by
  have all : (pages.map (process t languages)).mapM id = .ok outcomes := by
    rw [mapM_eq_ok_iff, List.forall₂_map_left_iff]
    exact done
  rw [Result.gathered, all]
  rfl

theorem exists_gathered (t : Tree) (languages : Languages) (pages : List Page) :
    ∃ result, Result.gathered (pages.map (process t languages)) = .ok result ∧
      result.fileCount = pages.length := by
  obtain ⟨outcomes, each⟩ := exists_forall₂ fun page (_ : page ∈ pages) =>
    process_succeeds t languages page
  exact ⟨_, gathered_of_outcomes each, each.length_eq.symm⟩

theorem run_of_outcomes {plan : Plan} {t : Tree} {roots : List Path}
    {listings : List (List Page)} {outcomes : List Outcome}
    (listed : roots.mapM (Listing.pages t plan.extension plan.patterns) = .ok listings)
    (done : List.Forall₂ (fun page outcome => process t plan.languages page = .ok outcome)
      listings.flatten outcomes) :
    run plan t roots = .ok (Result.ofOutcomes outcomes) := by
  have all : listAll t plan.extension plan.patterns roots = .ok listings.flatten := by
    rw [listAll, listed]
    rfl
  rw [run_eq_gathered plan all, processAll_eq_map, gathered_of_outcomes done]
  rfl

/-- **Conservation and order of a build.** Once all roots are listed, the build succeeds. Each page
contributes once for each time that it is listed, in the order of the roots and within a root in the
order of the pages; the records and the errors are those contributions, and the count is the number
of pages. Processing a page never fails: neither its stem nor a key made from it is empty. -/
theorem run_conserves (plan : Plan) {t : Tree} {roots : List Path} {listings : List (List Page)}
    (listed : roots.mapM (Listing.pages t plan.extension plan.patterns) = .ok listings) :
    (∃ result outcomes, run plan t roots = .ok result ∧
      List.Forall₂ (Contributes t plan.languages) listings.flatten outcomes ∧
      result.records = outcomes.flatMap Outcome.recordList ∧
      result.errors = outcomes.filterMap Outcome.error? ∧
      result.fileCount = listings.flatten.length) ∧
    List.Forall₂ (fun root pages => (∀ page ∈ pages, page.root = root) ∧ Sorted pages)
      roots listings ∧
    ∀ page ∈ listings.flatten,
      (∃ outcome, process t plan.languages page = .ok outcome) ∧
      ∀ s, IsStem page.path.lastName s → s ≠ [] ∧
        ∀ before after, Template.split? s = some (before, after) →
          ∀ language ∈ plan.languages.names, Languages.entity before language after ≠ [] := by
  have specs := (mapM_eq_ok_iff.1 listed).imp fun root pages h => pages_spec h
  have files : ∀ page ∈ listings.flatten, t.isFile page.path = true := by
    intro page hp
    obtain ⟨pages, hps, hp⟩ := List.mem_flatten.1 hp
    obtain ⟨root, -, hroot⟩ := exists_of_mem_forall₂ specs hps
    exact (hroot.1 page hp).2
  obtain ⟨outcomes, each⟩ := exists_forall₂ fun page hp =>
    process_contributes plan.languages (files page hp)
  refine ⟨⟨Result.ofOutcomes outcomes, outcomes, ?_, ?_, rfl, rfl, ?_⟩, ?_, ?_⟩
  · exact run_of_outcomes listed (each.imp fun _ _ h => h.1)
  · exact each.imp fun _ _ h => h.2
  · exact each.length_eq.symm
  · exact specs.imp fun root pages h => ⟨fun page hp => (h.1 page hp).1, h.2⟩
  · intro page hp
    obtain ⟨outcome, run, -⟩ := process_contributes plan.languages (files page hp)
    refine ⟨⟨outcome, run⟩, fun s named => ?_⟩
    obtain rfl := named.eq_stem
    refine ⟨stem_ne_nil (lastName_ne_nil_of_isFile (files page hp)), ?_⟩
    intro before after _ language _
    simp [Languages.entity]

/-- A folder with a page that is no UTF-8 and whose name begins with its only full stop, and an
empty template page. -/
def mixedTree : Tree where
  entries := [
    ([.of "docs"], .folder),
    ([.of "docs", .of ".rst"], .file [0xFF]),
    ([.of "docs", .of "A_LANG_B.rst"], .file [])]

/-- A build of that folder by two workers counts both pages. -/
theorem run_conserves_mixedTree :
    ∃ result, run ⟨".rst".toList, [], 2, .standard, by decide, by decide⟩ mixedTree
      [.ofText "docs".toList] = .ok result ∧ result.fileCount = 2 := by
  have listed : [Path.ofText "docs".toList].mapM (Listing.pages mixedTree ".rst".toList []) =
      .ok [[⟨.ofText "docs".toList, .ofText ".rst".toList⟩,
        ⟨.ofText "docs".toList, .ofText "A_LANG_B.rst".toList⟩]] := by decide +kernel
  obtain ⟨⟨result, outcomes, done, -, -, -, count⟩, -⟩ :=
    run_conserves ⟨".rst".toList, [], 2, .standard, by decide, by decide⟩ listed
  exact ⟨result, done, count⟩

/-- A folder with a page of UTF-8 that may not be opened. -/
def sealedTree : Tree where
  entries := [
    ([.of "docs"], .folder),
    ([.of "docs", .of "sealed.rst"],
      .file (Utf8.encode "A\n\nText.\n".toList))]
  system := { access := fun l => if l.length = 2 then .none else .full }

/-- Errors are not only for bytes that are no UTF-8, nor one for each file: the page that may not be
opened is one, and a page that is listed below two roots is two. -/
theorem errors_of_unopened_and_listed_twice :
    (run ⟨".rst".toList, [], 1, .standard, by decide, by decide⟩ sealedTree
        [.ofText "docs".toList]).map Result.errors =
      .ok [⟨"sealed.rst".toList, "[Errno 13] Permission denied: 'docs/sealed.rst'".toList⟩] ∧
    ((run ⟨".rst".toList, [], 1, .standard, by decide, by decide⟩ mixedTree
        [.ofText "docs".toList, .ofText "docs".toList]).map
      fun result => result.errors.map SourceError.filePath) =
        .ok [".rst".toList, ".rst".toList] := by
  constructor
  · decide +kernel
  · decide +kernel

end Build

end DocSnippets
