import DocSnippets.Proofs.Page.BaseName

/-!
# DocSnippets.Proofs.Build.Dedicated

**A template page and a page dedicated to one of its languages.** Where both are in one folder they
give records with the same key, and in the table one of the two records is replaced. The listing
alone decides which one: the names of the two files are the same up to the language, and no language
begins with the letter of the mark in the placeholder, so the first letter of the language says
which file comes last.

Every name with a record finds the last page that has one for it (`isLast_of_later`, by induction on
the pages); with the order of the two files, `get?_of_rivals` says what the names find that both
pages have a record for.
-/

namespace DocSnippets

namespace Languages

/-! ### The order of names -/

/-- The standard languages whose names come after the mark. -/
def late : List Text := ["OBJC".toList, "OBJCXX".toList, "Swift".toList]

/-- A language does not begin like the mark; the late ones begin with a letter after it. -/
theorem exists_first {language : Text} (known : language ∈ standard.names) :
    ∃ c rest, language = c :: rest ∧ c ≠ 'L' ∧ ('L' < c ↔ language ∈ late) := by
  have all : ∀ l ∈ standard.names, l ≠ [] ∧ l.headI ≠ 'L' ∧ ('L' < l.headI ↔ l ∈ late) := by
    decide
  obtain ⟨filled, facts⟩ := all language known
  obtain ⟨c, rest, rfl⟩ := List.exists_cons_of_ne_nil filled
  exact ⟨c, rest, rfl, facts⟩

/-- The name of a language comes after the name of the template page for the late languages only,
whatever is around the language. -/
theorem entity_mark_lt_iff {before after language ending : Text}
    (known : language ∈ standard.names) :
    entity before mark after ++ ending < entity before language after ++ ending ↔
      language ∈ late := by
  obtain ⟨c, rest, rfl, ne, order⟩ := exists_first known
  have first : mark = 'L' :: "ANG".toList := rfl
  simp only [entity, first, List.append_assoc, List.cons_append, append_lt_append_left_iff,
    List.cons_lt_cons_iff, ← order]
  simp [Ne.symm ne]

theorem entity_mark_ne {before after language : Text} (known : language ∈ standard.names) :
    entity before mark after ≠ entity before language after := by
  obtain ⟨c, rest, rfl, ne, -⟩ := exists_first known
  intro same
  exact ne (List.cons.inj (entity_inj.1 same)).1.symm

end Languages

namespace Build

variable {t : Tree} {root : Path} {rules : List Ignore.Rule} {above : Location}
  {baseName raw other text : Text} {pages : List Page}

/-! ### Pages that are listed and read -/

/-- A page of UTF-8 with the default extension, in a folder below a root, that no rule excludes. -/
structure HeldPage (t : Tree) (root : Path) (rules : List Ignore.Rule) (above : Location)
    (baseName raw : Text) where
  file : Name
  named : file.text = baseName ++ Listing.defaultExtension
  held : t.read (root.append (.ofLocation (above ++ [file]))) = .ok (Utf8.encode raw)
  kept : Ignore.excludes rules (Location.text (above ++ [file])) = false

namespace HeldPage

/-- The page as it is listed. -/
def page (p : HeldPage t root rules above baseName raw) : Page :=
  ⟨root, .ofLocation (above ++ [p.file])⟩

theorem mem_pages (p : HeldPage t root rules above baseName raw) {patterns : List Text}
    (compiled : Ignore.ofPatterns patterns = .ok rules)
    (listed : Listing.pages t Listing.defaultExtension patterns root = .ok pages) :
    p.page ∈ pages := by
  obtain ⟨folder, others, leads, same, rfl⟩ :=
    Listing.exists_select_of_pages (by decide) listed
  rw [compiled] at same
  cases same
  exact Listing.mem_select_of_read leads p.held ⟨_, p.named.symm⟩ p.kept

theorem read_page (p : HeldPage t root rules above baseName raw) (ne : baseName ≠ []) :
    Source.read t p.page.path = .ok ⟨p.page.path, baseName, raw.unifyBreaks⟩ := by
  have base : stem p.page.path.lastName = baseName := by
    rw [page, Listing.lastName_path, p.named]
    exact stem_append_of_notMem ne (by decide) (by decide : '.' ∉ "rst".toList)
  refine Source.read_eq_ok_iff.2 ⟨raw.unifyBreaks, ?_, by rw [base]⟩
  exact Source.readText_eq_ok_iff.2 ⟨_, raw, p.held, Utf8.decode_eq_ok_iff.2 rfl, rfl⟩

theorem written_lt_iff (p : HeldPage t root rules above baseName raw)
    (q : HeldPage t root rules above other text) :
    Glob.written p.page.path < Glob.written q.page.path ↔ p.file.text < q.file.text := by
  simp only [page, Page.path, Path.append, Path.ofLocation, Glob.written, List.map_append,
    append_lt_append_left_iff]
  simp [Step.text, List.cons_lt_cons_iff]

end HeldPage

/-! ### The last page with a record of a name -/

/-- A page gives no record whose key folds like the name. -/
def Foreign (t : Tree) (languages : Languages) (name : Text) (page : Page) : Prop :=
  ∀ outcome, process t languages page = .ok outcome →
    ∀ r ∈ outcome.recordList, r.foldedKey ≠ foldCase name

variable {languages : Languages} {outcomes : List Outcome} {winner loser : Page}
  {rs : List Record} {name : Text} {r : Record}

/-- Where all pages after a page are foreign to a name, the last record of the name is the one that
this page gives. -/
theorem isLast_of_later {later : Page → Page → Prop}
    (done : List.Forall₂ (fun page outcome => process t languages page = .ok outcome)
      pages outcomes)
    (ordered : pages.Pairwise later) (mem : winner ∈ pages)
    (gives : process t languages winner = .ok (.records rs)) (last : IsLast rs name r)
    (foreign : ∀ page ∈ pages, later winner page → Foreign t languages name page) :
    IsLast (outcomes.flatMap Outcome.recordList) name r := by
  induction done with
  | nil => cases mem
  | @cons page outcome rest others first done ih =>
    obtain ⟨after, ordered⟩ := List.pairwise_cons.1 ordered
    rw [List.flatMap_cons]
    rcases List.mem_cons.1 mem with rfl | mem
    · rw [gives] at first
      cases first
      refine last.append_right fun s hs => ?_
      obtain ⟨outcome, ho, hs⟩ := List.mem_flatMap.1 hs
      obtain ⟨page, hp, ran⟩ := exists_of_mem_forall₂ done ho
      exact foreign page (List.mem_cons_of_mem _ hp) (after page hp) outcome ran s hs
    · have tail := ih ordered mem fun page hp => foreign page (List.mem_cons_of_mem _ hp)
      exact tail.append_left

/-- Of two pages in ascending pages, where all others are foreign to a name, the one that comes
last decides. -/
theorem isLast_of_two
    (done : List.Forall₂ (fun page outcome => process t languages page = .ok outcome)
      pages outcomes)
    (ascending : pages.Pairwise fun p q => Glob.written p.path < Glob.written q.path)
    (mem : winner ∈ pages) (order : Glob.written loser.path < Glob.written winner.path)
    (gives : process t languages winner = .ok (.records rs)) (last : IsLast rs name r)
    (alone : ∀ page ∈ pages, page ≠ winner → page ≠ loser → Foreign t languages name page) :
    IsLast (outcomes.flatMap Outcome.recordList) name r := by
  refine isLast_of_later done ascending mem gives last fun page hp after => alone page hp ?_ ?_
  · rintro rfl
    exact List.lt_irrefl _ after
  · rintro rfl
    exact List.lt_irrefl _ (List.lt_trans order after)

/-! ### Errors -/

theorem filePath_of_failed {page : Page} {e : SourceError}
    (h : process t languages page = .ok (.failed e)) : e.filePath = page.relative := by
  unfold process at h
  split at h
  · cases h
    rfl
  · rename_i source _
    cases expanded : languages.expand source.baseName (Snippet.ofText source.text) with
    | error f =>
      rw [expanded] at h
      cases h
    | ok rs =>
      rw [expanded] at h
      cases h

/-- A page that gives records is not among the errors. -/
theorem filePath_ne_of_records
    (done : List.Forall₂ (fun page outcome => process t languages page = .ok outcome)
      pages outcomes)
    (roots : ∀ page ∈ pages, page.root = winner.root)
    (gives : process t languages winner = .ok (.records rs)) :
    ∀ e ∈ outcomes.filterMap Outcome.error?, e.filePath ≠ winner.relative := by
  intro e he same
  obtain ⟨outcome, ho, failed⟩ := List.mem_filterMap.1 he
  obtain ⟨page, hp, ran⟩ := exists_of_mem_forall₂ done ho
  cases outcome with
  | records rs => cases failed
  | failed f =>
    cases failed
    -- the place is read back from its text, so the page that failed would be this one
    have text := (filePath_of_failed ran).symm.trans same
    have place : page.place = winner.place := by
      rw [← Path.ofText_text page.place, ← Path.ofText_text winner.place]
      exact congrArg Path.ofText text
    have both : page = winner := by
      cases page
      cases winner
      cases roots _ hp
      cases place
      rfl
    rw [both, gives] at ran
    cases ran

theorem mem_records_of_process
    (done : List.Forall₂ (fun page outcome => process t languages page = .ok outcome)
      pages outcomes)
    (mem : winner ∈ pages) (gives : process t languages winner = .ok (.records rs)) (hr : r ∈ rs) :
    r ∈ outcomes.flatMap Outcome.recordList := by
  obtain ⟨outcome, ho, ran⟩ := exists_of_mem_forall₂ done.flip mem
  have same : process t languages winner = .ok outcome := ran
  rw [gives] at same
  cases same
  exact List.mem_flatMap.2 ⟨_, ho, hr⟩

/-! ### Rivals -/

/-- A template page and a page dedicated to one of the standard languages, in one folder below a
root. The dedicated page is no template page itself. -/
structure Rivals (t : Tree) (root : Path) (rules : List Ignore.Rule) where
  /-- The folder of both pages, as the root leads to it. -/
  above : Location
  /-- What stands before the language in their names. -/
  before : Text
  /-- What stands after it. -/
  after : Text
  language : Text
  /-- The text of the template page. -/
  shared : Text
  /-- The text of the dedicated page. -/
  own : Text
  known : language ∈ Languages.standard.names
  split : Template.split? (Languages.entity before Languages.mark after) = some (before, after)
  plain : Template.split? (Languages.entity before language after) = none
  template : HeldPage t root rules above (Languages.entity before Languages.mark after) shared
  dedicated : HeldPage t root rules above (Languages.entity before language after) own

namespace Rivals

/-- The key that both pages have a record for. -/
def key (m : Rivals t root rules) : Text := Languages.entity m.before m.language m.after

/-- The record of that key with the snippet of a page. -/
def record (m : Rivals t root rules) (page : Text) : Record :=
  Languages.templateRecord m.before m.after (Snippet.ofText page.unifyBreaks) m.language

theorem process_template (m : Rivals t root rules) :
    process t .standard m.template.page = .ok (.records (Languages.standard.names.map
      (Languages.templateRecord m.before m.after (Snippet.ofText m.shared.unifyBreaks)))) := by
  rw [process_of_read _ (m.template.read_page (by simp [Languages.entity])),
    Languages.expand_of_split? m.split]
  rfl

theorem process_dedicated (m : Rivals t root rules) :
    process t .standard m.dedicated.page = .ok (.records [m.record m.own]) := by
  have ne : Languages.entity m.before m.language m.after ≠ [] := by simp [Languages.entity]
  rw [process_of_read _ (m.dedicated.read_page ne), Languages.expand_of_plain ne m.plain]
  rfl

theorem isLast_template (m : Rivals t root rules) :
    IsLast (Languages.standard.names.map (Languages.templateRecord m.before m.after
      (Snippet.ofText m.shared.unifyBreaks))) m.key (m.record m.shared) := by
  have own : CaseVariant m.key m.key := List.forall₂_same.2 fun _ _ => .inl rfl
  exact Table.get?_ofRecords_eq_some_iff.1
    (Languages.get?_of_caseVariant Languages.apart_standard _ m.known own)

theorem foreign_dedicated (m other : Rivals t root rules)
    (apart : foldCase other.key ≠ foldCase m.key) :
    Foreign t .standard m.key other.dedicated.page := by
  intro outcome ran r hr
  rw [other.process_dedicated] at ran
  cases ran
  obtain rfl := List.mem_singleton.1 hr
  exact apart

theorem isLast_dedicated (m : Rivals t root rules) :
    IsLast [m.record m.own] m.key (m.record m.own) :=
  ⟨[], [], rfl, rfl, by simp⟩

theorem template_lt_dedicated_iff (m : Rivals t root rules) :
    m.template.file.text < m.dedicated.file.text ↔ m.language ∈ Languages.late := by
  rw [m.template.named, m.dedicated.named]
  exact Languages.entity_mark_lt_iff m.known

theorem dedicated_lt_template (m : Rivals t root rules) (early : m.language ∉ Languages.late) :
    m.dedicated.file.text < m.template.file.text := by
  rw [← m.template_lt_dedicated_iff] at early
  have ne : m.template.file.text ≠ m.dedicated.file.text := by
    rw [m.template.named, m.dedicated.named, Ne, List.append_left_inj]
    exact Languages.entity_mark_ne m.known
  exact (List.le_iff_lt_or_eq.1 (List.not_lt.1 early)).resolve_right ne.symm

end Rivals

/-- **Which page wins.** Let a root be listed with the default extension, and let a template page
and a page dedicated to one of the standard languages be in one folder below it. If no other page
has a record of the key that the two share, the build succeeds, and in the table of its records the
key finds the snippet of the dedicated page where the file of that page comes last, that is for the
late languages, and the snippet of the template page for all others. Both pages have their record
among those of the build and neither is among its errors, so nothing tells that one of them was
replaced. -/
theorem get?_of_rivals {plan : Plan} (extension : plan.extension = Listing.defaultExtension)
    (languages : plan.languages = .standard)
    (compiled : Ignore.ofPatterns plan.patterns = .ok rules)
    (listed : Listing.pages t plan.extension plan.patterns root = .ok pages)
    (m : Rivals t root rules)
    (alone : ∀ page ∈ pages, page ≠ m.template.page → page ≠ m.dedicated.page →
      Foreign t plan.languages m.key page) :
    ∃ result, run plan t [root] = .ok result ∧
      (m.template.file.text < m.dedicated.file.text ↔ m.language ∈ Languages.late) ∧
      (m.language ∈ Languages.late →
        (Table.ofRecords result.records).get? m.key = some (m.record m.own)) ∧
      (m.language ∉ Languages.late →
        (Table.ofRecords result.records).get? m.key = some (m.record m.shared)) ∧
      (m.record m.own ∈ result.records ∧ m.record m.shared ∈ result.records) ∧
      ∀ e ∈ result.errors,
        e.filePath ≠ m.template.page.relative ∧ e.filePath ≠ m.dedicated.page.relative := by
  obtain ⟨outcomes, done⟩ := exists_forall₂ fun page (_ : page ∈ pages) =>
    process_succeeds t plan.languages page
  have one : [root].mapM (Listing.pages t plan.extension plan.patterns) = .ok [pages] :=
    mapM_eq_ok_iff.2 (.cons listed .nil)
  have built : run plan t [root] = .ok (Result.ofOutcomes outcomes) :=
    run_of_outcomes one (by rwa [List.flatten_singleton])
  rw [languages] at done alone
  rw [extension] at listed
  have roots := (pages_spec listed).1
  have template := m.template.mem_pages compiled listed
  have dedicated := m.dedicated.mem_pages compiled listed
  have ascending : pages.Pairwise fun p q => Glob.written p.path < Glob.written q.path := by
    obtain ⟨folder, others, -, -, rfl⟩ := Listing.exists_select_of_pages (by decide) listed
    exact Listing.pairwise_select_ending
  refine ⟨_, built, m.template_lt_dedicated_iff, fun late => ?_, fun early => ?_, ⟨?_, ?_⟩,
    fun e he => ⟨?_, ?_⟩⟩
  -- whichever of the two pages is listed last has the last record of the key
  · have order := (m.template.written_lt_iff m.dedicated).2 (m.template_lt_dedicated_iff.2 late)
    exact Table.get?_ofRecords_eq_some_iff.2 (isLast_of_two done ascending dedicated order
      m.process_dedicated m.isLast_dedicated fun page hp own shared => alone page hp shared own)
  · have order := (m.dedicated.written_lt_iff m.template).2 (m.dedicated_lt_template early)
    exact Table.get?_ofRecords_eq_some_iff.2 (isLast_of_two done ascending template order
      m.process_template m.isLast_template alone)
  · exact mem_records_of_process done dedicated m.process_dedicated (List.mem_singleton.2 rfl)
  · exact mem_records_of_process done template m.process_template (List.mem_map_of_mem m.known)
  · exact filePath_ne_of_records done (fun page hp => (roots page hp).1) m.process_template e he
  · exact filePath_ne_of_records done (fun page hp => (roots page hp).1) m.process_dedicated e he

/-- The text of a page about flags. -/
def flagsText (about : Text) : Text := "FLAGS\n-----\n\nFlags for ".toList ++ about ++ ".\n".toList

/-- A folder with a template page and two pages beside it, each dedicated to one language. -/
def flagsTree : Tree where
  entries := [
    ([.of "flags"], .folder),
    ([.of "flags", .of "CMAKE_C_FLAGS.rst"],
      .file (Utf8.encode (flagsText "C".toList))),
    ([.of "flags", .of "CMAKE_LANG_FLAGS.rst"],
      .file (Utf8.encode (flagsText "all".toList))),
    ([.of "flags", .of "CMAKE_Swift_FLAGS.rst"],
      .file (Utf8.encode (flagsText "Swift".toList)))]

/-- The template page and the page dedicated to C. -/
def flagsC : Rivals flagsTree (.ofText "flags".toList) [] where
  above := []
  before := "CMAKE".toList
  after := "FLAGS".toList
  language := "C".toList
  shared := flagsText "all".toList
  own := flagsText "C".toList
  known := by decide
  split := by decide
  plain := by decide
  template := ⟨.of "CMAKE_LANG_FLAGS.rst", by decide, by decide +kernel,
    Ignore.excludes_nil _⟩
  dedicated := ⟨.of "CMAKE_C_FLAGS.rst", by decide, by decide +kernel,
    Ignore.excludes_nil _⟩

/-- The template page and the page dedicated to Swift. -/
def flagsSwift : Rivals flagsTree (.ofText "flags".toList) [] :=
  { flagsC with
    language := "Swift".toList
    own := flagsText "Swift".toList
    known := by decide
    plain := by decide
    dedicated := ⟨.of "CMAKE_Swift_FLAGS.rst", by decide, by decide +kernel,
      Ignore.excludes_nil _⟩ }

/-- A build of that folder. -/
def flagsPlan : Plan := ⟨".rst".toList, [], 1, .standard, by decide, by decide⟩

/-- For C the page dedicated to it is lost, for Swift its own page is found. -/
theorem get?_of_rivals_flags :
    Listing.pages flagsTree ".rst".toList [] (.ofText "flags".toList) =
        .ok [flagsC.dedicated.page, flagsC.template.page, flagsSwift.dedicated.page] ∧
    ∃ result, run flagsPlan flagsTree [.ofText "flags".toList] = .ok result ∧
      (Table.ofRecords result.records).lookup "CMAKE_C_FLAGS".toList false =
        some "Flags for all.".toList ∧
      (Table.ofRecords result.records).lookup "CMAKE_Swift_FLAGS".toList false =
        some "Flags for Swift.".toList := by
  have listed : Listing.pages flagsTree ".rst".toList [] (.ofText "flags".toList) =
      .ok [flagsC.dedicated.page, flagsC.template.page, flagsSwift.dedicated.page] := by
    decide +kernel
  have apart : foldCase flagsC.key ≠ foldCase flagsSwift.key := by decide +kernel
  have aloneC : ∀ page ∈ [flagsC.dedicated.page, flagsC.template.page, flagsSwift.dedicated.page],
      page ≠ flagsC.template.page → page ≠ flagsC.dedicated.page →
      Foreign flagsTree flagsPlan.languages flagsC.key page := by
    simp only [List.forall_mem_cons]
    exact ⟨fun _ own => absurd rfl own, fun other => absurd rfl other,
      fun _ _ => flagsC.foreign_dedicated flagsSwift apart.symm, by simp⟩
  have aloneSwift : ∀ page ∈ [flagsC.dedicated.page, flagsC.template.page,
      flagsSwift.dedicated.page], page ≠ flagsSwift.template.page →
      page ≠ flagsSwift.dedicated.page →
      Foreign flagsTree flagsPlan.languages flagsSwift.key page := by
    simp only [List.forall_mem_cons]
    exact ⟨fun _ _ => flagsSwift.foreign_dedicated flagsC apart, fun other => absurd rfl other,
      fun _ own => absurd rfl own, by simp⟩
  obtain ⟨result, built, -, -, early, -⟩ := get?_of_rivals rfl rfl rfl listed flagsC aloneC
  obtain ⟨_, again, -, late, -⟩ := get?_of_rivals rfl rfl rfl listed flagsSwift aloneSwift
  rw [built] at again
  cases again
  refine ⟨listed, result, built, ?_, ?_⟩
  · rw [Table.lookup, show "CMAKE_C_FLAGS".toList = flagsC.key from rfl, early (by decide)]
    rfl
  · rw [Table.lookup, show "CMAKE_Swift_FLAGS".toList = flagsSwift.key from rfl, late (by decide)]
    rfl

end Build

end DocSnippets
