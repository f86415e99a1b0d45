import DocSnippets.Proofs.Page.Listing

/-!
# DocSnippets.Proofs.Page.BaseName

**Base names and extensions.** Pages are listed by what their names end with, and a base name is
what stands before the last full stop of a name. The two agree where the extension has no full stop
but the one it begins with. Where it has another one, what is taken off is only what follows its
last full stop, or nothing if nothing follows; the base name then holds a full stop, and so is no
template name.

The stems of names with an extension are worked out first, and which names share one
(`stem_append_inj`); `Build.baseName_of_listed` then says what that means for the pages of a
listing.
-/

namespace DocSnippets

/-! ### Names with an extension -/

variable {name other rest : Text}

theorem stem_append_of_notMem (ne : name ≠ []) (more : rest ≠ []) (one : '.' ∉ rest) :
    stem (name ++ '.' :: rest) = name := by
  rw [stem, lastDot?_append _ one]
  simp [ne, more]

theorem stem_extension (one : '.' ∉ rest) : stem ('.' :: rest) = '.' :: rest := by
  have whole := lastDot?_append [] one
  rw [List.nil_append] at whole
  rw [stem, whole]
  simp

/-- Where the extension has another full stop, only what follows the last one is taken off; nothing
is where nothing follows. -/
theorem stem_append_of_mem {first last : Text} (parts : rest = first ++ '.' :: last)
    (free : '.' ∉ last) (name : Text) :
    stem (name ++ '.' :: rest) = name ++ if last = [] then '.' :: rest else '.' :: first := by
  have whole : name ++ '.' :: rest = (name ++ '.' :: first) ++ '.' :: last := by simp [parts]
  rw [stem, whole, lastDot?_append _ free]
  by_cases bare : last = []
  · simp [parts, bare]
  · simp [bare]

theorem dot_mem_stem (more : '.' ∈ rest) (name : Text) : '.' ∈ stem (name ++ '.' :: rest) := by
  obtain ⟨first, last, parts, free⟩ := exists_lastDot more
  rw [stem_append_of_mem parts free name]
  split <;> simp

theorem stem_append_eq_iff (ne : name ≠ []) (more : rest ≠ []) :
    stem (name ++ '.' :: rest) = name ↔ '.' ∉ rest := by
  refine ⟨fun same dotted => ?_, stem_append_of_notMem ne more⟩
  obtain ⟨first, last, parts, free⟩ := exists_lastDot dotted
  rw [stem_append_of_mem parts free name, List.append_right_eq_self] at same
  split at same <;> cases same

/-- Two names with the same extension share a base name when they are the same, or when one is the
extension, which has one full stop, and the other one is that twice. -/
theorem stem_append_inj (more : rest ≠ []) :
    stem (name ++ '.' :: rest) = stem (other ++ '.' :: rest) ↔
      name = other ∨ '.' ∉ rest ∧
        (name = [] ∧ other = '.' :: rest ∨ name = '.' :: rest ∧ other = []) := by
  by_cases one : '.' ∉ rest
  · by_cases short : name = []
    · by_cases shortToo : other = []
      · simp [short, shortToo]
      · rw [short, List.nil_append, stem_extension one, stem_append_of_notMem shortToo more one]
        simp [one, shortToo, eq_comm]
    · by_cases shortToo : other = []
      · rw [shortToo, List.nil_append, stem_extension one, stem_append_of_notMem short more one]
        simp [one, short]
      · rw [stem_append_of_notMem short more one, stem_append_of_notMem shortToo more one]
        simp [short, shortToo]
  · obtain ⟨first, last, parts, free⟩ := exists_lastDot (not_not.1 one)
    rw [stem_append_of_mem parts free name, stem_append_of_mem parts free other,
      List.append_left_inj]
    simp [one]

theorem Template.split?_of_dot_mem {t : Text} (h : '.' ∈ t) : split? t = none := by
  have other : t.all isNameChar = false :=
    List.all_eq_false.2 ⟨'.', h, by decide⟩
  rw [split?, other]
  rfl

/-! ### Pages -/

theorem Source.baseName_of_read {t : Tree} {p : Path} {source : Source}
    (h : Source.read t p = .ok source) : source.baseName = stem p.lastName := by
  obtain ⟨text, -, rfl⟩ := read_eq_ok_iff.1 h
  rfl

theorem Source.exists_read_iff {t : Tree} {p : Path} :
    (∃ source, Source.read t p = .ok source) ↔ ∃ raw, t.read p = .ok (Utf8.encode raw) := by
  constructor
  · intro known
    obtain ⟨source, read⟩ := known
    obtain ⟨text, done, -⟩ := read_eq_ok_iff.1 read
    obtain ⟨bytes, raw, file, decoded, -⟩ := readText_eq_ok_iff.1 done
    obtain rfl := Utf8.decode_eq_ok_iff.1 decoded
    exact ⟨raw, file⟩
  · intro known
    obtain ⟨raw, file⟩ := known
    exact ⟨_, read_eq_ok_iff.2
      ⟨_, readText_eq_ok_iff.2 ⟨_, raw, file, Utf8.decode_eq_ok_iff.2 rfl, rfl⟩, rfl⟩⟩

namespace Listing

variable {t : Tree} {root : Path} {extension : Text} {patterns : List Text} {pages : List Page}

theorem exists_name_of_mem (plain : Plain extension)
    (listed : Listing.pages t extension patterns root = .ok pages) {page : Page}
    (h : page ∈ pages) :
    ∃ above name start, page = ⟨root, .ofLocation (above ++ [name])⟩ ∧
      name.text = start ++ extension := by
  obtain ⟨folder, rules, -, -, rfl⟩ := exists_select_of_pages plain listed
  cases belongs_of_mem_select h with
  | @file above name content there seen fits kept =>
    obtain ⟨start, parts⟩ := fits
    exact ⟨above, name, start, rfl, parts.symm⟩

theorem lastName_path (root : Path) (above : Location) (name : Name) :
    (Page.mk root (.ofLocation (above ++ [name]))).path.lastName = name.text := by
  simp [Page.path, Path.append, Path.ofLocation, Path.lastName, Step.text]

theorem parent_place (above : Location) (name : Name) :
    (Path.ofLocation (above ++ [name])).parent = .ofLocation above := by
  simp [Path.parent, Path.ofLocation]

/-- Pages in one folder are the same when their names are. -/
theorem eq_of_lastName {above otherAbove : Location} {name other : Name}
    (folder : (Path.ofLocation (above ++ [name])).parent =
      (Path.ofLocation (otherAbove ++ [other])).parent) :
    Page.mk root (.ofLocation (above ++ [name])) = ⟨root, .ofLocation (otherAbove ++ [other])⟩ ↔
      name.text = other.text := by
  rw [parent_place, parent_place] at folder
  have steps := congrArg Path.steps folder
  simp only [Path.ofLocation] at steps ⊢
  constructor
  · intro same
    have steps' := congrArg (fun page => page.place.steps) same
    simp only [List.map_append, steps, List.append_cancel_left_eq] at steps'
    obtain rfl : name = other := by simpa using steps'
    rfl
  · intro same
    rw [List.map_append, List.map_append, steps, Name.text_injective same]

/-- A base name and the extension are the whole of a longer name exactly where the extension has one
full stop. -/
theorem baseName_append_eq_iff {rest : Text} (more : rest ≠ []) (plain : Plain ('.' :: rest))
    (listed : Listing.pages t ('.' :: rest) patterns root = .ok pages) {page : Page}
    (h : page ∈ pages) {source : Source} (read : Source.read t page.path = .ok source)
    (longer : ('.' :: rest).length < page.path.lastName.length) :
    source.baseName ++ '.' :: rest = page.path.lastName ↔ '.' ∉ rest := by
  obtain ⟨above, name, start, rfl, parts⟩ := exists_name_of_mem plain listed h
  rw [Source.baseName_of_read read, lastName_path, parts, List.append_left_inj]
  rw [lastName_path, parts, List.length_append] at longer
  have ne : start ≠ [] := by
    rintro rfl
    simp at longer
  exact stem_append_eq_iff ne more

/-- Two pages of one folder share a base name when they are the same, or when one is named like the
extension, which has one full stop, and the other one like that twice. -/
theorem baseName_eq_iff {rest : Text} (more : rest ≠ []) (plain : Plain ('.' :: rest))
    (listed : Listing.pages t ('.' :: rest) patterns root = .ok pages) {page other : Page}
    (h : page ∈ pages) (g : other ∈ pages) (folder : page.place.parent = other.place.parent)
    {source twin : Source} (read : Source.read t page.path = .ok source)
    (readToo : Source.read t other.path = .ok twin) :
    source.baseName = twin.baseName ↔
      page = other ∨ '.' ∉ rest ∧
        (page.path.lastName = '.' :: rest ∧ other.path.lastName = '.' :: rest ++ '.' :: rest ∨
          page.path.lastName = '.' :: rest ++ '.' :: rest ∧ other.path.lastName = '.' :: rest) := by
  obtain ⟨above, name, start, rfl, parts⟩ := exists_name_of_mem plain listed h
  obtain ⟨otherAbove, otherName, otherStart, rfl, otherParts⟩ := exists_name_of_mem plain listed g
  rw [Source.baseName_of_read read, Source.baseName_of_read readToo, eq_of_lastName folder,
    lastName_path, lastName_path, parts, otherParts, stem_append_inj more]
  have own (n : Text) : n ++ '.' :: rest = '.' :: rest ↔ n = [] := List.append_left_eq_self
  simp only [own, List.append_left_inj]

end Listing

namespace Build

variable {t : Tree} {root : Path} {rest : Text} {patterns : List Text} {pages : List Page}

theorem process_of_read {page : Page} {source : Source} (languages : Languages)
    (h : Source.read t page.path = .ok source) :
    process t languages page =
      (languages.expand source.baseName (Snippet.ofText source.text)).map Outcome.records := by
  rw [process, h]

theorem process_template {page : Page} {source : Source} {name before after : Text}
    (languages : Languages) (more : rest ≠ []) (one : '.' ∉ rest)
    (named : page.path.lastName = name ++ '.' :: rest)
    (split : Template.split? name = some (before, after))
    (read : Source.read t page.path = .ok source) :
    process t languages page = .ok (.records (languages.names.map
      (Languages.templateRecord before after (Snippet.ofText source.text)))) := by
  have ne : name ≠ [] := by
    rintro rfl
    cases split
  have base : source.baseName = name := by
    rw [Source.baseName_of_read read, named, stem_append_of_notMem ne more one]
  rw [process_of_read languages read, base, Languages.expand_of_split? split]
  rfl

/-- With any other extension no name is expanded: the page gives one record, keyed by its base
name. -/
theorem process_dotted {page : Page} {source : Source} {name : Text} (languages : Languages)
    (dotted : '.' ∈ rest) (named : page.path.lastName = name ++ '.' :: rest)
    (read : Source.read t page.path = .ok source) :
    Template.split? source.baseName = none ∧
      ∃ r, process t languages page = .ok (.records [r]) ∧ r.key = source.baseName ∧
        ⟨r.synopsis, r.usage⟩ = Snippet.ofText source.text := by
  have dot : '.' ∈ source.baseName := by
    rw [Source.baseName_of_read read, named]
    exact dot_mem_stem dotted name
  have plain := Template.split?_of_dot_mem dot
  have ne : source.baseName ≠ [] := List.ne_nil_of_mem dot
  let s := Snippet.ofText source.text
  refine ⟨plain, ⟨source.baseName, s.synopsis, s.usage, ne⟩, ?_, rfl, rfl⟩
  rw [process_of_read languages read, Languages.expand_of_plain ne plain]
  rfl

/-- **Base names and extensions.** Let the extension be a full stop and more, and no pattern of its
own, and let the pages be listed for it. Each page listed is a file, and is read where that may be
opened and its bytes are UTF-8.
The base name of a page whose name is longer than the extension, followed by the extension, is the
name, exactly where the extension has one full stop only. Two pages of one folder share a base name
only if they are the same, or one is named like such an extension and the other one like that
twice. A page with a template name before the extension is expanded for every language where the
extension has one full stop; where it has more, the page gives one record under its base name,
which is no template name. -/
theorem baseName_of_listed (languages : Languages) (more : rest ≠ [])
    (plain : Listing.Plain ('.' :: rest))
    (listed : Listing.pages t ('.' :: rest) patterns root = .ok pages) :
    (∀ page ∈ pages, t.isFile page.path = true ∧
      ((∃ source, Source.read t page.path = .ok source) ↔
        ∃ raw, t.read page.path = .ok (Utf8.encode raw))) ∧
    (∀ page ∈ pages, ∀ source, Source.read t page.path = .ok source →
      ('.' :: rest).length < page.path.lastName.length →
        (source.baseName ++ '.' :: rest = page.path.lastName ↔ '.' ∉ rest)) ∧
    (∀ page ∈ pages, ∀ other ∈ pages, page.place.parent = other.place.parent →
      ∀ source twin, Source.read t page.path = .ok source → Source.read t other.path = .ok twin →
        (source.baseName = twin.baseName ↔
          page = other ∨ '.' ∉ rest ∧
            (page.path.lastName = '.' :: rest ∧
                other.path.lastName = '.' :: rest ++ '.' :: rest ∨
              page.path.lastName = '.' :: rest ++ '.' :: rest ∧
                other.path.lastName = '.' :: rest))) ∧
    ∀ page ∈ pages, ∀ name before after, page.path.lastName = name ++ '.' :: rest →
      Template.split? name = some (before, after) →
      ∀ source, Source.read t page.path = .ok source →
        ('.' ∉ rest → process t languages page = .ok (.records (languages.names.map
          (Languages.templateRecord before after (Snippet.ofText source.text))))) ∧
        ('.' ∈ rest → Template.split? source.baseName = none ∧
          ∃ r, process t languages page = .ok (.records [r]) ∧ r.key = source.baseName ∧
            ⟨r.synopsis, r.usage⟩ = Snippet.ofText source.text) := by
  refine ⟨fun page h => ?_, fun page h source read longer => ?_,
    fun page h other g folder source twin read readToo => ?_,
    fun page _ name before after named split source read => ⟨fun one => ?_, fun dotted => ?_⟩⟩
  · exact ⟨((pages_spec listed).1 page h).2, Source.exists_read_iff⟩
  · exact Listing.baseName_append_eq_iff more plain listed h read longer
  · exact Listing.baseName_eq_iff more plain listed h g folder read readToo
  · exact process_template languages more one named split read
  · exact process_dotted languages dotted named read

def stackName : Name := .of "stack"

/-- A folder with a page named like the extension, one named like that twice, and a template. -/
def stackTree : Tree where
  entries := [
    ([stackName], .folder),
    ([stackName, .of ".txt"], .file []),
    ([stackName, .of ".txt.txt"], .file []),
    ([stackName, .of "A_LANG_B.txt"], .file [])]

/-- A page of that folder. -/
def stackPage (name : Text) : Page := ⟨.ofText "stack".toList, .ofText name⟩

/-- Two of its pages share a base name, and the template is expanded. -/
theorem baseName_of_listed_stackTree :
    "txt".toList ≠ [] ∧ Listing.Plain ".txt".toList ∧
    Listing.pages stackTree ".txt".toList [] (.ofText "stack".toList) =
      .ok [stackPage ".txt".toList, stackPage ".txt.txt".toList,
        stackPage "A_LANG_B.txt".toList] ∧
    ∃ extended twice template,
      Source.read stackTree (stackPage ".txt".toList).path = .ok extended ∧
      Source.read stackTree (stackPage ".txt.txt".toList).path = .ok twice ∧
      Source.read stackTree (stackPage "A_LANG_B.txt".toList).path = .ok template ∧
      extended.baseName = twice.baseName ∧
      template.baseName ++ ".txt".toList = "A_LANG_B.txt".toList ∧
      process stackTree .standard (stackPage "A_LANG_B.txt".toList) =
        .ok (.records (Languages.standard.names.map
          (Languages.templateRecord ['A'] ['B'] (Snippet.ofText template.text)))) := by
  have more : "txt".toList ≠ [] := by decide
  have plain : Listing.Plain ".txt".toList := by decide
  have listed : Listing.pages stackTree ".txt".toList [] (.ofText "stack".toList) =
      .ok [stackPage ".txt".toList, stackPage ".txt.txt".toList,
        stackPage "A_LANG_B.txt".toList] := by decide +kernel
  obtain ⟨reads, names, shared, expanded⟩ := baseName_of_listed .standard more plain listed
  have read {page : Page} (h : page ∈ [stackPage ".txt".toList, stackPage ".txt.txt".toList,
      stackPage "A_LANG_B.txt".toList]) (empty : stackTree.read page.path = .ok (Utf8.encode [])) :
      ∃ source, Source.read stackTree page.path = .ok source :=
    (reads page h).2.2 ⟨[], empty⟩
  obtain ⟨extended, first⟩ := read (by simp) (by decide +kernel : stackTree.read
    (stackPage ".txt".toList).path = _)
  obtain ⟨twice, second⟩ := read (by simp) (by decide +kernel : stackTree.read
    (stackPage ".txt.txt".toList).path = _)
  obtain ⟨template, third⟩ := read (by simp) (by decide +kernel : stackTree.read
    (stackPage "A_LANG_B.txt".toList).path = _)
  refine ⟨more, plain, listed, extended, twice, template, first, second, third, ?_, ?_, ?_⟩
  · refine (shared _ (by simp) _ (by simp) (by decide +kernel) _ _ first second).2 ?_
    exact .inr ⟨by decide, .inl ⟨by decide +kernel, by decide +kernel⟩⟩
  · exact (names _ (by simp) _ third (by decide +kernel)).2 (by decide)
  · exact (expanded _ (by simp) "A_LANG_B".toList _ _ (by decide +kernel) (by decide) _ third).1
      (by decide)

/-- A folder with a template page whose extension has two full stops. -/
def dottedTree : Tree where
  entries := [
    ([.of "src"], .folder),
    ([.of "src", .of "CMAKE_LANG_X.rst.txt"],
      .file (Utf8.encode "X\n\nAbout the language.\n".toList))]

/-- Its base name with the extension is not its name, and it is not expanded: it gives one record,
keyed by what it would be the template for and half of the extension. -/
theorem dottedExtension_kept :
    let page : Page := ⟨.ofText "src".toList, .ofText "CMAKE_LANG_X.rst.txt".toList⟩
    Listing.Plain ".rst.txt".toList ∧
    Listing.pages dottedTree ".rst.txt".toList [] (.ofText "src".toList) = .ok [page] ∧
    Template.split? "CMAKE_LANG_X".toList = some ("CMAKE".toList, "X".toList) ∧
    ∃ source, Source.read dottedTree page.path = .ok source ∧
      source.baseName ++ ".rst.txt".toList ≠ page.path.lastName ∧
      ∃ r, process dottedTree .standard page = .ok (.records [r]) ∧
        r.key = "CMAKE_LANG_X.rst".toList := by
  intro page
  have read : Source.read dottedTree page.path =
      .ok ⟨page.path, "CMAKE_LANG_X.rst".toList, "X\n\nAbout the language.\n".toList⟩ := by
    decide +kernel
  have dotted : '.' ∈ "rst.txt".toList := by decide
  have named : page.path.lastName = "CMAKE_LANG_X".toList ++ '.' :: "rst.txt".toList := by
    decide +kernel
  obtain ⟨-, r, done, key, -⟩ := process_dotted .standard dotted named read
  exact ⟨by decide, by decide +kernel, by decide, _, read, by decide +kernel, r, done, key⟩

end Build

end DocSnippets
