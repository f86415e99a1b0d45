import DocSnippets.Proofs.Build.Roots
import DocSnippets.Proofs.Files.Below

/-!
# DocSnippets.Proofs.Page.Listing

**The pages listed below a root.** Where the extension is no pattern of its own, the pages are the
files at any depth below the root whose name ends with it and that no rule excludes, in the order
of their paths. The search walks all folders below the root, as far as it may, and whatever it finds
with the extension is looked at afterwards. So what can go wrong once the root, the patterns and the
extension are accepted is a path among these that is too long or may not be gone, or folders that
lie too deep; nothing else can.

* `Glob.ending`, `patternFor_plain` — the pattern that a plain extension makes;
* `Glob.mem_files_ending`, `Glob.pairwise_files_ending` — which files it finds, and in which order;
* `Obstacle`, `obstacle_of_fault?`, `not_obstacle_of_fault?` — what can go wrong on the way;
* `Belongs`, `mem_select_ending` — which pages are listed;
* `pages_listed` — a listing is complete, exact and in order, or there is an obstacle.
-/

namespace DocSnippets

namespace Glob

/-! ### The pattern for an ending -/

/-- The pattern for the files at any depth whose name ends with the given characters. -/
def ending (extension : Text) : Glob :=
  ⟨[.folders, .name (.star :: extension.map fun c => .one (.single c))], [], false⟩

/-- Folders and then one name match a name below any folders. -/
theorem matchNames_folders_name {folder : Bool} {ps : List Piece} {names : List Text} :
    matchNames folder [.folders, .name ps] names = true ↔
      ∃ above name, names = above ++ [name] ∧ matchPieces ps name = true := by
  rw [matchNames, anyRest_iff]
  constructor
  · intro known
    obtain ⟨above, rest, rfl, h⟩ := known
    cases rest with
    | nil => simp [matchNames] at h
    | cons name more =>
      simp only [matchNames, Bool.and_eq_true, List.isEmpty_iff] at h
      obtain ⟨matched, rfl⟩ := h
      exact ⟨above, name, rfl, matched⟩
  · intro known
    obtain ⟨above, name, rfl, matched⟩ := known
    exact ⟨above, [name], rfl, by simp [matchNames, matched]⟩

/-- The name at a location ends with the given characters, at whatever depth it is. -/
theorem matchNames_ending {folder : Bool} {extension : Text} {l : Location} :
    matchNames folder (ending extension).first l.texts = true ↔
      ∃ above name, l = above ++ [name] ∧ extension <:+ name.text := by
  rw [ending, matchNames_folders_name]
  simp only [matchPieces_star_literal]
  constructor
  · intro known
    obtain ⟨above, name, parts, fits⟩ := known
    obtain ⟨before, last, rfl, -, single⟩ := List.map_eq_append_iff.1 parts
    obtain ⟨n, rfl, rfl⟩ := List.map_eq_singleton_iff.1 single
    exact ⟨before, n, rfl, fits⟩
  · intro known
    obtain ⟨above, name, rfl, fits⟩ := known
    exact ⟨Location.texts above, name.text, Location.texts_append above [name], fits⟩

theorem mem_matching_ending {extension : Text} {t : Tree} {goal : Goal} {folder l : Location} :
    l ∈ matching t goal folder (ending extension).first ↔
      l ∈ goal.below t folder ∧ ∃ above name, l = above ++ [name] ∧ extension <:+ name.text := by
  have listed : asksLast (ending extension).first = false := rfl
  rw [matching, List.mem_filter, listed, Bool.not_false, Bool.true_or, Bool.and_true,
    matchNames_ending]

/-- The files that the pattern finds. -/
theorem mem_files_ending {extension : Text} {t : Tree} {folder : Location} {way : Path} :
    way ∈ (ending extension).files t folder ↔
      ∃ above name content, way = .ofLocation (above ++ [name]) ∧
        t.get? (folder ++ (above ++ [name])) = some (.file content) ∧
        t.sees folder (above ++ [name]) = true ∧ extension <:+ name.text := by
  have files : (ending extension).foldersOnly = false := rfl
  rw [mem_files_of_later_eq_nil rfl, and_iff_right files]
  simp only [mem_matching_ending, Goal.below, Tree.mem_filesBelow_iff]
  constructor
  · intro known
    obtain ⟨_, ⟨⟨⟨content, there⟩, seen⟩, above, name, rfl, fits⟩, rfl⟩ := known
    exact ⟨above, name, content, rfl, there, seen, fits⟩
  · intro known
    obtain ⟨above, name, content, rfl, there, seen, fits⟩ := known
    exact ⟨_, ⟨⟨⟨content, there⟩, seen⟩, above, name, rfl, fits⟩, rfl⟩

/-- What is looked at after the search: whatever has the ending, be it a file or a folder. -/
theorem mem_found_ending {extension : Text} {t : Tree} {folder : Location}
    (here : t.get? folder = some .folder) {way : Path} :
    way ∈ (ending extension).found t folder ↔
      ∃ above name e, way = .ofLocation (above ++ [name]) ∧
        t.get? (folder ++ (above ++ [name])) = some e ∧
        t.sees folder (above ++ [name]) = true ∧ extension <:+ name.text := by
  have files : (ending extension).foldersOnly = false := rfl
  have single : (ending extension).later = [] := rfl
  rw [found, mem_inOrder, files, single, if_neg Bool.false_ne_true, List.mem_append, mem_ways_nil,
    mem_ways_nil]
  simp only [mem_matching_ending, Goal.below, Tree.mem_filesBelow_iff,
    Tree.mem_foldersBelow_iff here]
  constructor
  · intro known
    rcases known with ⟨_, ⟨⟨there, seen⟩, above, name, rfl, fits⟩, rfl⟩ |
      ⟨_, ⟨⟨⟨content, there⟩, seen⟩, above, name, rfl, fits⟩, rfl⟩
    · exact ⟨above, name, _, rfl, there, seen, fits⟩
    · exact ⟨above, name, _, rfl, there, seen, fits⟩
  · intro known
    obtain ⟨above, name, e, rfl, there, seen, fits⟩ := known
    cases e with
    | folder => exact .inl ⟨_, ⟨⟨there, seen⟩, above, name, rfl, fits⟩, rfl⟩
    | file content => exact .inr ⟨_, ⟨⟨⟨content, there⟩, seen⟩, above, name, rfl, fits⟩, rfl⟩

/-- The search itself looks at every folder that it sees. -/
theorem mem_searched_ending {extension : Text} {t : Tree} {folder : Location}
    (here : t.get? folder = some .folder) {way : Path} {asked : List Step} :
    (way, asked) ∈ (ending extension).searched t folder ↔
      asked = [] ∧ ∃ l, way = .ofLocation l ∧ t.get? (folder ++ l) = some .folder ∧
        t.sees folder l = true := by
  -- the starts of the pattern are nothing, the folders, and the whole pattern
  have starts : starts (ending extension).first (ending extension).later =
      [([], [], []), ([.folders], [], []), ((ending extension).first, [], [])] := rfl
  rw [searched, starts]
  simp only [List.flatMap_cons, List.flatMap_nil, List.append_nil, List.mem_append, List.mem_map,
    Prod.mk.injEq, mem_ways_nil, matching, Goal.below, List.mem_filter,
    Tree.mem_foldersBelow_iff here]
  constructor
  · intro known
    rcases known with ⟨_, ⟨l, ⟨⟨there, seen⟩, -⟩, rfl⟩, rfl, rfl⟩ |
      ⟨_, ⟨l, ⟨⟨there, seen⟩, -⟩, rfl⟩, rfl, rfl⟩ | ⟨_, ⟨l, ⟨⟨there, seen⟩, -⟩, rfl⟩, rfl, rfl⟩
    · exact ⟨rfl, l, rfl, there, seen⟩
    · exact ⟨rfl, l, rfl, there, seen⟩
    · exact ⟨rfl, l, rfl, there, seen⟩
  · intro known
    obtain ⟨rfl, l, rfl, there, seen⟩ := known
    refine .inr (.inl ⟨_, ⟨l, ⟨⟨there, seen⟩, ?_⟩, rfl⟩, rfl, rfl⟩)
    simp [matchNames, asksLast]

theorem inOrder_of_pairwise {paths : List Path}
    (h : paths.Pairwise fun p q => written p < written q) : inOrder paths = paths := by
  induction paths with
  | nil => rfl
  | cons way rest ih =>
    obtain ⟨first, tail⟩ := List.pairwise_cons.1 h
    rw [inOrder, List.foldr_cons, ← inOrder, ih tail]
    cases rest with
    | nil => rfl
    | cons other rest =>
      rw [insertWay, if_neg]
      exact fun before => List.lt_irrefl _ (List.lt_trans before (first other List.mem_cons_self))

theorem written_ofLocation (l : Location) : written (.ofLocation l) = l.texts := by
  rw [written, Path.ofLocation, List.map_map]
  rfl

theorem pairwise_files_ending (extension : Text) (t : Tree) (folder : Location) :
    ((ending extension).files t folder).Pairwise fun p q => written p < written q := by
  have found : (ways t .file folder (ending extension).first []).Pairwise
      fun p q => written p < written q := by
    rw [ways, List.pairwise_map]
    refine (List.Pairwise.filter _ (t.pairwise_filesBelow folder)).imp fun before => ?_
    rw [written_ofLocation, written_ofLocation]
    exact before
  -- what is found is in order already, so putting it in order changes nothing
  have files : (ending extension).files t folder =
      inOrder (ways t .file folder (ending extension).first []) := rfl
  rw [files, inOrder_of_pairwise found]
  exact found

end Glob

namespace Listing

/-! ### Extensions -/

/-- An extension that is no pattern of its own. -/
structure Plain (extension : Text) : Prop where
  ne_nil : extension ≠ []
  no_star : '*' ∉ extension
  no_wild : '?' ∉ extension
  no_set : '[' ∉ extension
  no_slash : '/' ∉ extension

instance (extension : Text) : Decidable (Plain extension) :=
  decidable_of_iff (extension ≠ [] ∧ '*' ∉ extension ∧ '?' ∉ extension ∧ '[' ∉ extension ∧
      '/' ∉ extension)
    ⟨fun ⟨ne, star, wild, set, slash⟩ => ⟨ne, star, wild, set, slash⟩,
      fun plain => ⟨plain.ne_nil, plain.no_star, plain.no_wild, plain.no_set, plain.no_slash⟩⟩

/-- A star and a plain extension are one segment, for names with that ending. -/
theorem segment_plain {extension : Text} (plain : Plain extension) :
    Glob.segment ('*' :: extension) =
      .ok (.name (.star :: extension.map fun c => .one (.single c))) := by
  -- the only star is the first character, so it makes neither a double star nor a second piece
  have star := plain.no_star
  have alone : ('*' :: extension : Text) ≠ ['*', '*'] := by
    intro same
    obtain ⟨-, rfl⟩ := List.cons.inj same
    exact star (by simp)
  have single : Text.holds ('*' :: extension) ['*', '*'] = false := by
    rw [← Bool.not_eq_true, Text.holds_iff, List.infix_cons_iff]
    intro known
    rcases known with ⟨rest, same⟩ | inside
    · obtain ⟨-, rfl⟩ := List.cons.inj same
      exact star (by simp)
    · exact star (inside.subset (by simp))
  have wild : ¬ (('*' :: extension : Text).any Glob.isWildcard = false ∧
      isProperName ('*' :: extension) = true) := by
    simp [Glob.isWildcard]
  have pieces : Glob.pieces ('*' :: extension) =
      .star :: extension.map fun c => .one (.single c) := by
    have literal : ∀ c ∈ extension, c ≠ '*' ∧ c ≠ '?' ∧ c ≠ '[' := fun c hc =>
      ⟨fun same => star (same ▸ hc), fun same => plain.no_wild (same ▸ hc),
        fun same => plain.no_set (same ▸ hc)⟩
    rw [Glob.pieces, Glob.pieces_literal literal]
  rw [Glob.segment, if_neg alone, single, if_neg Bool.false_ne_true, dif_neg wild, pieces]

/-- A plain extension makes the pattern for the names with that ending. -/
theorem patternFor_plain {extension : Text} (plain : Plain extension) :
    patternFor extension = .ok (Glob.ending extension) := by
  have noSlash : '/' ∉ ('*' :: extension : Text) := by
    intro h
    rcases List.mem_cons.1 h with eq | h
    · exact absurd eq (by decide)
    · exact plain.no_slash h
  have one : Text.split '/' ('*' :: extension) = ['*' :: extension] :=
    Text.split_of_notMem noSlash
  have last : ('*' :: extension : Text).getLast? ≠ some '/' := fun h =>
    noSlash (List.mem_of_getLast? h)
  have blocks : Glob.blocks ['*' :: extension] =
      .ok ([.name (.star :: extension.map fun c => .one (.single c))], []) := by
    simp [Glob.blocks, segment_plain plain, bind, Except.bind, pure, Except.pure]
  simp [patternFor, Glob.ofText, one, blocks, last, Glob.ending, bind, Except.bind, pure,
    Except.pure]

/-! ### What can go wrong -/

/-- Why a look at something below a root gives no answer, where files with an extension are searched
for. -/
inductive Obstacle (t : Tree) (root : Path) (folder : Location) (extension : Text) :
    Tree.PathFault → Prop
  /-- A folder that the search sees is too deep below the root. -/
  | deep {l : Location} (there : t.get? (folder ++ l) = some .folder)
      (seen : t.sees folder l = true) (deep : maxNested < l.length) :
      Obstacle t root folder extension ⟨.tooDeep, root.append (.ofLocation l)⟩
  /-- The path of such a folder is too long. -/
  | longFolder {l : Location} (there : t.get? (folder ++ l) = some .folder)
      (seen : t.sees folder l = true)
      (long : t.resolve (root.append (.ofLocation l)) = .error .tooLong) :
      Obstacle t root folder extension ⟨.tooLong, root.append (.ofLocation l)⟩
  /-- So is the path of something with the extension. -/
  | long {above : Location} {name : Name} {e : Entry}
      (there : t.get? (folder ++ (above ++ [name])) = some e)
      (seen : t.sees folder (above ++ [name]) = true) (fits : extension <:+ name.text)
      (long : t.resolve (root.append (.ofLocation (above ++ [name]))) = .error .tooLong) :
      Obstacle t root folder extension ⟨.tooLong, root.append (.ofLocation (above ++ [name]))⟩
  /-- Something with the extension is in a folder that may be listed and not entered. -/
  | denied {above : Location} {name : Name} {e : Entry}
      (there : t.get? (folder ++ (above ++ [name])) = some e)
      (seen : t.sees folder (above ++ [name]) = true) (fits : extension <:+ name.text)
      (denied : t.resolve (root.append (.ofLocation (above ++ [name]))) = .error .denied) :
      Obstacle t root folder extension ⟨.denied, root.append (.ofLocation (above ++ [name]))⟩

variable {t : Tree} {root : Path} {folder : Location} {extension : Text}
  {rules : List Ignore.Rule}

theorem append_nil (p : Path) : p.append ⟨[], .workingFolder⟩ = p := by simp [Path.append]

/-- A fault on the way is one of these obstacles. -/
theorem obstacle_of_fault? (here : t.get? folder = some .folder) {f : Tree.PathFault}
    (h : fault? t root folder (Glob.ending extension) = some f) :
    Obstacle t root folder extension f := by
  rcases Option.or_eq_some_iff.1 h with search | ⟨-, look⟩
  · obtain ⟨⟨way, asked⟩, searched, at_way⟩ := List.exists_of_findSome?_eq_some search
    obtain ⟨rfl, l, rfl, there, seen⟩ := (Glob.mem_searched_ending here).1 searched
    simp only [searchFault?, append_nil] at at_way
    split at at_way
    · rename_i deep
      cases at_way
      rw [Path.nesting_ofLocation] at deep
      exact .deep there seen deep
    · obtain ⟨blocked, long⟩ := Option.filter_eq_some_iff.1 at_way
      rcases Tree.blocked?_eq_some blocked with ⟨rfl, -⟩ | ⟨rfl, tooLong⟩
      · cases long
      · exact .longFolder there seen tooLong
  · obtain ⟨way, found, blocked⟩ := List.exists_of_findSome?_eq_some look
    obtain ⟨above, name, e, rfl, there, seen, fits⟩ := (Glob.mem_found_ending here).1 found
    rcases Tree.blocked?_eq_some blocked with ⟨rfl, denied⟩ | ⟨rfl, tooLong⟩
    · exact .denied there seen fits denied
    · exact .long there seen fits tooLong

/-- Where there is no fault on the way, there is no obstacle. -/
theorem not_obstacle_of_fault? (here : t.get? folder = some .folder) {f : Tree.PathFault}
    (none : fault? t root folder (Glob.ending extension) = none) :
    ¬ Obstacle t root folder extension f := by
  -- each kind of obstacle would be a fault: of the search, or of the look at what it finds
  obtain ⟨search, look⟩ := Option.or_eq_none_iff.1 none
  rw [List.findSome?_eq_none_iff] at search look
  have folders {l : Location} (there : t.get? (folder ++ l) = some .folder)
      (seen : t.sees folder l = true) :=
    search _ ((Glob.mem_searched_ending here).2 ⟨rfl, l, rfl, there, seen⟩)
  intro obstacle
  cases obstacle with
  | deep there seen deep =>
    have clear := folders there seen
    simp [searchFault?, Path.nesting_ofLocation, deep] at clear
  | longFolder there seen long =>
    have clear := folders there seen
    simp only [searchFault?, append_nil, Tree.blocked?, long] at clear
    split at clear <;> simp at clear
  | long there seen fits long =>
    have clear := look _ ((Glob.mem_found_ending here).2 ⟨_, _, _, rfl, there, seen, fits⟩)
    rw [Tree.blocked?, long] at clear
    cases clear
  | denied there seen fits denied =>
    have clear := look _ ((Glob.mem_found_ending here).2 ⟨_, _, _, rfl, there, seen, fits⟩)
    rw [Tree.blocked?, denied] at clear
    cases clear

/-! ### Pages -/

/-- A page below a root: a file at any depth that the search sees, whose name has the extension and
that no rule excludes. -/
inductive Belongs (t : Tree) (root : Path) (folder : Location) (extension : Text)
    (rules : List Ignore.Rule) : Page → Prop
  | file {above : Location} {name : Name} {content : List UInt8}
      (there : t.get? (folder ++ (above ++ [name])) = some (.file content))
      (seen : t.sees folder (above ++ [name]) = true) (fits : extension <:+ name.text)
      (kept : Ignore.excludes rules (Location.text (above ++ [name])) = false) :
      Belongs t root folder extension rules ⟨root, .ofLocation (above ++ [name])⟩

theorem belongs_of_mem_select {page : Page}
    (h : page ∈ select t root folder rules (Glob.ending extension)) :
    Belongs t root folder extension rules page := by
  obtain ⟨rfl, found, -, kept⟩ := mem_select_iff.1 h
  obtain ⟨above, name, content, place, there, seen, fits⟩ := Glob.mem_files_ending.1 found
  have page_eq : page = ⟨page.root, .ofLocation (above ++ [name])⟩ := by rw [← place]
  rw [page_eq]
  refine .file there seen fits ?_
  rwa [Page.relative, place, Path.text_ofLocation (by simp)] at kept

/-- A file that can be read is selected, if its name has the extension and no rule excludes it. -/
theorem mem_select_of_read {above : Location} {name : Name} {content : List UInt8}
    (leads : t.resolve root = .ok folder)
    (file : t.read (root.append (.ofLocation (above ++ [name]))) = .ok content)
    (fits : extension <:+ name.text)
    (kept : Ignore.excludes rules (Location.text (above ++ [name])) = false) :
    ⟨root, .ofLocation (above ++ [name])⟩ ∈
      select t root folder rules (Glob.ending extension) := by
  obtain ⟨there, seen⟩ := Tree.get?_of_read_append leads file
  refine mem_select_iff.2 ⟨rfl, ?_, Tree.isFile_of_read file, ?_⟩
  · exact Glob.mem_files_ending.2 ⟨above, name, content, rfl, there, seen, fits⟩
  · rwa [Page.relative, Path.text_ofLocation (by simp)]

/-- Where a look at anything found gives an answer, and no name holds a NUL, all files found are
selected. -/
theorem mem_select_ending (names : ∀ x ∈ t.entries, ∀ n ∈ x.1, '\x00' ∉ n.text)
    (leads : t.resolve root = .ok folder)
    (none : fault? t root folder (Glob.ending extension) = none) {page : Page} :
    page ∈ select t root folder rules (Glob.ending extension) ↔
      Belongs t root folder extension rules page := by
  refine ⟨belongs_of_mem_select, fun belongs => ?_⟩
  cases belongs with
  | @file above name content there seen fits kept =>
    have noNul : ∀ n ∈ above ++ [name], '\x00' ∉ n.text := fun n hn =>
      names _ ((Tree.get?_of_ne_nil (by simp)).1 there) n (List.mem_append_right folder hn)
    have mem : .ofLocation (above ++ [name]) ∈ (Glob.ending extension).files t folder :=
      Glob.mem_files_ending.2 ⟨above, name, content, rfl, there, seen, fits⟩
    have clear := List.findSome?_eq_none_iff.1 (Option.or_eq_none_iff.1 none).2 _
      (Glob.mem_found_of_mem_files mem)
    have reached := Tree.resolve_append_ofLocation leads there clear noNul
    refine mem_select_iff.2 ⟨rfl, mem, Tree.isFile_iff.2 ⟨_, content, reached, there⟩, ?_⟩
    rwa [Page.relative, Path.text_ofLocation (by simp)]

theorem pairwise_select_ending :
    (select t root folder rules (Glob.ending extension)).Pairwise fun p q =>
      Glob.written p.path < Glob.written q.path := by
  refine List.Pairwise.filterMap _ ?_ (Glob.pairwise_files_ending extension t folder)
  intro p q before page hp other ho
  obtain ⟨-, rfl⟩ := by simpa using hp
  obtain ⟨-, rfl⟩ := by simpa using ho
  simp only [Page.path, Glob.written, Path.append, List.map_append]
  exact append_lt_append_left_iff.2 before

/-- Once the root, the patterns and the extension are accepted, a fault on the way makes the listing
fail. -/
theorem pages_of_fault? {patterns : List Text} {f : Tree.PathFault}
    (there : t.folder? root = some folder) (plain : Plain extension)
    (compiled : Ignore.ofPatterns patterns = .ok rules)
    (found : fault? t root folder (Glob.ending extension) = some f) :
    pages t extension patterns root = .error (.file f) := by
  rw [pages, rootFolder_eq_ok_iff.2 there]
  simp only [compiled, patternFor_plain plain, found]

theorem pages_of_clear {patterns : List Text} (there : t.folder? root = some folder)
    (plain : Plain extension) (compiled : Ignore.ofPatterns patterns = .ok rules)
    (none : fault? t root folder (Glob.ending extension) = none) :
    pages t extension patterns root = .ok (select t root folder rules (Glob.ending extension)) := by
  rw [pages, rootFolder_eq_ok_iff.2 there]
  simp only [compiled, patternFor_plain plain, none]

/-- The pages of a listing are selected. -/
theorem exists_select_of_pages {patterns : List Text} {listed : List Page} (plain : Plain extension)
    (h : pages t extension patterns root = .ok listed) :
    ∃ folder rules, t.resolve root = .ok folder ∧ Ignore.ofPatterns patterns = .ok rules ∧
      listed = select t root folder rules (Glob.ending extension) := by
  unfold pages at h
  split at h
  · cases h
  rename_i folder found
  obtain ⟨leads, -⟩ := Tree.folder?_eq_some_iff.1 (rootFolder_eq_ok_iff.1 found)
  split at h
  · cases h
  rename_i rules compiled
  rw [patternFor_plain plain] at h
  simp only at h
  split at h
  · cases h
  · cases h
    exact ⟨folder, rules, leads, compiled, rfl⟩

/-- **A listing is complete, exact and in order.** The root is a folder, the extension is no pattern
of its own, the exclusion patterns are accepted, and no name holds a NUL, as in no file system one
does. Then either there is an obstacle on the search, and the listing fails with one; or there is
none, and the pages listed are exactly the files at any depth that the search sees, whose names end
with the extension and that no rule excludes, ascending in the order of their paths, so that each is
there once; and they are the pages listed without patterns, those excluded taken out. Where all
folders may be entered, the search sees every file. -/
theorem pages_listed {patterns : List Text}
    (names : ∀ x ∈ t.entries, ∀ n ∈ x.1, '\x00' ∉ n.text) (there : t.folder? root = some folder)
    (plain : Plain extension) (compiled : Ignore.ofPatterns patterns = .ok rules) :
    ((∃ f, Obstacle t root folder extension f) →
      ∃ f, Obstacle t root folder extension f ∧
        pages t extension patterns root = .error (.file f)) ∧
    ((∀ f, ¬ Obstacle t root folder extension f) →
      ∃ listed all, pages t extension patterns root = .ok listed ∧
        pages t extension [] root = .ok all ∧
        (∀ page, page ∈ listed ↔ Belongs t root folder extension rules page) ∧
        listed.Pairwise (fun p q => Glob.written p.path < Glob.written q.path) ∧
        listed = all.filter fun page => !Ignore.excludes rules page.relative) ∧
    ((∀ l, t.get? l = some .folder → t.opens l = true) →
      ∀ l content, t.get? (folder ++ l) = some (.file content) → t.sees folder l = true) := by
  obtain ⟨leads, here⟩ := Tree.folder?_eq_some_iff.1 there
  refine ⟨fun obstacle => ?_, fun clear => ?_, fun opened l content file =>
    Tree.sees_of_opens file opened⟩
  · obtain ⟨f, obstacle⟩ := obstacle
    cases found : fault? t root folder (Glob.ending extension) with
    | none => exact absurd obstacle (not_obstacle_of_fault? here found)
    | some g => exact ⟨g, obstacle_of_fault? here found, pages_of_fault? there plain compiled found⟩
  · cases found : fault? t root folder (Glob.ending extension) with
    | some g => exact absurd (obstacle_of_fault? here found) (clear g)
    | none =>
      exact ⟨_, _, pages_of_clear there plain compiled found, pages_of_clear there plain rfl found,
        fun page => mem_select_ending names leads found, pairwise_select_ending,
        select_eq_filter t root folder rules _⟩

def shelfName : Name := .of "shelf"

/-- A folder with a page named like the extension, a folder named like a page, and a page whose
name goes on from the name of a folder. -/
def shelf : Tree where
  entries := [
    ([shelfName], .folder),
    ([shelfName, .of ".md"], .file []),
    ([shelfName, .of "a"], .folder),
    ([shelfName, .of "a", .of "z.md"], .file []),
    ([shelfName, .of "a b.md"], .file []),
    ([shelfName, .of "b.md"], .folder),
    ([shelfName, .of "b.md", .of "c.md"], .file []),
    ([shelfName, .of "draft.md"], .file []),
    ([shelfName, .of "notes.txt"], .file [])]

/-- The rule for paths that end in `draft.md` or go on below it. -/
def draftRule : Ignore.Rule :=
  ⟨true, .row (.leadingFolders :: "draft.md".toList.map .char ++ [.stop])⟩

/-- The pages of that folder, without the drafts: the page below `a` comes before `a b.md`. -/
theorem pages_listed_shelf :
    (∀ x ∈ shelf.entries, ∀ n ∈ x.1, '\x00' ∉ n.text) ∧
    shelf.folder? (.ofText "shelf".toList) = some [shelfName] ∧ Plain ".md".toList ∧
    Ignore.ofPatterns ["draft.md".toList] = .ok [draftRule] ∧
    ∃ listed all,
      pages shelf ".md".toList ["draft.md".toList] (.ofText "shelf".toList) = .ok listed ∧
      pages shelf ".md".toList [] (.ofText "shelf".toList) = .ok all ∧
      (∀ page, page ∈ listed ↔
        Belongs shelf (.ofText "shelf".toList) [shelfName] ".md".toList [draftRule] page) ∧
      listed.Pairwise (fun p q => Glob.written p.path < Glob.written q.path) ∧
      listed = (all.filter fun page => !Ignore.excludes [draftRule] page.relative) ∧
      listed.map Page.relative = [".md".toList, "a/z.md".toList, "a b.md".toList,
        "b.md/c.md".toList] := by
  have names : ∀ x ∈ shelf.entries, ∀ n ∈ x.1, '\x00' ∉ n.text := by decide +kernel
  have there : shelf.folder? (.ofText "shelf".toList) = some [shelfName] := by decide +kernel
  have plain : Plain ".md".toList := by decide
  have compiled : Ignore.ofPatterns ["draft.md".toList] = .ok [draftRule] := by decide +kernel
  have none : fault? shelf (.ofText "shelf".toList) [shelfName] (Glob.ending ".md".toList) =
      .none := by decide +kernel
  have clear : ∀ f, ¬ Obstacle shelf (.ofText "shelf".toList) [shelfName] ".md".toList f :=
    fun _ => not_obstacle_of_fault? (Tree.folder?_eq_some_iff.1 there).2 none
  obtain ⟨listed, all, given, without, exactly, ordered, filtered⟩ :=
    (pages_listed names there plain compiled).2.1 clear
  refine ⟨names, there, plain, compiled, listed, all, given, without, exactly, ordered, filtered,
    ?_⟩
  have shown : (pages shelf ".md".toList ["draft.md".toList] (.ofText "shelf".toList)).map
      (List.map Page.relative) = .ok [".md".toList, "a/z.md".toList, "a b.md".toList,
        "b.md/c.md".toList] := by decide +kernel
  rw [given] at shown
  exact Except.ok.inj shown

/-! ### Paths that are too long -/

/-- A name of 250 letters. -/
def wideName : Name := ⟨List.replicate 250 'n', by decide +kernel⟩

/-- A page whose name has 40 characters. -/
def widePage : Name := ⟨List.replicate 36 'p' ++ ".rst".toList, by decide +kernel⟩

/-- A folder of that name with that page in it. -/
def wideTree : Tree where
  entries := [([wideName], .folder), ([wideName, widePage], .file [])]

/-- A way to that folder in and out of it, of 4060 characters. -/
def wideRoot : Path where
  steps := (List.replicate 15 [.name wideName, .up]).flatten ++ [.name wideName]

/-- The root is a folder and the page belongs to it, but the path of the page is too long: the
listing fails. -/
theorem pages_wideRoot_not_listed :
    wideTree.folder? wideRoot = some [wideName] ∧ Plain ".rst".toList ∧
    Belongs wideTree wideRoot [wideName] ".rst".toList [] ⟨wideRoot, .ofLocation [widePage]⟩ ∧
    pages wideTree ".rst".toList [] wideRoot =
      .error (.file ⟨.tooLong, wideRoot.append (.ofLocation [widePage])⟩) := by
  have page : wideTree.get? ([wideName] ++ ([] ++ [widePage])) = some (.file []) := by
    decide +kernel
  have there : wideTree.folder? wideRoot = some [wideName] := by decide +kernel
  have plain : Plain ".rst".toList := by decide
  have found : fault? wideTree wideRoot [wideName] (Glob.ending ".rst".toList) =
      some ⟨.tooLong, wideRoot.append (.ofLocation [widePage])⟩ := by decide +kernel
  exact ⟨there, plain, .file page rfl ⟨List.replicate 36 'p', rfl⟩ (Ignore.excludes_nil _),
    pages_of_fault? there plain rfl found⟩

end Listing

end DocSnippets
