import DocSnippets.Files.Ways
import DocSnippets.Proofs.Files.Folders

/-!
# DocSnippets.Proofs.Files.Below

**What is below a folder.** Every entry's folder is in the tree, so whatever is below a folder is
reached from it name by name, through folders only, and nothing but an access that is missing or a
name that is too long can stop a path there. The entries stand in the order of their locations, and
so do the files below a folder when their locations are counted from it: the names on the way to the
folder are the same for all of them.
-/

namespace DocSnippets

/-! ### Order -/

theorem append_lt_append_left_iff {α : Type} [LT α] [Std.Irrefl (α := α) (· < ·)]
    {start first second : List α} : start ++ first < start ++ second ↔ first < second := by
  induction start with
  | nil => rfl
  | cons item start ih => rw [List.cons_append, List.cons_append, List.cons_lt_cons_self, ih]

theorem Location.texts_append (l m : Location) : Location.texts (l ++ m) = l.texts ++ m.texts :=
  List.map_append

/-- Locations below a folder are in the order in which they are when counted from it. -/
theorem Location.before_append_iff {folder l m : Location} :
    Location.before (folder ++ l) (folder ++ m) ↔ l.before m := by
  rw [Location.before, texts_append, texts_append, append_lt_append_left_iff, ← Location.before]

namespace Tree

variable {t : Tree} {folder l : Location}

/-! ### Folders on the way -/

theorem get?_dropLast {e : Entry} (h : t.get? l = some e) (ne : l ≠ []) :
    t.get? l.dropLast = some .folder := by
  by_cases top : l.dropLast = []
  · rw [get?, if_pos top]
  · have known := (t.closed _ ((get?_of_ne_nil ne).1 h)).resolve_left top
    exact (get?_of_ne_nil top).2 known

theorem get?_of_append {e : Entry} {rest : Location} (h : t.get? (l ++ rest) = some e)
    (ne : rest ≠ []) : t.get? l = some .folder := by
  -- from the last name back, as each entry knows the folder right above it
  induction hn : rest.length generalizing rest e with
  | zero => exact absurd (List.length_eq_zero_iff.1 hn) ne
  | succ k ih =>
    have above := get?_dropLast h (by simp [ne])
    rw [List.dropLast_append_of_ne_nil ne] at above
    by_cases last : rest.dropLast = []
    · rwa [last, List.append_nil] at above
    · exact ih above last (by rw [List.length_dropLast, hn, Nat.add_sub_cancel])

theorem folder?_eq_some_iff {root : Path} :
    t.folder? root = some folder ↔ t.resolve root = .ok folder ∧ t.get? folder = some .folder := by
  unfold folder?
  cases t.resolve root with
  | error f => simp
  | ok here =>
    simp only [Option.ite_none_right_eq_some, Option.some.injEq, Except.ok.injEq]
    constructor
    · rintro ⟨is_folder, rfl⟩
      exact ⟨rfl, is_folder⟩
    · rintro ⟨rfl, is_folder⟩
      exact ⟨is_folder, rfl⟩

/-- An entry below a folder is reached from it by its names, unless a folder on the way may not be
entered or a name is too long. -/
theorem resolveFrom_names {e : Entry} (there : t.get? (folder ++ l) = some e) :
    t.resolveFrom folder (l.map .name) = .ok (folder ++ l) ∨
      t.resolveFrom folder (l.map .name) = .error .denied ∨
      t.resolveFrom folder (l.map .name) = .error .tooLong := by
  induction l generalizing folder with
  | nil => exact .inl (by rw [List.append_nil]; rfl)
  | cons n rest ih =>
    have here : t.get? folder = some .folder := get?_of_append there (List.cons_ne_nil _ _)
    have next : folder ++ n :: rest = (folder ++ [n]) ++ rest := by simp
    rw [next] at there
    rw [List.map_cons, resolveFrom, here, next]
    simp only
    split
    · split
      · exact .inr (.inr rfl)
      · exact ih there
    · exact .inr (.inl rfl)

/-- From where a path leads an entry is reached by its names, where a look at the whole path gives
an answer and it holds no NUL. -/
theorem resolve_append_ofLocation {root : Path} {e : Entry} (leads : t.resolve root = .ok folder)
    (there : t.get? (folder ++ l) = some e)
    (clear : t.blocked? (root.append (.ofLocation l)) = none)
    (noNul : ∀ n ∈ l, '\x00' ∉ n.text) :
    t.resolve (root.append (.ofLocation l)) = .ok (folder ++ l) := by
  have nul : (root.append (.ofLocation l)).hasNul = false := by
    have own : root.hasNul = false := by
      unfold resolve at leads
      split at leads
      · cases leads
      · rename_i none
        simpa using none
    rw [Path.hasNul, Path.append, List.any_append]
    refine Bool.or_eq_false_iff.2 ⟨own, ?_⟩
    rw [Path.ofLocation, List.any_map, List.any_eq_false]
    intro n hn
    simpa [Step.text] using noNul n hn
  -- the way goes over the folder of the root, so it is enough to follow the names from there
  have steps : t.resolveFrom (t.startOf root.start) (root.append (.ofLocation l)).steps =
      t.resolveFrom folder (l.map .name) :=
    resolveFrom_append (resolveFrom_of_resolve leads) _
  have whole : t.resolve (root.append (.ofLocation l)) =
      if (root.append (.ofLocation l)).isLong then .error .tooLong
      else t.resolveFrom folder (l.map .name) := by
    rw [← steps, resolve, nul]
    rfl
  rw [blocked?, whole] at clear
  rw [whole]
  split
  · rename_i long
    rw [if_pos long] at clear
    cases clear
  · rename_i short
    rw [if_neg short] at clear
    rcases resolveFrom_names there with ok | denied | long
    · exact ok
    · rw [denied] at clear
      cases clear
    · rw [long] at clear
      cases clear

/-- Names lead nowhere else, and only through folders that may be entered. -/
theorem eq_of_resolveFrom_names {place : Location}
    (h : t.resolveFrom folder (l.map .name) = .ok place) :
    place = folder ++ l ∧ (l ≠ [] → t.enters folder l.dropLast = true) := by
  induction l generalizing folder with
  | nil =>
    cases h
    exact ⟨(List.append_nil _).symm, fun ne => absurd rfl ne⟩
  | cons n rest ih =>
    obtain ⟨-, may, there, leads, later⟩ := resolveFrom_cons_eq_ok_iff.1 h
    cases (Option.ite_none_left_eq_some.1 leads).2
    obtain ⟨rfl, entered⟩ := ih later
    refine ⟨by simp, fun _ => ?_⟩
    cases rest with
    | nil => exact may
    | cons next rest =>
      rw [List.dropLast_cons_cons, enters, may, entered (List.cons_ne_nil _ _)]
      rfl

theorem sees_of_enters (h : l ≠ [] → t.enters folder l.dropLast = true) :
    t.sees folder l = true := by
  induction l generalizing folder with
  | nil => rfl
  | cons n rest ih =>
    have entered := h (List.cons_ne_nil _ _)
    cases rest with
    | nil => exact Access.lists_of_opens entered
    | cons next rest =>
      rw [List.dropLast_cons_cons, enters, Bool.and_eq_true] at entered
      rw [sees, entered.1, ih fun _ => entered.2]
      rfl

theorem sees_of_opens {e : Entry} (there : t.get? (folder ++ l) = some e)
    (opened : ∀ m, t.get? m = some .folder → t.opens m = true) : t.sees folder l = true := by
  induction l generalizing folder with
  | nil => rfl
  | cons n rest ih =>
    have may := opened folder (get?_of_append there (List.cons_ne_nil _ _))
    cases rest with
    | nil => exact Access.lists_of_opens may
    | cons next rest =>
      rw [sees, may, ih (by rwa [List.append_assoc])]
      rfl

theorem get?_of_read_append {root : Path} {content : List UInt8}
    (leads : t.resolve root = .ok folder)
    (file : t.read (root.append (.ofLocation l)) = .ok content) :
    t.get? (folder ++ l) = some (.file content) ∧ t.sees folder l = true := by
  obtain ⟨place, reached, there, -⟩ := read_eq_ok_iff.1 file
  have steps := resolveFrom_of_resolve reached
  rw [Path.append, resolveFrom_append (resolveFrom_of_resolve leads)] at steps
  obtain ⟨rfl, entered⟩ := eq_of_resolveFrom_names steps
  exact ⟨there, sees_of_enters entered⟩

/-! ### Listings -/

/-- The folders listed below a folder are itself and the folders there that are seen. -/
theorem mem_foldersBelow_iff (here : t.get? folder = some .folder) :
    l ∈ t.foldersBelow folder ↔
      t.get? (folder ++ l) = some .folder ∧ t.sees folder l = true := by
  by_cases own : l = []
  · simp [own, foldersBelow, here, sees]
  · have ne : folder ++ l ≠ [] := by simp [own]
    rw [get?_of_ne_nil ne, foldersBelow, List.mem_cons, or_iff_right own, List.mem_filterMap]
    constructor
    · intro known
      obtain ⟨⟨place, entry⟩, there, found⟩ := known
      cases entry with
      | file content => cases found
      | folder =>
        obtain ⟨goes, seen⟩ := Option.filter_eq_some_iff.1 found
        obtain rfl : place = folder ++ l := goesOn?_eq_some_iff.1 goes
        exact ⟨there, (Bool.and_eq_true_iff.1 seen).2⟩
    · intro known
      obtain ⟨there, seen⟩ := known
      refine ⟨_, there, Option.filter_eq_some_iff.2 ⟨goesOn?_eq_some_iff.2 rfl, ?_⟩⟩
      simpa using ⟨own, seen⟩

/-- The files listed below a folder are those that the tree has there and that are seen. -/
theorem mem_filesBelow_iff :
    l ∈ t.filesBelow folder ↔
      (∃ content, t.get? (folder ++ l) = some (.file content)) ∧ t.sees folder l = true := by
  rw [mem_filesBelow]
  refine and_congr_left fun _ => exists_congr fun content => ?_
  by_cases top : folder ++ l = []
  · rw [top]
    constructor
    · intro there
      exact absurd rfl (t.below _ there)
    · intro there
      cases there
  · rw [get?_of_ne_nil top]

/-- The files below a folder are listed in the order of their locations, each once. -/
theorem pairwise_filesBelow (t : Tree) (folder : Location) :
    (t.filesBelow folder).Pairwise Location.before := by
  refine List.Pairwise.filterMap _ ?_ t.ascending
  intro x y before a ha b hb
  cases hx : x.2 with
  | folder =>
    rw [hx] at ha
    cases ha
  | file content =>
    cases hy : y.2 with
    | folder =>
      rw [hy] at hb
      cases hb
    | file other =>
      rw [hx] at ha
      rw [hy] at hb
      have first := goesOn?_eq_some_iff.1 (Option.filter_eq_some_iff.1 ha).1
      have second := goesOn?_eq_some_iff.1 (Option.filter_eq_some_iff.1 hb).1
      rw [first, second] at before
      exact Location.before_append_iff.1 before

end Tree

end DocSnippets
