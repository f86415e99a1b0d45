import DocSnippets.Files.Path
import DocSnippets.Text.Quoted

/-!
# DocSnippets.Files.Tree

A **tree** is what a file system holds: folders and files at locations below its top, in the order
of their locations, compared name by name and each name by code points. Every entry's folder is
in the tree, so the entries below a folder are exactly those whose location goes on from it.

Around the tree stands what the entries themselves do not say: in which folder paths start, what
may be done at a location, and how much can be written there. `Tree.resolve` is the way of a path
through all this, and the first step at which it fails. Nothing but `Tree.put` makes a new tree, and
`get?_put` says that it changes one entry and leaves the others.
-/

namespace DocSnippets

/-- What is at a location. -/
inductive Entry
  | folder
  | file (content : List UInt8)
  deriving DecidableEq

/-! ### Entries in order -/

/-- Whether two locations are the same; those of different depths are told apart first. -/
def Location.is (l m : Location) : Bool := l.length == m.length && decide (l = m)

@[simp] theorem Location.is_iff {l m : Location} : l.is m = true ↔ l = m := by
  simp only [Location.is, Bool.and_eq_true, beq_iff_eq, decide_eq_true_eq]
  exact ⟨And.right, fun h => ⟨congrArg _ h, h⟩⟩

/-- Whether the first text comes before the second one, by code points. -/
def Text.isBefore : Text → Text → Bool
  | [], t => !t.isEmpty
  | _ :: _, [] => false
  | c :: s, d :: t => if c = d then Text.isBefore s t else decide (c < d)

theorem Text.isBefore_iff {s t : Text} : s.isBefore t = true ↔ s < t := by
  induction s generalizing t with
  | nil => cases t <;> simp [Text.isBefore]
  | cons c s ih =>
    cases t with
    | nil => simp [Text.isBefore]
    | cons d t =>
      simp only [Text.isBefore, List.cons_lt_cons_iff]
      split
      · rename_i h; subst h; simp [ih]
      · rename_i h; simp [h]

/-- Whether the first location comes before the second one. -/
def Location.before (l m : Location) : Prop := l.texts < m.texts

/-- The same as a test. -/
def Location.isBefore : Location → Location → Bool
  | [], m => !m.isEmpty
  | _ :: _, [] => false
  | a :: l, b :: m => if a = b then Location.isBefore l m else a.text.isBefore b.text

theorem Location.isBefore_iff {l m : Location} : l.isBefore m = true ↔ l.before m := by
  induction l generalizing m with
  | nil => cases m <;> simp [Location.isBefore, Location.before, Location.texts]
  | cons a l ih =>
    cases m with
    | nil => simp [Location.isBefore, Location.before, Location.texts]
    | cons b m =>
      simp only [Location.isBefore, Location.before, Location.texts, List.map_cons,
        List.cons_lt_cons_iff]
      split
      · rename_i h
        subst h
        simpa [Location.before, Location.texts, List.lt_irrefl] using ih (m := m)
      · rename_i h
        have : a.text ≠ b.text := fun e => h (Name.text_injective e)
        simp [Text.isBefore_iff, this]

instance (l m : Location) : Decidable (l.before m) := decidable_of_iff _ Location.isBefore_iff

theorem Location.before_trans {k l m : Location} (h : k.before l) (g : l.before m) :
    k.before m := List.lt_trans h g

theorem Location.not_before_self (l : Location) : ¬ l.before l := List.lt_irrefl _

theorem Location.before_of_ne {l m : Location} (h : ¬ l.before m) (ne : l ≠ m) : m.before l :=
  (List.le_iff_lt_or_eq.1 (List.not_lt.1 h)).resolve_right fun e =>
    ne (Location.texts_injective e.symm)

/-- Entries with their locations. -/
abbrev Entries := List (Location × Entry)

/-- Entries whose locations strictly ascend. -/
def Ascending (es : Entries) : Prop := es.Pairwise fun a b => a.1.before b.1

instance (es : Entries) : Decidable (Ascending es) :=
  inferInstanceAs (Decidable (es.Pairwise fun a b => a.1.before b.1))

/-- The entry at a location. -/
def entryAt? (es : Entries) (l : Location) : Option Entry := (es.find? (·.1.is l)).map (·.2)

/-- Puts an entry at its place, instead of the one that is there. -/
def putEntry (l : Location) (e : Entry) : Entries → Entries
  | [] => [(l, e)]
  | x :: rest =>
    if l.is x.1 then (l, e) :: rest
    else if l.before x.1 then (l, e) :: x :: rest
    else x :: putEntry l e rest

/-- After putting an entry the other ones are still there. -/
theorem mem_putEntry {l : Location} {e : Entry} {es : Entries} (asc : Ascending es)
    {y : Location × Entry} : y ∈ putEntry l e es ↔ y = (l, e) ∨ (y ∈ es ∧ y.1 ≠ l) := by
  induction es with
  | nil => simp [putEntry]
  | cons x rest ih =>
    have ascRest : Ascending rest := (List.pairwise_cons.1 asc).2
    have first := (List.pairwise_cons.1 asc).1
    -- the order is needed for the way back only: what comes after the place is not at it
    simp only [putEntry]
    split
    · rename_i h
      rw [Location.is_iff] at h
      subst h
      simp only [List.mem_cons]
      constructor
      · intro known
        obtain rfl | hy := known
        · exact .inl rfl
        · refine .inr ⟨.inr hy, fun he => ?_⟩
          exact Location.not_before_self _ (he ▸ first y hy)
      · intro known
        obtain rfl | ⟨rfl | hy, hn⟩ := known
        · exact .inl rfl
        · exact absurd rfl hn
        · exact .inr hy
    · rename_i hne
      rw [Location.is_iff] at hne
      split
      · rename_i hb
        simp only [List.mem_cons]
        constructor
        · intro known
          obtain rfl | rfl | hy := known
          · exact .inl rfl
          · exact .inr ⟨.inl rfl, Ne.symm hne⟩
          · refine .inr ⟨.inr hy, fun he => ?_⟩
            exact Location.not_before_self _ (Location.before_trans hb (he ▸ first y hy))
        · intro known
          obtain rfl | ⟨rfl | hy, -⟩ := known
          · exact .inl rfl
          · exact .inr (.inl rfl)
          · exact .inr (.inr hy)
      · simp only [List.mem_cons, ih ascRest]
        constructor
        · intro known
          obtain rfl | rfl | ⟨hy, hn⟩ := known
          · exact .inr ⟨.inl rfl, Ne.symm hne⟩
          · exact .inl rfl
          · exact .inr ⟨.inr hy, hn⟩
        · intro known
          obtain rfl | ⟨rfl | hy, hn⟩ := known
          · exact .inr (.inl rfl)
          · exact .inl rfl
          · exact .inr (.inr ⟨hy, hn⟩)

/-- Putting an entry keeps the order. -/
theorem ascending_putEntry {l : Location} {e : Entry} {es : Entries} (asc : Ascending es) :
    Ascending (putEntry l e es) := by
  induction es with
  | nil => simp [putEntry, Ascending]
  | cons x rest ih =>
    have ascRest : Ascending rest := (List.pairwise_cons.1 asc).2
    have first := (List.pairwise_cons.1 asc).1
    simp only [putEntry]
    split
    · rename_i h
      rw [Location.is_iff] at h
      subst h
      exact List.pairwise_cons.2 ⟨first, ascRest⟩
    · rename_i hne
      rw [Location.is_iff] at hne
      split
      · rename_i hb
        refine List.pairwise_cons.2 ⟨fun y hy => ?_, asc⟩
        rcases List.mem_cons.1 hy with rfl | hy
        · exact hb
        · exact Location.before_trans hb (first y hy)
      · rename_i hb
        refine List.pairwise_cons.2 ⟨fun y hy => ?_, ih ascRest⟩
        rcases (mem_putEntry ascRest).1 hy with rfl | ⟨hy, -⟩
        · exact Location.before_of_ne hb hne
        · exact first y hy

/-- In ascending entries the one at a location is the one found there. -/
theorem entryAt?_eq_some_iff {es : Entries} (asc : Ascending es) {l : Location} {e : Entry} :
    entryAt? es l = some e ↔ (l, e) ∈ es := by
  induction es with
  | nil => simp [entryAt?]
  | cons x rest ih =>
    have ascRest : Ascending rest := (List.pairwise_cons.1 asc).2
    have first := (List.pairwise_cons.1 asc).1
    by_cases h : x.1 = l
    · subst h
      simp only [entryAt?, List.find?_cons, Location.is_iff.2 rfl, Option.map_some,
        Option.some.injEq, List.mem_cons]
      constructor
      · rintro rfl; exact .inl rfl
      · intro known
        obtain he | hm := known
        · exact (congrArg Prod.snd he).symm
        · exact absurd (first _ hm) (Location.not_before_self _)
    · have := ih ascRest
      simp only [entryAt?] at this ⊢
      have other : x.1.is l = false := Bool.eq_false_iff.2 fun e => h (Location.is_iff.1 e)
      simp only [List.find?_cons, other, this, List.mem_cons]
      constructor
      · exact .inr
      · intro known
        obtain he | hm := known
        · exact absurd (congrArg Prod.fst he).symm h
        · exact hm

/-! ### Around a tree -/

/-- What may be done at a location, or with what would be made there. Whoever may write somewhere
may read there, and whoever may enter a folder may list it. -/
inductive Access
  | full
  | readOnly
  /-- The names in a folder may be listed; neither can the folder be entered nor a file be read. -/
  | namesOnly
  | none
  deriving DecidableEq, Repr

namespace Access

def writes : Access → Bool
  | full => true
  | readOnly | namesOnly | none => false

/-- Whether a file may be read, or a folder entered. -/
def opens : Access → Bool
  | full | readOnly => true
  | namesOnly | none => false

/-- Whether the names in a folder may be listed. -/
def lists : Access → Bool
  | full | readOnly | namesOnly => true
  | none => false

theorem opens_of_writes {a : Access} (h : a.writes = true) : a.opens = true := by
  cases a <;> first | rfl | cases h

theorem lists_of_opens {a : Access} (h : a.opens = true) : a.lists = true := by
  cases a <;> first | rfl | cases h

end Access

/-- What stands around the entries of a tree. -/
structure System where
  /-- The folder in which paths start unless they start at the top. -/
  here : Location := []
  access : Location → Access := fun _ => .full
  /-- How many bytes a file can hold at a location, if there is a limit. -/
  room : Location → Option Nat := fun _ => none

/-! ### Trees -/

/-- The folders and files of a file system. Entries that are written out are checked where they
stand. -/
structure Tree where
  /-- The entries in the order of their locations. -/
  entries : Entries
  ascending : Ascending entries := by decide +kernel
  /-- The top is no entry. -/
  below : ∀ x ∈ entries, x.1 ≠ [] := by decide +kernel
  /-- Every entry's folder is the top or an entry. -/
  closed : ∀ x ∈ entries, x.1.dropLast = [] ∨ (x.1.dropLast, Entry.folder) ∈ entries := by
    decide +kernel
  system : System := {}
  /-- Paths start in a folder. -/
  home : system.here = [] ∨ (system.here, Entry.folder) ∈ entries := by exact .inl rfl

namespace Tree

/-- The tree without entries. -/
def empty : Tree where
  entries := []

/-- Whether a file may be read, or a folder entered, at a location. -/
def opens (t : Tree) (l : Location) : Bool := (t.system.access l).opens

/-- What is at a location; the top is a folder. -/
def get? (t : Tree) (l : Location) : Option Entry :=
  if l = [] then some .folder else entryAt? t.entries l

theorem get?_of_ne_nil {t : Tree} {l : Location} {e : Entry} (ne : l ≠ []) :
    t.get? l = some e ↔ (l, e) ∈ t.entries := by
  rw [get?, if_neg ne, entryAt?_eq_some_iff t.ascending]

theorem folder_mem_putEntry (t : Tree) {l m : Location} {e : Entry} (ne : l ≠ [])
    (keeps : t.get? l = some .folder → e = .folder) (h : (m, Entry.folder) ∈ t.entries) :
    (m, Entry.folder) ∈ putEntry l e t.entries := by
  rw [mem_putEntry t.ascending]
  by_cases same : m = l
  · subst same
    exact .inl (by rw [keeps ((get?_of_ne_nil ne).2 h)])
  · exact .inr ⟨h, same⟩

/-- Puts an entry into a folder of the tree; no folder gives way to a file. -/
def put (t : Tree) (l : Location) (e : Entry) (ne : l ≠ [])
    (parent : t.get? l.dropLast = some .folder)
    (keeps : t.get? l = some .folder → e = .folder) : Tree where
  entries := putEntry l e t.entries
  ascending := ascending_putEntry t.ascending
  below x hx := by
    rcases (mem_putEntry t.ascending).1 hx with rfl | ⟨hx, -⟩
    · exact ne
    · exact t.below x hx
  closed x hx := by
    rcases (mem_putEntry t.ascending).1 hx with rfl | ⟨hx, -⟩
    · by_cases h : l.dropLast = []
      · exact .inl h
      · exact .inr (folder_mem_putEntry t ne keeps ((get?_of_ne_nil h).1 parent))
    · exact (t.closed x hx).imp_right (folder_mem_putEntry t ne keeps)
  system := t.system
  home := t.home.imp_right (folder_mem_putEntry t ne keeps)

/-- Writing an entry changes that entry and no other. -/
theorem get?_put {t : Tree} {l : Location} {e : Entry} {ne : l ≠ []}
    {parent : t.get? l.dropLast = some .folder}
    {keeps : t.get? l = some .folder → e = .folder} (m : Location) :
    (t.put l e ne parent keeps).get? m = if m = l then some e else t.get? m := by
  by_cases hm : m = []
  · subst hm
    simp [get?, Ne.symm ne]
  · have same : ∀ e' : Entry, (t.put l e ne parent keeps).get? m = some e' ↔
        (if m = l then some e else t.get? m) = some e' := by
      intro e'
      rw [get?_of_ne_nil hm]
      simp only [put, mem_putEntry t.ascending, Prod.mk.injEq]
      by_cases h : m = l
      · simp [h, eq_comm]
      · simp [h, get?_of_ne_nil hm]
    exact Option.ext same

/-- The tree with paths starting in a folder. -/
def startAt (t : Tree) (l : Location) (folder : t.get? l = some .folder) : Tree :=
  { t with
    system := { t.system with here := l }
    home := by
      by_cases top : l = []
      · exact .inl top
      · exact .inr ((get?_of_ne_nil top).1 folder) }

/-! ### Paths in a tree -/

/-- Why a path cannot be used as asked. -/
inductive Fault
  /-- There is no such entry. -/
  | missing
  /-- There is such an entry already. -/
  | taken
  /-- A step goes through a file. -/
  | notFolder
  | isFolder
  /-- The access to an entry does not allow it. -/
  | denied
  /-- A file could be written in part only. -/
  | noRoom
  | nulInPath
  /-- The path or a name in it is too long. -/
  | tooLong
  /-- Too many folders in a row are missing, or one below the other. -/
  | tooDeep
  deriving DecidableEq, Repr

/-- Whether a file system tells of a fault; a path with a NUL character never reaches it, nor do
too many folders. -/
def Fault.isSystem : Fault → Bool
  | .nulInPath | .tooDeep => false
  | _ => true

/-- Where steps from a location lead. Every location that a step leaves has to be a folder that may
be entered; the last one may be anything or nothing. Only then the name of the step is looked at. -/
def resolveFrom (t : Tree) (here : Location) : List Step → Except Fault Location
  | [] => .ok here
  | step :: rest =>
    match t.get? here with
    | none => .error .missing
    | some (.file _) => .error .notFolder
    | some .folder =>
      if t.opens here then
        match step with
        -- above the top there is the top again
        | .up => resolveFrom t here.dropLast rest
        | .name n => if n.isLong then .error .tooLong else resolveFrom t (here ++ [n]) rest
      else .error .denied

/-- The location at which a path starts. -/
def startOf (t : Tree) : Start → Location
  | .workingFolder => t.system.here
  | .top | .doubleTop => []

theorem get?_startOf (t : Tree) (start : Start) : t.get? (t.startOf start) = some .folder := by
  have top : t.get? [] = some .folder := if_pos rfl
  cases start with
  | workingFolder =>
    by_cases none : t.system.here = []
    · rw [startOf, none, top]
    · exact (get?_of_ne_nil none).2 (t.home.resolve_left none)
  | top => exact top
  | doubleTop => exact top

/-- Where a path leads. -/
def resolve (t : Tree) (p : Path) : Except Fault Location :=
  if p.hasNul then .error .nulInPath
  else if p.isLong then .error .tooLong
  else t.resolveFrom (t.startOf p.start) p.steps

/-- The location of the folder that a path leads to. -/
def folder? (t : Tree) (p : Path) : Option Location :=
  match t.resolve p with
  | .ok l => if t.get? l = some .folder then some l else none
  | .error _ => none

/-- Whether a path leads to a file, which need not be one that may be read. -/
def isFile (t : Tree) (p : Path) : Bool :=
  match t.resolve p with
  | .ok l =>
    match t.get? l with
    | some (.file _) => true
    | some .folder | none => false
  | .error _ => false

theorem isFile_iff {t : Tree} {p : Path} :
    t.isFile p = true ↔ ∃ l content, t.resolve p = .ok l ∧ t.get? l = some (.file content) := by
  unfold isFile
  cases t.resolve p with
  | error f => simp
  | ok l =>
    simp only [Except.ok.injEq]
    split <;> simp_all

/-- The bytes of the file that a path leads to. -/
def read (t : Tree) (p : Path) : Except Fault (List UInt8) :=
  match t.resolve p with
  | .error f => .error f
  | .ok l =>
    match t.get? l with
    | none => .error .missing
    -- a folder is opened as well before it is found to be no file
    | some .folder => .error (if (t.system.access l).lists then .isFolder else .denied)
    | some (.file content) => if t.opens l then .ok content else .error .denied

/-- A file is read where its path leads to a file that may be read. -/
theorem read_eq_ok_iff {t : Tree} {p : Path} {content : List UInt8} :
    t.read p = .ok content ↔
      ∃ l, t.resolve p = .ok l ∧ t.get? l = some (.file content) ∧ t.opens l = true := by
  unfold read
  cases hr : t.resolve p with
  | error f => simp
  | ok l =>
    simp only [Except.ok.injEq, exists_eq_left']
    split
    · simp_all
    · simp_all
    · rename_i bytes there
      by_cases may : t.opens l = true
      · simp [there, may]
      · simp [there, may]

theorem isFile_of_read {t : Tree} {p : Path} {content : List UInt8}
    (h : t.read p = .ok content) : t.isFile p = true := by
  obtain ⟨l, leads, there, -⟩ := read_eq_ok_iff.1 h
  exact isFile_iff.2 ⟨l, content, leads, there⟩

/-- The tree with a file written where a path leads: a new one, or one in the place of a file. The
file is there, and empty, before anything is written to it, and where not all of it finds room the
start that does is left. -/
def write (t : Tree) (p : Path) (content : List UInt8) : Tree × Option Fault :=
  match t.resolve p with
  | .error f => (t, some f)
  | .ok l =>
    if folder : t.get? l = some .folder then (t, some .isFolder)
    else if parent : t.get? l.dropLast = some .folder then
      if (t.system.access l).writes then
        let room := (t.system.room l).getD content.length
        (t.put l (.file (content.take room)) (fun h => folder (by simp [h, get?])) parent
            fun h => absurd h folder,
          if room < content.length then some .noRoom else none)
      else (t, some .denied)
    else (t, some .missing)

/-- The tree with a folder made at a location. -/
def makeAt (t : Tree) (l : Location) : Except Fault Tree :=
  if free : t.get? l = none then
    if parent : t.get? l.dropLast = some .folder then
      if (t.system.access l).writes then
        .ok (t.put l .folder (fun h => by simp [h, get?] at free) parent fun _ => rfl)
      else .error .denied
    else .error .missing
  else .error .taken

/-- The tree with a folder made where a path leads. -/
def makeFolder (t : Tree) (p : Path) : Except Fault Tree :=
  match t.resolve p with
  | .error f => .error f
  | .ok l => t.makeAt l

/-- A fault with the path at which it came up. -/
structure PathFault where
  fault : Fault
  path : Path
  deriving DecidableEq

def Fault.words : Fault → Text
  | .missing => "[Errno 2] No such file or directory".toList
  | .denied => "[Errno 13] Permission denied".toList
  | .taken => "[Errno 17] File exists".toList
  | .notFolder => "[Errno 20] Not a directory".toList
  | .isFolder => "[Errno 21] Is a directory".toList
  | .noRoom => "[Errno 28] No space left on device".toList
  | .nulInPath => "embedded null byte".toList
  | .tooLong => "[Errno 36] File name too long".toList
  | .tooDeep => "maximum recursion depth exceeded".toList

/-- Whether a fault is told with its path. -/
def Fault.namesPath : Fault → Bool
  | .noRoom | .nulInPath | .tooDeep => false
  | _ => true

def PathFault.message (f : PathFault) : Text :=
  if f.fault.namesPath then f.fault.words ++ ": ".toList ++ Quoted.quote f.path.text
  else f.fault.words

/-- The fault of a look at a path that is no answer to what is there. -/
def blocked? (t : Tree) (p : Path) : Option PathFault :=
  match t.resolve p with
  | .error .tooLong => some ⟨.tooLong, p⟩
  | .error .denied => some ⟨.denied, p⟩
  | _ => none

/-- The tree with a folder made at the location that a path leads to, unless one is there, and
the location, or why there is no folder then. -/
def ensureAt (t : Tree) (p : Path) (l : Location) : Tree × Except PathFault Location :=
  match t.makeAt l with
  | .ok made => (made, .ok l)
  | .error f => if t.get? l = some .folder then (t, .ok l) else (t, .error ⟨f, p⟩)

/-- How many folders in a row may be missing. -/
def maxMissing : Nat := 988

/-- The tree with all folders made that a path goes through, given with its steps from the last one
back, and where the path leads then; so many of the last ones may be missing. Folders made before a
fault came up stay. -/
def makeFoldersTo (t : Tree) (start : Start) :
    Nat → List Step → Tree × Except PathFault Location
  | _, [] => (t, .ok (t.startOf start))
  | 0, step :: back => (t, .error ⟨.tooDeep, ⟨(step :: back).reverse, start⟩⟩)
  | missing + 1, step :: back =>
    let p : Path := ⟨(step :: back).reverse, start⟩
    match t.makeFolder p with
    -- the folders above are made only after the path itself was tried
    | .error .missing =>
      match t.makeFoldersTo start missing back with
      | (made, .error f) => (made, .error f)
      | (made, .ok above) =>
        match made.resolveFrom above [step] with
        | .error f => (made, .error ⟨f, p⟩)
        | .ok l => made.ensureAt p l
    | _ =>
      match t.resolve p with
      | .error f => (t, .error ⟨f, p⟩)
      | .ok l => t.ensureAt p l

/-- The tree with all folders made that a path goes through, and the fault if one is no folder. -/
def makeFolders (t : Tree) (p : Path) : Tree × Option PathFault :=
  match t.makeFoldersTo p.start maxMissing p.steps.reverse with
  | (made, .ok _) => (made, none)
  | (made, .error f) => (made, some f)

/-! ### Files below a folder -/

/-- What a location goes on with after a folder; none if it is not below the folder. -/
def goesOn? (folder l : Location) : Option Location :=
  if folder.isPrefixOf l then some (l.drop folder.length) else none

/-- Whether a search from a folder comes to know of what is below it by the given names: the last
folder on the way may be listed, and those before it entered. -/
def sees (t : Tree) (folder : Location) : Location → Bool
  | [] => true
  | [_] => (t.system.access folder).lists
  | n :: next :: rest => t.opens folder && sees t (folder ++ [n]) (next :: rest)

/-- Whether the folder, the one that the given names lead to below it, and all on the way there may
be entered. -/
def enters (t : Tree) (folder : Location) : Location → Bool
  | [] => t.opens folder
  | n :: rest => t.opens folder && enters t (folder ++ [n]) rest

/-- The locations of the folder and of all folders that a search from it finds below it, counted
from the folder, in order. -/
def foldersBelow (t : Tree) (folder : Location) : List Location :=
  [] :: t.entries.filterMap fun x =>
    match x.2 with
    | .folder => (goesOn? folder x.1).filter fun l => l ≠ [] && t.sees folder l
    | .file _ => none

/-- The locations of all files that a search from a folder finds below it, counted from the folder,
in order. -/
def filesBelow (t : Tree) (folder : Location) : List Location :=
  t.entries.filterMap fun x =>
    match x.2 with
    | .folder => none
    | .file _ => (goesOn? folder x.1).filter (t.sees folder)

theorem goesOn?_eq_some_iff {folder l rest : Location} :
    goesOn? folder l = some rest ↔ l = folder ++ rest := by
  unfold goesOn?
  split
  · rename_i h
    obtain ⟨s, rfl⟩ := List.isPrefixOf_iff_prefix.1 h
    simp [eq_comm]
  · rename_i h
    simp only [reduceCtorEq, false_iff]
    rintro rfl
    exact h (List.isPrefixOf_iff_prefix.2 (List.prefix_append _ _))

/-- A file is listed below a folder when the tree holds it there and the search sees it. -/
theorem mem_filesBelow {t : Tree} {folder rest : Location} :
    rest ∈ t.filesBelow folder ↔
      (∃ content, (folder ++ rest, Entry.file content) ∈ t.entries) ∧
        t.sees folder rest = true := by
  simp only [filesBelow, List.mem_filterMap]
  constructor
  · intro known
    obtain ⟨⟨l, e⟩, hx, he⟩ := known
    cases e with
    | folder => simp at he
    | file content =>
      obtain ⟨goes, seen⟩ := Option.filter_eq_some_iff.1 he
      exact ⟨⟨content, goesOn?_eq_some_iff.1 goes ▸ hx⟩, seen⟩
  · intro known
    obtain ⟨⟨content, hx⟩, seen⟩ := known
    exact ⟨_, hx, Option.filter_eq_some_iff.2 ⟨goesOn?_eq_some_iff.2 rfl, seen⟩⟩

end Tree

end DocSnippets
