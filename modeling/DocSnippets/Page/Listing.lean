import DocSnippets.Files.Ignore.Rules
import DocSnippets.Files.Ways

/-!
# DocSnippets.Page.Listing

**The pages below a root**: the files at any depth whose path fits the extension and that no
exclusion pattern excludes, in the order of their paths. The root is looked at first, then the
patterns are read, then the extension; then the search comes to its end before any file that it
found is looked at.

`Listing.mem_select_iff` says which pages a listing holds, and `Listing.select_eq_filter` that
excluding takes pages out of it and leaves the order of the others.
-/

namespace DocSnippets

/-- A page below a root. -/
structure Page where
  /-- The root below which the page was found. -/
  root : Path
  /-- The way from the root to the page. -/
  place : Path
  deriving DecidableEq

namespace Page

/-- The path of a page. -/
def path (p : Page) : Path := p.root.append p.place

/-- The way from its root to a page, as text. -/
def relative (p : Page) : Text := p.place.text

end Page

namespace Listing

/-- Why the pages below a root cannot be listed. -/
inductive Fault
  /-- The root is no folder. -/
  | notFolder (root : Path)
  /-- A look at the root, or at something below it, gives no answer. -/
  | file (f : Tree.PathFault)
  /-- An exclusion pattern is refused. -/
  | ignore (f : Ignore.Fault)
  /-- The extension makes no pattern. -/
  | glob (f : Glob.Fault)
  deriving DecidableEq

def Fault.message : Fault → Text
  | .notFolder root => "Not a directory: ".toList ++ root.text
  | .file f => f.message
  | .ignore f => f.message
  | .glob f => f.message

/-- The extension of pages unless told otherwise. -/
def defaultExtension : Text := ".rst".toList

/-- The pattern for the files with an extension. -/
def patternFor (extension : Text) : Except Glob.Fault Glob := Glob.ofText ('*' :: extension)

/-- The location of a root, which has to be a folder. -/
def rootFolder (t : Tree) (root : Path) : Except Fault Location :=
  match t.blocked? root with
  | some f => .error (.file f)
  | none =>
    match t.folder? root with
    | none => .error (.notFolder root)
    | some folder => .ok folder

/-- How many folders may be one below the other on a search. -/
def maxNested : Nat := 983

/-- The fault of the search at a way from a root and the step that is asked for then. A folder that
may not be entered is no fault here. -/
def searchFault? (t : Tree) (root way : Path) (asked : List Step) : Option Tree.PathFault :=
  if maxNested < way.nesting then some ⟨.tooDeep, root.append way⟩
  else (t.blocked? (root.append (way.append ⟨asked, .workingFolder⟩))).filter (·.fault = .tooLong)

/-- The first fault of the search for files below a root, or of the look at what it finds. -/
def fault? (t : Tree) (root : Path) (folder : Location) (g : Glob) : Option Tree.PathFault :=
  ((g.searched t folder).findSome? fun (way, asked) => searchFault? t root way asked).or
    ((g.found t folder).findSome? fun way => t.blocked? (root.append way))

/-- The pages below a folder that fit a pattern and that no rule excludes. -/
def select (t : Tree) (root : Path) (folder : Location) (rules : List Ignore.Rule) (g : Glob) :
    List Page :=
  (g.files t folder).filterMap fun place =>
    if t.isFile (root.append place) && !Ignore.excludes rules place.text then some ⟨root, place⟩
    else none

/-- The pages below a root. -/
def pages (t : Tree) (extension : Text) (patterns : List Text) (root : Path) :
    Except Fault (List Page) :=
  match rootFolder t root with
  | .error f => .error f
  | .ok folder =>
    match Ignore.ofPatterns patterns with
    | .error f => .error (.ignore f)
    | .ok rules =>
      match patternFor extension with
      | .error f => .error (.glob f)
      | .ok g =>
        match fault? t root folder g with
        | some f => .error (.file f)
        | none => .ok (select t root folder rules g)

theorem mem_select_iff {t : Tree} {root : Path} {folder : Location} {rules : List Ignore.Rule}
    {g : Glob} {p : Page} :
    p ∈ select t root folder rules g ↔
      p.root = root ∧ p.place ∈ g.files t folder ∧ t.isFile p.path = true ∧
        Ignore.excludes rules p.relative = false := by
  simp only [select, List.mem_filterMap, Option.ite_none_right_eq_some, Bool.and_eq_true,
    Bool.not_eq_true', Option.some.injEq]
  constructor
  · intro known
    obtain ⟨place, hf, ⟨hp, hi⟩, rfl⟩ := known
    exact ⟨rfl, hf, hp, hi⟩
  · intro known
    obtain ⟨rfl, hf, hp, hi⟩ := known
    exact ⟨p.place, hf, ⟨hp, hi⟩, rfl⟩

theorem select_eq_filter (t : Tree) (root : Path) (folder : Location)
    (rules : List Ignore.Rule) (g : Glob) :
    select t root folder rules g =
      (select t root folder [] g).filter fun p => !Ignore.excludes rules p.relative := by
  simp only [select, Ignore.excludes_nil, List.filter_filterMap]
  congr 1
  funext place
  by_cases hp : t.isFile (root.append place) = true <;>
    by_cases hi : Ignore.excludes rules place.text = true <;>
      simp [hp, hi, Option.filter, Page.relative]

end Listing

end DocSnippets
