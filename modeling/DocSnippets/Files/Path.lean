import DocSnippets.Text.Basic

/-!
# DocSnippets.Files.Path

**Names, locations and paths.** A name is what a folder holds an entry under. A location is the
list of names that leads to an entry from the top of a file system. A path is what a caller writes:
names and steps up, from the working folder or from the top. `Path.ofText_text` says that a path is
read back from its text.

The name of a page without its extension is its stem; `IsStem` says which one that is without
saying how it is found.
-/

namespace DocSnippets

/-! ### Names -/

/-- Whether a text can name an entry of a folder. -/
def isProperName (t : Text) : Bool :=
  !t.isEmpty && !t.contains '/' && t != ['.'] && t != ['.', '.']

/-- The name of an entry in its folder. -/
structure Name where
  text : Text
  /-- The characters can name an entry. -/
  proper : isProperName text = true
  deriving DecidableEq

namespace Name

/-- The name with the characters of a string. -/
def of (s : String) (proper : isProperName s.toList = true := by decide) : Name :=
  ⟨s.toList, proper⟩

theorem text_ne_nil (n : Name) : n.text ≠ [] := by
  have := n.proper
  simp only [isProperName, Bool.and_eq_true, Bool.not_eq_true'] at this
  simpa using this.1.1.1

theorem slash_notMem_text (n : Name) : '/' ∉ n.text := by
  have := n.proper
  simp only [isProperName, Bool.and_eq_true, Bool.not_eq_true'] at this
  simpa using this.1.1.2

theorem text_ne_up (n : Name) : n.text ≠ ['.', '.'] := by
  have := n.proper
  simp only [isProperName, Bool.and_eq_true, bne_iff_ne] at this
  exact this.2

theorem text_injective {m n : Name} (h : m.text = n.text) : m = n := by
  cases m; cases n; simpa using h

end Name

/-! ### Limits -/

/-- How many bytes a text takes in a file system. -/
def byteSize (t : Text) : Nat := total (t.map Char.utf8Size)

/-- How many bytes a name may take. -/
def maxNameSize : Nat := 255

/-- How many bytes a path may take. -/
def maxPathSize : Nat := 4095

/-- Whether a name is longer than any file system takes. -/
def Name.isLong (n : Name) : Bool := decide (maxNameSize < byteSize n.text)

/-! ### Stems -/

/-- A text cut at its last full stop; none if it has none. -/
def lastDot? (t : Text) : Option (Text × Text) :=
  match t.reverse.dropWhile (· != '.') with
  | [] => none
  | _ :: before => some (before.reverse, (t.reverse.takeWhile (· != '.')).reverse)

theorem append_of_lastDot? {t before after : Text} (h : lastDot? t = some (before, after)) :
    before ++ '.' :: after = t := by
  unfold lastDot? at h
  split at h
  · simp at h
  · rename_i c rest hd
    obtain ⟨rfl, rfl⟩ := Prod.mk.inj (Option.some.inj h)
    have hc : c = '.' := by
      have := List.head?_dropWhile_not (fun x : Char => x != '.') t.reverse
      simpa [hd] using this
    have whole := List.takeWhile_append_dropWhile (p := fun x : Char => x != '.') (l := t.reverse)
    rw [hd, hc] at whole
    have := congrArg List.reverse whole
    simpa using this

/-- The name of a page without its extension: what stands before the last full stop, unless that
stop is the first or the last character. -/
def stem (name : Text) : Text :=
  match lastDot? name with
  | some (before, after) => if before = [] ∨ after = [] then name else before
  | none => name

theorem lastDot?_append (before : Text) {after : Text} (last : '.' ∉ after) :
    lastDot? (before ++ '.' :: after) = some (before, after) := by
  have others : ∀ c ∈ after.reverse, (c != '.') = true := by
    intro c hc
    rw [bne_iff_ne]
    exact fun same => last (same ▸ List.mem_reverse.1 hc)
  have reversed : (before ++ '.' :: after).reverse = after.reverse ++ '.' :: before.reverse := by
    simp
  rw [lastDot?, reversed, List.dropWhile_append_of_pos others, List.takeWhile_append_of_pos others]
  simp

theorem exists_lastDot {t : Text} (h : '.' ∈ t) :
    ∃ before after, t = before ++ '.' :: after ∧ '.' ∉ after := by
  obtain ⟨after, before, parts, last⟩ := List.eq_append_cons_of_mem (List.mem_reverse.2 h)
  refine ⟨before.reverse, after.reverse, ?_, fun found => last (List.mem_reverse.1 found)⟩
  rw [← List.reverse_reverse t, parts]
  simp

/-- What is left of the name of a page without its extension. -/
inductive IsStem : Text → Text → Prop
  /-- The extension begins with the last full stop, which has something before it and after it. -/
  | cut {before after : Text} (named : before ≠ []) (more : after ≠ []) (last : '.' ∉ after) :
      IsStem (before ++ '.' :: after) before
  /-- There is no full stop, or the last one has nothing before it or nothing after it. -/
  | whole {name : Text}
      (bare : ∀ before after, name = before ++ '.' :: after → '.' ∉ after →
        before = [] ∨ after = []) :
      IsStem name name

theorem isStem_stem (name : Text) : IsStem name (stem name) := by
  by_cases dot : '.' ∈ name
  · obtain ⟨before, after, rfl, last⟩ := exists_lastDot dot
    rw [stem, lastDot?_append before last]
    simp only
    split
    · rename_i short
      refine .whole fun first rest parts free => ?_
      -- the last full stop is the same one, however it is found
      have same := lastDot?_append first free
      rw [← parts, lastDot?_append before last] at same
      cases same
      exact short
    · rename_i long
      obtain ⟨named, more⟩ := not_or.1 long
      exact .cut named more last
  · have none : lastDot? name = none := by
      cases h : lastDot? name with
      | none => rfl
      | some sides =>
        rw [← append_of_lastDot? h] at dot
        exact absurd (by simp) dot
    rw [stem, none]
    exact .whole fun before after parts _ => absurd (by rw [parts]; simp) dot

theorem IsStem.eq_stem {name s : Text} (h : IsStem name s) : s = stem name := by
  cases h with
  | cut named more last =>
    rw [stem, lastDot?_append _ last]
    simp [named, more]
  | whole bare =>
    have own := isStem_stem name
    generalize stem name = other at own ⊢
    cases own with
    | cut named more last => exact absurd (bare _ _ rfl last) (by simp [named, more])
    | whole _ => rfl

theorem stem_ne_nil {name : Text} (h : name ≠ []) : stem name ≠ [] := by
  have own := isStem_stem name
  generalize stem name = s at own ⊢
  cases own with
  | cut named => exact named
  | whole => exact h

/-! ### Locations -/

/-- Where an entry is: the names on the way from the working folder. -/
abbrev Location := List Name

namespace Location

def texts (l : Location) : List Text := l.map Name.text

/-- The names, slashes between them. -/
def text (l : Location) : Text := Text.join ['/'] l.texts

theorem texts_injective {l m : Location} (h : l.texts = m.texts) : l = m := by
  induction l generalizing m with
  | nil => cases m <;> simp_all [texts]
  | cons a r ih =>
    cases m with
    | nil => simp [texts] at h
    | cons b s =>
      simp only [texts, List.map_cons, List.cons.injEq] at h
      rw [Name.text_injective h.1, ih h.2]

end Location

/-! ### Paths -/

/-- One step of a path. -/
inductive Step
  /-- To the folder above. -/
  | up
  | name (n : Name)
  deriving DecidableEq

/-- The step that a part of a path stands for; empty parts and lone full stops stand for none. -/
def Step.ofPart? (part : Text) : Option Step :=
  if part = ['.', '.'] then some .up
  else if h : isProperName part = true then some (.name ⟨part, h⟩)
  else none

/-- A step as it is written. -/
def Step.text : Step → Text
  | .up => ['.', '.']
  | .name n => n.text

/-- Whether a step goes to a name that is longer than any file system takes. -/
def Step.isLong : Step → Bool
  | .up => false
  | .name n => n.isLong

/-- Where a path starts. -/
inductive Start
  | workingFolder
  | top
  /-- At the top as well, written with two slashes, which systems may tell from one. -/
  | doubleTop
  deriving DecidableEq

def Start.text : Start → Text
  | .workingFolder => []
  | .top => ['/']
  | .doubleTop => ['/', '/']

/-- Where a path starts that is written with so many slashes in front. -/
def Start.ofSlashes : Nat → Start
  | 0 => .workingFolder
  | 2 => .doubleTop
  | _ => .top

/-- The steps from where a path starts. -/
structure Path where
  steps : List Step
  start : Start := .workingFolder
  deriving DecidableEq

namespace Path

/-- The path that a text writes. -/
def ofText (t : Text) : Path where
  steps := (t.split '/').filterMap Step.ofPart?
  start := .ofSlashes (t.takeWhile (· == '/')).length

/-- A path as it is written. The path without steps from the working folder is a full stop. -/
def text (p : Path) : Text :=
  match p.start, p.steps with
  | .workingFolder, [] => ['.']
  | start, steps => start.text ++ Text.join ['/'] (steps.map Step.text)

/-- The path of the folder above the last step. -/
def parent (p : Path) : Path := { p with steps := p.steps.dropLast }

/-- A path and then the steps of another one from where it leads. -/
def append (p q : Path) : Path := { p with steps := p.steps ++ q.steps }

/-- The path through the names of a location. -/
def ofLocation (l : Location) : Path where
  steps := l.map .name

/-- The path of one step up. -/
def up : Path where
  steps := [.up]

/-- The last name of a path; empty for a path without steps. -/
def lastName (p : Path) : Text :=
  match p.steps.getLast? with
  | some step => step.text
  | none => []

/-- Whether a NUL character occurs in a path, which no file system takes. -/
def hasNul (p : Path) : Bool := p.steps.any fun s => s.text.contains '\x00'

/-- Whether a path is longer than any file system takes. -/
def isLong (p : Path) : Bool := decide (maxPathSize < byteSize p.text)

/-- Whether a path, or a name in it, is longer than any file system takes. -/
def isTooLong (p : Path) : Bool := p.isLong || p.steps.any Step.isLong

/-- How many names stand at the end of a path, after its last step up. -/
def nesting (p : Path) : Nat := (p.steps.reverse.takeWhile (· ≠ .up)).length

/-- The path to a location is written like the location, unless that is the first one. -/
theorem text_ofLocation {l : Location} (h : l ≠ []) : (ofLocation l).text = l.text := by
  cases l with
  | nil => exact absurd rfl h
  | cons n rest =>
    simp [ofLocation, text, Start.text, Location.text, Location.texts, Step.text,
      Function.comp_def]

theorem nesting_ofLocation (l : Location) : (ofLocation l).nesting = l.length := by
  have names : ∀ step ∈ (l.map Step.name).reverse, decide (step ≠ .up) = true := by simp
  have all : ((l.map Step.name).reverse ++ []).takeWhile (fun s => decide (s ≠ Step.up)) =
      (l.map Step.name).reverse ++ [] := List.takeWhile_append_of_pos names
  rw [List.append_nil] at all
  rw [nesting, ofLocation, all, List.length_reverse, List.length_map]

theorem ofPart?_text (s : Step) : Step.ofPart? s.text = some s := by
  cases s with
  | up => rfl
  | name n => simp [Step.text, Step.ofPart?, n.text_ne_up, n.proper]

theorem slash_notMem_text (s : Step) : '/' ∉ s.text := by
  cases s with
  | up => decide
  | name n => exact n.slash_notMem_text

theorem text_ne_nil (s : Step) : s.text ≠ [] := by
  cases s with
  | up => decide
  | name n => exact n.text_ne_nil

theorem takeWhile_slash_join (steps : List Step) :
    (Text.join ['/'] (steps.map Step.text)).takeWhile (· == '/') = [] := by
  cases steps with
  | nil => rfl
  | cons s rest =>
    obtain ⟨c, more, spelled⟩ := List.exists_cons_of_ne_nil (text_ne_nil s)
    have plain : c ≠ '/' := fun slash => slash_notMem_text s (by simp [spelled, slash])
    cases rest with
    | nil => simp [spelled, plain]
    | cons s' rest => simp [Text.join_cons_cons, spelled, plain]

theorem filterMap_split_join (steps : List Step) :
    ((Text.join ['/'] (steps.map Step.text)).split '/').filterMap Step.ofPart? = steps := by
  cases steps with
  | nil => rfl
  | cons s rest =>
    have noSlash : ∀ part ∈ (s :: rest).map Step.text, '/' ∉ part := by
      intro part hp
      obtain ⟨step, -, rfl⟩ := List.mem_map.1 hp
      exact slash_notMem_text step
    have back : Step.ofPart? ∘ Step.text = some := funext ofPart?_text
    rw [Text.join_split _ (by simp) noSlash, List.filterMap_map, back, List.filterMap_some]

theorem filterMap_split_slash (t : Text) :
    (Text.split '/' ('/' :: t)).filterMap Step.ofPart? =
      (t.split '/').filterMap Step.ofPart? := by
  simp [Text.split, Step.ofPart?, isProperName]

/-- A path is read back from its text. -/
theorem ofText_text (p : Path) : ofText p.text = p := by
  obtain ⟨steps, start⟩ := p
  have written := filterMap_split_join steps
  have slashes := takeWhile_slash_join steps
  cases start with
  | workingFolder =>
    cases steps with
    | nil => rfl
    | cons s rest =>
      simp only [ofText, text, Start.text, List.nil_append, written, slashes]
      rfl
  | top =>
    simp only [ofText, text, Start.text, List.cons_append, List.nil_append,
      filterMap_split_slash, written, List.takeWhile_cons, slashes]
    rfl
  | doubleTop =>
    simp only [ofText, text, Start.text, List.cons_append, List.nil_append,
      filterMap_split_slash, written, List.takeWhile_cons, slashes]
    rfl

end Path

end DocSnippets
