import DocSnippets.Files.CharSet
import DocSnippets.Files.Path

/-!
# DocSnippets.Files.Glob

**Glob patterns for file paths.** A pattern is split at slashes. A segment `**` stands for any
number of folders and a segment `..` for a step up; any other segment matches one name: `*` any
characters, `?` one character, a bracket one character of a set. A bracket without an end is an
ordinary character. A pattern that ends with a slash matches folders only.

The pieces of a segment are asked of all ends of a name at once, from the last piece to the first,
so the time grows with the number of pieces and the length of the name only. `matchPieces_star` and
`matchPieces_one` say that this is matching the pieces one after the other.
-/

namespace DocSnippets

namespace Glob

/-! ### Brackets -/

/-- The parts of a bracket's inside between the hyphens that make ranges. A hyphen makes a range
where a character comes before it and one after it; from the second range on, the character before
it is not the end of the range before. -/
def rangeParts (skip : Nat) (inside : Text) : List Text :=
  match _h : cutAt? '-' skip inside with
  | none => [inside]
  | some (before, []) => [before ++ ['-']]
  | some (before, c :: rest) => before :: rangeParts 2 (c :: rest)
termination_by inside.length
decreasing_by exact length_of_cutAt? _h

/-- The parts without the ranges whose first character comes after their last one. -/
def dropEmptyRanges : List Text → List Text
  | [] => []
  | part :: rest =>
    match dropEmptyRanges rest with
    | [] => [part]
    | next :: more =>
      match part.getLast?, next with
      | some lo, hi :: tail =>
        if hi < lo then (part.dropLast ++ tail) :: more else part :: next :: more
      | _, _ => part :: next :: more

/-- The ranges between neighbouring parts. -/
def rangesBetween : List Text → List (Char × Char)
  | part :: next :: rest =>
    match part.getLast?, next.head? with
    | some lo, some hi => (lo, hi) :: rangesBetween (next :: rest)
    | _, _ => rangesBetween (next :: rest)
  | _ => []

/-- The ranges of a bracket given by its parts. -/
def rangesOf (parts : List Text) : List (Char × Char) :=
  (parts.flatten.map fun c => (c, c)) ++ rangesBetween parts

/-- The set of a bracket given by its inside. -/
def bracketSet (inside : Text) : CharSet :=
  let skip := if inside.head? = some '!' then 2 else 1
  match dropEmptyRanges (rangeParts skip inside) with
  | ('!' :: []) :: next :: rest => ⟨true, rangesOf (('-' :: next) :: rest)⟩
  | ('!' :: part) :: rest => ⟨true, rangesOf (part :: rest)⟩
  | parts => ⟨false, rangesOf parts⟩

/-- The inside of a bracket and what follows it, given what follows its start. -/
def bracket? (t : Text) : Option (Text × Text) :=
  match t with
  | '!' :: ']' :: _ => cutAt? ']' 2 t
  | '!' :: _ => cutAt? ']' 1 t
  | ']' :: _ => cutAt? ']' 1 t
  | _ => cutAt? ']' 0 t

theorem length_of_bracket? {t inside rest : Text} (h : bracket? t = some (inside, rest)) :
    rest.length < t.length := by
  unfold bracket? at h
  split at h <;> exact length_of_cutAt? h

/-! ### Segments -/

/-- A part of a segment. -/
inductive Piece
  /-- Any number of characters. -/
  | star
  /-- One character of a set. -/
  | one (set : CharSet)
  deriving DecidableEq, Repr

/-- The pieces of a segment. -/
def pieces (t : Text) : List Piece :=
  match t with
  | [] => []
  | '*' :: rest => .star :: pieces rest
  | '?' :: rest => .one .all :: pieces rest
  | '[' :: rest =>
    match _h : bracket? rest with
    | some (inside, after) => .one (bracketSet inside) :: pieces after
    | none => .one (.single '[') :: pieces rest
  | c :: rest => .one (.single c) :: pieces rest
termination_by t.length
decreasing_by
  all_goals first
    | exact Nat.lt_trans (length_of_bracket? _h) (Nat.lt_succ_self _)
    | simp

/-- Every answer joined with those after it. -/
def anyFrom : List Bool → List Bool
  | [] => []
  | b :: rest =>
    let later := anyFrom rest
    (b || later.headD false) :: later

/-- Whether pieces match a name, and each text that is left after dropping characters from its
start, down to the empty one. -/
def matchEnds (name : Text) : List Piece → List Bool
  | [] => name.map (fun _ => false) ++ [true]
  | .star :: rest => anyFrom (matchEnds name rest)
  | .one set :: rest =>
    name.zipWith (fun c later => set.has c && later) (matchEnds name rest).tail ++ [false]

/-- Whether pieces match a whole name. -/
def matchPieces (ps : List Piece) (name : Text) : Bool := (matchEnds name ps).headD false

@[simp] theorem length_anyFrom (answers : List Bool) :
    (anyFrom answers).length = answers.length := by
  induction answers with
  | nil => rfl
  | cons b rest ih => simp [anyFrom, ih]

@[simp] theorem length_matchEnds (name : Text) (ps : List Piece) :
    (matchEnds name ps).length = name.length + 1 := by
  induction ps with
  | nil => simp [matchEnds]
  | cons p rest ih => cases p <;> simp [matchEnds, ih]

/-- The answers for a name go on with the answers for the name without its first character. -/
theorem matchEnds_cons (c : Char) (name : Text) (ps : List Piece) :
    matchEnds (c :: name) ps = matchPieces ps (c :: name) :: matchEnds name ps := by
  have tail : ∃ b, matchEnds (c :: name) ps = b :: matchEnds name ps := by
    induction ps with
    | nil => exact ⟨false, rfl⟩
    | cons p rest ih =>
      obtain ⟨b, hb⟩ := ih
      cases p with
      | star => exact ⟨_, by rw [matchEnds, hb, anyFrom]; rfl⟩
      | one set =>
        cases hm : matchEnds name rest with
        | nil => simpa [hm] using length_matchEnds name rest
        | cons later more => exact ⟨_, by rw [matchEnds, hb, matchEnds, hm]; rfl⟩
  obtain ⟨b, hb⟩ := tail
  simp [matchPieces, hb]

theorem matchEnds_nil (ps : List Piece) : matchEnds [] ps = [matchPieces ps []] := by
  have := length_matchEnds [] ps
  match h : matchEnds [] ps with
  | [] => simp [h] at this
  | [b] => simp [matchPieces, h]
  | _ :: _ :: _ => simp [h] at this

/-- Whether a test holds of a list or of one that is left after dropping items from its start. -/
def anyRest {α : Type} (test : List α → Bool) : List α → Bool
  | [] => test []
  | item :: rest => test (item :: rest) || anyRest test rest

theorem anyRest_iff {α : Type} {test : List α → Bool} {items : List α} :
    anyRest test items = true ↔ ∃ before rest, items = before ++ rest ∧ test rest = true := by
  induction items with
  | nil =>
    refine ⟨fun h => ⟨[], [], rfl, h⟩, ?_⟩
    intro known
    obtain ⟨before, rest, he, h⟩ := known
    obtain ⟨rfl, rfl⟩ := List.append_eq_nil_iff.1 he.symm
    exact h
  | cons c rest ih =>
    simp only [anyRest, Bool.or_eq_true, ih]
    constructor
    · intro known
      obtain h | ⟨before, r, rfl, h⟩ := known
      · exact ⟨[], c :: rest, rfl, h⟩
      · exact ⟨c :: before, r, rfl, h⟩
    · intro known
      obtain ⟨before, r, he, h⟩ := known
      cases before with
      | nil => exact .inl (by simpa [he] using h)
      | cons d before =>
        obtain ⟨rfl, rfl⟩ := List.cons.inj he
        exact .inr ⟨before, r, rfl, h⟩

@[simp] theorem matchPieces_nil (name : Text) : matchPieces [] name = name.isEmpty := by
  cases name <;> rfl

theorem matchPieces_star (rest : List Piece) (name : Text) :
    matchPieces (.star :: rest) name = anyRest (matchPieces rest) name := by
  have answers : matchPieces (.star :: rest) name = (anyFrom (matchEnds name rest)).headD false :=
    rfl
  rw [answers]
  clear answers
  induction name with
  | nil => rw [matchEnds_nil]; simp [anyFrom, anyRest]
  | cons c name ih => rw [matchEnds_cons, anyFrom, anyRest, ← ih]; rfl

/-- A set matches one of its characters. -/
theorem matchPieces_one (set : CharSet) (rest : List Piece) (name : Text) :
    matchPieces (.one set :: rest) name =
      match name with
      | [] => false
      | c :: name => set.has c && matchPieces rest name := by
  cases name with
  | nil => rfl
  | cons c name =>
    have answers : matchPieces (.one set :: rest) (c :: name) =
        (((c :: name).zipWith (fun c later => set.has c && later)
          (matchEnds (c :: name) rest).tail) ++ [false]).headD false := rfl
    have first : matchPieces rest name = (matchEnds name rest).headD false := rfl
    rw [answers, matchEnds_cons, List.tail_cons]
    dsimp only
    rw [first]
    cases hm : matchEnds name rest with
    | nil => simp [hm] at first; have := length_matchEnds name rest; simp [hm] at this
    | cons later more => rfl

theorem matchPieces_literal {t name : Text} :
    matchPieces (t.map fun c => .one (.single c)) name = true ↔ name = t := by
  induction t generalizing name with
  | nil => simp
  | cons c rest ih =>
    cases name with
    | nil => simp [matchPieces_one]
    | cons d name => simp [matchPieces_one, ih]

/-- A star and characters without wildcards match the names that end with these characters. -/
theorem matchPieces_star_literal {t name : Text} :
    matchPieces (.star :: t.map fun c => .one (.single c)) name = true ↔ t <:+ name := by
  simp only [matchPieces_star, anyRest_iff, matchPieces_literal]
  constructor
  · intro known
    obtain ⟨before, rest, rfl, rfl⟩ := known
    exact List.suffix_append _ _
  · intro known
    obtain ⟨before, rfl⟩ := known
    exact ⟨before, t, rfl, rfl⟩

theorem pieces_literal {t : Text} (h : ∀ c ∈ t, c ≠ '*' ∧ c ≠ '?' ∧ c ≠ '[') :
    pieces t = t.map fun c => .one (.single c) := by
  induction t with
  | nil => simp [pieces]
  | cons c rest ih =>
    have hc := h c (by simp)
    rw [pieces.eq_5 _ _ (by simp [hc.1]) (by simp [hc.2.1]) (by simp [hc.2.2]),
      ih fun d hd => h d (by simp [hd])]
    rfl

/-! ### Patterns -/

/-- A segment of a pattern, other than a step up. -/
inductive Segment
  /-- Any number of folders. -/
  | folders
  | exact (n : Name)
  | name (pieces : List Piece)
  deriving DecidableEq

/-- Why a text is no pattern. -/
inductive Fault
  /-- A segment has two stars in a row among other characters. -/
  | mixedStars
  deriving DecidableEq, Repr

def Fault.message : Fault → Text
  | .mixedStars => "Invalid pattern: '**' can only be an entire path component".toList

/-- Whether a character has a meaning of its own in a segment. -/
def isWildcard (c : Char) : Bool := c == '*' || c == '?' || c == '['

/-- The segment that a part of a pattern writes. -/
def segment (part : Text) : Except Fault Segment :=
  if part = ['*', '*'] then .ok .folders
  else if part.holds ['*', '*'] then .error .mixedStars
  else if h : part.any isWildcard = false ∧ isProperName part = true then .ok (.exact ⟨part, h.2⟩)
  else .ok (.name (pieces part))

/-- The segments that parts of a pattern write, up to the first step up and after each one. -/
def blocks : List Text → Except Fault (List Segment × List (List Segment))
  | [] => .ok ([], [])
  | part :: rest => do
    if part = ['.', '.'] then
      let (first, later) ← blocks rest
      return ([], first :: later)
    else
      let own ← segment part
      let (first, later) ← blocks rest
      return (own :: first, later)

/-- Whether segments match all names of the path of a folder or of a file. -/
def matchNames (folder : Bool) : List Segment → List Text → Bool
  | [], names => names.isEmpty
  -- a double star at the end stands for folders, and a file is none
  | [.folders], _ => folder
  | .folders :: next :: rest, names => anyRest (matchNames folder (next :: rest)) names
  | .exact _ :: _, [] => false
  | .exact n :: rest, own :: names => n.text == own && matchNames folder rest names
  | .name _ :: _, [] => false
  | .name ps :: rest, own :: names => matchPieces ps own && matchNames folder rest names

end Glob

/-- A pattern for the paths of files and folders. -/
structure Glob where
  /-- What the names of a path have to match, up to the first step up. -/
  first : List Glob.Segment
  /-- What they have to match after each step up. -/
  later : List (List Glob.Segment)
  /-- Whether only folders match. -/
  foldersOnly : Bool
  deriving DecidableEq

namespace Glob

/-- The pattern that a text writes, for paths at any depth. -/
def ofText (t : Text) : Except Fault Glob := do
  let parts := (t.split '/').filter fun part => part != [] && part != ['.']
  let (first, later) ← blocks parts
  return ⟨.folders :: first, later, t.getLast? == some '/'⟩

/-! ### Starts of a pattern -/

/-- The step to a name that a segment asks for, if it matches that name only. -/
def Segment.asked : Segment → List Step
  | .exact n => [.name n]
  | .folders | .name _ => []

/-- The starts of a block of segments, the whole block included, each with what the segment right
after it asks for. -/
def blockStarts : List Segment → List (List Segment × List Step)
  | [] => [([], [])]
  | s :: rest => ([], s.asked) :: (blockStarts rest).map fun (block, asked) => (s :: block, asked)

/-- The starts of the blocks of a pattern, all blocks included, each with what is asked for by name
right after it; a step up always is. -/
def starts (first : List Segment) :
    List (List Segment) → List (List Segment × List (List Segment) × List Step)
  | [] => (blockStarts first).map fun (block, asked) => (block, [], asked)
  | next :: later =>
    (blockStarts first).map (fun (block, asked) => (block, [], asked)) ++
      (first, [], [.up]) ::
        (starts next later).map fun (block, more, asked) => (first, block :: more, asked)

end Glob

end DocSnippets
