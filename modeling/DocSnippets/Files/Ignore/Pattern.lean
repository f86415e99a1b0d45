import DocSnippets.Files.Ignore.Matcher
import DocSnippets.Text.Blank
import DocSnippets.Text.Quoted

/-!
# DocSnippets.Files.Ignore.Pattern

**Reading exclusion patterns.** A pattern line is empty, a comment, or asks something of a path;
after an exclamation mark it takes paths back in. A pattern without a slash before its end is asked
of every folder below the root.

A pattern is written as a regular expression first, because a bracket with a reversed range is
refused by its place in that expression.

An expression without brackets is never refused (`checkFrom_of_no_bracket`).
-/

namespace DocSnippets

namespace Ignore

/-! ### Regular expressions -/

/-- A bracket as a pattern writes it. -/
structure Bracket where
  /-- Whether it stands for the characters that are not in it. -/
  negated : Bool
  /-- What is between its ends. -/
  inside : Text
  deriving DecidableEq, Repr

/-- A part of a regular expression. -/
abbrev Token := Atom Bracket

/-- The characters that a regular expression has to escape. -/
def specials : Text := "()[]\x7b\x7d?*+-|^$\\.&~# \t\n\r\x0b\x0c".toList

/-- A character as it stands in a regular expression. -/
def escaped (c : Char) : Text := if specials.contains c then ['\\', c] else [c]

/-- A character as it stands in a bracket of a regular expression. -/
def bracketed (c : Char) : Text := if c = '\\' then ['\\', '\\'] else [c]

/-- A token as it stands in a regular expression. -/
def Token.text : Token → Text
  | .char c => escaped c
  | .notSlash => "[^/]".toList
  | .run nonempty => (if nonempty then "[^/]+" else "[^/]*").toList
  | .set b => '[' :: (if b.negated then ['^'] else []) ++ b.inside.flatMap bracketed ++ [']']
  | .leadingFolders => "(?:.+/)?".toList
  | .innerFolders => "(?:/.+)?".toList
  | .folderMark => "(?P<ps_d>/)".toList
  | .stop => "(?:(?P<ps_d>/)|$)".toList

/-- The regular expression of tokens, which match from the start of a path. -/
def expression (tokens : List Token) : Text := '^' :: tokens.flatMap Token.text

/-! ### Faults -/

/-- Why a pattern is refused. -/
inductive Fault
  /-- Nothing is left of the pattern, or it ends within an escape. -/
  | invalid (pattern : Text)
  /-- A range of a bracket is reversed; with its place in the regular expression. -/
  | reversedRange (first last : Char) (place : Nat) (regex : Text)
  deriving DecidableEq, Repr

/-- The place in a text with line breaks, by line and column. -/
def lineAndColumn (t : Text) (place : Nat) : Text :=
  let before := t.take place
  let column := (before.reverse.takeWhile (· != '\n')).length + 1
  " (line ".toList ++ Text.ofNat (before.count '\n' + 1) ++ ", column ".toList ++
    Text.ofNat column ++ [')']

def Fault.message : Fault → Text
  | .invalid pattern => "Invalid git pattern: ".toList ++ Quoted.quote pattern
  | .reversedRange first last place regex =>
    "bad character range ".toList ++ bracketed first ++ ['-'] ++ bracketed last ++
      " at position ".toList ++ Text.ofNat place ++
      (if regex.contains '\n' then lineAndColumn regex place else [])

/-! ### Brackets -/

/-- The ranges of a bracket given by its inside, or the reversed range with its place. -/
def bracketRanges (place : Nat) : Text → Except (Char × Char × Nat) (List (Char × Char))
  | [] => .ok []
  | [c] => .ok [(c, c)]
  | [c, d] => .ok [(c, c), (d, d)]
  | c :: '-' :: d :: rest =>
    if d < c then .error (c, d, place)
    else
      let width := (bracketed c).length + 1 + (bracketed d).length
      (bracketRanges (place + width) rest).map ((c, d) :: ·)
  | c :: d :: e :: rest =>
    (bracketRanges (place + (bracketed c).length) (d :: e :: rest)).map ((c, c) :: ·)

/-- A token with its bracket, if it is one, read; the place counts the characters of the
expression before the token. -/
def Token.check (place : Nat) : Token → Except (Char × Char × Nat) (Atom CharSet)
  | .set b =>
    (bracketRanges (place + if b.negated then 2 else 1) b.inside).map fun ranges =>
      .set ⟨b.negated, ranges⟩
  | .char c => .ok (.char c)
  | .notSlash => .ok .notSlash
  | .run nonempty => .ok (.run nonempty)
  | .leadingFolders => .ok .leadingFolders
  | .innerFolders => .ok .innerFolders
  | .folderMark => .ok .folderMark
  | .stop => .ok .stop

/-- The tokens with their brackets read, or the first reversed range. -/
def checkFrom (place : Nat) : List Token → Except (Char × Char × Nat) (List (Atom CharSet))
  | [] => .ok []
  | token :: rest => do
    let atom ← Token.check place token
    let atoms ← checkFrom (place + (Token.text token).length) rest
    return atom :: atoms

/-- What an expression asks of a path. -/
def check (tokens : List Token) : Except Fault (List (Atom CharSet)) :=
  match checkFrom 1 tokens with
  | .ok atoms => .ok atoms
  | .error (first, last, place) => .error (.reversedRange first last place (expression tokens))

theorem checkFrom_of_no_bracket {place : Nat} {tokens : List Token}
    (h : ∀ b, Atom.set b ∉ tokens) : ∃ atoms, checkFrom place tokens = .ok atoms := by
  induction tokens generalizing place with
  | nil => exact ⟨[], rfl⟩
  | cons token rest ih =>
    have own : ∃ atom, Token.check place token = .ok atom := by
      cases token with
      | set b => exact absurd List.mem_cons_self (h b)
      | _ => exact ⟨_, rfl⟩
    obtain ⟨atom, ha⟩ := own
    obtain ⟨atoms, hs⟩ := @ih (place + (Token.text token).length)
      fun b hb => h b (List.mem_cons_of_mem _ hb)
    exact ⟨atom :: atoms, by simp only [checkFrom, ha, bind, Except.bind, hs]; rfl⟩

/-! ### Segments -/

/-- Why a segment cannot be written as a regular expression. -/
inductive Unwritable
  /-- It ends with the start of an escape. -/
  | openEscape
  /-- It has a bracket without an end. -/
  | openBracket
  deriving DecidableEq, Repr

/-- Whether a bracket is negated, its inside, and what follows it, given what follows its start. -/
def bracket? : Text → Option (Bool × Text × Text)
  | '!' :: rest => (cutInside rest).map (true, ·)
  | '^' :: rest => (cutInside rest).map (true, ·)
  | rest => (cutInside rest).map (false, ·)
where
  /-- Cuts at the first closing bracket that is not the first character. -/
  cutInside : Text → Option (Text × Text)
    | ']' :: rest => cutAt? ']' 1 (']' :: rest)
    | t => cutAt? ']' 0 t

theorem length_of_bracket? {t inside rest : Text} {negated : Bool}
    (h : bracket? t = some (negated, inside, rest)) : rest.length < t.length := by
  have cut : ∀ {u a b : Text}, bracket?.cutInside u = some (a, b) → b.length < u.length := by
    intro u a b hu
    unfold bracket?.cutInside at hu
    split at hu <;> exact length_of_cutAt? hu
  unfold bracket? at h
  split at h
  all_goals
    obtain ⟨⟨a, b⟩, hc, he⟩ := Option.map_eq_some_iff.1 h
    simp only [Prod.mk.injEq] at he
    obtain ⟨-, rfl, rfl⟩ := he
    have := cut hc
    grind

/-- The tokens of a segment that is no star by itself. -/
def globTokens (t : Text) : Except Unwritable (List Token) :=
  match t with
  | [] => .ok []
  | ['\\'] => .error .openEscape
  | '\\' :: c :: rest => (globTokens rest).map (.char c :: ·)
  | '*' :: rest => (globTokens rest).map (.run false :: ·)
  | '?' :: rest => (globTokens rest).map (.notSlash :: ·)
  | '[' :: rest =>
    match _h : bracket? rest with
    | some (negated, inside, after) => (globTokens after).map (.set ⟨negated, inside⟩ :: ·)
    | none => .error .openBracket
  | c :: rest => (globTokens rest).map (.char c :: ·)
termination_by t.length
decreasing_by
  all_goals first
    | exact Nat.lt_trans (length_of_bracket? _h) (Nat.lt_succ_self _)
    | (simp only [List.length_cons]; omega)

/-- The segment for any number of folders. -/
def stars : Text := ['*', '*']

/-- The tokens of segments that follow others; `slash` says whether a slash has to come first. -/
def laterTokens (folder slash : Bool) : List Text → Except Unwritable (List Token)
  | [] => .ok []
  | segment :: rest =>
    if segment = stars then
      -- at the end the double star asks for something below what comes before it
      if rest = [] then .ok [if folder then .folderMark else .char '/']
      else (laterTokens folder true rest).map (.innerFolders :: ·)
    else do
      let own ← if segment = ['*'] then .ok [.run true] else globTokens segment
      let after ← laterTokens folder true rest
      return (if slash then [.char '/'] else []) ++ own ++
        (if rest = [] then [.stop] else []) ++ after

/-- The tokens of all segments of a pattern. -/
def tokens (folder : Bool) : List Text → Except Unwritable (List Token)
  | [] => .ok []
  | segment :: rest =>
    if segment = stars then (laterTokens folder false rest).map (.leadingFolders :: ·)
    else laterTokens folder false (segment :: rest)

/-! ### Lines -/

/-- A pattern that asks something of a path. -/
structure Rule where
  /-- Whether the paths that are as asked are excluded, or taken back in. -/
  excludes : Bool
  ask : Ask
  deriving DecidableEq, Repr

/-- Segments with each row of neighbouring double stars made one. -/
def collapseStars : List Text → List Text
  | [] => []
  | [segment] => [segment]
  | segment :: next :: rest =>
    if segment = stars ∧ next = stars then collapseStars (next :: rest)
    else segment :: collapseStars (next :: rest)

/-- Segments that are asked of every folder where the pattern has no slash before its end. -/
def anchor : List Text → List Text
  | [] => []
  | [] :: rest => rest
  | [segment] => if segment = stars then [segment] else [stars, segment]
  | [segment, []] => if segment = stars then [segment, []] else [stars, segment, []]
  | segments => segments

/-- Segments with an empty one at the end made a double star. -/
def openEnd (segments : List Text) : List Text :=
  if segments.getLast? = some [] then segments.dropLast ++ [stars] else segments

/-- What segments ask of a path. -/
def askOf (pattern : Text) (folder : Bool) (segments : List Text) :
    Except Fault (Option Ask) :=
  -- patterns that hold of all paths, or of all below a folder, are asked without a row of atoms
  if segments = [stars] then .ok (some (if folder then .inFolder true else .anything))
  else if segments = [stars, ['*']] then .ok (some .anything)
  else if segments = [stars, ['*'], stars] then .ok (some (.inFolder folder))
  else
    match tokens folder segments with
    | .error .openEscape => .error (.invalid pattern)
    -- a bracket without an end makes the whole pattern ask nothing
    | .error .openBracket => .ok none
    | .ok ts => (check ts).map fun atoms => some (.row atoms)

/-- The rule of a pattern after its exclamation mark, if it has one. -/
def ruleOf (pattern : Text) (excludes : Bool) (body : Text) : Except Fault (Option Rule) :=
  let parts := body.split '/'
  match anchor parts with
  | [] => .error (.invalid pattern)
  | segments =>
    (askOf pattern (parts.getLast? == some []) (collapseStars (openEnd segments))).map
      (Option.map (Rule.mk excludes))

/-- A pattern line without the blanks at its end, unless the last one is escaped. -/
def trimLine (pattern : Text) : Text :=
  if ['\\', ' '].isSuffixOf pattern then pattern else pattern.trimEnd

/-- The rule of a pattern line; none if it asks nothing. -/
def Rule.ofLine (pattern : Text) : Except Fault (Option Rule) :=
  match trimLine pattern with
  | [] => .ok none
  | '#' :: _ => .ok none
  | ['/'] => .ok none
  | '!' :: body => ruleOf pattern false body
  | body => ruleOf pattern true body

end Ignore

end DocSnippets
