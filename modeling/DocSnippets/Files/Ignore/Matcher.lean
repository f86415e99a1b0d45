import DocSnippets.Files.CharSet

/-!
# DocSnippets.Files.Ignore.Matcher

**What an exclusion pattern asks of a path**: a row of atoms, matched from the start of the path,
each as long as it can be. The match tells whether it ended at a slash under the folder mark; of
several ways to match the first one found counts.

`matchAtoms` says what a row matches; `answers` works it out for all ends of the path at once, and
`Ask.test_row` says that the two agree.
-/

namespace DocSnippets

namespace Ignore

/-- One part of what is asked of a path, where `σ` is how sets of characters are given. -/
inductive Atom (σ : Type)
  | char (c : Char)
  /-- One character that is no slash. -/
  | notSlash
  /-- Any number of characters that are no slashes, but not none where it has to be `nonempty`. -/
  | run (nonempty : Bool)
  /-- One character of a set. -/
  | set (chars : σ)
  /-- Nothing, or any folders with the slash after them. -/
  | leadingFolders
  /-- Nothing, or a slash and any names after it. -/
  | innerFolders
  /-- A slash under the folder mark. -/
  | folderMark
  /-- A slash under the folder mark, or the end of the path. -/
  | stop
  deriving DecidableEq, Repr

/-- Whether a character stays on its line. -/
def staysOnLine (c : Char) : Bool := c != '\n'

/-- What may be left after a run of characters that pass a test, the longest run first. -/
def leftAfterRun (pass : Char → Bool) : Text → List Text
  | [] => [[]]
  | c :: rest => if pass c then leftAfterRun pass rest ++ [c :: rest] else [c :: rest]

/-- Asks of what is left after a run of characters that pass a test. -/
def runThen (pass : Char → Bool) (next : Text → Option Bool) (t : Text) : Option Bool :=
  (leftAfterRun pass t).findSome? next

/-- Asks of what is left after one character that passes a test. -/
def oneThen (pass : Char → Bool) (next : Text → Option Bool) : Text → Option Bool
  | c :: rest => if pass c then next rest else none
  | [] => none

/-- Asks of nothing that is left, or of a line feed. -/
def endThen (next : Text → Option Bool) (t : Text) : Option Bool :=
  if t = [] ∨ t = ['\n'] then next t else none

/-- The same with the folder mark met. -/
def underMark (next : Text → Option Bool) (t : Text) : Option Bool := (next t).map fun _ => true

/-- Asks first one thing and, if that fails, another one. -/
def firstOf (first second : Text → Option Bool) (t : Text) : Option Bool := (first t).or (second t)

/-- Whether the atoms match at the start of a text and, if so, whether the folder mark was met. -/
def matchAtoms : List (Atom CharSet) → Text → Option Bool
  | [] => fun _ => some false
  | .char c :: rest => oneThen (c == ·) (matchAtoms rest)
  | .notSlash :: rest => oneThen (· != '/') (matchAtoms rest)
  | .run false :: rest => runThen (· != '/') (matchAtoms rest)
  | .run true :: rest => oneThen (· != '/') (runThen (· != '/') (matchAtoms rest))
  | .set chars :: rest => oneThen chars.has (matchAtoms rest)
  | .leadingFolders :: rest =>
    firstOf (oneThen staysOnLine (runThen staysOnLine (oneThen (· == '/') (matchAtoms rest))))
      (matchAtoms rest)
  | .innerFolders :: rest =>
    firstOf (oneThen (· == '/') (oneThen staysOnLine (runThen staysOnLine (matchAtoms rest))))
      (matchAtoms rest)
  | .folderMark :: rest => oneThen (· == '/') (underMark (matchAtoms rest))
  | .stop :: rest =>
    firstOf (oneThen (· == '/') (underMark (matchAtoms rest))) (endThen (matchAtoms rest))

/-! ### Answers for all that may be left

The atoms are asked of each end of a path once, the later atoms first. So the time grows with the
number of atoms and the length of the path, where to try all ways one after the other takes time
exponential in the number of runs. -/

/-- The answers of a question for a text and for each text that is left after dropping characters
from its start, down to the empty one. -/
abbrev Answers := List (Option Bool)

/-- The answers of a question. -/
def answersOf (ask : Text → Option Bool) : Text → Answers
  | [] => [ask []]
  | c :: t => ask (c :: t) :: answersOf ask t

/-- The answers after one character that passes a test. -/
def afterOne (pass : Char → Bool) : Text → Answers → Answers
  | c :: t, _ :: later => (if pass c then later.headD none else none) :: afterOne pass t later
  | _, _ => [none]

/-- The answers after a run of characters that pass a test, the longest run first. -/
def afterRun (pass : Char → Bool) : Text → Answers → Answers
  | c :: t, answer :: later =>
    let longer := afterRun pass t later
    (if pass c then (longer.headD none).or answer else answer) :: longer
  | _, later => later

/-- The answers where nothing is left, or a line feed. -/
def atEnd : Text → Answers → Answers
  | c :: t, answer :: later => (if c = '\n' ∧ t = [] then answer else none) :: atEnd t later
  | _, later => later

/-- The answers with the folder mark met. -/
def marked (answers : Answers) : Answers := answers.map (Option.map fun _ => true)

/-- The first answers and, where there is none, the second ones. -/
def orElse (first second : Answers) : Answers := first.zipWith Option.or second

/-- What atoms answer for a text and for each text that is left of it. -/
def answers (t : Text) : List (Atom CharSet) → Answers
  | [] => answersOf (fun _ => some false) t
  | .char c :: rest => afterOne (c == ·) t (answers t rest)
  | .notSlash :: rest => afterOne (· != '/') t (answers t rest)
  | .run false :: rest => afterRun (· != '/') t (answers t rest)
  | .run true :: rest => afterOne (· != '/') t (afterRun (· != '/') t (answers t rest))
  | .set chars :: rest => afterOne chars.has t (answers t rest)
  | .leadingFolders :: rest =>
    let later := answers t rest
    orElse (afterOne staysOnLine t (afterRun staysOnLine t (afterOne (· == '/') t later))) later
  | .innerFolders :: rest =>
    let later := answers t rest
    orElse (afterOne (· == '/') t (afterOne staysOnLine t (afterRun staysOnLine t later))) later
  | .folderMark :: rest => afterOne (· == '/') t (marked (answers t rest))
  | .stop :: rest =>
    let later := answers t rest
    orElse (afterOne (· == '/') t (marked later)) (atEnd t later)

@[simp] theorem head?_answersOf (ask : Text → Option Bool) (t : Text) :
    (answersOf ask t).head? = some (ask t) := by
  cases t <;> rfl

theorem afterOne_answersOf (pass : Char → Bool) (ask : Text → Option Bool) (t : Text) :
    afterOne pass t (answersOf ask t) = answersOf (oneThen pass ask) t := by
  induction t with
  | nil => rfl
  | cons c t ih => simp [answersOf, afterOne, oneThen, ih]

theorem afterRun_answersOf (pass : Char → Bool) (ask : Text → Option Bool) (t : Text) :
    afterRun pass t (answersOf ask t) = answersOf (runThen pass ask) t := by
  induction t with
  | nil => simp [answersOf, afterRun, runThen, leftAfterRun]
  | cons c t ih =>
    simp only [answersOf, afterRun, ih, runThen, leftAfterRun]
    split <;> simp [runThen, List.findSome?_append]

theorem atEnd_answersOf (ask : Text → Option Bool) (t : Text) :
    atEnd t (answersOf ask t) = answersOf (endThen ask) t := by
  induction t with
  | nil => simp [answersOf, atEnd, endThen]
  | cons c t ih => simp [answersOf, atEnd, endThen, ih]

theorem marked_answersOf (ask : Text → Option Bool) (t : Text) :
    marked (answersOf ask t) = answersOf (underMark ask) t := by
  induction t with
  | nil => rfl
  | cons c t ih => exact congrArg (_ :: ·) ih

theorem orElse_answersOf (first second : Text → Option Bool) (t : Text) :
    orElse (answersOf first t) (answersOf second t) = answersOf (firstOf first second) t := by
  induction t with
  | nil => rfl
  | cons c t ih => exact congrArg (_ :: ·) ih

theorem answers_eq (t : Text) (atoms : List (Atom CharSet)) :
    answers t atoms = answersOf (matchAtoms atoms) t := by
  induction atoms with
  | nil => rfl
  | cons atom rest ih =>
    cases atom with
    | run nonempty => cases nonempty <;> simp only [answers, ih, afterRun_answersOf,
        afterOne_answersOf, matchAtoms]
    | _ => simp only [answers, ih, afterRun_answersOf, afterOne_answersOf, atEnd_answersOf,
        marked_answersOf, orElse_answersOf, matchAtoms]

/-- What an exclusion pattern asks of a path. -/
inductive Ask
  /-- A character that stays on its line, anywhere. -/
  | anything
  /-- A slash anywhere, under the folder mark or not. -/
  | inFolder (marked : Bool)
  /-- The atoms, from the start. -/
  | row (atoms : List (Atom CharSet))
  deriving DecidableEq, Repr

/-- Whether a path is as asked and, if so, whether the folder mark was met. -/
def Ask.test (path : Text) : Ask → Option Bool
  | .anything => if path.any staysOnLine then some false else none
  | .inFolder marked => if path.contains '/' then some marked else none
  | .row atoms => (answers path atoms).headD none

theorem Ask.test_row (path : Text) (atoms : List (Atom CharSet)) :
    (Ask.row atoms).test path = matchAtoms atoms path := by
  simp [Ask.test, answers_eq]

/-- A pattern for everything matches a path with a character that stays on its line. -/
theorem Ask.test_anything {path : Text} {c : Char} (h : c ∈ path) (hc : staysOnLine c = true) :
    Ask.anything.test path = some false := by
  have : path.any staysOnLine = true := List.any_eq_true.2 ⟨c, h, hc⟩
  simp [Ask.test, this]

end Ignore

end DocSnippets
