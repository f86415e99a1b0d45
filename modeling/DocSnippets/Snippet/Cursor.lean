import DocSnippets.Snippet.Extract

/-!
# DocSnippets.Snippet.Cursor

**Positions counted from either end.** A cursor is an integer: from zero on it counts lines from
the first one, below zero from behind the last one. A walk that starts at a negative cursor goes
through the lines that remain and then, from number zero on, through all lines once more; it fails
if it starts before the first line.

On a page none of this comes up: `snippetFrom_eq` says that the walks that find a snippet start at
cursors from zero on only, where they are the plain searches, and that none of them fails.
-/

namespace DocSnippets

namespace Cursor

/-- Why there is no walk. -/
inductive Fault
  /-- It starts before the first line. -/
  | outOfRange
  /-- It starts so far before the first line that no line is counted there. -/
  | uncounted
  deriving DecidableEq, Repr

def Fault.message : Fault → Text
  | .outOfRange => "list index out of range".toList
  | .uncounted => "cannot fit 'int' into an index-sized integer".toList

/-- How far lines are counted. -/
def countedLines : Nat := 0x8000000000000000

/-- The lines that a walk from the cursor goes through. -/
def linesFrom (ls : List Text) : Int → Except Fault (List Text)
  | .ofNat n => .ok (ls.drop n)
  | .negSucc n =>
    if n < ls.length then .ok (ls.drop (ls.length - (n + 1)) ++ ls)
    else .error (if n < countedLines then .outOfRange else .uncounted)

@[simp] theorem linesFrom_ofNat (ls : List Text) (n : Nat) :
    linesFrom ls (n : Int) = .ok (ls.drop n) := rfl

/-- A cursor as a number of leading items among so many; one before the first item is clamped. -/
def clamp (size : Nat) : Int → Nat
  | .ofNat n => n
  | .negSucc n => size - (n + 1)

@[simp] theorem clamp_ofNat (size n : Nat) : clamp size (n : Int) = n := rfl

/-- The items between two cursors. -/
def slice {α : Type} (items : List α) (first last : Int) : List α :=
  (items.take (clamp items.length last)).drop (clamp items.length first)

/-- The first line at or after the cursor that opens with prose. -/
def openingLineFrom (ls : List Text) (start : Int) : Except Fault (Option Int) :=
  (linesFrom ls start).map fun walk =>
    (walk.findIdx? opensProse).map fun n : Nat => start + (n : Int)

/-- The first sentence of the paragraph that opens at the cursor: its text, the cursor of its last
line and the column right after it. -/
def firstSentenceFrom (ls : List Text) (start : Int) : Except Fault (Option (Text × Int × Nat)) :=
  (linesFrom ls start).map fun walk => (leadingSentence? walk).map fun s =>
    let last := start + s.stop.line
    let final := (walk.getD s.stop.line []).take s.stop.column
    (Text.join ['\n'] (slice ls start last ++ [final]), last, s.stop.column)

/-- The place, on the walk from a cursor, of the first line that announces a literal block. -/
def announcementOn (walk : List Text) (column : Int) : Option Nat :=
  match walk with
  | [] => none
  | line :: _ => announcement? (clamp line.length column) walk

/-- The first line at or after the cursor that announces a literal block. -/
def literalMarkerFrom (ls : List Text) (line column : Int) : Except Fault (Option Int) :=
  (linesFrom ls line).map fun walk =>
    (announcementOn walk column).map fun n : Nat => line + (n : Int)

/-- The literal block announced at or after the cursor. -/
def literalBlockFrom (ls : List Text) (line column : Int) : Except Fault (Option Text) :=
  (linesFrom ls line).map fun walk =>
    (announcementOn walk column).map fun n => leadingBlock (walk.drop (n + 1))

theorem openingLineFrom_ofNat (ls : List Text) (start : Nat) :
    openingLineFrom ls start = .ok ((openingLine? ls start).map Int.ofNat) := by
  simp only [openingLineFrom, linesFrom_ofNat, Except.map, openingLine?, Option.map_map]
  rfl

/-- From zero on, the walk to the end of a sentence is the plain search. -/
theorem firstSentenceFrom_ofNat (ls : List Text) (start : Nat) :
    firstSentenceFrom ls start = .ok ((firstSentence? ls start).map fun s =>
      (s.text, (s.stop.line : Int), s.stop.column)) := by
  simp only [firstSentenceFrom, linesFrom_ofNat, Except.map, firstSentence?, Option.map_map]
  congr 1
  cases hs : leadingSentence? (ls.drop start) with
  | none => rfl
  | some s =>
    obtain ⟨hl, text⟩ := Sentence.text_eq hs
    have last : (start : Int) + s.stop.line = ((start + s.stop.line : Nat) : Int) := by omega
    have between : slice ls start ((start + s.stop.line : Nat) : Int) =
        (ls.drop start).take s.stop.line := by
      rw [slice, clamp_ofNat, clamp_ofNat, List.drop_take, Nat.add_sub_cancel_left]
    simp only [Option.map_some, Function.comp, last, between]
    rw [text, List.getD_eq_getElem?_getD, List.getElem?_eq_getElem hl, Option.getD_some]

theorem announcementOn_ofNat (walk : List Text) (column : Nat) :
    announcementOn walk column = announcement? column walk := by
  cases walk <;> rfl

theorem literalMarkerFrom_ofNat (ls : List Text) (line column : Nat) :
    literalMarkerFrom ls line column = .ok ((literalMarker? ls ⟨line, column⟩).map Int.ofNat) := by
  simp only [literalMarkerFrom, linesFrom_ofNat, Except.map, literalMarker?, Option.map_map,
    announcementOn_ofNat]
  rfl

theorem literalBlockFrom_ofNat (ls : List Text) (line column : Nat) :
    literalBlockFrom ls line column = .ok (literalBlock? ls ⟨line, column⟩) := by
  simp only [literalBlockFrom, linesFrom_ofNat, Except.map, literalBlock?, literalMarker?,
    Option.map_map, announcementOn_ofNat]
  congr 1
  refine Option.map_congr fun n _ => ?_
  rw [List.drop_drop, Function.comp, Nat.add_assoc]

/-! ### The snippet of a page -/

/-- The snippet of a page, found by walks that may fail. -/
def snippetFrom (ls : List Text) : Except Fault Snippet := do
  let some b := paragraphBreak? ls | return .empty
  let some opening ← openingLineFrom ls b | return .empty
  match ← firstSentenceFrom ls opening with
  | some (text, line, column) => return ⟨some text, ← literalBlockFrom ls line column⟩
  | none => return ⟨none, ← literalBlockFrom ls opening 0⟩

/-- No walk fails on the way to a snippet. -/
theorem snippetFrom_eq (ls : List Text) : snippetFrom ls = .ok (Snippet.ofLines ls) := by
  unfold snippetFrom Snippet.ofLines Snippet.prose?
  cases paragraphBreak? ls with
  | none => rfl
  | some b =>
    simp only [Option.bind_some, openingLineFrom_ofNat]
    cases openingLine? ls b with
    | none => rfl
    | some opening =>
      have block : literalBlockFrom ls (opening : Int) 0 = .ok (literalBlock? ls ⟨opening, 0⟩) :=
        literalBlockFrom_ofNat ls opening 0
      have sentence := firstSentenceFrom_ofNat ls opening
      simp only [Option.map_some, Int.ofNat_eq_natCast, Snippet.ofProse]
      cases hs : firstSentence? ls opening with
      | none =>
        rw [hs, Option.map_none] at sentence
        simp [sentence, block, bind, Except.bind, pure, Except.pure]
      | some s =>
        rw [hs, Option.map_some] at sentence
        simp [sentence, literalBlockFrom_ofNat, bind, Except.bind, pure, Except.pure]

end Cursor

end DocSnippets
