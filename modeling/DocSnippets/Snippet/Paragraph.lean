import DocSnippets.Snippet.Basic
import DocSnippets.Text.Blank
import DocSnippets.Text.Letter

/-!
# DocSnippets.Snippet.Paragraph

**Where the prose of a page begins.** The title block reaches to the first blank line; the opening
line is the first line after it that starts with a letter or a backtick in its first column, so
directives, indented blocks and underlines are passed over.
-/

namespace DocSnippets

/-- The line with the given number is the first one at or after the start that passes a test. -/
def FirstFrom (test : Text → Bool) (ls : List Text) (start i : Nat) : Prop :=
  start ≤ i ∧ ∃ h : i < ls.length, test ls[i] = true ∧
    ∀ j (_ : start ≤ j) (hj : j < i), test ls[j] = false

/-- Searching what is left after the start finds the first line that passes. -/
theorem firstFrom_iff {test : Text → Bool} {ls : List Text} {start i : Nat} :
    ((ls.drop start).findIdx? test).map (start + ·) = some i ↔ FirstFrom test ls start i := by
  simp only [FirstFrom, Option.map_eq_some_iff, List.findIdx?_eq_some_iff_getElem,
    List.getElem_drop, List.length_drop]
  constructor
  · intro known
    obtain ⟨k, ⟨hk, hp, hn⟩, rfl⟩ := known
    refine ⟨by omega, by omega, hp, fun i h1 h2 => ?_⟩
    have := hn (i - start) (by omega)
    simpa [show start + (i - start) = i by omega] using this
  · intro known
    obtain ⟨h1, h2, hp, hn⟩ := known
    refine ⟨i - start, ⟨by omega, ?_, ?_⟩, by omega⟩
    · simpa [show start + (i - start) = i by omega] using hp
    · intro j hj
      simpa using hn (start + j) (by omega) (by omega)

/-- The number of the first blank line. -/
def paragraphBreak? (ls : List Text) : Option Nat := ls.findIdx? Text.isBlank

theorem paragraphBreak?_eq_some_iff {ls : List Text} {b : Nat} :
    paragraphBreak? ls = some b ↔ FirstFrom Text.isBlank ls 0 b := by
  rw [← firstFrom_iff]
  simp [paragraphBreak?]

/-- Whether a line opens with prose. -/
def opensProse : Text → Bool
  | [] => false
  | c :: _ => isLetter c || c == '\x60'

/-- The number of the first line at or after the start that opens with prose. -/
def openingLine? (ls : List Text) (start : Nat) : Option Nat :=
  ((ls.drop start).findIdx? opensProse).map (start + ·)

theorem openingLine?_eq_some_iff {ls : List Text} {start o : Nat} :
    openingLine? ls start = some o ↔ FirstFrom opensProse ls start o :=
  firstFrom_iff

end DocSnippets
