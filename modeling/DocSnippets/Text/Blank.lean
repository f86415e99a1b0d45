import DocSnippets.Text.Range

/-!
# DocSnippets.Text.Blank

**Blank characters and blank lines.** A blank is a separator or one of the controls that act as
one; a line of blanks only separates paragraphs.
-/

namespace DocSnippets

/-- The code point ranges of the blank characters, ascending. -/
def spaceRanges : List (Nat × Nat) :=
  [(0x0009, 0x000D), (0x001C, 0x0020), (0x0085, 0x0085), (0x00A0, 0x00A0), (0x1680, 0x1680),
   (0x2000, 0x200A), (0x2028, 0x2029), (0x202F, 0x202F), (0x205F, 0x205F), (0x3000, 0x3000)]

/-- Whether a character is blank. -/
def isSpace (c : Char) : Bool := inRanges spaceRanges c

namespace Text

/-- Whether a text holds blank characters only. -/
def isBlank (t : Text) : Bool := t.all isSpace

theorem isBlank_iff {t : Text} : isBlank t = true ↔ ∀ c ∈ t, isSpace c = true := by
  simp [isBlank]

@[simp] theorem isBlank_nil : isBlank [] = true := rfl

/-- A text without the blanks at its end. -/
def trimEnd (t : Text) : Text := dropWhileEnd isSpace t

end Text

end DocSnippets
