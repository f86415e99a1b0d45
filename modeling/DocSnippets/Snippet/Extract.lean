import DocSnippets.Snippet.Literal
import DocSnippets.Snippet.Paragraph
import DocSnippets.Snippet.Sentence
import DocSnippets.Text.Lines

/-!
# DocSnippets.Snippet.Extract

**The snippet of a page.** The prose begins at the opening line after the first blank line. Its
first sentence is the synopsis, and the first literal block after that sentence is the usage
example; without a sentence the block is looked for from the opening line on.
-/

namespace DocSnippets

namespace Snippet

/-- The snippet of a page whose prose opens at the given line. -/
def ofProse (ls : List Text) (opening : Nat) : Snippet :=
  match firstSentence? ls opening with
  | some sentence => ⟨some sentence.text, literalBlock? ls sentence.stop⟩
  | none => ⟨none, literalBlock? ls ⟨opening, 0⟩⟩

/-- The line where the prose of a page opens, if the page has any. -/
def prose? (ls : List Text) : Option Nat :=
  (paragraphBreak? ls).bind (openingLine? ls)

/-- The snippet of a page given by its lines. -/
def ofLines (ls : List Text) : Snippet :=
  match prose? ls with
  | some opening => ofProse ls opening
  | none => .empty

/-- The snippet of a page. -/
def ofText (t : Text) : Snippet := ofLines t.lines

theorem ofLines_of_no_prose {ls : List Text} (h : prose? ls = none) : ofLines ls = .empty := by
  simp [ofLines, h]

theorem ofLines_of_prose {ls : List Text} {opening : Nat} (h : prose? ls = some opening) :
    ofLines ls = ofProse ls opening := by
  simp [ofLines, h]

end Snippet

end DocSnippets
