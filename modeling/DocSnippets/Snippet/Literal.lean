import DocSnippets.Snippet.Basic
import DocSnippets.Text.Blank

/-!
# DocSnippets.Snippet.Literal

**The first literal block after a point.** Two colons in a row announce it; it begins on the line
after them and stops before the first blank line that follows a captured line. Blank lines around
it are trimmed, so an announcement with nothing under it gives the empty text.
-/

namespace DocSnippets

/-- The two colons that announce a literal block. -/
def literalMark : Text := [':', ':']

/-- Whether a line announces a literal block. -/
def announcesLiteral (line : Text) : Bool := line.holds literalMark

theorem announcesLiteral_iff {line : Text} :
    announcesLiteral line = true ↔ literalMark <:+: line :=
  Text.holds_iff

/-- The number of the first line that announces a literal block, where only the part of the first
line from the column on counts. -/
def announcement? (column : Nat) : List Text → Option Nat
  | [] => none
  | line :: rest =>
    if announcesLiteral (line.drop column) then some 0
    else (rest.findIdx? announcesLiteral).map (· + 1)

/-- The announcing line is the first one with two colons, once the first line is cut at the
column. -/
theorem announcement?_eq_findIdx? (column : Nat) (ls : List Text) :
    announcement? column ls = (ls.modifyHead (List.drop column)).findIdx? announcesLiteral := by
  cases ls with
  | nil => rfl
  | cons line rest => rw [announcement?, List.modifyHead_cons, List.findIdx?_cons]

/-- The number of the first line at or after the point that announces a literal block. -/
def literalMarker? (ls : List Text) (point : Position) : Option Nat :=
  (announcement? point.column (ls.drop point.line)).map (point.line + ·)

/-- The lines up to the first blank line that follows one of them. -/
def captureBlock : List Text → List Text
  | [] => []
  | [line] => [line]
  | line :: next :: rest =>
    if next.isBlank then [line] else line :: captureBlock (next :: rest)

theorem captureBlock_of_not_blank {line next : Text} {rest : List Text}
    (h : next.isBlank = false) :
    captureBlock (line :: next :: rest) = line :: captureBlock (next :: rest) := by
  simp [captureBlock, h]

theorem captureBlock_of_blank {line next : Text} {rest : List Text} (h : next.isBlank = true) :
    captureBlock (line :: next :: rest) = [line] := by
  simp [captureBlock, h]

/-- Lines without the blank ones at both ends. -/
def trimBlankLines (ls : List Text) : List Text :=
  ((ls.dropWhile Text.isBlank).reverse.dropWhile Text.isBlank).reverse

/-- The literal block that the lines begin with. -/
def leadingBlock (ls : List Text) : Text :=
  Text.join ['\n'] (trimBlankLines (captureBlock ls))

/-- The literal block announced at or after the point. -/
def literalBlock? (ls : List Text) (point : Position) : Option Text :=
  (literalMarker? ls point).map fun marker => leadingBlock (ls.drop (marker + 1))

theorem literalBlock?_eq_none_iff {ls : List Text} {point : Position} :
    literalBlock? ls point = none ↔ literalMarker? ls point = none := by
  simp [literalBlock?]

end DocSnippets
