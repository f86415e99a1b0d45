import DocSnippets.Text.Basic

/-!
# DocSnippets.Snippet.Basic

A **snippet** is what one documentation page gives: a synopsis and a usage example, each of which
may be missing. A missing part and an empty one are different.
-/

namespace DocSnippets

/-- The synopsis and the usage example of a page. -/
structure Snippet where
  /-- The first sentence of the opening paragraph. -/
  synopsis : Option Text
  /-- The first literal block after the synopsis. -/
  usage : Option Text
  deriving DecidableEq, Repr

/-- The snippet of a page without documentation. -/
def Snippet.empty : Snippet := ⟨none, none⟩

/-- A point between two characters of a list of lines. -/
structure Position where
  /-- The number of lines before the point's line. -/
  line : Nat
  /-- The number of characters before the point in its line. -/
  column : Nat
  deriving DecidableEq, Repr

end DocSnippets
