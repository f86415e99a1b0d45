import DocSnippets.Record
import DocSnippets.Report.Wrap

/-!
# DocSnippets.Report.Grid

**Records as a table of three columns** for a screen of eighty: a heading in bold, then a row for
each record, rules between them. Rows are as high as their highest cell. There is no table if there
is a piece of text that cannot be shown.
-/

namespace DocSnippets

namespace Report

/-! ### Layout -/

/-- The widths of the columns, without the blank on both sides. -/
def columnWidths : List Nat := [11, 30, 29]

def headings : List Text := ["key".toList, "synopsis".toList, "example".toList]

def bold (t : Text) : Text := "\x1b[1m".toList ++ t ++ "\x1b[0m".toList

/-- The characters of a rule: its left end, its line, where a column ends, its right end. -/
structure Rule where
  left : Char
  line : Char
  /-- Where a column ends and another one begins. -/
  cross : Char
  right : Char

def topRule : Rule := ⟨'┏', '━', '┳', '┓'⟩

def headRule : Rule := ⟨'┡', '━', '╇', '┩'⟩

def rowRule : Rule := ⟨'├', '─', '┼', '┤'⟩

def bottomRule : Rule := ⟨'└', '─', '┴', '┘'⟩

/-- A rule as a line. -/
def Rule.text (r : Rule) : Text :=
  r.left ::
    Text.join [r.cross] (columnWidths.map fun width => List.replicate (width + 2) r.line) ++
    [r.right, '\n']

/-- A line of cells, each given with the blanks on both sides. -/
def barLine (bar : Char) (cells : List Text) : Text := bar :: Text.join [bar] cells ++ [bar, '\n']

def headLine : Text :=
  barLine '┃' ((headings.zip columnWidths).map fun (heading, width) =>
    bold [' '] ++ bold (heading ++ List.replicate (width - heading.length) ' ') ++ bold [' '])

/-! ### Rows -/

/-- Lines filled up to a height with blank ones of a width. -/
def padLines (height width : Nat) (ls : List Text) : List Text :=
  ls ++ List.replicate (height - ls.length) (List.replicate width ' ')

theorem length_padLines {height width : Nat} {ls : List Text} (h : ls.length ≤ height) :
    (padLines height width ls).length = height := by
  simp [padLines]
  omega

def cellTexts (r : Record) : List Text := [r.key, r.synopsis.getD [], r.usage.getD []]

/-- A row of cells, each given by the width of its column and its lines. -/
def rowOfCells (cells : List (Nat × List Text)) : Text :=
  let height := (cells.map fun cell => cell.2.length).foldl max 0
  let columns := cells.map fun (width, ls) => padLines height (width + 2) ls
  (List.range height).flatMap fun n => barLine '│' (columns.map fun column => column.getD n [])

def row? (r : Record) : Option Text :=
  (((cellTexts r).zip columnWidths).mapM fun (t, width) =>
    (cellLines? width t).map fun ls => (width, ls)).map rowOfCells

/-- The table of records. -/
def grid? (records : List Record) : Option Text :=
  (records.mapM row?).map fun rows =>
    topRule.text ++ headLine ++ headRule.text ++ Text.join rowRule.text rows ++ bottomRule.text

end Report

end DocSnippets
