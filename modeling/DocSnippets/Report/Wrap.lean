import DocSnippets.Text.Basic
import DocSnippets.Text.Blank
import DocSnippets.Text.Cluster

/-!
# DocSnippets.Report.Wrap

**Fitting text into a column.** A text is cut into lines at its line feeds, and each line into
pieces that fit the column: at the start of a word where that is possible, within a word that is
wider than the column. Each piece is then cropped or filled up to the width, and a blank put on
both sides.
-/

namespace DocSnippets

namespace Report

/-! ### Cleaning -/

/-- Whether a control moves the cursor or rings the bell; such controls are taken out. -/
def isStripped (c : Char) : Bool :=
  c == '\x07' || c == '\x08' || c == '\x0b' || c == '\x0c' || c == '\r'

/-- How far apart tab stops are. -/
def tabSize : Nat := 8

/-- Parts of a line from a column on, with blanks up to the next tab stop, at least one, between
neighbours. -/
def joinAtStops (column : Nat) : List Text → Text
  | [] => []
  | [part] => part
  | part :: next :: rest =>
    let after := column + Text.cells (part ++ [' '])
    let more := (tabSize - after % tabSize) % tabSize
    part ++ ' ' :: List.replicate more ' ' ++ joinAtStops (after + more) (next :: rest)

/-- A line with its tabs turned into blanks up to the next tab stop. -/
def expandTabs (line : Text) : Text := joinAtStops 0 (line.split '\t')

/-! ### Words -/

/-- The words of a text that begins with a word, each with the blanks after it. -/
def laterWords (t : Text) : List Text :=
  match t with
  | [] => []
  | c :: rest =>
    let solid := rest.takeWhile fun d => !isSpace d
    let after := rest.dropWhile fun d => !isSpace d
    (c :: solid ++ after.takeWhile isSpace) :: laterWords (after.dropWhile isSpace)
termination_by t.length
decreasing_by
  have h1 := (List.dropWhile_suffix (fun d : Char => !isSpace d) (l := rest)).length_le
  have h2 := (List.dropWhile_suffix isSpace
    (l := rest.dropWhile fun d : Char => !isSpace d)).length_le
  simp only [List.length_cons]
  omega

/-- The words of a line with the blanks around them; none if the line is blank. -/
def words (t : Text) : List Text :=
  match laterWords (t.dropWhile isSpace) with
  | [] => []
  | first :: rest => (t.takeWhile isSpace ++ first) :: rest

theorem join_laterWords (t : Text) : (laterWords t).flatten = t := by
  fun_induction laterWords t with
  | case1 => rfl
  | case2 c rest solid after ih =>
    simp only [List.flatten_cons, ih, List.cons_append, List.append_assoc, solid, after]
    rw [List.takeWhile_append_dropWhile, List.takeWhile_append_dropWhile]

/-- The words of a line, with the blanks around them, are the line, unless it is blank. -/
theorem join_words {t : Text} (h : t.isBlank = false) : (words t).flatten = t := by
  unfold words
  have whole := join_laterWords (t.dropWhile isSpace)
  split
  · rename_i hl
    rw [hl] at whole
    have : t.isBlank = true := Text.isBlank_iff.2 (by
      intro c hc
      have := List.takeWhile_append_dropWhile (p := isSpace) (l := t)
      rw [← whole] at this
      simp only [List.flatten_nil, List.append_nil] at this
      rw [← this] at hc
      exact List.all_eq_true.1 List.all_takeWhile c hc)
    simp [this] at h
  · rename_i first rest hl
    rw [hl, List.flatten_cons] at whole
    rw [List.flatten_cons, List.append_assoc, whole, List.takeWhile_append_dropWhile]

/-! ### Cutting -/

/-- The offsets of the starts of pieces after the first one's start. -/
def offsets (start : Nat) : List Text → List Nat
  | [] => []
  | [_] => [start]
  | piece :: next :: rest => start :: offsets (start + piece.length) (next :: rest)

/-- The offsets at which a line of words is cut: `start` characters and, on the current piece,
`used` cells come before the words. -/
def breaksFrom (width start used : Nat) : List Text → List Nat
  | [] => []
  | word :: rest =>
    let size := word.trimEnd.cells
    let next := start + word.length
    -- the word ends on the current piece, even if the blanks after it do not
    if used + size ≤ width then breaksFrom width next (used + word.cells) rest
    -- no piece can hold the word: it is cut, and its last part opens a piece
    else if width < size then
      let pieces := chop width word
      (offsets start pieces).filter (· != 0) ++
        breaksFrom width next (pieces.getLastD []).cells rest
    -- the word goes to the next piece, unless this one is still empty
    else if used ≠ 0 ∧ start ≠ 0 then start :: breaksFrom width next word.cells rest
    else breaksFrom width next used rest

/-- A text cut at offsets, the first of which are counted from so many characters before it. -/
def cutAt (origin : Nat) (t : Text) : List Nat → List Text
  | [] => [t]
  | offset :: rest => t.take (offset - origin) :: cutAt offset (t.drop (offset - origin)) rest

/-- The pieces of a line that fit a width. -/
def pieces (width : Nat) (line : Text) : List Text :=
  cutAt 0 line (breaksFrom width 0 0 (words line))

/-- A piece without as many blanks at its end as it has characters too many. -/
def dropExcess (width : Nat) (piece : Text) : Text :=
  let blanks := piece.length - piece.trimEnd.length
  piece.take (piece.length - min blanks (piece.length - width))

/-- A piece in a column, cropped or filled up to the width, with a blank on both sides. What
takes too many cells by measure even so leaves no blank on its right; there is no way to show a
piece that takes fewer cells by its clusters. -/
def framed? (width : Nat) (piece : Text) : Option Text :=
  (fit? width (dropExcess width piece)).bind fun fitted =>
    if fitted.cells ≤ width then
      some (' ' :: fitted ++ List.replicate (width - fitted.cells) ' ' ++ [' '])
    else (fit? (width + 1) fitted).map (' ' :: ·)

/-- The lines of a cell: its text cut to pieces, each one framed. -/
def cellLines? (width : Nat) (t : Text) : Option (List Text) :=
  ((Text.split '\n' (t.filter fun c => !isStripped c)).flatMap fun line =>
    pieces width (expandTabs line)).mapM (framed? width)

end Report

end DocSnippets
