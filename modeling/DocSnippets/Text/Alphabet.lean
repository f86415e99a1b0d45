import DocSnippets.Text.CaseFold
import DocSnippets.Text.CodePoint
import DocSnippets.Text.Lines

/-!
# DocSnippets.Text.Alphabet

**What texts are made of**, characters or code points, and what records and tables do with them
whatever they are made of: they fold their case, by which names are compared, and split them into
lines. Half a character folds to itself and ends no line, so a text and its code points are treated
alike (`foldCase_wide`, `lines_wide`).
-/

namespace DocSnippets

/-- An alphabet: the letters that texts are made of. -/
class Alphabet (α : Type) where
  /-- A character as a letter. -/
  ofChar : Char → α
  /-- What a letter folds to. -/
  fold : α → Text α
  /-- The lines of a text, without their breaks. -/
  lines : Text α → List (Text α)

/-! ### The two alphabets -/

namespace CodePoint

/-- What a code point folds to. -/
def fold : CodePoint → Text CodePoint
  | .char c => Text.wide (foldChar c)
  | .half n => [.half n]

/-- Whether a code point is a line break. -/
def isBreak : CodePoint → Bool
  | .char c => DocSnippets.isBreak c
  | .half _ => false

/-- The lines of code points, without their breaks. -/
def lines : Text CodePoint → List (Text CodePoint)
  | [] => []
  | .char '\r' :: .char '\n' :: rest => [] :: lines rest
  | p :: rest =>
    if p.isBreak then [] :: lines rest
    else
      match lines rest with
      | [] => [[p]]
      | line :: more => (p :: line) :: more

end CodePoint

instance : Alphabet Char where
  ofChar := id
  fold := foldChar
  lines := Text.lines

instance : Alphabet CodePoint where
  ofChar := .char
  fold := CodePoint.fold
  lines := CodePoint.lines

@[simp] theorem Alphabet.ofChar_char (c : Char) : (Alphabet.ofChar c : Char) = c := rfl

@[simp] theorem Alphabet.ofChar_codePoint (c : Char) : Alphabet.ofChar c = CodePoint.char c := rfl

@[simp] theorem Alphabet.fold_char (c : Char) : Alphabet.fold c = foldChar c := rfl

@[simp] theorem Alphabet.lines_text (t : Text) : Alphabet.lines t = t.lines := rfl

/-! ### Folding -/

/-- A text with every letter folded. -/
def foldCase {α : Type} [Alphabet α] (t : Text α) : Text α := t.flatMap Alphabet.fold

section

variable {α : Type} [Alphabet α]

@[simp] theorem foldCase_nil : foldCase ([] : Text α) = [] := rfl

theorem foldCase_cons' (a : α) (t : Text α) :
    foldCase (a :: t) = Alphabet.fold a ++ foldCase t := rfl

@[simp] theorem foldCase_append (s t : Text α) :
    foldCase (s ++ t) = foldCase s ++ foldCase t := by
  simp [foldCase]

end

@[simp] theorem foldCase_cons (c : Char) (t : Text) :
    foldCase (c :: t) = foldChar c ++ foldCase t := rfl

/-! ### Texts as code points -/

namespace Text

@[simp] theorem foldCase_wide (t : Text) : foldCase (wide t) = wide (foldCase t) := by
  induction t with
  | nil => rfl
  | cons c rest ih =>
    rw [wide_cons, foldCase_cons', ih, foldCase_cons, wide_append]
    rfl

end Text

end DocSnippets
