import DocSnippets.Text.Basic

/-!
# DocSnippets.Text.Similarity

**How alike two texts are**: the share of their letters that lie on a longest common subsequence.
Equal texts have similarity one, texts without a common letter zero.
-/

namespace DocSnippets

namespace Text

variable {α : Type} [DecidableEq α]

/-- One more row of the table of common lengths. Given are the row above, the entry above to the
left and the entry to the left; an entry is the length of the longest common subsequence of the
letters so far. -/
def commonRow (a : α) : Text α → List Nat → Nat → Nat → List Nat
  | b :: rest, above :: row, aboveLeft, left =>
    let entry := if a = b then aboveLeft + 1 else max above left
    entry :: commonRow a rest row above entry
  | _, _, _, _ => []

/-- The length of the longest common subsequence of two texts. -/
def commonLength (s t : Text α) : Nat :=
  (s.foldl (fun row a => commonRow a t row 0 0) (t.map fun _ => 0)).getLastD 0

/-- How many letters have to be inserted or deleted to turn one text into the other. -/
def editDistance (s t : Text α) : Nat := s.length + t.length - 2 * commonLength s t

/-- The similarity of two texts, from zero to one. -/
def similarity (s t : Text α) : Float :=
  if s.length + t.length = 0 then 1.0
  else 1.0 - (editDistance s t).toFloat / (s.length + t.length).toFloat

end Text

end DocSnippets
