import DocSnippets.Table.Basic
import DocSnippets.Text.Similarity

/-!
# DocSnippets.Table.Suggest

**Names close to one that is not in the table.** The stored keys are ranked by how much their
folded form resembles the folded name, best first and equally good ones by code points; those
below the cutoff are left out. The score is a parameter here, so nothing hangs on how likeness is
measured; the table's own suggestions take the similarity of texts.
-/

namespace DocSnippets

/-- A stored key with its score. -/
structure Candidate (σ : Type) (α : Type := Char) where
  /-- How much the key resembles the name. -/
  score : σ
  /-- The key as stored. -/
  key : Text α

namespace Candidate

variable {σ α : Type} [LE σ] [DecidableLE σ] [LT α] [DecidableEq α] [DecidableLT α]

/-- Whether a candidate may stand before another one: its score is higher, or neither is and the
other one's key does not come first by code points. -/
def before (a b : Candidate σ α) : Bool :=
  if a.score ≤ b.score then decide (b.score ≤ a.score) && decide (¬ b.key < a.key) else true

end Candidate

/-- The first so many items; a negative limit leaves that many off the end. -/
def takeLimit {α : Type} (limit : Int) (items : List α) : List α :=
  match limit with
  | .ofNat n => items.take n
  | .negSucc n => items.take (items.length - (n + 1))

namespace Table

variable {σ α : Type} [LE σ] [DecidableLE σ] [Alphabet α]

/-- The stored keys that reach the cutoff, with their scores. -/
def candidates (t : Table α) (score : Text α → Text α → σ) (cutoff : σ) (name : Text α) :
    List (Candidate σ α) :=
  (t.records.map fun r => ⟨score (foldCase name) r.foldedKey, r.key⟩).filter
    fun c => decide (cutoff ≤ c.score)

theorem mem_candidates_iff {t : Table α} {score : Text α → Text α → σ} {cutoff : σ}
    {name : Text α} {c : Candidate σ α} :
    c ∈ t.candidates score cutoff name ↔
      ∃ r ∈ t.records, c = ⟨score (foldCase name) r.foldedKey, r.key⟩ ∧ cutoff ≤ c.score := by
  simp only [candidates, List.mem_filter, List.mem_map, decide_eq_true_eq]
  constructor
  · intro known
    obtain ⟨⟨r, hr, rfl⟩, h⟩ := known
    exact ⟨r, hr, rfl, h⟩
  · intro known
    obtain ⟨r, hr, rfl, h⟩ := known
    exact ⟨⟨r, hr, rfl⟩, h⟩

variable [LT α] [DecidableEq α] [DecidableLT α]

/-- The stored keys that resemble the name most, best first. -/
def closest (t : Table α) (score : Text α → Text α → σ) (cutoff : σ) (limit : Int)
    (name : Text α) : List (Text α) :=
  (takeLimit limit ((t.candidates score cutoff name).mergeSort Candidate.before)).map (·.key)

theorem closest_of_nonneg (t : Table α) (score : Text α → Text α → σ) (cutoff : σ) (limit : Nat)
    (name : Text α) :
    t.closest score cutoff limit name =
      (((t.candidates score cutoff name).mergeSort Candidate.before).map (·.key)).take limit := by
  rw [← List.map_take]
  rfl

/-- The suggestions of a table: the keys most similar to the name. -/
def suggest (t : Table α) (name : Text α) (limit : Int) (cutoff : Float) : List (Text α) :=
  t.closest Text.similarity cutoff limit name

/-- How many suggestions are made unless told otherwise. -/
def defaultLimit : Int := 3

/-- How similar a suggestion is at least unless told otherwise. -/
def defaultCutoff : Float := 0.75

end Table

end DocSnippets
