import DocSnippets.Text.Basic

/-!
# DocSnippets.Files.CharSet

A **set of characters in a pattern**: ranges by code point, single characters among them as ranges
of one, and whether the set is the complement of these.
-/

namespace DocSnippets

/-- The characters that a bracket in a pattern matches. -/
structure CharSet where
  /-- Whether the ranges say what does not match. -/
  negated : Bool
  /-- The least and the greatest character of each range. -/
  ranges : List (Char × Char)
  deriving DecidableEq, Repr

namespace CharSet

/-- Whether a character belongs to a set. -/
def has (s : CharSet) (c : Char) : Bool :=
  (s.ranges.any fun r => decide (r.1 ≤ c) && decide (c ≤ r.2)) != s.negated

/-- The set of all characters. -/
def all : CharSet := ⟨true, []⟩

/-- The set of one character. -/
def single (c : Char) : CharSet := ⟨false, [(c, c)]⟩

@[simp] theorem has_all (c : Char) : all.has c = true := rfl

@[simp] theorem has_single {c d : Char} : (single c).has d = true ↔ d = c := by
  simp only [has, single, List.any_cons, List.any_nil, Bool.or_false, bne_iff_ne, ne_eq,
    Bool.not_eq_false, Bool.and_eq_true, decide_eq_true_eq]
  exact ⟨fun ⟨h, g⟩ => (Char.le_antisymm h g).symm, fun h => h ▸ ⟨Char.le_refl _, Char.le_refl _⟩⟩

end CharSet

/-- A text cut at the first place, from a number of characters on, where a character stands. -/
def cutAt? (mark : Char) (skip : Nat) (t : Text) : Option (Text × Text) :=
  match (t.drop skip).dropWhile (· != mark) with
  | [] => none
  | _ :: rest => some (t.take skip ++ (t.drop skip).takeWhile (· != mark), rest)

theorem length_of_cutAt? {mark : Char} {skip : Nat} {t before rest : Text}
    (h : cutAt? mark skip t = some (before, rest)) : rest.length < t.length := by
  unfold cutAt? at h
  split at h
  · simp at h
  · rename_i c tail hd
    obtain ⟨-, rfl⟩ := Prod.mk.inj (Option.some.inj h)
    have := (List.dropWhile_suffix (fun x : Char => x != mark) (l := t.drop skip)).length_le
    rw [hd] at this
    simp only [List.length_cons, List.length_drop] at this
    omega

end DocSnippets
