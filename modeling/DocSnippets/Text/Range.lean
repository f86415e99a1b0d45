import DocSnippets.Text.Basic

/-!
# DocSnippets.Text.Range

**Character classes as tables**: a class of characters is an ascending list of code point ranges,
both ends included.
-/

namespace DocSnippets

/-- Whether a character's code point lies in one of the ranges. -/
def inRanges (ranges : List (Nat × Nat)) (c : Char) : Bool :=
  ranges.any fun r => decide (r.1 ≤ c.toNat) && decide (c.toNat ≤ r.2)

theorem inRanges_iff {ranges : List (Nat × Nat)} {c : Char} :
    inRanges ranges c = true ↔ ∃ r ∈ ranges, r.1 ≤ c.toNat ∧ c.toNat ≤ r.2 := by
  simp [inRanges]

/-- Whether no range of one table meets a range of the other. -/
def rangesApart (rs ss : List (Nat × Nat)) : Bool :=
  rs.all fun r => ss.all fun s => decide (r.2 < s.1) || decide (s.2 < r.1)

theorem inRanges_eq_false_of_apart {rs ss : List (Nat × Nat)} {c : Char}
    (h : rangesApart rs ss = true) (hc : inRanges rs c = true) : inRanges ss c = false := by
  obtain ⟨r, hr, lo, hi⟩ := inRanges_iff.1 hc
  rw [Bool.eq_false_iff]
  intro hs
  obtain ⟨s, hs, lo', hi'⟩ := inRanges_iff.1 hs
  have apart := List.all_eq_true.1 (List.all_eq_true.1 h r hr) s hs
  rw [Bool.or_eq_true, decide_eq_true_eq, decide_eq_true_eq] at apart
  omega

end DocSnippets
