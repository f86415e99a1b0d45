import Mathlib.Data.List.Forall2

/-!
# DocSnippets.Proofs.Results

**Steps that may fail**, one after the other and over lists: what is known when all went well, and
when something did not.
-/

namespace DocSnippets

variable {α β ε : Type}

/-- Two steps succeed together when the second one does on what the first one gives. -/
theorem bind_eq_ok_iff {first : Except ε α} {second : α → Except ε β} {y : β} :
    first >>= second = .ok y ↔ ∃ x, first = .ok x ∧ second x = .ok y := by
  cases first <;> simp [bind, Except.bind]

/-- All items of a list succeed when each does. -/
theorem mapM_eq_ok_iff {f : α → Except ε β} {xs : List α} {ys : List β} :
    xs.mapM f = .ok ys ↔ List.Forall₂ (fun x y => f x = .ok y) xs ys := by
  induction xs generalizing ys with
  | nil =>
    rw [List.mapM_nil, List.forall₂_nil_left_iff]
    exact ⟨fun h => (Except.ok.inj h).symm, fun h => congrArg Except.ok h.symm⟩
  | cons x xs ih =>
    rw [List.mapM_cons, List.forall₂_cons_left_iff, bind_eq_ok_iff]
    constructor
    · intro all
      obtain ⟨y, hy, h⟩ := all
      obtain ⟨rest, hrest, h⟩ := bind_eq_ok_iff.1 h
      exact ⟨y, rest, hy, ih.1 hrest, (Except.ok.inj h).symm⟩
    · intro each
      obtain ⟨y, rest, hy, hrest, rfl⟩ := each
      exact ⟨y, hy, bind_eq_ok_iff.2 ⟨rest, ih.2 hrest, rfl⟩⟩

theorem exists_forall₂ {R : α → β → Prop} {xs : List α} (h : ∀ x ∈ xs, ∃ y, R x y) :
    ∃ ys, List.Forall₂ R xs ys := by
  induction xs with
  | nil => exact ⟨[], .nil⟩
  | cons x xs ih =>
    obtain ⟨y, hy⟩ := h x (by simp)
    obtain ⟨ys, hys⟩ := ih fun z hz => h z (by simp [hz])
    exact ⟨y :: ys, .cons hy hys⟩

theorem exists_of_mem_forall₂ {R : α → β → Prop} {xs : List α} {ys : List β}
    (h : List.Forall₂ R xs ys) {y : β} (hy : y ∈ ys) : ∃ x ∈ xs, R x y := by
  induction h with
  | nil => cases hy
  | @cons x z xs ys hxz _ ih =>
    rcases List.mem_cons.1 hy with rfl | hy
    · exact ⟨x, by simp, hxz⟩
    · obtain ⟨w, hw, hr⟩ := ih hy
      exact ⟨w, by simp [hw], hr⟩

end DocSnippets
