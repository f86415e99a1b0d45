import DocSnippets.Proofs.Text.Lines
import DocSnippets.Text.Basic

/-!
# DocSnippets.Proofs.Text.Join

**Joined parts** hold the parts and the separator between them, and nothing else. A start of the
parts, the last of them cut or not, is a start of what they are joined to.
-/

namespace DocSnippets

namespace Text

/-! ### Characters -/

/-- A letter of joined parts stands in a part or in the text between two. -/
theorem mem_join {α : Type} {a : α} {separator : Text α} {parts : List (Text α)}
    (h : a ∈ join separator parts) : a ∈ separator ∨ ∃ part ∈ parts, a ∈ part := by
  induction parts with
  | nil => cases h
  | cons part rest ih =>
    cases rest with
    | nil => exact .inr ⟨part, by simp, h⟩
    | cons next more =>
      rw [join_cons_cons, List.append_assoc] at h
      rcases List.mem_append.1 h with h | h
      · exact .inr ⟨part, by simp, h⟩
      rcases List.mem_append.1 h with h | h
      · exact .inl h
      · rcases ih h with h | ⟨p, hp, h⟩
        · exact .inl h
        · exact .inr ⟨p, List.mem_cons_of_mem _ hp, h⟩

theorem join_cons_char (separator : Text) (c : Char) (part : Text) (rest : List Text) :
    join separator ((c :: part) :: rest) = c :: join separator (part :: rest) := by
  cases rest <;> rfl

theorem map_join {α β : Type} (f : α → β) (separator : Text α) (parts : List (Text α)) :
    (join separator parts).map f = join (separator.map f) (parts.map (List.map f)) := by
  induction parts with
  | nil => rfl
  | cons part rest ih =>
    cases rest with
    | nil => rfl
    | cons next more =>
      rw [join_cons_cons, List.map_append, List.map_append, ih]
      rfl

/-! ### Starts -/

theorem prefix_join_cons (separator part : Text) (rest : List Text) :
    part <+: join separator (part :: rest) := by
  cases rest with
  | nil => exact List.prefix_refl _
  | cons next more =>
    rw [join_cons_cons, List.append_assoc]
    exact List.prefix_append _ _

theorem join_concat_prefix {separator : Text} {cut part : Text} (h : cut <+: part)
    (before after : List Text) :
    join separator (before ++ [cut]) <+: join separator (before ++ part :: after) := by
  induction before with
  | nil => exact h.trans (prefix_join_cons separator part after)
  | cons first before ih =>
    rw [List.cons_append, List.cons_append, join_cons_of_ne_nil _ _ (by simp),
      join_cons_of_ne_nil _ _ (by simp), List.prefix_append_right_inj]
    exact ih

theorem join_prefix {separator : Text} {first parts : List Text} (h : first <+: parts) :
    join separator first <+: join separator parts := by
  obtain ⟨after, rfl⟩ := h
  rcases List.eq_nil_or_concat first with rfl | ⟨before, last, rfl⟩
  · exact List.nil_prefix
  · rw [List.concat_eq_append, List.append_assoc]
    exact join_concat_prefix (List.prefix_refl last) before after

/-- Where a part begins among parts that are joined by one character. -/
def partStart (parts : List Text) (n : Nat) : Nat :=
  total ((parts.take n).map fun part => part.length + 1)

/-- From there on the later parts are joined. -/
theorem join_drop (mark : Char) {parts : List Text} {n : Nat} (h : n < parts.length) :
    (join [mark] parts).drop (partStart parts n) = join [mark] (parts.drop n) := by
  induction n generalizing parts with
  | zero => rfl
  | succ n ih =>
    cases parts with
    | nil => cases h
    | cons part rest =>
      have later : n < rest.length := Nat.lt_of_succ_lt_succ h
      have ne : rest ≠ [] := by
        rintro rfl
        cases later
      have size : (part ++ [mark]).length = part.length + 1 := by simp
      rw [join_cons_of_ne_nil _ _ ne, partStart, List.take_succ_cons, List.map_cons, total_cons,
        ← List.drop_drop, ← size, List.drop_left, List.drop_succ_cons]
      exact ih later

/-! ### Joined lines -/

theorem join_lines_cons {c : Char} (own : isBreak c = false) (separator rest : Text) :
    join separator (lines (c :: rest)) = c :: join separator rest.lines := by
  have notCr : c ≠ '\r' := by
    rintro rfl
    cases own
  rw [lines.eq_3 _ _ (by simp [notCr]), own, if_neg Bool.false_ne_true]
  cases rest.lines with
  | nil => rfl
  | cons line more => exact join_cons_char separator c line more

theorem join_nil_lines (separator : Text) {rest : Text} (more : rest ≠ []) :
    join separator ([] :: rest.lines) = separator ++ join separator rest.lines := by
  rw [join_cons_of_ne_nil _ _ (mt lines_eq_nil_iff.1 more), List.nil_append]

end Text

end DocSnippets
