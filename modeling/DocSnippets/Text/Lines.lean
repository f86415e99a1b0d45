import DocSnippets.Text.Blank

/-!
# DocSnippets.Text.Lines

**The lines of a text.** A line ends at a line break; a carriage return and the line feed after it
are one break, and a break at the very end begins no further line.
-/

namespace DocSnippets

/-- The code point ranges of the line breaks, ascending. -/
def breakRanges : List (Nat × Nat) :=
  [(0x000A, 0x000D), (0x001C, 0x001E), (0x0085, 0x0085), (0x2028, 0x2029)]

/-- Whether a character is a line break. -/
def isBreak (c : Char) : Bool := inRanges breakRanges c

namespace Text

/-- The lines of a text, without their breaks. -/
def lines : Text → List Text
  | [] => []
  | '\r' :: '\n' :: rest => [] :: lines rest
  | c :: rest =>
    if isBreak c then [] :: lines rest
    else
      match lines rest with
      | [] => [[c]]
      | line :: more => (c :: line) :: more

@[simp] theorem lines_nil : lines [] = [] := by simp [lines]

/-- No line holds a line break. -/
theorem isBreak_notMem_lines {t line : Text} (h : line ∈ lines t) :
    ∀ c ∈ line, isBreak c = false := by
  fun_induction lines t generalizing line with
  | case1 => simp at h
  | case2 rest ih =>
    rcases List.mem_cons.1 h with rfl | h
    · simp
    · exact ih h
  | case3 c rest _ _ ih =>
    rcases List.mem_cons.1 h with rfl | h
    · simp
    · exact ih h
  | case4 c rest _ hc hl ih => simp_all
  | case5 c rest _ hc first more hl ih =>
    rcases List.mem_cons.1 h with rfl | h
    · intro d hd
      rcases List.mem_cons.1 hd with rfl | hd
      · simpa using hc
      · exact ih (by simp [hl]) d hd
    · exact ih (by simp [hl, h])

/-- A text without breaks is one line. -/
theorem lines_of_no_break {t : Text} (ne : t ≠ []) (h : ∀ c ∈ t, isBreak c = false) :
    lines t = [t] := by
  fun_induction lines t with
  | case1 => exact absurd rfl ne
  | case2 rest ih => exact absurd (h '\r' (by simp)) (by decide)
  | case3 c rest _ hc ih => simp [h c (by simp)] at hc
  | case4 c rest _ hc hl ih =>
    cases rest with
    | nil => rfl
    | cons d r => have := ih (by simp) fun x hx => h x (by simp [hx]); simp [hl] at this
  | case5 c rest _ hc first more hl ih =>
    cases rest with
    | nil => simp at hl
    | cons d r =>
      have := ih (by simp) fun x hx => h x (by simp [hx])
      simp_all

theorem lines_append_break {line rest : Text} (h : ∀ c ∈ line, isBreak c = false) :
    lines (line ++ '\n' :: rest) = line :: lines rest := by
  induction line with
  | nil => rw [List.nil_append, lines.eq_3 _ _ (by simp)]; simp [show isBreak '\n' = true by decide]
  | cons c r ih =>
    have hc : isBreak c = false := h c (by simp)
    have notCr : c ≠ '\r' := by rintro rfl; exact absurd hc (by decide)
    rw [List.cons_append, lines.eq_3 _ _ (by simp [notCr]), ih fun x hx => h x (by simp [hx])]
    simp [hc]

end Text

end DocSnippets
