import DocSnippets.Snippet.Literal

/-!
# DocSnippets.Proofs.Snippet.Run

**Runs of lines that are not blank.** A paragraph is such a run, and so is a literal block: under
the line that announces it, one blank line is passed over, and the block is the run after it.

Capture takes its first line whatever that is, and then the run after it; trimming takes that one
line away again if it is blank, and nothing else, so what is left is a run of lines again
(`leadingBlock_eq`).
-/

namespace DocSnippets

/-- The lines up to the first blank one. -/
def leadingRun (ls : List Text) : List Text := ls.takeWhile fun line => !line.isBlank

@[simp] theorem leadingRun_nil : leadingRun [] = [] := rfl

theorem leadingRun_cons_of_blank {line : Text} {rest : List Text} (h : line.isBlank = true) :
    leadingRun (line :: rest) = [] := by
  simp [leadingRun, h]

theorem leadingRun_cons_of_not_blank {line : Text} {rest : List Text}
    (h : line.isBlank = false) : leadingRun (line :: rest) = line :: leadingRun rest := by
  simp [leadingRun, h]

theorem isBlank_of_mem_leadingRun {ls : List Text} {line : Text} (h : line ∈ leadingRun ls) :
    line.isBlank = false := by
  have all := List.all_takeWhile (p := fun line : Text => !line.isBlank) (l := ls)
  simpa using List.all_eq_true.1 all line h

theorem leadingRun_eq_nil_iff {ls : List Text} :
    leadingRun ls = [] ↔ ∀ line ∈ ls.head?, line.isBlank = true := by
  cases ls with
  | nil => simp
  | cons line rest => cases hb : line.isBlank <;> simp [leadingRun, hb]

theorem take_length_leadingRun (ls : List Text) :
    ls.take (leadingRun ls).length = leadingRun ls :=
  (List.prefix_iff_eq_take.1 (List.takeWhile_prefix _)).symm

theorem isBlank_of_getElem?_length_leadingRun {ls : List Text} {line : Text}
    (h : ls[(leadingRun ls).length]? = some line) : line.isBlank = true := by
  induction ls with
  | nil => simp at h
  | cons first rest ih =>
    by_cases hb : first.isBlank = true
    · rw [leadingRun_cons_of_blank hb] at h
      obtain rfl : first = line := by simpa using h
      exact hb
    · rw [Bool.not_eq_true] at hb
      rw [leadingRun_cons_of_not_blank hb] at h
      exact ih (by simpa using h)

/-! ### Literal blocks -/

theorem captureBlock_cons (line : Text) (rest : List Text) :
    captureBlock (line :: rest) = line :: leadingRun rest := by
  induction rest generalizing line with
  | nil => rfl
  | cons next rest ih =>
    -- capture looks at the line after the one it took
    by_cases hb : next.isBlank = true
    · rw [captureBlock_of_blank hb, leadingRun_cons_of_blank hb]
    · rw [Bool.not_eq_true] at hb
      rw [captureBlock_of_not_blank hb, ih, leadingRun_cons_of_not_blank hb]

theorem dropWhile_of_not_blank {ls : List Text} (h : ∀ line ∈ ls, line.isBlank = false) :
    ls.dropWhile Text.isBlank = ls := by
  cases ls with
  | nil => rfl
  | cons line rest => simp [h line (by simp)]

/-- The lines where a literal block begins, given what follows its announcement: one blank line is
passed over. -/
def blockStart : List Text → List Text
  | [] => []
  | line :: rest => if line.isBlank then rest else line :: rest

/-- The number of the line where the block announced on a line begins: one blank line is skipped. -/
def blockLine (ls : List Text) (m : Nat) : Nat :=
  if (ls[m + 1]?).any Text.isBlank then m + 2 else m + 1

theorem blockStart_drop_eq (ls : List Text) (m : Nat) :
    blockStart (ls.drop (m + 1)) = ls.drop (blockLine ls m) := by
  have rest : ls.drop (m + 2) = (ls.drop (m + 1)).tail := by rw [List.tail_drop]
  have first : ls[m + 1]? = (ls.drop (m + 1)).head? := by rw [List.head?_drop]
  rw [blockLine, first]
  cases under : ls.drop (m + 1) with
  | nil => simp [blockStart, under]
  | cons line more =>
    rw [under] at rest
    cases hb : line.isBlank <;> simp [blockStart, hb, under, rest]

/-- Without a blank line in front, what was captured is the run of lines where the block begins. -/
theorem dropWhile_captureBlock (ls : List Text) :
    (captureBlock ls).dropWhile Text.isBlank = leadingRun (blockStart ls) := by
  cases ls with
  | nil => rfl
  | cons line rest =>
    -- the line that was captured whatever it is decides
    rw [captureBlock_cons, blockStart]
    cases hb : line.isBlank with
    | true =>
      rw [List.dropWhile_cons_of_pos hb, if_pos rfl,
        dropWhile_of_not_blank fun _ hl => isBlank_of_mem_leadingRun hl]
    | false =>
      rw [if_neg Bool.false_ne_true, ← leadingRun_cons_of_not_blank hb,
        dropWhile_of_not_blank fun _ hl => isBlank_of_mem_leadingRun hl]

theorem trimBlankLines_captureBlock (ls : List Text) :
    trimBlankLines (captureBlock ls) = (captureBlock ls).dropWhile Text.isBlank := by
  have full : ∀ line ∈ (leadingRun (blockStart ls)).reverse, line.isBlank = false :=
    fun _ hl => isBlank_of_mem_leadingRun (List.mem_reverse.1 hl)
  rw [trimBlankLines, dropWhile_captureBlock, dropWhile_of_not_blank full, List.reverse_reverse]

theorem leadingBlock_eq (ls : List Text) :
    leadingBlock ls = Text.join ['\n'] (leadingRun (blockStart ls)) := by
  rw [leadingBlock, trimBlankLines_captureBlock, dropWhile_captureBlock]

end DocSnippets
