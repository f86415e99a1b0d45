import DocSnippets.Proofs.Snippet.Run
import DocSnippets.Snippet.Cursor

/-!
# DocSnippets.Proofs.Snippet.Block

**The literal block in closed form.** Under the line that announces it one blank line is skipped;
the block is the run of lines that are not blank from there on. Capture takes the first line
whatever it is, so it may begin with one blank line, but it stops before any other.
-/

namespace DocSnippets

/-! ### Empty blocks -/

/-- The line with the given number is blank, or there is none. -/
def BlankOrMissing (ls : List Text) (n : Nat) : Prop :=
  ∀ line, ls[n]? = some line → line.isBlank = true

/-- A run of lines joined is empty only if there are none: its lines are not empty. -/
theorem join_leadingRun_eq_nil_iff {ls : List Text} :
    Text.join ['\n'] (leadingRun ls) = [] ↔ leadingRun ls = [] := by
  cases run : leadingRun ls with
  | nil => simp
  | cons line rest =>
    have full : line.isBlank = false := isBlank_of_mem_leadingRun (by rw [run]; simp)
    cases rest with
    | nil =>
      simp only [Text.join_singleton, List.cons_ne_nil, iff_false]
      rintro rfl
      cases full
    | cons next more => simp [Text.join_cons_cons]

theorem leadingRun_blockLine_eq_nil_iff {ls : List Text} {m : Nat} :
    leadingRun (ls.drop (blockLine ls m)) = [] ↔
      BlankOrMissing ls (m + 1) ∧ BlankOrMissing ls (m + 2) := by
  have begins (n : Nat) : leadingRun (ls.drop n) = [] ↔ BlankOrMissing ls n := by
    rw [leadingRun_eq_nil_iff, List.head?_drop]
    rfl
  rw [begins, blockLine]
  cases next : ls[m + 1]? with
  | none =>
    have short : ls[m + 2]? = none := by
      rw [List.getElem?_eq_none_iff] at next ⊢
      omega
    simp [BlankOrMissing, next, short]
  | some line => cases hb : line.isBlank <;> simp [BlankOrMissing, next, hb]

/-- **The literal block in closed form.** Where a line at or after a position announces a block,
what is found is the run of lines that begins on the line under it, or one line further down if
that line is blank. It is empty exactly when both these lines are blank or missing, it holds no
blank line, and trimming took nothing off its end. The column may count from either end. -/
theorem literalBlockFrom_eq_run {ls : List Text} {line : Nat} {column marker : Int}
    (found : Cursor.literalMarkerFrom ls line column = .ok (some marker)) :
    ∃ m : Nat, marker = m ∧
      Cursor.literalBlockFrom ls line column =
        .ok (some (Text.join ['\n'] (leadingRun (ls.drop (blockLine ls m))))) ∧
      (Cursor.literalBlockFrom ls line column = .ok (some []) ↔
        BlankOrMissing ls (m + 1) ∧ BlankOrMissing ls (m + 2)) ∧
      (∀ l ∈ leadingRun (ls.drop (blockLine ls m)), l.isBlank = false) ∧
      trimBlankLines (captureBlock (ls.drop (m + 1))) =
        (captureBlock (ls.drop (m + 1))).dropWhile Text.isBlank := by
  -- the line is counted from the start, so the lines after it are no cyclic walk
  rw [Cursor.literalMarkerFrom, Cursor.linesFrom_ofNat] at found
  obtain ⟨n, hn, rfl⟩ := Option.map_eq_some_iff.1 (Except.ok.inj found)
  have block : Cursor.literalBlockFrom ls line column =
      .ok (some (Text.join ['\n'] (leadingRun (ls.drop (blockLine ls (line + n)))))) := by
    rw [Cursor.literalBlockFrom, Cursor.linesFrom_ofNat]
    simp only [Except.map, hn, Option.map_some, List.drop_drop]
    rw [leadingBlock_eq, ← Nat.add_assoc, blockStart_drop_eq]
  refine ⟨line + n, by simp, block, ?_, fun _ hl => isBlank_of_mem_leadingRun hl,
    trimBlankLines_captureBlock _⟩
  rw [block, Except.ok.injEq, Option.some.injEq, join_leadingRun_eq_nil_iff,
    leadingRun_blockLine_eq_nil_iff]

/-- Two colons in the last three characters of a line, a blank line under it, and two more lines in
front of the next blank one. -/
theorem literalBlockFrom_eq_run_overBlank :
    let ls : List Text := ["a:: b::".toList, " ".toList, "  x::".toList, "y".toList, [], "z".toList]
    Cursor.literalMarkerFrom ls (0 : Nat) (-3) = .ok (some 0) ∧
      Cursor.literalBlockFrom ls (0 : Nat) (-3) = .ok (some "  x::\ny".toList) := by
  intro ls
  have found : Cursor.literalMarkerFrom ls (0 : Nat) (-3) = .ok (some 0) := rfl
  obtain ⟨m, same, block, -⟩ := literalBlockFrom_eq_run found
  obtain rfl : m = 0 := by omega
  exact ⟨found, block⟩

end DocSnippets
