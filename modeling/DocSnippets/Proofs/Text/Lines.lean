import DocSnippets.Text.Lines

/-!
# DocSnippets.Proofs.Text.Lines

**Which lines a text has.** Lines that are written each with a break after it are read back,
whichever breaks these are, as long as a carriage return and the line feed of the next break do not
make one break of two. What blank text adds at the end, after a break, is blank lines.

`MadeOf` says which lines a text is made of, with a break after the last one or without; every text
is made of its lines, and of no others.
-/

namespace DocSnippets

/-- A line break: a break character, or a carriage return with the line feed after it. -/
def IsLineBreak (b : Text) : Prop := b = ['\r', '\n'] ∨ ∃ c, b = [c] ∧ isBreak c = true

namespace Text

/-! ### Written lines -/

/-- A line without breaks and any line break after it are the first line, where the break does not
end in the middle of another one. -/
theorem lines_append_lineBreak {line b rest : Text} (whole : ∀ c ∈ line, isBreak c = false)
    (br : IsLineBreak b) (apart : b = ['\r'] → rest.head? ≠ some '\n') :
    lines (line ++ (b ++ rest)) = line :: lines rest := by
  induction line with
  | nil =>
    obtain rfl | ⟨c, rfl, hc⟩ := br
    · rfl
    · rw [List.nil_append, List.singleton_append, lines.eq_3, if_pos hc]
      rintro more rfl rfl
      exact apart rfl rfl
  | cons c line ih =>
    have hc : isBreak c = false := whole c (by simp)
    have notCr : c ≠ '\r' := by
      rintro rfl
      exact absurd hc (by decide)
    rw [List.cons_append, lines.eq_3 _ _ (by simp [notCr]), ih fun d hd => whole d (by simp [hd])]
    simp [hc]

theorem lines_lineBreak_append {b rest : Text} (br : IsLineBreak b)
    (apart : b = ['\r'] → rest.head? ≠ some '\n') : lines (b ++ rest) = [] :: rest.lines := by
  have none : ∀ c ∈ ([] : Text), isBreak c = false := by simp
  exact lines_append_lineBreak none br apart

/-- Lines as they are written, each with the break after it. -/
def written : List (Text × Text) → Text
  | [] => []
  | (line, b) :: rest => line ++ (b ++ written rest)

/-- Written lines none of which has a break within it, and no two of whose breaks make one. -/
inductive Written : List (Text × Text) → Prop
  | nil : Written []
  | cons {line b : Text} {rest : List (Text × Text)} (whole : ∀ c ∈ line, isBreak c = false)
      (br : IsLineBreak b) (apart : b = ['\r'] → (written rest).head? ≠ some '\n')
      (later : Written rest) : Written ((line, b) :: rest)

/-- The lines of a text are those that were written, whatever the breaks between them. -/
theorem lines_written {parts : List (Text × Text)} (h : Written parts) :
    lines (written parts) = parts.map Prod.fst := by
  induction h with
  | nil => exact lines_nil
  | cons whole br apart later ih => rw [written, lines_append_lineBreak whole br apart, ih]; rfl

/-! ### The end of a text -/

/-- The characters of a line are characters of its text. -/
theorem mem_of_mem_lines {t line : Text} {c : Char} (hl : line ∈ lines t) (hc : c ∈ line) :
    c ∈ t := by
  fun_induction lines t generalizing line with
  | case1 => cases hl
  | case2 rest ih =>
    rcases List.mem_cons.1 hl with rfl | hl
    · cases hc
    · exact List.mem_cons_of_mem _ (List.mem_cons_of_mem _ (ih hl hc))
  | case3 d rest _ _ ih =>
    rcases List.mem_cons.1 hl with rfl | hl
    · cases hc
    · exact List.mem_cons_of_mem _ (ih hl hc)
  | case4 d rest _ _ _ _ =>
    obtain rfl := List.mem_singleton.1 hl
    obtain rfl := List.mem_singleton.1 hc
    exact List.mem_cons_self
  | case5 d rest _ _ first more parts ih =>
    rw [parts] at ih
    rcases List.mem_cons.1 hl with rfl | hl
    · rcases List.mem_cons.1 hc with rfl | hc
      · exact List.mem_cons_self
      · exact List.mem_cons_of_mem _ (ih List.mem_cons_self hc)
    · exact List.mem_cons_of_mem _ (ih (List.mem_cons_of_mem _ hl) hc)

theorem isBlank_of_mem_lines {t line : Text} (h : t.isBlank = true) (hl : line ∈ lines t) :
    line.isBlank = true :=
  isBlank_iff.2 fun c hc => isBlank_iff.1 h c (mem_of_mem_lines hl hc)

/-- A text that begins with a break has an empty first line, and what comes after the break. -/
theorem lines_cons_break {c : Char} (hc : isBreak c = true) (rest : Text) :
    ∃ after, after <:+ rest ∧ lines (c :: rest) = [] :: lines after := by
  by_cases pair : c = '\r' ∧ rest.head? = some '\n'
  · obtain ⟨rfl, hn⟩ := pair
    obtain ⟨after, rfl⟩ := List.head?_eq_some_iff.1 hn
    exact ⟨after, List.suffix_cons _ _, lines.eq_2 after⟩
  · refine ⟨rest, List.suffix_refl _, ?_⟩
    rw [lines.eq_3, if_pos hc]
    rintro after rfl rfl
    exact pair ⟨rfl, rfl⟩

theorem lines_eq_nil_iff {t : Text} : lines t = [] ↔ t = [] := by
  constructor
  · intro none
    fun_induction lines t with
    | case1 => rfl
    | case5 d rest _ _ first more parts ih => cases none
    | _ => cases none
  · rintro rfl
    exact lines_nil

/-- A line break, and blanks after it, add nothing but blank lines to the lines of a text. -/
theorem exists_lines_append (t : Text) {blanks : Text} (blank : blanks.isBlank = true)
    (opens : ∀ c ∈ blanks.head?, isBreak c = true) :
    ∃ more, (∀ line ∈ more, line.isBlank = true) ∧ lines (t ++ blanks) = lines t ++ more := by
  fun_induction lines t with
  | case1 => exact ⟨lines blanks, fun line hl => isBlank_of_mem_lines blank hl, rfl⟩
  | case2 rest ih =>
    obtain ⟨more, hm, eq⟩ := ih
    refine ⟨more, hm, ?_⟩
    rw [List.cons_append, List.cons_append, lines.eq_2, eq, List.cons_append]
  | case3 c rest notPair hc ih =>
    cases rest with
    | nil =>
      -- the break may be the first half of one that the blanks go on with
      obtain ⟨after, suffix, eq⟩ := lines_cons_break hc blanks
      refine ⟨lines after, fun line hl => isBlank_of_mem_lines ?_ hl, ?_⟩
      · exact isBlank_iff.2 fun d hd => isBlank_iff.1 blank d (suffix.subset hd)
      · rw [List.singleton_append, eq, lines_nil, List.singleton_append]
    | cons d rest =>
      obtain ⟨more, hm, eq⟩ := ih
      refine ⟨more, hm, ?_⟩
      rw [List.cons_append, lines.eq_3, if_pos hc, eq, List.cons_append]
      rintro after rfl same
      exact notPair rest rfl (by rw [(List.cons.inj same).1])
  | case4 c rest notPair hc none ih =>
    obtain rfl := lines_eq_nil_iff.1 none
    have notCr : c ≠ '\r' := by
      rintro rfl
      exact hc (by decide)
    cases blanks with
    | nil =>
      refine ⟨[], by simp, ?_⟩
      rw [List.append_nil, lines.eq_3 _ _ (by simp), if_neg hc, lines_nil]
      rfl
    | cons d w =>
      obtain ⟨after, suffix, eq⟩ := lines_cons_break (opens d rfl) w
      refine ⟨lines after, fun line hl => isBlank_of_mem_lines ?_ hl, ?_⟩
      · exact isBlank_iff.2 fun e he =>
          isBlank_iff.1 blank e (List.mem_cons_of_mem _ (suffix.subset he))
      · rw [List.singleton_append, lines.eq_3 _ _ (by simp [notCr]), if_neg hc, eq]
        rfl
  | case5 c rest notPair hc first others parts ih =>
    have notCr : c ≠ '\r' := by
      rintro rfl
      exact hc (by decide)
    obtain ⟨more, hm, eq⟩ := ih
    refine ⟨more, hm, ?_⟩
    rw [List.cons_append, lines.eq_3 _ _ (by simp [notCr]), if_neg hc, eq, parts]
    rfl

/-! ### Texts made of lines -/

/-- A text is made of lines: a line break stands after each of them, but may be missing after the
last one. No line has a break within it, and no two of the breaks make one. -/
inductive MadeOf : List Text → Text → Prop
  | nil : MadeOf [] []
  | last {line : Text} (whole : ∀ c ∈ line, isBreak c = false) : MadeOf [line] line
  | cons {line b rest : Text} {ls : List Text} (whole : ∀ c ∈ line, isBreak c = false)
      (br : IsLineBreak b) (apart : b = ['\r'] → rest.head? ≠ some '\n') (later : MadeOf ls rest) :
      MadeOf (line :: ls) (line ++ (b ++ rest))

/-- The lines that a text is made of are read back, but for an empty last one without a break. -/
theorem eq_lines_of_madeOf {ls : List Text} {t : Text} (h : MadeOf ls t) :
    ls = lines t ∨ ls = lines t ++ [[]] := by
  induction h with
  | nil => exact .inl lines_nil.symm
  | @last line whole =>
    by_cases empty : line = []
    · subst empty
      exact .inr (by rw [lines_nil, List.nil_append])
    · exact .inl (lines_of_no_break empty whole).symm
  | @cons line b rest ls whole br apart later ih =>
    rw [lines_append_lineBreak whole br apart]
    exact ih.imp (fun same => by rw [same]) fun same => by rw [same, List.cons_append]

/-- Every text is made of its lines. -/
theorem madeOf_lines (t : Text) : MadeOf (lines t) t := by
  fun_induction lines t with
  | case1 => exact .nil
  | case2 rest ih => exact .cons (by simp) (.inl rfl) (by simp) ih
  | case3 c rest notPair hc ih =>
    refine .cons (b := [c]) (by simp) (.inr ⟨c, rfl, hc⟩) ?_ ih
    intro cr feed
    obtain ⟨more, rfl⟩ := List.head?_eq_some_iff.1 feed
    exact notPair more (List.cons.inj cr).1 rfl
  | case4 c rest notPair hc none ih =>
    obtain rfl := lines_eq_nil_iff.1 none
    exact .last (by simpa using hc)
  | case5 c rest notPair hc first others parts ih =>
    rw [parts] at ih
    have own : ∀ {line : Text}, (∀ d ∈ line, isBreak d = false) →
        ∀ d ∈ c :: line, isBreak d = false := by
      intro line whole d hd
      rcases List.mem_cons.1 hd with rfl | hd
      · simpa using hc
      · exact whole d hd
    -- the first line of the rest gets one more character in front
    cases ih with
    | last whole => exact .last (own whole)
    | cons whole br apart later => exact .cons (own whole) br apart later

theorem madeOf_join {ls : List Text} (whole : ∀ line ∈ ls, ∀ c ∈ line, isBreak c = false) :
    MadeOf ls (join ['\n'] ls) := by
  induction ls with
  | nil => exact .nil
  | cons line ls ih =>
    have own := whole line (by simp)
    cases ls with
    | nil => exact .last own
    | cons next more =>
      rw [join_cons_cons, List.append_assoc]
      exact .cons own (.inr ⟨'\n', rfl, by decide⟩) (by simp)
        (ih fun l hl => whole l (List.mem_cons_of_mem _ hl))

theorem lines_join {ls : List Text} (whole : ∀ line ∈ ls, ∀ c ∈ line, isBreak c = false)
    (ends : ∀ last ∈ ls.getLast?, last ≠ []) : lines (join ['\n'] ls) = ls := by
  rcases eq_lines_of_madeOf (madeOf_join whole) with same | same
  · exact same.symm
  · refine absurd rfl (ends [] ?_)
    rw [same, List.getLast?_concat]
    rfl

theorem lines_join_append_break {ls : List Text} (ne : ls ≠ [])
    (whole : ∀ line ∈ ls, ∀ c ∈ line, isBreak c = false) (rest : Text) :
    lines (join ['\n'] ls ++ '\n' :: rest) = ls ++ lines rest := by
  induction ls with
  | nil => exact absurd rfl ne
  | cons line ls ih =>
    have own := whole line (by simp)
    cases ls with
    | nil => rw [join_singleton, lines_append_break own, List.singleton_append]
    | cons next more =>
      have later := ih (by simp) fun l hl => whole l (List.mem_cons_of_mem _ hl)
      rw [join_cons_cons, List.append_assoc, List.append_assoc, List.singleton_append,
        lines_append_break own, later]
      rfl

end Text

end DocSnippets
