import DocSnippets.Proofs.Snippet.Sentence
import DocSnippets.Snippet.Cursor

/-!
# DocSnippets.Proofs.Snippet.Anatomy

**The anatomy of a snippet.** Which lines of a page its synopsis and its usage example are made of,
in terms of the lines alone: the first blank line, the first line of prose after it, the first
sentence end of the paragraph there, the first two colons after that, and the run of lines under
them.

* `IsSynopsis`, `IsUsage` — what the two parts are, without a search;
* `isSynopsis_ofProse`, `isUsage_literalBlock?` — the searches find exactly that;
* `ofText_anatomy` — every page has no prose and an empty snippet, or such a synopsis and such a
  usage example; nothing fails on the way.
-/

namespace DocSnippets

/-! ### Where the prose opens -/

theorem isLetter_of_isSpace {c : Char} (h : isSpace c = true) : isLetter c = false := by
  have ascii : rangesApart spaceRanges [(0x41, 0x5A), (0x61, 0x7A)] = true := by decide
  have beyond : rangesApart spaceRanges letterRanges = true := by decide +kernel
  unfold isLetter
  split
  · have apart := inRanges_eq_false_of_apart ascii h
    rw [Bool.eq_false_iff] at apart ⊢
    intro alpha
    refine apart (inRanges_iff.2 ?_)
    rcases Bool.or_eq_true_iff.1 alpha with upper | lower
    · exact ⟨(0x41, 0x5A), by simp, of_decide_eq_true upper⟩
    · have bounds := Bool.and_eq_true_iff.1 lower
      exact ⟨(0x61, 0x7A), by simp, of_decide_eq_true bounds.1, of_decide_eq_true bounds.2⟩
  · exact inRanges_eq_false_of_apart beyond h

theorem opensProse_of_isBlank {line : Text} (h : line.isBlank = true) :
    opensProse line = false := by
  cases line with
  | nil => rfl
  | cons c rest =>
    have hc := Text.isBlank_iff.1 h c (by simp)
    have tick : (c == '\x60') = false := by
      rw [beq_eq_false_iff_ne]
      rintro rfl
      exact absurd hc (by decide)
    rw [opensProse, isLetter_of_isSpace hc, tick, Bool.or_false]

/-- The page has no prose: it has no blank line, or no line after the first one opens with
prose. -/
def NoProse (ls : List Text) : Prop :=
  (∀ line ∈ ls, line.isBlank = false) ∨
    ∃ b, FirstFrom Text.isBlank ls 0 b ∧ ∀ line ∈ ls.drop (b + 1), opensProse line = false

/-- The search for the prose gives up exactly where there is none; as the first blank line is no
prose itself, it may begin there. -/
theorem noProse_of_prose?_eq_none {ls : List Text} (h : Snippet.prose? ls = none) :
    NoProse ls := by
  unfold Snippet.prose? at h
  cases hb : paragraphBreak? ls with
  | none => exact .inl (List.findIdx?_eq_none_iff.1 hb)
  | some b =>
    rw [hb, Option.bind_some, openingLine?, Option.map_eq_none_iff,
      List.findIdx?_eq_none_iff] at h
    refine .inr ⟨b, paragraphBreak?_eq_some_iff.1 hb, fun line hl => h line ?_⟩
    rw [← List.drop_drop] at hl
    exact List.mem_of_mem_drop hl

/-- The search for the prose finds the first line of prose after the first blank line. -/
theorem firstFrom_of_prose?_eq_some {ls : List Text} {o : Nat} (h : Snippet.prose? ls = some o) :
    ∃ b, FirstFrom Text.isBlank ls 0 b ∧ FirstFrom opensProse ls (b + 1) o := by
  obtain ⟨b, hb, ho⟩ := Option.bind_eq_some_iff.1 h
  have hbreak := paragraphBreak?_eq_some_iff.1 hb
  obtain ⟨le, lt, prose, before⟩ := openingLine?_eq_some_iff.1 ho
  -- the search begins at the blank line itself, which does not open with prose
  have ne : b ≠ o := by
    intro same
    subst same
    obtain ⟨-, _, blank, -⟩ := hbreak
    rw [opensProse_of_isBlank blank] at prose
    cases prose
  exact ⟨b, hbreak, by omega, lt, prose, fun j hj => before j (by omega)⟩

/-! ### The synopsis -/

/-- What the synopsis of prose that opens at line `o` is, and the point where it ends. -/
structure IsSynopsis (ls : List Text) (o : Nat) (synopsis : Option Text) (point : Position) :
    Prop where
  /-- It is missing when no line of the paragraph holds the end of a sentence. -/
  missing : synopsis = none ↔ ∀ line ∈ leadingRun (ls.drop o), ∀ column, ¬ SentenceEnd line column
  /-- Without it the point is the start of the paragraph. -/
  start : synopsis = none → point = ⟨o, 0⟩
  /-- It goes from there to the first sentence end; its lines are not blank, and only the last one
  is cut. -/
  present : ∀ text, synopsis = some text → ∃ line, ls[point.line]? = some line ∧
    o ≤ point.line ∧ line.isBlank = false ∧ SentenceEnd line point.column ∧
    (∀ other, SentenceEnd line other → point.column ≤ other) ∧
    (∀ l ∈ (ls.take point.line).drop o, l.isBlank = false ∧ ∀ column, ¬ SentenceEnd l column) ∧
    text = Text.join ['\n'] ((ls.take point.line).drop o ++ [line.take point.column])

/-- The point from which the usage example is looked for. -/
def scanPoint (ls : List Text) (o : Nat) : Position :=
  ((firstSentence? ls o).map Sentence.stop).getD ⟨o, 0⟩

/-- The first sentence of the paragraph is its synopsis. -/
theorem isSynopsis_ofProse (ls : List Text) (o : Nat) :
    IsSynopsis ls o ((firstSentence? ls o).map Sentence.text) (scanPoint ls o) := by
  unfold scanPoint firstSentence?
  cases hs : leadingSentence? (ls.drop o) with
  | none => exact ⟨by simpa using leadingSentence?_eq_none_iff.1 hs, fun _ => rfl, by simp⟩
  | some s =>
    refine ⟨?_, by simp, ?_⟩
    · rw [← leadingSentence?_eq_none_iff, hs]
      simp
    · rintro _ ⟨⟩
      -- the lines before the one that ends the sentence are those that the search passed over
      obtain ⟨before, line, after, parts, hbefore, hblank, hend, hline, htext⟩ :=
        leadingSentence?_eq_some hs
      obtain ⟨isEnd, first⟩ := sentenceEnd?_eq_some_iff.1 hend
      have whole : (ls.take (o + s.stop.line)).drop o = before := by
        rw [List.drop_take, Nat.add_sub_cancel_left, parts, hline]
        simp
      have last : ls[o + s.stop.line]? = some line := by
        rw [← List.getElem?_drop, parts, hline]
        simp
      refine ⟨line, last, Nat.le_add_right _ _, hblank, isEnd, first, ?_, ?_⟩
      · show ∀ l ∈ (ls.take (o + s.stop.line)).drop o, _
        rw [whole]
        exact fun l hl => ⟨(hbefore l hl).1, sentenceEnd?_eq_none_iff.1 (hbefore l hl).2⟩
      · show s.text = Text.join ['\n']
          ((ls.take (o + s.stop.line)).drop o ++ [line.take s.stop.column])
        rw [whole, htext]

/-! ### The usage example -/

/-- The lines of a page, the point's line without what stands before the point. -/
def linesAfter (ls : List Text) (point : Position) : List Text :=
  ls.modify point.line (List.drop point.column)

/-- What the usage example after a point is. -/
structure IsUsage (ls : List Text) (point : Position) (usage : Option Text) : Prop where
  /-- It is missing when two colons stand neither in the rest of the point's line nor in a later
  line. -/
  missing : usage = none ↔
    ∀ line ∈ (linesAfter ls point).drop point.line, ¬ literalMark <:+: line
  /-- It is the run of lines under the first line `m` with the two colons, one blank line in front
  of the run passed over. -/
  present : ∀ text, usage = some text → ∃ m start size,
    FirstFrom announcesLiteral (linesAfter ls point) point.line m ∧
    (start = m + 1 ∨ start = m + 2 ∧ ∃ blank, ls[m + 1]? = some blank ∧ blank.isBlank = true) ∧
    point.line < start ∧ start + size ≤ ls.length ∧
    (∀ line ∈ (ls.drop start).take size, line.isBlank = false) ∧
    (∀ line, ls[start + size]? = some line → line.isBlank = true) ∧
    text = Text.join ['\n'] ((ls.drop start).take size)

/-- The search for an announcement is a search by test in the lines after the point. -/
theorem literalMarker?_eq (ls : List Text) (point : Position) :
    literalMarker? ls point = (((linesAfter ls point).drop point.line).findIdx?
      announcesLiteral).map (point.line + ·) := by
  rw [literalMarker?, announcement?_eq_findIdx?, linesAfter,
    List.drop_modify_of_ge _ _ _ _ (Nat.le_refl _), Nat.sub_self, List.modifyHead_eq_modify_zero]

/-- The lines where a literal block begins are those one or two lines under its announcement. -/
theorem blockStart_drop {ls : List Text} {m : Nat} (h : m < ls.length) :
    ∃ start, blockStart (ls.drop (m + 1)) = ls.drop start ∧ start ≤ ls.length ∧
      (start = m + 1 ∨
        start = m + 2 ∧ ∃ blank, ls[m + 1]? = some blank ∧ blank.isBlank = true) := by
  refine ⟨blockLine ls m, blockStart_drop_eq ls m, ?_⟩
  rw [blockLine]
  cases next : ls[m + 1]? with
  | none => exact ⟨h, .inl rfl⟩
  | some line =>
    have inside : m + 1 < ls.length := (List.getElem?_eq_some_iff.1 next).1
    cases hb : line.isBlank with
    | true =>
      rw [Option.any_some, hb, if_pos rfl]
      exact ⟨inside, .inr ⟨rfl, line, rfl, hb⟩⟩
    | false =>
      rw [Option.any_some, hb, if_neg Bool.false_ne_true]
      exact ⟨Nat.le_of_lt inside, .inl rfl⟩

/-- The literal block found after a point is the usage example there. -/
theorem isUsage_literalBlock? (ls : List Text) (point : Position) :
    IsUsage ls point (literalBlock? ls point) := by
  refine ⟨?_, ?_⟩
  · rw [literalBlock?_eq_none_iff, literalMarker?_eq, Option.map_eq_none_iff,
      List.findIdx?_eq_none_iff]
    simp only [← announcesLiteral_iff, Bool.not_eq_true]
  · intro text h
    obtain ⟨m, hm, rfl⟩ := Option.map_eq_some_iff.1 h
    rw [literalMarker?_eq, firstFrom_iff] at hm
    -- cutting the point's line leaves the number of lines
    have inside : m < ls.length := by
      obtain ⟨-, lt, -⟩ := hm
      simpa [linesAfter] using lt
    obtain ⟨start, begins, le, place⟩ := blockStart_drop inside
    have run := take_length_leadingRun (ls.drop start)
    have size : start + (leadingRun (ls.drop start)).length ≤ ls.length := by
      have := (List.takeWhile_sublist (fun line : Text => !line.isBlank)
        (l := ls.drop start)).length_le
      rw [List.length_drop] at this
      rw [leadingRun]
      omega
    have below : point.line < start := by
      have := hm.1
      rcases place with rfl | ⟨rfl, -⟩ <;> omega
    refine ⟨m, start, (leadingRun (ls.drop start)).length, hm, place, below, size, ?_, ?_, ?_⟩
    · rw [run]
      exact fun line hl => isBlank_of_mem_leadingRun hl
    · intro line hl
      rw [← List.getElem?_drop] at hl
      exact isBlank_of_getElem?_length_leadingRun hl
    · rw [leadingBlock_eq, begins, run]

/-! ### The snippet -/

/-- The synopsis and the usage example of prose are looked for one after the other. -/
theorem ofProse_eq (ls : List Text) (o : Nat) :
    Snippet.ofProse ls o =
      ⟨(firstSentence? ls o).map Sentence.text, literalBlock? ls (scanPoint ls o)⟩ := by
  unfold Snippet.ofProse scanPoint
  cases firstSentence? ls o <;> rfl

/-- **Anatomy of a snippet.** The walks that find it never fail. Without a blank line, or without a
line of prose after the first one, it is empty; otherwise the prose opens at the first such line,
the synopsis is its first sentence, and the usage example is the block announced after that. -/
theorem ofText_anatomy (t : Text) :
    Cursor.snippetFrom t.lines = .ok (Snippet.ofText t) ∧
      (NoProse t.lines ∧ Snippet.ofText t = ⟨none, none⟩ ∨
        ∃ b o point, FirstFrom Text.isBlank t.lines 0 b ∧
          FirstFrom opensProse t.lines (b + 1) o ∧
          IsSynopsis t.lines o (Snippet.ofText t).synopsis point ∧
          IsUsage t.lines point (Snippet.ofText t).usage) := by
  refine ⟨Cursor.snippetFrom_eq _, ?_⟩
  unfold Snippet.ofText
  cases hp : Snippet.prose? t.lines with
  | none => exact .inl ⟨noProse_of_prose?_eq_none hp, Snippet.ofLines_of_no_prose hp⟩
  | some o =>
    obtain ⟨b, hb, ho⟩ := firstFrom_of_prose?_eq_some hp
    refine .inr ⟨b, o, scanPoint t.lines o, hb, ho, ?_, ?_⟩
    · rw [Snippet.ofLines_of_prose hp, ofProse_eq]
      exact isSynopsis_ofProse t.lines o
    · rw [Snippet.ofLines_of_prose hp, ofProse_eq]
      exact isUsage_literalBlock? t.lines (scanPoint t.lines o)

end DocSnippets
