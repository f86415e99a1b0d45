import DocSnippets.Proofs.Snippet.NormalForm

/-!
# DocSnippets.Proofs.Snippet.Reach

**How far a page is read.** Every search for a part of a snippet stops at a line: the title block
at a blank one, the search for prose at a line of prose, a paragraph at a blank line, the search
for a literal block at two colons, and the block at a blank line again. Lines after the stops do
not count. Only the blank line that may stand under the two colons stops nothing, so it takes a
second one to end an empty block.

So lines may be added to a page whose usage example has ended: it has one, and its lines end with as
many blank ones as that takes (`EndsBlank`).
-/

namespace DocSnippets

/-! ### Paragraphs -/

/-- A run of lines stops at a blank one. -/
theorem leadingRun_append_of_blank {ls : List Text} (stop : ∃ line ∈ ls, line.isBlank = true)
    (more : List Text) : leadingRun (ls ++ more) = leadingRun ls := by
  induction ls with
  | nil =>
    obtain ⟨line, hl, -⟩ := stop
    cases hl
  | cons first rest ih =>
    cases hb : first.isBlank with
    | true => rw [List.cons_append, leadingRun_cons_of_blank hb, leadingRun_cons_of_blank hb]
    | false =>
      have later : ∃ line ∈ rest, line.isBlank = true := by
        obtain ⟨line, hl, blank⟩ := stop
        rcases List.mem_cons.1 hl with rfl | hl
        · rw [hb] at blank
          cases blank
        · exact ⟨line, hl, blank⟩
      rw [List.cons_append, leadingRun_cons_of_not_blank hb, leadingRun_cons_of_not_blank hb,
        ih later]

theorem leadingSentence?_append_of_blank {ls : List Text}
    (stop : ∃ line ∈ ls, line.isBlank = true) (more : List Text) :
    leadingSentence? (ls ++ more) = leadingSentence? ls := by
  cases hs : leadingSentence? ls with
  | none =>
    rw [leadingSentence?_eq_none_iff] at hs
    rw [leadingSentence?_eq_none_iff, leadingRun_append_of_blank stop]
    exact hs
  | some s =>
    obtain ⟨before, line, after, rfl, hbefore, -, hend, hline, htext⟩ := leadingSentence?_eq_some hs
    have found := leadingSentence?_append hbefore hend (after ++ more)
    rw [← htext, ← hline] at found
    rw [List.append_assoc, List.cons_append, found]

theorem isBlank_of_opensProse {line : Text} (h : opensProse line = true) :
    line.isBlank = false := by
  rw [Bool.eq_false_iff]
  intro blank
  rw [opensProse_of_isBlank blank] at h
  cases h

theorem proseLines_append_of_ne_nil {ls : List Text} (ne : proseLines ls ≠ [])
    (more : List Text) : proseLines (ls ++ more) = proseLines ls ++ more := by
  have body : (ls.dropWhile fun line => !line.isBlank).isEmpty = false := by
    rw [List.isEmpty_eq_false_iff]
    intro none
    exact ne (by rw [proseLines, none]; rfl)
  have prose : (proseLines ls).isEmpty = false := by rwa [List.isEmpty_eq_false_iff]
  unfold proseLines at prose ⊢
  rw [List.dropWhile_append, body, if_neg Bool.false_ne_true, List.dropWhile_append, prose,
    if_neg Bool.false_ne_true]

/-! ### Literal blocks -/

/-- The line that announces a literal block is not blank, whatever is cut off the first line. -/
theorem isBlank_of_announcement? {column k : Nat} {ls : List Text}
    (h : announcement? column ls = some k) : ∃ line, ls[k]? = some line ∧ line.isBlank = false := by
  -- only the first line is cut at a column, the others are taken whole
  have shown : ∀ (line : Text) (cut : Nat), announcesLiteral (line.drop cut) = true →
      line.isBlank = false := by
    intro line cut mark
    rw [Bool.eq_false_iff]
    intro blank
    rw [announcesLiteral_drop_of_isBlank blank] at mark
    cases mark
  cases ls with
  | nil => cases h
  | cons first rest =>
    rw [announcement?] at h
    split at h
    · rename_i mark
      cases h
      exact ⟨first, rfl, shown first column mark⟩
    · obtain ⟨j, hj, rfl⟩ := Option.map_eq_some_iff.1 h
      obtain ⟨lt, mark, -⟩ := List.findIdx?_eq_some_iff_getElem.1 hj
      exact ⟨rest[j], by rw [List.getElem?_cons_succ, List.getElem?_eq_getElem lt],
        shown rest[j] 0 mark⟩

theorem announcement?_append_of_some {column k : Nat} {ls : List Text}
    (h : announcement? column ls = some k) (more : List Text) :
    announcement? column (ls ++ more) = some k := by
  cases ls with
  | nil => cases h
  | cons first rest =>
    rw [List.cons_append, announcement?] at *
    split at h
    · rename_i mark
      rw [if_pos mark, h]
    · rename_i mark
      obtain ⟨j, hj, rfl⟩ := Option.map_eq_some_iff.1 h
      rw [if_neg mark, List.findIdx?_append, hj]
      rfl

/-- An announcement after a point stands in a line that is not blank, and is found whatever lines
follow. -/
theorem literalMarker?_eq_some {ls : List Text} {point : Position} {m : Nat}
    (h : literalMarker? ls point = some m) :
    (∃ line, ls = ls.take m ++ line :: ls.drop (m + 1) ∧ line.isBlank = false) ∧
      ∀ more, literalMarker? (ls ++ more) point = some m := by
  obtain ⟨k, hk, rfl⟩ := Option.map_eq_some_iff.1 h
  obtain ⟨line, place, full⟩ := isBlank_of_announcement? hk
  rw [List.getElem?_drop] at place
  obtain ⟨lt, own⟩ := List.getElem?_eq_some_iff.1 place
  refine ⟨⟨line, ?_, full⟩, ?_⟩
  · rw [← own, ← List.drop_eq_getElem_cons lt, List.take_append_drop]
  · intro more
    rw [literalMarker?, List.drop_append_of_le_length (by omega),
      announcement?_append_of_some hk]
    rfl

/-- The last so many lines are blank. -/
def EndsBlank (count : Nat) (ls : List Text) : Prop :=
  ∃ before blanks, ls = before ++ blanks ∧ blanks.length = count ∧
    ∀ line ∈ blanks, line.isBlank = true

/-- Blank lines at the end come after every line that is not blank. -/
theorem EndsBlank.under {count : Nat} {before after : List Text} {line : Text}
    (h : EndsBlank count (before ++ line :: after)) (full : line.isBlank = false) :
    EndsBlank count after := by
  obtain ⟨front, blanks, parts, size, blank⟩ := h
  have notin : line ∉ blanks := by
    intro hl
    rw [blank line hl] at full
    cases full
  rcases List.append_eq_append_iff.1 parts with ⟨more, -, rest⟩ | ⟨more, -, rest⟩
  · cases more with
    | nil =>
      rw [List.nil_append] at rest
      exact absurd (by rw [← rest]; simp) notin
    | cons first more => exact ⟨more, blanks, (List.cons.inj rest).2, size, blank⟩
  · exact absurd (by rw [rest]; simp) notin

theorem leadingBlock_append_of_blank {ls : List Text}
    (stop : ∃ line ∈ blockStart ls, line.isBlank = true) (more : List Text) :
    leadingBlock (ls ++ more) = leadingBlock ls := by
  have begins : blockStart (ls ++ more) = blockStart ls ++ more := by
    cases ls with
    | nil =>
      obtain ⟨line, hl, -⟩ := stop
      cases hl
    | cons first rest =>
      rw [List.cons_append, blockStart, blockStart]
      split <;> rfl
  rw [leadingBlock_eq, leadingBlock_eq, begins, leadingRun_append_of_blank stop]

theorem mem_blockStart_of_mem_tail {ls : List Text} {line : Text} (h : line ∈ ls.tail) :
    line ∈ blockStart ls := by
  cases ls with
  | nil => cases h
  | cons first rest =>
    rw [blockStart]
    split
    · exact h
    · exact List.mem_cons_of_mem _ h

/-- A literal block has ended: it is not empty and a blank line follows, or two blank lines
follow. -/
def BlockEnded (ls : List Text) (block : Text) : Prop :=
  EndsBlank 1 ls ∧ block ≠ [] ∨ EndsBlank 2 ls

/-- Whether a block has ended is seen from the lines under any line that is not blank. -/
theorem BlockEnded.under {before after : List Text} {line block : Text}
    (h : BlockEnded (before ++ line :: after) block) (full : line.isBlank = false) :
    BlockEnded after block :=
  h.imp (fun one => ⟨one.1.under full, one.2⟩) fun two => two.under full

theorem BlockEnded.exists_blank {ls : List Text} {block : Text} (h : BlockEnded ls block) :
    ∃ line ∈ ls, line.isBlank = true := by
  have last : ∀ count, EndsBlank (count + 1) ls → ∃ line ∈ ls, line.isBlank = true := by
    rintro count ⟨before, blanks, rfl, size, blank⟩
    cases blanks with
    | nil => cases size
    | cons line more => exact ⟨line, by simp, blank line (by simp)⟩
  exact h.elim (fun one => last 0 one.1) (last 1)

/-- The lines where a block that has ended begins go on to a blank one. -/
theorem exists_blank_blockStart {ls : List Text} (h : BlockEnded ls (leadingBlock ls)) :
    ∃ line ∈ blockStart ls, line.isBlank = true := by
  rcases h with ⟨⟨before, blanks, rfl, size, blank⟩, full⟩ | ⟨before, blanks, rfl, size, blank⟩
  · obtain ⟨last, rfl⟩ := List.length_eq_one_iff.1 size
    refine ⟨last, ?_, blank last (by simp)⟩
    cases before with
    | nil =>
      -- under one blank line alone the block is empty
      refine absurd ?_ full
      rw [leadingBlock_eq, List.nil_append, blockStart, if_pos (blank last (by simp))]
      rfl
    | cons first before => exact mem_blockStart_of_mem_tail (by simp)
  · obtain ⟨first, last, rfl⟩ := List.length_eq_two.1 size
    refine ⟨last, mem_blockStart_of_mem_tail ?_, blank last (by simp)⟩
    cases before <;> simp

theorem literalBlock?_append_of_some {front ls : List Text} {point : Position} {block : Text}
    (h : literalBlock? ls point = some block) (ended : BlockEnded (front ++ ls) block)
    (more : List Text) : literalBlock? (ls ++ more) point = some block := by
  obtain ⟨m, hm, rfl⟩ := Option.map_eq_some_iff.1 h
  obtain ⟨⟨line, parts, full⟩, found⟩ := literalMarker?_eq_some hm
  have under : BlockEnded (ls.drop (m + 1)) (leadingBlock (ls.drop (m + 1))) := by
    rw [parts, ← List.append_assoc, ← parts] at ended
    exact ended.under full
  have inside : m + 1 ≤ ls.length := by
    have size := congrArg List.length parts
    simp only [List.length_append, List.length_take, List.length_cons, List.length_drop] at size
    omega
  rw [literalBlock?, found more, Option.map_some, List.drop_append_of_le_length inside,
    leadingBlock_append_of_blank (exists_blank_blockStart under)]

/-! ### Pages -/

/-- Lines whose literal block has ended have the same snippet when lines are added. -/
theorem ofLines_append_of_ended {ls : List Text} {block : Text}
    (h : (Snippet.ofLines ls).usage = some block) (ended : BlockEnded ls block)
    (more : List Text) : Snippet.ofLines (ls ++ more) = Snippet.ofLines ls := by
  have found : literalBlock? (proseLines ls) (scanPoint (proseLines ls) 0) = some block := by
    rwa [ofLines_eq_ofProse, ofProse_eq] at h
  have ne : proseLines ls ≠ [] := by
    intro none
    rw [none] at found
    cases found
  obtain ⟨front, parts⟩ : proseLines ls <:+ ls :=
    (List.dropWhile_suffix _).trans (List.dropWhile_suffix _)
  rw [← parts] at ended
  -- the paragraph ends before the last line, as its first line is not blank
  have stop : ∃ line ∈ proseLines ls, line.isBlank = true := by
    obtain ⟨opening, rest, prose⟩ := List.exists_cons_of_ne_nil ne
    have full := isBlank_of_opensProse
      (opensProse_of_head?_proseLines ls opening (by rw [prose]; rfl))
    rw [prose] at ended ⊢
    obtain ⟨line, hl, blank⟩ := (ended.under full).exists_blank
    exact ⟨line, List.mem_cons_of_mem _ hl, blank⟩
  have sentence : firstSentence? (proseLines ls ++ more) 0 = firstSentence? (proseLines ls) 0 := by
    rw [firstSentence?, firstSentence?, List.drop_zero, List.drop_zero,
      leadingSentence?_append_of_blank stop]
  have scan : scanPoint (proseLines ls ++ more) 0 = scanPoint (proseLines ls) 0 := by
    rw [scanPoint, scanPoint, sentence]
  rw [ofLines_eq_ofProse, ofLines_eq_ofProse, proseLines_append_of_ne_nil ne, ofProse_eq,
    ofProse_eq, sentence, scan, found, literalBlock?_append_of_some found ended]

theorem ofText_of_madeOf {ls : List Text} {t : Text} (h : Text.MadeOf ls t) :
    Snippet.ofText t = Snippet.ofLines ls := by
  rw [Snippet.ofText]
  rcases Text.eq_lines_of_madeOf h with same | same
  · rw [same]
  · -- an empty last line does not count
    have layout : SameLayout (t.lines ++ []) (t.lines ++ [[]]) :=
      sameLayout_of_forall₂ (List.forall₂_same.2 fun _ _ => .inl rfl) (by simp) (by simp)
    rw [same, ← ofLines_of_sameLayout layout, List.append_nil]

/-- **A page is read no further than to the end of its usage example.** If the last line is blank
and the usage example is not empty, or the last two lines are blank and there is a usage example,
then a page that goes on with any other lines has the same synopsis and the same usage example. -/
theorem ofText_append_lines {ls more : List Text} {t u : Text} (first : Text.MadeOf ls t)
    (second : Text.MadeOf (ls ++ more) u)
    (ended : (EndsBlank 1 ls ∧ ∃ block, block ≠ [] ∧ (Snippet.ofText t).usage = some block) ∨
      (EndsBlank 2 ls ∧ (Snippet.ofText t).usage ≠ none)) :
    Snippet.ofText u = Snippet.ofText t := by
  rw [ofText_of_madeOf first] at ended ⊢
  rw [ofText_of_madeOf second]
  rcases ended with ⟨blank, block, full, found⟩ | ⟨blank, found⟩
  · exact ofLines_append_of_ended found (.inl ⟨blank, full⟩) more
  · obtain ⟨block, found⟩ := Option.ne_none_iff_exists'.1 found
    exact ofLines_append_of_ended found (.inr blank) more

/-- A page that ends with two blank lines under its two colons, and one that goes on with a line
that looks like a usage example and with a sentence. -/
theorem ofText_append_lines_emptyBlock :
    let t : Text := "T\n\nSay it\nnow. So::\n \n\n".toList
    let u : Text := "T\n\nSay it\nnow. So::\n \n\n  x\ny::\n\n  z".toList
    Snippet.ofText t = ⟨some "Say it\nnow.".toList, some []⟩ ∧
      Snippet.ofText u = Snippet.ofText t := by
  intro t u
  have parts : Snippet.ofText t = ⟨some "Say it\nnow.".toList, some []⟩ := by decide +kernel
  have longer : u.lines = t.lines ++ u.lines.drop 6 := by decide +kernel
  have first := Text.madeOf_lines t
  have second := Text.madeOf_lines u
  rw [longer] at second
  have ended : EndsBlank 2 t.lines :=
    ⟨t.lines.take 4, t.lines.drop 4, by decide +kernel, by decide +kernel, by decide +kernel⟩
  exact ⟨parts, ofText_append_lines first second (.inr ⟨ended, by rw [parts]; simp⟩)⟩

/-- One blank line is not enough under an empty block. -/
example : Snippet.ofText "\nS.\n::\n\n".toList ≠ Snippet.ofText "\nS.\n::\n\n  x".toList := by
  decide +kernel

end DocSnippets
