import DocSnippets.Proofs.Snippet.Layout

/-!
# DocSnippets.Proofs.Snippet.NormalForm

**What snippets are made of.** A synopsis is made of lines none of which is blank; it opens with
prose, and its first sentence end is its end. A usage example is made of lines none of which is
blank either. No line of the two can be split again. These are all facts that reading a snippet
back depends on: a page with no more than a synopsis and a usage example of this form in it has
just these two.

* `NormalSynopsis`, `NormalUsage` — the forms of the two parts;
* `normalSynopsis_of_ofText`, `normalUsage_of_ofText` — the parts of every snippet have them;
* `ofText_page` — a smallest page with parts of these forms gives them back;
* `ofText_page_of_ofText` — so the parts of every snippet are found again.
-/

namespace DocSnippets

/-! ### The forms of the parts -/

/-- The lines of a sentence that is read back from them. -/
structure SentenceLines (before : List Text) (last : Text) : Prop where
  /-- The first line opens with prose. -/
  opens : ∀ first ∈ (before ++ [last]).head?, opensProse first = true
  /-- The lines before the last one are not blank, and no sentence ends in them. -/
  goes_on : ∀ line ∈ before, line.isBlank = false ∧ sentenceEnd? line = none
  /-- In the last line the first sentence end is the end of the line. -/
  ends : sentenceEnd? last = some last.length
  /-- No line has a break within it. -/
  whole : ∀ line ∈ before ++ [last], ∀ c ∈ line, isBreak c = false

theorem SentenceLines.lines_join {before : List Text} {last : Text}
    (h : SentenceLines before last) :
    (Text.join ['\n'] (before ++ [last])).lines = before ++ [last] := by
  refine Text.lines_join h.whole fun final hf => ?_
  rw [List.getLast?_concat, Option.mem_def, Option.some.injEq] at hf
  subst hf
  rintro rfl
  cases h.ends

/-- A text has the form of a synopsis. -/
def NormalSynopsis (s : Text) : Prop :=
  ∃ before last, SentenceLines before last ∧ s = Text.join ['\n'] (before ++ [last])

/-- A text has the form of a usage example. -/
def NormalUsage (e : Text) : Prop :=
  ∃ block : List Text, (∀ line ∈ block, line.isBlank = false ∧ ∀ c ∈ line, isBreak c = false) ∧
    e = Text.join ['\n'] block

theorem mem_of_mem_proseLines {ls : List Text} {line : Text} (h : line ∈ proseLines ls) :
    line ∈ ls :=
  (List.dropWhile_sublist _).mem ((List.dropWhile_sublist _).mem h)

theorem opensProse_of_head?_proseLines (ls : List Text) :
    ∀ first ∈ (proseLines ls).head?, opensProse first = true := by
  intro first hf
  have passed := List.head?_dropWhile_not (fun line => !opensProse line)
    (ls.dropWhile fun line => !line.isBlank)
  rw [Option.mem_def, proseLines] at hf
  simpa [hf] using passed

theorem opensProse_take {line : Text} {column : Nat} (h : 0 < column) :
    opensProse (line.take column) = opensProse line := by
  obtain ⟨column, rfl⟩ := Nat.exists_eq_succ_of_ne_zero (Nat.ne_of_gt h)
  cases line <;> rfl

/-- The synopsis of a page has the form of one. -/
theorem normalSynopsis_of_ofText {t s : Text} (h : (Snippet.ofText t).synopsis = some s) :
    NormalSynopsis s := by
  rw [Snippet.ofText, ofLines_eq_ofProse, ofProse_eq] at h
  obtain ⟨found, hf, rfl⟩ := Option.map_eq_some_iff.1 h
  obtain ⟨sentence, hs, rfl⟩ := Option.map_eq_some_iff.1 hf
  rw [List.drop_zero] at hs
  obtain ⟨before, line, after, parts, hbefore, -, hend, -, htext⟩ := leadingSentence?_eq_some hs
  obtain ⟨pos, le⟩ := sentenceEnd?_le hend
  have mem : ∀ l ∈ before ++ [line], l ∈ t.lines := by
    intro l hl
    refine mem_of_mem_proseLines ?_
    rw [parts]
    rcases List.mem_append.1 hl with hl | hl <;> simp_all
  refine ⟨before, line.take sentence.stop.column, ⟨?_, hbefore, ?_, ?_⟩, htext⟩
  · -- the first line is the opening line, or a start of it
    have opens := opensProse_of_head?_proseLines t.lines
    rw [parts] at opens
    cases before with
    | nil => simpa [opensProse_take pos] using opens
    | cons first more => simpa using opens
  · rw [sentenceEnd?_take hend, List.length_take, Nat.min_eq_left le]
  · intro l hl
    rcases List.mem_append.1 hl with hl | hl
    · exact Text.isBreak_notMem_lines (mem l (List.mem_append_left _ hl))
    · obtain rfl := List.mem_singleton.1 hl
      exact fun c hc => Text.isBreak_notMem_lines (mem line (by simp)) c (List.mem_of_mem_take hc)

theorem mem_of_mem_blockStart {ls : List Text} {line : Text} (h : line ∈ blockStart ls) :
    line ∈ ls := by
  cases ls with
  | nil => cases h
  | cons first rest =>
    rw [blockStart] at h
    split at h
    · exact List.mem_cons_of_mem _ h
    · exact h

theorem normalUsage_of_ofText {t e : Text} (h : (Snippet.ofText t).usage = some e) :
    NormalUsage e := by
  rw [Snippet.ofText, ofLines_eq_ofProse, ofProse_eq] at h
  obtain ⟨m, -, rfl⟩ := Option.map_eq_some_iff.1 h
  rw [leadingBlock_eq]
  refine ⟨_, fun line hl => ⟨isBlank_of_mem_leadingRun hl, ?_⟩, rfl⟩
  have found := mem_of_mem_blockStart ((List.takeWhile_sublist _).mem hl)
  exact Text.isBreak_notMem_lines (mem_of_mem_proseLines (List.mem_of_mem_drop found))

/-! ### Pages with no more than that -/

/-- A smallest page with a synopsis, and with a usage example if there is one. -/
def Snippet.page (synopsis : Text) : Option Text → Text
  | none => '\n' :: synopsis
  | some usage => '\n' :: (synopsis ++ ('\n' :: "::\n\n".toList ++ usage))

theorem literalBlock?_under (line : Text) (under : List Text) :
    literalBlock? (line :: under) ⟨0, line.length⟩ =
      (under.findIdx? announcesLiteral).map fun m => leadingBlock (under.drop (m + 1)) := by
  have nothing : ¬ announcesLiteral (line.drop line.length) = true := by
    rw [List.drop_length]
    decide
  rw [literalBlock?, literalMarker?, List.drop_zero, announcement?, if_neg nothing, Option.map_map,
    Option.map_map]
  refine Option.map_congr fun m _ => ?_
  simp only [Function.comp_apply, Nat.zero_add, List.drop_succ_cons]

theorem proseLines_sentenceLines {before : List Text} {last : Text}
    (h : SentenceLines before last) (under : List Text) :
    proseLines ([] :: (before ++ last :: under)) = before ++ last :: under := by
  have opens := h.opens
  cases before with
  | nil => simp_all [proseLines, opensProse]
  | cons first more => simp_all [proseLines, opensProse]

/-- A sentence is the synopsis of a page that begins with it after a blank line, and the usage
example is looked for in the lines under it. -/
theorem ofLines_sentenceLines {before : List Text} {last : Text} (h : SentenceLines before last)
    (under : List Text) :
    Snippet.ofLines ([] :: (before ++ last :: under)) =
      ⟨some (Text.join ['\n'] (before ++ [last])),
        (under.findIdx? announcesLiteral).map fun m => leadingBlock (under.drop (m + 1))⟩ := by
  have sentence : firstSentence? (before ++ last :: under) 0 =
      some ⟨Text.join ['\n'] (before ++ [last]), ⟨before.length, last.length⟩⟩ := by
    rw [firstSentence?, List.drop_zero, leadingSentence?_append h.goes_on h.ends]
    simp
  have scan : scanPoint (before ++ last :: under) 0 = ⟨before.length, last.length⟩ := by
    rw [scanPoint, sentence]
    rfl
  have block : literalBlock? (before ++ last :: under) ⟨before.length, last.length⟩ =
      literalBlock? (last :: under) ⟨0, last.length⟩ := by
    have skipped := literalBlock?_drop (before ++ last :: under) before.length ⟨0, last.length⟩
    rwa [List.drop_left] at skipped
  rw [ofLines_eq_ofProse, proseLines_sentenceLines h, ofProse_eq, sentence, scan, block,
    literalBlock?_under]
  rfl

theorem leadingBlock_of_normalUsage {e : Text} (h : NormalUsage e) :
    leadingBlock ([] :: e.lines) = e := by
  obtain ⟨block, each, rfl⟩ := h
  have lines : (Text.join ['\n'] block).lines = block := by
    refine Text.lines_join (fun line hl => (each line hl).2) fun last hl => ?_
    have full := (each last (List.mem_of_getLast? hl)).1
    rintro rfl
    cases full
  have run : leadingRun block = block := by
    rw [leadingRun, List.takeWhile_eq_self_iff]
    intro line hl
    rw [(each line hl).1]
    rfl
  rw [leadingBlock_eq, blockStart, if_pos Text.isBlank_nil, lines, run]

/-- The lines of a smallest page under its synopsis. -/
def linesUnder : Option Text → List Text
  | none => []
  | some usage => literalMark :: [] :: usage.lines

theorem lines_page {before : List Text} {last : Text} (h : SentenceLines before last)
    (usage : Option Text) :
    (Snippet.page (Text.join ['\n'] (before ++ [last])) usage).lines =
      [] :: (before ++ last :: linesUnder usage) := by
  have first (rest : Text) : Text.lines ('\n' :: rest) = [] :: rest.lines := by
    have none : ∀ c ∈ ([] : Text), isBreak c = false := by simp
    exact Text.lines_append_break none
  cases usage with
  | none =>
    rw [Snippet.page, first, h.lines_join]
    rfl
  | some e =>
    have under : Text.lines ("::\n\n".toList ++ e) = literalMark :: [] :: e.lines := rfl
    have joined : Text.join ['\n'] (before ++ [last]) ++ ('\n' :: "::\n\n".toList ++ e) =
        Text.join ['\n'] (before ++ [last]) ++ '\n' :: ("::\n\n".toList ++ e) := rfl
    rw [Snippet.page, first, joined, Text.lines_join_append_break (by simp) h.whole, under,
      List.append_assoc]
    rfl

/-- The parts of a smallest page are found again, if they have the forms of such parts. -/
theorem ofText_page {s : Text} {usage : Option Text} (synopsis : NormalSynopsis s)
    (block : ∀ e ∈ usage, NormalUsage e) :
    Snippet.ofText (Snippet.page s usage) = ⟨some s, usage⟩ := by
  obtain ⟨before, last, sentence, rfl⟩ := synopsis
  rw [Snippet.ofText, lines_page sentence, ofLines_sentenceLines sentence]
  cases usage with
  | none => rfl
  | some e =>
    have marked : (linesUnder (some e)).findIdx? announcesLiteral = some 0 := rfl
    rw [marked, Option.map_some, linesUnder, List.drop_succ_cons, List.drop_zero,
      leadingBlock_of_normalUsage (block e rfl)]

theorem exists_ofText_iff {s : Text} {usage : Option Text} :
    (∃ t, Snippet.ofText t = ⟨some s, usage⟩) ↔
      NormalSynopsis s ∧ ∀ e ∈ usage, NormalUsage e := by
  constructor
  · intro page
    obtain ⟨t, h⟩ := page
    exact ⟨normalSynopsis_of_ofText (t := t) (by rw [h]), fun e he =>
      normalUsage_of_ofText (t := t) (by rw [h]; exact he)⟩
  · intro forms
    exact ⟨_, ofText_page forms.1 forms.2⟩

/-- **Snippets are stable.** A page that holds no more than the synopsis of another page has that
synopsis and no usage example; with two colons and the usage example of that page under the
synopsis, it has both. -/
theorem ofText_page_of_ofText {t s : Text} (h : (Snippet.ofText t).synopsis = some s) :
    Snippet.ofText (Snippet.page s none) = ⟨some s, none⟩ ∧
      ∀ e, (Snippet.ofText t).usage = some e →
        Snippet.ofText (Snippet.page s (some e)) = ⟨some s, some e⟩ := by
  have synopsis := normalSynopsis_of_ofText h
  refine ⟨ofText_page synopsis (by simp), fun e he => ofText_page synopsis ?_⟩
  rintro _ ⟨⟩
  exact normalUsage_of_ofText he

/-- A page with a synopsis of two lines, with two colons within it, that ends inside a line. -/
theorem ofText_page_of_ofText_colons :
    let t : Text :=
      "T\r\n=\r\n\r\n.. x\n`Say:: v1.2\x0bit`.' More:\n\n::\n \n  a.\n  b\n\nEnd.".toList
    let s : Text := "`Say:: v1.2\nit`.'".toList
    let e : Text := "  a.\n  b".toList
    Snippet.ofText t = ⟨some s, some e⟩ ∧
      Snippet.ofText ('\n' :: s) = ⟨some s, none⟩ ∧
      Snippet.ofText ('\n' :: (s ++ '\n' :: "::\n\n".toList ++ e)) = ⟨some s, some e⟩ := by
  intro t s e
  have parts : Snippet.ofText t = ⟨some s, some e⟩ := by decide +kernel
  have stable := ofText_page_of_ofText (t := t) (s := s) (by rw [parts])
  exact ⟨parts, stable.1, stable.2 e (by rw [parts])⟩

end DocSnippets
