import DocSnippets.Proofs.Snippet.NormalForm
import DocSnippets.Proofs.Snippet.Paragraph
import DocSnippets.Proofs.Text.Join
import DocSnippets.Record

/-!
# DocSnippets.Proofs.Snippet.Rendering

**Renderings and what they lose.** On one line, a synopsis loses which line breaks it had and
whether it ended with one, and nothing else. On several lines nothing is lost of what a page gives:
its synopsis ends with its first sentence end, a line feed does not move that, and so the first
sentence end of the rendering is where the usage example begins, however many lines either has.

* `Text.Flattens`, `Text.flattens_iff` — flattening, break by break;
* `Record.singleLine_flattens` — the rendering on one line;
* `sentenceEnd?_of_normalSynopsis`, `Record.multiline_of_synopsis` — where the synopsis ends in a
  rendering;
* `Snippet.ofRendered` — reading a rendering back;
* `Record.multiline_unambiguous` — the rendering on several lines.
-/

namespace DocSnippets

/-! ### One line -/

namespace Text

/-- A text is flattened to another one: a final line break is left out, every other one becomes a
blank, and all else stays. -/
inductive Flattens : Text → Text → Prop
  | nil : Flattens [] []
  | char {c : Char} {rest flat : Text} (own : isBreak c = false) (later : Flattens rest flat) :
      Flattens (c :: rest) (c :: flat)
  | final {b : Text} (br : IsLineBreak b) : Flattens b []
  | inner {b rest flat : Text} (br : IsLineBreak b)
      (apart : b = ['\r'] → rest.head? ≠ some '\n') (more : rest ≠ [])
      (later : Flattens rest flat) : Flattens (b ++ rest) (' ' :: flat)

theorem flattens_lineBreak_append {b rest : Text} (br : IsLineBreak b)
    (apart : b = ['\r'] → rest.head? ≠ some '\n')
    (later : Flattens rest (join [' '] rest.lines)) :
    Flattens (b ++ rest) (join [' '] ([] :: rest.lines)) := by
  by_cases more : rest = []
  · subst more
    rw [List.append_nil, lines_nil, join_singleton]
    exact .final br
  · rw [join_nil_lines _ more, List.singleton_append]
    exact .inner br apart more later

/-- Every text is flattened to its lines with blanks between them. -/
theorem flattens_join_lines (t : Text) : Flattens t (join [' '] t.lines) := by
  fun_induction lines t with
  | case1 => exact .nil
  | case2 rest ih => exact flattens_lineBreak_append (b := ['\r', '\n']) (.inl rfl) (by simp) ih
  | case3 c rest notPair hc ih =>
    refine flattens_lineBreak_append (b := [c]) (.inr ⟨c, rfl, hc⟩) ?_ ih
    intro cr feed
    obtain ⟨more, rfl⟩ := List.head?_eq_some_iff.1 feed
    exact notPair more (List.cons.inj cr).1 rfl
  | case4 c rest _ hc none ih =>
    obtain rfl := lines_eq_nil_iff.1 none
    exact .char (by simpa using hc) .nil
  | case5 c rest _ hc first more parts ih =>
    have own : isBreak c = false := by simpa using hc
    rw [join_cons_char, ← parts]
    exact .char own ih

/-- A text is flattened to its lines with blanks between them, and to nothing else. -/
theorem flattens_iff {t flat : Text} : Flattens t flat ↔ flat = join [' '] t.lines := by
  constructor
  · intro flattens
    induction flattens with
    | nil => rw [lines_nil, join_nil]
    | char own _ ih => rw [join_lines_cons own, ← ih]
    | @final b br =>
      have apart : b = ['\r'] → ([] : Text).head? ≠ some '\n' := by simp
      have one := lines_lineBreak_append br apart
      rw [List.append_nil] at one
      rw [one, lines_nil, join_singleton]
    | inner br apart more _ ih =>
      rw [lines_lineBreak_append br apart, join_nil_lines _ more, List.singleton_append, ← ih]
  · rintro rfl
    exact flattens_join_lines t

theorem isBreak_of_mem_join_lines {t : Text} :
    ∀ c ∈ join [' '] t.lines, isBreak c = false := by
  intro c hc
  rcases mem_join hc with blank | ⟨line, hl, hc⟩
  · obtain rfl := List.mem_singleton.1 blank
    decide
  · exact isBreak_notMem_lines hl c hc

theorem join_lines_of_no_break {t : Text} (h : ∀ c ∈ t, isBreak c = false) :
    join [' '] t.lines = t := by
  by_cases empty : t = []
  · rw [empty, lines_nil, join_nil]
  · rw [lines_of_no_break empty h, join_singleton]

end Text

/-- A text with blanks for its line feeds. -/
def Text.blankFeeds (t : Text) : Text := t.map fun c => if c = '\n' then ' ' else c

/-- The lines of a synopsis with blanks between them are the synopsis with blanks for its line
feeds. -/
theorem join_lines_of_normalSynopsis {s : Text} (h : NormalSynopsis s) :
    Text.join [' '] s.lines = s.blankFeeds := by
  obtain ⟨before, last, lines, rfl⟩ := h
  have own : ∀ line ∈ before ++ [last], line.blankFeeds = line := by
    intro line hl
    refine (List.map_congr_left fun c hc => if_neg ?_).trans (List.map_id line)
    rintro rfl
    exact absurd (lines.whole line hl _ hc) (by decide)
  have parts : (before ++ [last]).map Text.blankFeeds = before ++ [last] :=
    (List.map_congr_left own).trans (List.map_id _)
  rw [lines.lines_join, Text.blankFeeds, Text.map_join]
  exact congrArg _ parts.symm

theorem ne_nil_of_normalSynopsis {s : Text} (h : NormalSynopsis s) : s ≠ [] := by
  obtain ⟨before, last, lines, rfl⟩ := h
  rintro empty
  have none := lines.lines_join
  rw [empty, Text.lines_nil] at none
  simp at none

theorem Record.singleLine_eq (r : Record) :
    r.singleLine = Text.join [' '] (r.synopsis.getD []).lines := by
  rw [singleLine]
  cases r.synopsis <;> simp

/-- **On one line** a record shows its synopsis, flattened: no line break is left, and what was
flattened once stays as it is. The synopsis of a page only gets blanks for its line feeds. -/
theorem Record.singleLine_flattens (r : Record) :
    (∀ c ∈ r.singleLine, isBreak c = false) ∧
      (∀ flat, Text.Flattens (r.synopsis.getD []) flat ↔ flat = r.singleLine) ∧
      (r.synopsis = none → r.singleLine = []) ∧
      (∀ q : Record, q.synopsis = some r.singleLine → q.singleLine = r.singleLine) ∧
      ∀ t s, (Snippet.ofText t).synopsis = some s → r.synopsis = some s →
        r.singleLine = s.blankFeeds ∧ r.singleLine.length = s.length ∧ r.singleLine ≠ [] := by
  have flat : ∀ c ∈ r.singleLine, isBreak c = false := by
    rw [singleLine_eq]
    exact Text.isBreak_of_mem_join_lines
  refine ⟨flat, fun out => ?_, fun none => ?_, fun q again => ?_, fun t s page own => ?_⟩
  · rw [singleLine_eq]
    exact Text.flattens_iff
  · rw [singleLine_eq, none, Option.getD_none, Text.lines_nil, Text.join_nil]
  · rw [singleLine_of_synopsis again, Text.join_lines_of_no_break flat]
  · have normal := normalSynopsis_of_ofText page
    have shown : r.singleLine = s.blankFeeds := by
      rw [singleLine_of_synopsis own, join_lines_of_normalSynopsis normal]
    have size : r.singleLine.length = s.length := by rw [shown, Text.blankFeeds, List.length_map]
    refine ⟨shown, size, ?_⟩
    rw [← List.length_pos_iff, size, List.length_pos_iff]
    exact ne_nil_of_normalSynopsis normal

/-- A synopsis on two lines. -/
theorem singleLine_flattens_twoLines :
    let t : Text := "T\n\nIt is\nso. More.\n".toList
    let r : Record := ⟨['X'], some "It is\nso.".toList, none, by decide⟩
    (Snippet.ofText t).synopsis = r.synopsis ∧ r.singleLine = "It is so.".toList ∧
      Text.Flattens "It is\nso.".toList "It is so.".toList := by
  intro t r
  have page : (Snippet.ofText t).synopsis = some "It is\nso.".toList := by decide +kernel
  obtain ⟨-, flattens, -, -, shown⟩ := Record.singleLine_flattens r
  have flat : r.singleLine = "It is so.".toList := (shown t _ page rfl).1
  exact ⟨page, flat, (flattens _).2 flat.symm⟩

/-- A break at the end is left out, and a carriage return with a line feed is one break. -/
example : (Record.mk ['X'] (some "a\r\n\x0bb\n\r".toList) none (by decide)).singleLine =
    "a  b ".toList := by decide

/-! ### Several lines -/

theorem sentenceEnd?_of_normalSynopsis {s : Text} (h : NormalSynopsis s) :
    sentenceEnd? s = some s.length := by
  obtain ⟨before, last, lines, rfl⟩ := h
  have found := leadingSentence?_append lines.goes_on lines.ends []
  have run : leadingRun (before ++ [last]) = before ++ [last] := by
    rw [leadingRun, List.takeWhile_eq_self_iff]
    intro line hl
    rcases List.mem_append.1 hl with hl | hl
    · rw [(lines.goes_on line hl).1, Bool.not_false]
    · obtain rfl := List.mem_singleton.1 hl
      rw [isBlank_of_sentenceEnd? lines.ends, Bool.not_false]
  have search := sentenceEnd?_paragraph (before ++ [last])
  rw [paragraph, run, found, List.take_length] at search
  exact search

/-- A snippet read back from its rendering on several lines: the synopsis is the first sentence, and
the usage example is what follows it. -/
def Snippet.ofRendered (rendered : Text) : Option Snippet :=
  (sentenceEnd? rendered).map fun size =>
    ⟨some (rendered.take size),
      if rendered.length = size then none else some (rendered.drop (size + 1))⟩

/-- What follows the synopsis in a rendering: the line feed and the usage example, if there is
one. -/
def usageTail : Option Text → Text
  | none => []
  | some usage => '\n' :: usage

theorem Record.multiline_of_synopsis {r : Record} {s : Text} (h : r.synopsis = some s) :
    r.multiline = s ++ usageTail r.usage := by
  rw [multiline_eq, h]
  cases r.usage with
  | none => exact (List.append_nil s).symm
  | some usage => rfl

theorem sentenceEnd?_append_usageTail {s : Text} (h : NormalSynopsis s) (usage : Option Text) :
    sentenceEnd? (s ++ usageTail usage) = some s.length := by
  have ends := sentenceEnd?_of_normalSynopsis h
  cases usage with
  | none => rw [usageTail, List.append_nil, ends]
  | some e => rw [usageTail, sentenceEnd?_append_break, ends, Option.some_or]

/-- Nothing in the usage example moves the end of the synopsis, also where it is looked for line by
line. -/
theorem firstSentence?_append_usageTail {s : Text} (h : NormalSynopsis s) (usage : Option Text) :
    ∃ stop, firstSentence? (s ++ usageTail usage).lines 0 = some ⟨s, stop⟩ := by
  obtain ⟨before, last, lines, rfl⟩ := h
  have split : ∃ after, (Text.join ['\n'] (before ++ [last]) ++ usageTail usage).lines =
      before ++ last :: after := by
    cases usage with
    | none => exact ⟨[], by rw [usageTail, List.append_nil, lines.lines_join]⟩
    | some e =>
      refine ⟨e.lines, ?_⟩
      rw [usageTail, Text.lines_join_append_break (by simp) lines.whole, List.append_assoc,
        List.singleton_append]
  obtain ⟨after, split⟩ := split
  rw [firstSentence?, List.drop_zero, split, leadingSentence?_append lines.goes_on lines.ends,
    List.take_length]
  exact ⟨_, rfl⟩

theorem ofRendered_append_usageTail {s : Text} (h : NormalSynopsis s) (usage : Option Text) :
    Snippet.ofRendered (s ++ usageTail usage) = some ⟨some s, usage⟩ := by
  rw [Snippet.ofRendered, sentenceEnd?_append_usageTail h, Option.map_some, List.take_left]
  cases usage with
  | none => rw [usageTail, List.append_nil, if_pos rfl]
  | some e =>
    have longer : (s ++ usageTail (some e)).length ≠ s.length := by simp [usageTail]
    rw [if_neg longer, ← List.drop_drop, List.drop_left]
    rfl

/-- **On several lines** the records of two pages with a synopsis render alike only if the pages
have the same synopsis and the same usage example; a missing one and an empty one are told apart.
The synopsis of such a record is the first sentence of its rendering, and the usage example begins
after it. -/
theorem Record.multiline_unambiguous {t u : Text} {r q : Record}
    (first : ⟨r.synopsis, r.usage⟩ = Snippet.ofText t)
    (second : ⟨q.synopsis, q.usage⟩ = Snippet.ofText u)
    (known : r.synopsis ≠ none) (known' : q.synopsis ≠ none) :
    (r.multiline = q.multiline → r.synopsis = q.synopsis ∧ r.usage = q.usage) ∧
      (r.usage = none → q.usage = some [] → r.multiline ≠ q.multiline) ∧
      Snippet.ofRendered r.multiline = some ⟨r.synopsis, r.usage⟩ ∧
      ∀ s, r.synopsis = some s → (∃ i, FirstEnd r.multiline i s.length) ∧
        ∃ stop, firstSentence? r.multiline.lines 0 = some ⟨s, stop⟩ := by
  have normal : ∀ {t : Text} {r : Record}, ⟨r.synopsis, r.usage⟩ = Snippet.ofText t →
      ∀ s, r.synopsis = some s → NormalSynopsis s := by
    intro t r page s own
    exact normalSynopsis_of_ofText (t := t) (by rw [← page, own])
  have back : ∀ {t : Text} {r : Record}, ⟨r.synopsis, r.usage⟩ = Snippet.ofText t →
      r.synopsis ≠ none → Snippet.ofRendered r.multiline = some ⟨r.synopsis, r.usage⟩ := by
    intro t r page known
    obtain ⟨s, own⟩ := Option.ne_none_iff_exists'.1 known
    rw [multiline_of_synopsis own, ofRendered_append_usageTail (normal page s own), own]
  -- reading a rendering back gives both parts, so renderings that are alike have the same parts
  have alike : r.multiline = q.multiline → r.synopsis = q.synopsis ∧ r.usage = q.usage := by
    intro same
    have parts := back first known
    rw [same, back second known'] at parts
    obtain ⟨synopsis, usage⟩ := Snippet.mk.inj (Option.some.inj parts)
    exact ⟨synopsis.symm, usage.symm⟩
  refine ⟨alike, fun missing empty same => ?_, back first known, fun s own => ?_⟩
  · have usage := (alike same).2
    rw [missing, empty] at usage
    cases usage
  · rw [multiline_of_synopsis own]
    have shape := normal first s own
    exact ⟨sentenceEnd?_eq_some_iff_firstEnd.1 (sentenceEnd?_append_usageTail shape _),
      firstSentence?_append_usageTail shape _⟩

/-- Two pages laid out in different ways, with a usage example that reads like more sentences. -/
theorem multiline_unambiguous_twoPages :
    let t : Text := "T\n\nSay `it\nnow.'\n::\n\n  a.\n  b.\n".toList
    let u : Text := "\r\nSay `it\r\nnow.' Then::\r\n  a.\r\n  b.".toList
    let r : Record := ⟨['X'], some "Say `it\nnow.'".toList, some "  a.\n  b.".toList, by decide⟩
    let q : Record := ⟨['Y'], r.synopsis, r.usage, by decide⟩
    ⟨r.synopsis, r.usage⟩ = Snippet.ofText t ∧ ⟨q.synopsis, q.usage⟩ = Snippet.ofText u ∧
      r.synopsis ≠ none ∧ q.synopsis ≠ none ∧ r.multiline = q.multiline ∧
      r.synopsis = q.synopsis ∧ r.usage = q.usage ∧
      Snippet.ofRendered "Say `it\nnow.'\n  a.\n  b.".toList = some ⟨r.synopsis, r.usage⟩ := by
  intro t u r q
  have first : ⟨r.synopsis, r.usage⟩ = Snippet.ofText t := by decide +kernel
  have second : ⟨q.synopsis, q.usage⟩ = Snippet.ofText u := by decide +kernel
  have known : r.synopsis ≠ none := by simp [r]
  obtain ⟨alike, -, back, -⟩ := Record.multiline_unambiguous first second known known
  obtain ⟨synopsis, usage⟩ := alike rfl
  exact ⟨first, second, known, known, rfl, synopsis, usage, back⟩

/-- Records that no page gives may render alike. -/
example : (Record.mk ['X'] (some "a\nb".toList) none (by decide)).multiline =
    (Record.mk ['X'] (some ['a']) (some ['b']) (by decide)).multiline := by decide

end DocSnippets
