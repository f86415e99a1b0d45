import DocSnippets.Page.Source
import DocSnippets.Proofs.Snippet.Anatomy
import DocSnippets.Proofs.Text.Join
import Mathlib.Data.List.Infix

/-!
# DocSnippets.Proofs.Snippet.Verbatim

**How much of a page a snippet keeps.** A page has no carriage returns once it is read, so every
line break in it is one character, and putting a line feed for each moves nothing. Joining the lines
of the page gives this text back, up to a break at its end. The synopsis and the usage example are
joined lines of the page that stand together, so each is a contiguous part of the page with a line
feed for each line break: a vertical tab in it, or any other break but a line feed, is lost.

* `Text.feedBreaks`, `Text.feedBreaks_eq_self_iff` — a line feed for each line break;
* `Text.join_lines_prefix` — the lines of a text, joined;
* `Copied` — a text that stands in a page, but for its line breaks;
* `copied_of_prefix` — joined lines of a page are copied from it;
* `ofText_copied` — so are the synopsis and the usage example of a page that was read.
-/

namespace DocSnippets

/-! ### Line breaks and line feeds -/

namespace Text

/-- A text with a line feed for each of its line breaks. -/
def feedBreaks (t : Text) : Text := t.map fun c => if isBreak c then '\n' else c

/-- All line breaks of a text are line feeds. -/
def OnlyFeeds (t : Text) : Prop := ∀ c ∈ t, isBreak c = true → c = '\n'

theorem feedBreaks_eq_self_iff {t : Text} : t.feedBreaks = t ↔ t.OnlyFeeds := by
  have own := List.map_inj_left (l := t) (f := fun c => if isBreak c then '\n' else c) (g := id)
  rw [List.map_id] at own
  refine own.trans (forall₂_congr fun c _ => ?_)
  rw [id_eq, ite_eq_right_iff]
  exact forall_congr' fun _ => eq_comm

/-- The lines of a text without carriage returns are the text but for a break at its end, and but
for which breaks there are. -/
theorem join_lines_prefix {t : Text} (h : '\r' ∉ t) : join ['\n'] t.lines <+: t.feedBreaks := by
  induction t with
  | nil => exact List.nil_prefix
  | cons c rest ih =>
    obtain ⟨notCr, later⟩ := not_or.1 (mt List.mem_cons.2 h)
    rw [feedBreaks, List.map_cons]
    by_cases hc : isBreak c = true
    · have apart : [c] = ['\r'] → rest.head? ≠ some '\n' :=
        fun same => absurd (List.cons.inj same).1.symm notCr
      have parts : lines (c :: rest) = [] :: lines rest :=
        lines_lineBreak_append (.inr ⟨c, rfl, hc⟩) apart
      rw [parts, if_pos hc]
      by_cases last : rest = []
      · rw [last]
        exact List.nil_prefix
      · rw [join_nil_lines _ last, List.singleton_append, List.prefix_cons_inj]
        exact ih later
    · rw [join_lines_cons (Bool.not_eq_true _ ▸ hc), if_neg hc, List.prefix_cons_inj]
      exact ih later

theorem carriage_notMem_unifyBreaks (t : Text) : '\r' ∉ t.unifyBreaks := by
  fun_induction unifyBreaks t with
  | case1 => exact List.not_mem_nil
  | case2 rest ih => simpa using ih
  | case3 c rest _ ih =>
    rw [List.mem_cons, not_or]
    refine ⟨?_, ih⟩
    split
    · decide
    · rename_i other
      exact Ne.symm other

end Text

/-! ### Copies -/

/-- What stands in a page from the beginning of a line on, so many characters. -/
def standing (t : Text) (line size : Nat) : Text :=
  (t.drop (Text.partStart t.lines line)).take size

theorem standing_infix (t : Text) (line size : Nat) : standing t line size <:+: t :=
  (List.take_prefix _ _).isInfix.trans (List.drop_suffix _ _).isInfix

/-- A text is copied from a page, from the beginning of a line on. -/
structure Copied (t : Text) (line : Nat) (s : Text) : Prop where
  /-- It is what stands there, with a line feed for each line break. -/
  feeds : s = (standing t line s.length).feedBreaks
  /-- What stands there is a part of the page. -/
  part : standing t line s.length <:+: t
  /-- The copy is verbatim exactly where all line breaks in that part are line feeds. -/
  verbatim : s = standing t line s.length ↔ (standing t line s.length).OnlyFeeds

theorem copied_iff {t s : Text} {line : Nat} :
    Copied t line s ↔ s = (standing t line s.length).feedBreaks := by
  refine ⟨fun copied => copied.feeds, fun feeds => ⟨feeds, standing_infix .., ?_⟩⟩
  rw [← Text.feedBreaks_eq_self_iff, ← feeds]

theorem Copied.infix {t s : Text} {line : Nat} (h : Copied t line s) (feeds : t.OnlyFeeds) :
    s <:+: t := by
  have same := h.verbatim.2 fun c hc => feeds c (h.part.subset hc)
  rw [same]
  exact h.part

/-- A start of joined lines of a page is copied from where the first of them begins. -/
theorem copied_of_prefix {t s : Text} {line : Nat} (page : '\r' ∉ t)
    (h : s <+: Text.join ['\n'] (t.lines.drop line)) : Copied t line s := by
  rw [copied_iff, standing, Text.feedBreaks, List.map_take]
  refine List.prefix_iff_eq_take.1 ?_
  by_cases inside : line < t.lines.length
  · have whole := List.IsPrefix.drop (Text.join_lines_prefix page) (Text.partStart t.lines line)
    rw [Text.join_drop '\n' inside, Text.feedBreaks, ← List.map_drop] at whole
    exact h.trans whole
  · rw [List.drop_eq_nil_of_le (Nat.le_of_not_lt inside), Text.join_nil, List.prefix_nil] at h
    rw [h]
    exact List.nil_prefix

/-! ### Snippets -/

theorem copied_synopsis {t s : Text} {o : Nat} (page : '\r' ∉ t)
    (prose : Snippet.prose? t.lines = some o) (h : (Snippet.ofText t).synopsis = some s) :
    Copied t o s := by
  rw [Snippet.ofText, Snippet.ofLines_of_prose prose, ofProse_eq] at h
  obtain ⟨sentence, found, rfl⟩ := Option.map_eq_some_iff.1 h
  obtain ⟨s, hs, rfl⟩ := Option.map_eq_some_iff.1 found
  obtain ⟨before, line, after, parts, -, -, -, -, text⟩ := leadingSentence?_eq_some hs
  refine copied_of_prefix page ?_
  rw [parts, text]
  exact Text.join_concat_prefix (List.take_prefix _ _) before after

theorem copied_usage {t e : Text} {o : Nat} (page : '\r' ∉ t)
    (prose : Snippet.prose? t.lines = some o) (h : (Snippet.ofText t).usage = some e) :
    ∃ m, literalMarker? t.lines (scanPoint t.lines o) = some m ∧
      Copied t (blockLine t.lines m) e := by
  rw [Snippet.ofText, Snippet.ofLines_of_prose prose, ofProse_eq] at h
  obtain ⟨m, marker, rfl⟩ := Option.map_eq_some_iff.1 h
  refine ⟨m, marker, copied_of_prefix page ?_⟩
  rw [leadingBlock_eq, blockStart_drop_eq]
  exact Text.join_prefix (List.takeWhile_prefix _)

theorem exists_prose {t s : Text}
    (h : (Snippet.ofText t).synopsis = some s ∨ (Snippet.ofText t).usage = some s) :
    ∃ o, Snippet.prose? t.lines = some o := by
  refine Option.ne_none_iff_exists'.1 fun none => ?_
  rw [Snippet.ofText, Snippet.ofLines_of_no_prose none] at h
  rcases h with h | h <;> cases h

/-- **Snippets are copied from their pages**, with a line feed for each line break: the synopsis
from the line where the prose opens, and the usage example from the line where its block begins.
They are verbatim where the breaks in these parts are line feeds, so they are in a page that has no
other breaks. -/
theorem ofText_copied {tree : Tree} {p : Path} {source : Source}
    (read : Source.read tree p = .ok source) :
    (∀ s, (Snippet.ofText source.text).synopsis = some s →
      ∃ o, Snippet.prose? source.text.lines = some o ∧ Copied source.text o s) ∧
    (∀ e, (Snippet.ofText source.text).usage = some e →
      ∃ o m, Snippet.prose? source.text.lines = some o ∧
        literalMarker? source.text.lines (scanPoint source.text.lines o) = some m ∧
        Copied source.text (blockLine source.text.lines m) e) ∧
    (source.text.OnlyFeeds → ∀ part,
      (Snippet.ofText source.text).synopsis = some part ∨
        (Snippet.ofText source.text).usage = some part → part <:+: source.text) := by
  -- breaks are unified when a page is read, so each break that is left is one character
  have page : '\r' ∉ source.text := by
    obtain ⟨text, done, rfl⟩ := Source.read_eq_ok_iff.1 read
    obtain ⟨bytes, raw, -, -, rfl⟩ := Source.readText_eq_ok_iff.1 done
    exact Text.carriage_notMem_unifyBreaks raw
  have synopsis : ∀ s, (Snippet.ofText source.text).synopsis = some s →
      ∃ o, Snippet.prose? source.text.lines = some o ∧ Copied source.text o s := by
    intro s h
    obtain ⟨o, prose⟩ := exists_prose (.inl h)
    exact ⟨o, prose, copied_synopsis page prose h⟩
  have usage : ∀ e, (Snippet.ofText source.text).usage = some e →
      ∃ o m, Snippet.prose? source.text.lines = some o ∧
        literalMarker? source.text.lines (scanPoint source.text.lines o) = some m ∧
        Copied source.text (blockLine source.text.lines m) e := by
    intro e h
    obtain ⟨o, prose⟩ := exists_prose (.inr h)
    obtain ⟨m, marker, copied⟩ := copied_usage page prose h
    exact ⟨o, m, prose, marker, copied⟩
  refine ⟨synopsis, usage, fun feeds part h => ?_⟩
  rcases h with h | h
  · obtain ⟨o, -, copied⟩ := synopsis part h
    exact copied.infix feeds
  · obtain ⟨o, m, -, -, copied⟩ := usage part h
    exact copied.infix feeds

/-- A folder with a page that has a vertical tab in its first sentence. -/
def tabbedTree : Tree where
  entries := [
    ([.of "verses"], .folder),
    ([.of "verses", .of "tab.rst"],
      .file (Utf8.encode "T\r\n\r\nIt is\x0bso\r\nnow. See::\r\n\r\n  a\r\n  b\r\n".toList))]

/-- The page as it is read. -/
def tabbedPage : Source where
  path := .ofText "verses/tab.rst".toList
  baseName := "tab".toList
  text := "T\n\nIt is\x0bso\nnow. See::\n\n  a\n  b\n".toList

/-- Its synopsis is copied from the third line and its usage example from the seventh. -/
theorem ofText_copied_tabbed :
    Source.read tabbedTree tabbedPage.path = .ok tabbedPage ∧
      Copied tabbedPage.text 2 "It is\nso\nnow.".toList ∧
      Copied tabbedPage.text 6 "  a\n  b".toList := by
  have read : Source.read tabbedTree tabbedPage.path = .ok tabbedPage := by decide +kernel
  have parts : Snippet.ofText tabbedPage.text =
      ⟨some "It is\nso\nnow.".toList, some "  a\n  b".toList⟩ := by decide +kernel
  have prose : Snippet.prose? tabbedPage.text.lines = some 2 := by decide +kernel
  obtain ⟨synopsis, usage, -⟩ := ofText_copied read
  obtain ⟨o, opens, first⟩ := synopsis _ (by rw [parts])
  obtain ⟨o', m, opens', marker, second⟩ := usage _ (by rw [parts])
  rw [prose] at opens opens'
  cases opens
  cases opens'
  have place : blockLine tabbedPage.text.lines m = 6 := by
    have found : literalMarker? tabbedPage.text.lines (scanPoint tabbedPage.text.lines 2) =
      some 4 := by decide +kernel
    rw [found] at marker
    cases marker
    decide +kernel
  rw [place] at second
  exact ⟨read, first, second⟩

/-- The synopsis does not occur in the page: the vertical tab in it became a line feed. -/
theorem verticalTab_not_kept :
    Source.read tabbedTree tabbedPage.path = .ok tabbedPage ∧
      (Snippet.ofText tabbedPage.text).synopsis = some "It is\nso\nnow.".toList ∧
      ¬ "It is\nso\nnow.".toList <:+: tabbedPage.text ∧
      "It is\x0bso\nnow.".toList <:+: tabbedPage.text := by
  refine ⟨by decide +kernel, by decide +kernel, ?_, ?_⟩
  · rw [← Text.holds_iff]
    decide +kernel
  · rw [← Text.holds_iff]
    decide +kernel

end DocSnippets
