import DocSnippets.Proofs.Snippet.Anatomy
import DocSnippets.Proofs.Text.Lines
import Mathlib.Data.List.DropRight
import Mathlib.Data.List.Forall2

/-!
# DocSnippets.Proofs.Snippet.Layout

**Layout that does not matter.** The snippet of a page is made of the lines after the title block
only, and of a blank line it matters only that it is blank. Blank lines at the end of the page do
not matter at all. Two pages that differ in nothing else have the same snippet.

Lines with the `SameLayout` are the same but for what blank lines hold and how many come last. Every
search for a part of the snippet goes the same way over such lines (`ofLines_of_sameLayout`), and
the results about pages only have to find two pages with the same layout.
-/

namespace DocSnippets

/-! ### Lines that are the same but for blanks -/

/-- Two lines that are the same, or both blank. -/
def SameLine (l m : Text) : Prop := l = m ∨ l.isBlank = true ∧ m.isBlank = true

instance (l m : Text) : Decidable (SameLine l m) := inferInstanceAs (Decidable (_ ∨ _))

/-- Lines that are the same, line by line, up to blank lines at the end of either. -/
inductive SameLayout : List Text → List Text → Prop
  | ends {ls ms : List Text} (first : ∀ l ∈ ls, l.isBlank = true)
      (second : ∀ m ∈ ms, m.isBlank = true) : SameLayout ls ms
  | cons {l m : Text} {ls ms : List Text} (line : SameLine l m) (rest : SameLayout ls ms) :
      SameLayout (l :: ls) (m :: ms)

theorem SameLine.test_eq {l m : Text} {test : Text → Bool} (h : SameLine l m)
    (blank : ∀ line : Text, line.isBlank = true → test line = false) : test l = test m := by
  obtain rfl | ⟨hl, hm⟩ := h
  · rfl
  · rw [blank l hl, blank m hm]

theorem SameLine.isBlank_eq {l m : Text} (h : SameLine l m) : l.isBlank = m.isBlank := by
  obtain rfl | ⟨hl, hm⟩ := h
  · rfl
  · rw [hl, hm]

theorem SameLine.eq_of_not_blank {l m : Text} (h : SameLine l m) (hl : l.isBlank = false) :
    l = m := by
  obtain rfl | ⟨blank, -⟩ := h
  · rfl
  · rw [blank] at hl
    cases hl

namespace SameLayout

theorem drop {ls ms : List Text} (h : SameLayout ls ms) (k : Nat) :
    SameLayout (ls.drop k) (ms.drop k) := by
  induction h generalizing k with
  | ends first second =>
    exact .ends (fun l hl => first l (List.mem_of_mem_drop hl))
      (fun m hm => second m (List.mem_of_mem_drop hm))
  | cons line rest ih =>
    cases k with
    | zero => exact .cons line rest
    | succ k => exact ih k

theorem dropWhile {ls ms : List Text} (h : SameLayout ls ms) {test : Text → Bool}
    (same : ∀ l m, SameLine l m → test l = test m) :
    SameLayout (ls.dropWhile test) (ms.dropWhile test) := by
  induction h with
  | ends first second =>
    exact .ends (fun l hl => first l ((List.dropWhile_sublist test).mem hl))
      (fun m hm => second m ((List.dropWhile_sublist test).mem hm))
  | @cons l m ls ms line rest ih =>
    rw [List.dropWhile_cons, List.dropWhile_cons, same l m line]
    split
    · exact ih
    · exact .cons line rest

/-- The first line that passes a test has the same number, if no blank line passes. -/
theorem findIdx?_eq {ls ms : List Text} (h : SameLayout ls ms) {test : Text → Bool}
    (blank : ∀ line : Text, line.isBlank = true → test line = false) :
    ls.findIdx? test = ms.findIdx? test := by
  induction h with
  | ends first second =>
    rw [List.findIdx?_eq_none_iff.2 fun l hl => blank l (first l hl),
      List.findIdx?_eq_none_iff.2 fun m hm => blank m (second m hm)]
  | cons line rest ih =>
    rw [List.findIdx?_cons, List.findIdx?_cons, line.test_eq blank, ih]

/-! ### The parts of a snippet -/

theorem leadingRun_eq {ls ms : List Text} (h : SameLayout ls ms) :
    leadingRun ls = leadingRun ms := by
  have none : ∀ ns : List Text, (∀ n ∈ ns, n.isBlank = true) → leadingRun ns = [] :=
    fun _ hn => leadingRun_eq_nil_iff.2 fun n first => hn n (List.mem_of_mem_head? first)
  induction h with
  | ends first second => rw [none _ first, none _ second]
  | @cons l m ls ms line rest ih =>
    cases hl : l.isBlank with
    | true => rw [leadingRun_cons_of_blank hl, leadingRun_cons_of_blank (line.isBlank_eq ▸ hl)]
    | false =>
      obtain rfl := line.eq_of_not_blank hl
      rw [leadingRun_cons_of_not_blank hl, leadingRun_cons_of_not_blank hl, ih]

theorem leadingSentence?_eq {ls ms : List Text} (h : SameLayout ls ms) :
    leadingSentence? ls = leadingSentence? ms := by
  have none : ∀ ns : List Text, (∀ n ∈ ns, n.isBlank = true) → leadingSentence? ns = none := by
    intro ns hn
    cases ns with
    | nil => rfl
    | cons n rest => rw [leadingSentence?, if_pos (hn n (by simp))]
  induction h with
  | ends first second => rw [none _ first, none _ second]
  | @cons l m ls ms line rest ih =>
    cases hl : l.isBlank with
    | true =>
      have hm : m.isBlank = true := line.isBlank_eq ▸ hl
      rw [leadingSentence?, leadingSentence?, if_pos hl, if_pos hm]
    | false =>
      obtain rfl := line.eq_of_not_blank hl
      rw [leadingSentence?, leadingSentence?, ih]

/-- The lines of a literal block, after the blank line that is passed over. -/
theorem blockStart_sameLayout {ls ms : List Text} (h : SameLayout ls ms) :
    SameLayout (blockStart ls) (blockStart ms) := by
  have tail : ∀ ns : List Text, (∀ n ∈ ns, n.isBlank = true) →
      ∀ n ∈ blockStart ns, n.isBlank = true := by
    intro ns hn n mem
    cases ns with
    | nil => cases mem
    | cons first rest =>
      rw [blockStart, if_pos (hn first (by simp))] at mem
      exact hn n (List.mem_cons_of_mem _ mem)
  cases h with
  | ends first second => exact .ends (tail _ first) (tail _ second)
  | @cons l m ls ms line rest =>
    rw [blockStart, blockStart, line.isBlank_eq]
    split
    · exact rest
    · exact .cons line rest

theorem leadingBlock_eq_of_same {ls ms : List Text} (h : SameLayout ls ms) :
    leadingBlock ls = leadingBlock ms := by
  rw [leadingBlock_eq, leadingBlock_eq, h.blockStart_sameLayout.leadingRun_eq]

end SameLayout

theorem announcesLiteral_drop_of_isBlank {line : Text} (h : line.isBlank = true) (column : Nat) :
    announcesLiteral (line.drop column) = false := by
  rw [Bool.eq_false_iff]
  intro mark
  have colon : ':' ∈ line :=
    List.mem_of_mem_drop ((announcesLiteral_iff.1 mark).subset (by simp [literalMark]))
  exact absurd (Text.isBlank_iff.1 h ':' colon) (by decide)

namespace SameLayout

theorem announcement?_eq {ls ms : List Text} (h : SameLayout ls ms) (column : Nat) :
    announcement? column ls = announcement? column ms := by
  have blank : ∀ line : Text, line.isBlank = true → announcesLiteral line = false :=
    fun line hb => announcesLiteral_drop_of_isBlank hb 0
  have none : ∀ ns : List Text, (∀ n ∈ ns, n.isBlank = true) → announcement? column ns = none := by
    intro ns hn
    cases ns with
    | nil => rfl
    | cons n rest =>
      have hn' : ∀ m ∈ rest, announcesLiteral m = false := fun m hm => blank m (hn m (by simp [hm]))
      rw [announcement?, announcesLiteral_drop_of_isBlank (hn n (by simp)),
        List.findIdx?_eq_none_iff.2 hn']
      rfl
  cases h with
  | ends first second => rw [none _ first, none _ second]
  | cons line rest =>
    rw [announcement?, announcement?, rest.findIdx?_eq blank,
      line.test_eq fun l hb => announcesLiteral_drop_of_isBlank hb column]

theorem literalBlock?_eq {ls ms : List Text} (h : SameLayout ls ms) (point : Position) :
    literalBlock? ls point = literalBlock? ms point := by
  have marker : literalMarker? ls point = literalMarker? ms point := by
    rw [literalMarker?, literalMarker?, (h.drop point.line).announcement?_eq]
  rw [literalBlock?, literalBlock?, marker]
  congr 1
  funext m
  exact (h.drop (m + 1)).leadingBlock_eq_of_same

theorem ofProse_eq_of_same {ls ms : List Text} (h : SameLayout ls ms) (opening : Nat) :
    Snippet.ofProse ls opening = Snippet.ofProse ms opening := by
  have sentence : firstSentence? ls opening = firstSentence? ms opening := by
    rw [firstSentence?, firstSentence?, (h.drop opening).leadingSentence?_eq]
  have scan : scanPoint ls opening = scanPoint ms opening := by
    rw [scanPoint, scanPoint, sentence]
  rw [ofProse_eq, ofProse_eq, sentence, scan, h.literalBlock?_eq]

end SameLayout

/-! ### The lines that count -/

/-- The lines of a page from its first line of prose on. -/
def proseLines (ls : List Text) : List Text :=
  (ls.dropWhile fun line => !line.isBlank).dropWhile fun line => !opensProse line

theorem literalBlock?_drop (ls : List Text) (o : Nat) (point : Position) :
    literalBlock? ls ⟨o + point.line, point.column⟩ = literalBlock? (ls.drop o) point := by
  simp only [literalBlock?, literalMarker?, Option.map_map, Function.comp_def, List.drop_drop,
    Nat.add_assoc]

/-- Prose that opens at a line opens at the first one, when the lines before are left out. -/
theorem ofProse_drop (ls : List Text) (o : Nat) :
    Snippet.ofProse ls o = Snippet.ofProse (ls.drop o) 0 := by
  rw [Snippet.ofProse, Snippet.ofProse, firstSentence?, firstSentence?, List.drop_zero]
  cases leadingSentence? (ls.drop o) with
  | none =>
    have block := literalBlock?_drop ls o ⟨0, 0⟩
    simpa using block
  | some s =>
    have block := literalBlock?_drop ls o s.stop
    simpa using block

/-- The snippet of a page is that of its prose, which opens at the first line then. -/
theorem ofLines_eq_ofProse (ls : List Text) :
    Snippet.ofLines ls = Snippet.ofProse (proseLines ls) 0 := by
  have prose : proseLines ls = (ls.drop (ls.findIdx Text.isBlank)).drop
      ((ls.drop (ls.findIdx Text.isBlank)).findIdx opensProse) := by
    simp only [proseLines, List.dropWhile_eq_drop_findIdx_not, Bool.not_not]
  rw [prose]
  -- the searches give a number or nothing; the lines that are dropped are counted likewise, only
  -- that all lines are dropped where nothing is found
  unfold Snippet.ofLines Snippet.prose? paragraphBreak? openingLine?
  cases hb : ls.findIdx? Text.isBlank with
  | none =>
    rw [List.findIdx?_eq_none_iff_findIdx_eq] at hb
    rw [hb, List.drop_length, List.drop_nil]
    rfl
  | some b =>
    obtain ⟨-, rfl⟩ := List.findIdx?_eq_some_iff_findIdx_eq.1 hb
    rw [Option.bind_some]
    cases ho : (ls.drop (ls.findIdx Text.isBlank)).findIdx? opensProse with
    | none =>
      rw [List.findIdx?_eq_none_iff_findIdx_eq] at ho
      rw [ho, List.drop_length]
      rfl
    | some k =>
      obtain ⟨-, rfl⟩ := List.findIdx?_eq_some_iff_findIdx_eq.1 ho
      rw [List.drop_drop, ← ofProse_drop]
      rfl

theorem ofLines_append_title {title body : List Text}
    (title_not_blank : ∀ line ∈ title, line.isBlank = false) :
    Snippet.ofLines (title ++ body) = Snippet.ofLines body := by
  have passed : proseLines (title ++ body) = proseLines body := by
    rw [proseLines, proseLines, List.dropWhile_append_of_pos]
    intro line hl
    rw [title_not_blank line hl]
    rfl
  rw [ofLines_eq_ofProse, ofLines_eq_ofProse, passed]

theorem ofLines_of_sameLayout {ls ms : List Text} (h : SameLayout ls ms) :
    Snippet.ofLines ls = Snippet.ofLines ms := by
  have body : SameLayout (ls.dropWhile fun line => !line.isBlank)
      (ms.dropWhile fun line => !line.isBlank) := by
    refine h.dropWhile fun l m same => ?_
    rw [same.isBlank_eq]
  have prose : SameLayout (proseLines ls) (proseLines ms) := by
    refine body.dropWhile fun l m same => ?_
    rw [same.test_eq fun line => opensProse_of_isBlank]
  rw [ofLines_eq_ofProse, ofLines_eq_ofProse]
  exact prose.ofProse_eq_of_same 0

/-! ### Pages -/

theorem sameLayout_of_forall₂ {ls ms after behind : List Text} (same : List.Forall₂ SameLine ls ms)
    (first : ∀ l ∈ after, l.isBlank = true) (second : ∀ m ∈ behind, m.isBlank = true) :
    SameLayout (ls ++ after) (ms ++ behind) := by
  induction same with
  | nil => exact .ends first second
  | cons line rest ih => exact .cons line ih

/-- Lines are the same up to the blank ones at the end, if they are the same without those. -/
theorem sameLayout_of_rdropWhile {ls ms : List Text}
    (same : List.Forall₂ SameLine (ls.rdropWhile Text.isBlank) (ms.rdropWhile Text.isBlank)) :
    SameLayout ls ms := by
  have first : ∀ l ∈ ls.rtakeWhile Text.isBlank, l.isBlank = true :=
    fun l hl => List.mem_rtakeWhile_imp hl
  have second : ∀ m ∈ ms.rtakeWhile Text.isBlank, m.isBlank = true :=
    fun m hm => List.mem_rtakeWhile_imp hm
  have whole := sameLayout_of_forall₂ same first second
  rwa [List.rdropWhile_append_rtakeWhile, List.rdropWhile_append_rtakeWhile] at whole

/-- **Layout that does not matter.** The lines of two pages are a title block without blank lines
and a body. If the bodies, without the blank lines at their ends, are equally long and have at each
place the same line or two blank ones, then the pages have the same snippet. The bodies need not
begin with a blank line, as lines before the first one are title anyway. -/
theorem ofText_title_blank_irrelevant {t u : Text} {title other body rest : List Text}
    (first : t.lines = title ++ body) (second : u.lines = other ++ rest)
    (title_not_blank : ∀ line ∈ title, line.isBlank = false)
    (other_not_blank : ∀ line ∈ other, line.isBlank = false)
    (same : List.Forall₂ SameLine (body.rdropWhile Text.isBlank)
      (rest.rdropWhile Text.isBlank)) :
    Snippet.ofText t = Snippet.ofText u := by
  have bodies := ofLines_of_sameLayout (sameLayout_of_rdropWhile same)
  rw [Snippet.ofText, Snippet.ofText, first, second, ofLines_append_title title_not_blank,
    ofLines_append_title other_not_blank, bodies]

/-- Two pages with other titles, line breaks and blanks, one with a break and blanks at its end. -/
theorem ofText_title_blank_irrelevant_twoPages :
    let plain : Text := "A\n\nSay it.\n\n::\n\n  x\n".toList
    let other : Text := "B\r\n=\r\n \r\nSay it.\r\n\t\r\n::\x0c \r  x\r\n\r\n ".toList
    Snippet.ofText plain = Snippet.ofText other ∧
      Snippet.ofText plain = ⟨some "Say it.".toList, some "  x".toList⟩ := by
  intro plain other
  have first : plain.lines = [['A']] ++ plain.lines.drop 1 := by decide +kernel
  have second : other.lines = [['B'], ['=']] ++ other.lines.drop 2 := by decide +kernel
  have same : List.Forall₂ SameLine ((plain.lines.drop 1).rdropWhile Text.isBlank)
      ((other.lines.drop 2).rdropWhile Text.isBlank) := by decide +kernel
  exact ⟨ofText_title_blank_irrelevant first second (by decide) (by decide) same,
    by decide +kernel⟩

theorem ofText_append_blank {t blanks : Text} (blank : blanks.isBlank = true)
    (opens : ∀ c ∈ blanks.head?, isBreak c = true) :
    Snippet.ofText (t ++ blanks) = Snippet.ofText t := by
  obtain ⟨more, hm, eq⟩ := Text.exists_lines_append t blank opens
  have same : SameLayout (t.lines ++ more) (t.lines ++ []) :=
    sameLayout_of_forall₂ (List.forall₂_same.2 fun _ _ => .inl rfl) hm (by simp)
  rw [Snippet.ofText, Snippet.ofText, eq, ofLines_of_sameLayout same, List.append_nil]

theorem ofText_written {parts others : List (Text × Text)} (first : Text.Written parts)
    (second : Text.Written others) (same : parts.map Prod.fst = others.map Prod.fst) :
    Snippet.ofText (Text.written parts) = Snippet.ofText (Text.written others) := by
  rw [Snippet.ofText, Snippet.ofText, Text.lines_written first, Text.lines_written second, same]

end DocSnippets
