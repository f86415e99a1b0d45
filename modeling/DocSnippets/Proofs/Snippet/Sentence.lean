import DocSnippets.Proofs.Snippet.Run
import DocSnippets.Snippet.Sentence

/-!
# DocSnippets.Proofs.Snippet.Sentence

**Where sentences end.** `SentenceEnd line column` says it without a search: a terminator, the
longest run of closers after it, and then a blank or the end of the line. The search finds the
first such column of a line, and over a paragraph the first line that has one.
-/

namespace DocSnippets

/-- A sentence ends right before a column of a line. The closers are as many as there are, as what
follows them is no closer. -/
def SentenceEnd (line : Text) (column : Nat) : Prop :=
  ∃ before terminator closers after,
    line = before ++ terminator :: closers ++ after ∧ isTerminator terminator = true ∧
      (∀ c ∈ closers, isCloser c = true) ∧ (∀ c ∈ after.head?, isCloser c = false) ∧
      startsBlank after = true ∧ column = before.length + 1 + closers.length

/-! ### Characters -/

theorem isCloser_of_isTerminator {c : Char} (h : isTerminator c = true) : isCloser c = false := by
  simp only [isTerminator, Bool.or_eq_true, beq_iff_eq] at h
  rcases h with (rfl | rfl) | rfl <;> decide

theorem isCloser_head?_dropWhile (t : Text) :
    ∀ c ∈ (t.dropWhile isCloser).head?, isCloser c = false := by
  intro c hc
  have := List.head?_dropWhile_not isCloser t
  rw [Option.mem_def] at hc
  simpa [hc] using this

/-! ### One line -/

theorem not_sentenceEnd_nil (column : Nat) : ¬ SentenceEnd [] column := by
  intro isEnd
  obtain ⟨before, terminator, closers, after, h, -⟩ := isEnd
  simp at h

/-- A sentence ends at the terminator that a line begins with, or later in the line. -/
theorem sentenceEnd_cons {c : Char} {rest : Text} {column : Nat} :
    SentenceEnd (c :: rest) column ↔
      (isTerminator c = true ∧ startsBlank (rest.dropWhile isCloser) = true ∧
          column = (rest.takeWhile isCloser).length + 1) ∨
        ∃ k, SentenceEnd rest k ∧ column = k + 1 := by
  constructor
  · intro isEnd
    obtain ⟨before, terminator, closers, after, h, ht, hc, hm, hs, rfl⟩ := isEnd
    -- the terminator is the first character of the line, or it stands in the rest of it
    cases before with
    | nil =>
      obtain ⟨rfl, rfl⟩ : c = terminator ∧ rest = closers ++ after := by simpa using h
      have stop : after.takeWhile isCloser = [] ∧ after.dropWhile isCloser = after := by
        cases after with
        | nil => exact ⟨rfl, rfl⟩
        | cons d more => simp [hm d (by simp)]
      refine .inl ⟨ht, ?_, ?_⟩
      · rwa [List.dropWhile_append_of_pos hc, stop.2]
      · rw [List.takeWhile_append_of_pos hc, stop.1, List.append_nil, List.length_nil]
        omega
    | cons d before =>
      obtain ⟨rfl, rfl⟩ : c = d ∧ rest = before ++ terminator :: closers ++ after := by
        simpa using h
      refine .inr ⟨before.length + 1 + closers.length, ?_, ?_⟩
      · exact ⟨before, terminator, closers, after, rfl, ht, hc, hm, hs, rfl⟩
      · rw [List.length_cons]
        omega
  · intro either
    obtain ⟨ht, hs, rfl⟩ | ⟨k, hk, rfl⟩ := either
    · refine ⟨[], c, rest.takeWhile isCloser, rest.dropWhile isCloser, ?_, ht, ?_, ?_, hs, ?_⟩
      · simp [List.takeWhile_append_dropWhile]
      · exact fun d hd => List.all_eq_true.1 List.all_takeWhile d hd
      · exact isCloser_head?_dropWhile rest
      · rw [List.length_nil]
        omega
    · obtain ⟨before, terminator, closers, after, rfl, ht, hc, hm, hs, rfl⟩ := hk
      refine ⟨c :: before, terminator, closers, after, by simp, ht, hc, hm, hs, ?_⟩
      rw [List.length_cons]
      omega

/-- The search finds no sentence end in a line exactly when there is none. -/
theorem sentenceEnd?_eq_none_iff {line : Text} :
    sentenceEnd? line = none ↔ ∀ column, ¬ SentenceEnd line column := by
  induction line with
  | nil => simp [sentenceEnd?, not_sentenceEnd_nil]
  | cons c rest ih =>
    simp only [sentenceEnd?, sentenceEnd_cons]
    split
    · rename_i h
      rw [Bool.and_eq_true] at h
      simp only [reduceCtorEq, false_iff]
      intro none
      exact none _ (.inl ⟨h.1, h.2, rfl⟩)
    · rename_i h
      rw [Option.map_eq_none_iff, ih]
      constructor
      · rintro hn column (⟨ht, hs, -⟩ | ⟨k, hk, -⟩)
        · exact h (by rw [ht, hs]; rfl)
        · exact hn k hk
      · exact fun hn column hc => hn (column + 1) (.inr ⟨column, hc, rfl⟩)

/-- The sentence end that the search finds is one, and it is the first one of the line. -/
theorem sentenceEnd?_eq_some_iff {line : Text} {column : Nat} :
    sentenceEnd? line = some column ↔
      SentenceEnd line column ∧ ∀ other, SentenceEnd line other → column ≤ other := by
  have sound : ∀ k, sentenceEnd? line = some k →
      SentenceEnd line k ∧ ∀ other, SentenceEnd line other → k ≤ other := by
    induction line with
    | nil => simp [sentenceEnd?]
    | cons c rest ih =>
      -- an end at the first character comes before all others, one in the rest after none
      intro k h
      simp only [sentenceEnd?] at h
      split at h
      · rename_i hc
        rw [Bool.and_eq_true] at hc
        obtain rfl := Option.some.inj h
        refine ⟨sentenceEnd_cons.2 (.inl ⟨hc.1, hc.2, rfl⟩), fun other ho => ?_⟩
        rcases sentenceEnd_cons.1 ho with ⟨-, -, rfl⟩ | ⟨k, hk, rfl⟩
        · exact Nat.le_refl _
        · -- the closers end before the next terminator
          obtain ⟨before, t, cs, after, hr, ht, -, -, -, rfl⟩ := hk
          have run : (rest.takeWhile isCloser).length ≤ before.length := by
            rw [hr, List.append_assoc, List.takeWhile_append]
            split
            · simp [isCloser_of_isTerminator ht]
            · exact (List.takeWhile_sublist _).length_le
          omega
      · rename_i hc
        obtain ⟨j, hj, rfl⟩ := Option.map_eq_some_iff.1 h
        obtain ⟨hend, hfirst⟩ := ih j hj
        refine ⟨sentenceEnd_cons.2 (.inr ⟨j, hend, rfl⟩), fun other ho => ?_⟩
        rcases sentenceEnd_cons.1 ho with ⟨ht, hs, -⟩ | ⟨k, hk, rfl⟩
        · exact absurd (by rw [ht, hs]; rfl) hc
        · exact Nat.succ_le_succ (hfirst k hk)
  refine ⟨sound column, ?_⟩
  intro first
  obtain ⟨hend, hfirst⟩ := first
  cases hs : sentenceEnd? line with
  | none => exact absurd hend (sentenceEnd?_eq_none_iff.1 hs column)
  | some k =>
    obtain ⟨hk, hkf⟩ := sound k hs
    rw [Nat.le_antisymm (hkf column hend) (hfirst k hk)]

/-- Up to a sentence end of a line, its start has no sentence ends but those of the line: only at
the cut the end of the line comes nearer. -/
theorem sentenceEnd_of_take {line : Text} {size column : Nat} (inside : column < size)
    (le : size ≤ line.length) (h : SentenceEnd (line.take size) column) :
    SentenceEnd line column := by
  obtain ⟨before, terminator, closers, after, parts, ht, hc, hm, hs, rfl⟩ := h
  cases after with
  | nil =>
    have size_eq := congrArg List.length parts
    simp only [List.length_take, List.length_append, List.length_cons, List.length_nil] at size_eq
    omega
  | cons d more =>
    refine ⟨before, terminator, closers, d :: more ++ line.drop size, ?_, ht, hc, hm, hs, rfl⟩
    rw [← List.append_assoc, ← parts, List.take_append_drop]

theorem sentenceEnd?_take {line : Text} {column : Nat} (h : sentenceEnd? line = some column) :
    sentenceEnd? (line.take column) = some column := by
  have le := (sentenceEnd?_le h).2
  obtain ⟨isEnd, first⟩ := sentenceEnd?_eq_some_iff.1 h
  refine sentenceEnd?_eq_some_iff.2 ⟨?_, fun other ho => ?_⟩
  · obtain ⟨before, terminator, closers, after, rfl, ht, hc, -, -, rfl⟩ := isEnd
    refine ⟨before, terminator, closers, [], ?_, ht, hc, by simp, rfl, rfl⟩
    rw [List.append_nil, List.take_left']
    simp only [List.length_append, List.length_cons]
    omega
  · refine Nat.le_of_not_lt fun earlier => ?_
    exact Nat.not_le.2 earlier (first other (sentenceEnd_of_take earlier le ho))

theorem isBlank_of_sentenceEnd? {line : Text} {column : Nat}
    (h : sentenceEnd? line = some column) : line.isBlank = false := by
  obtain ⟨⟨before, terminator, closers, after, rfl, ht, -⟩, -⟩ := sentenceEnd?_eq_some_iff.1 h
  rw [Bool.eq_false_iff]
  intro blank
  have space := Text.isBlank_iff.1 blank terminator (by simp)
  simp only [isTerminator, Bool.or_eq_true, beq_iff_eq] at ht
  rcases ht with (rfl | rfl) | rfl <;> exact absurd space (by decide)

/-! ### A paragraph -/

/-- The search finds no sentence exactly when no line of the paragraph has a sentence end. -/
theorem leadingSentence?_eq_none_iff {ls : List Text} :
    leadingSentence? ls = none ↔ ∀ line ∈ leadingRun ls, ∀ column, ¬ SentenceEnd line column := by
  induction ls with
  | nil => simp [leadingSentence?]
  | cons line rest ih =>
    by_cases hb : line.isBlank = true
    · simp [leadingSentence?, hb, leadingRun_cons_of_blank hb]
    · rw [Bool.not_eq_true] at hb
      rw [leadingRun_cons_of_not_blank hb, List.forall_mem_cons, ← ih, ← sentenceEnd?_eq_none_iff]
      cases he : sentenceEnd? line with
      | none => simp [leadingSentence?, hb, he]
      | some column => simp [leadingSentence?, hb, he]

/-- The sentence that the search finds: whole lines without a sentence end, and then a start of a
line up to its first one, none of the lines blank. -/
theorem leadingSentence?_eq_some {ls : List Text} {s : Sentence}
    (h : leadingSentence? ls = some s) :
    ∃ before line after, ls = before ++ line :: after ∧
      (∀ l ∈ before, l.isBlank = false ∧ sentenceEnd? l = none) ∧
      line.isBlank = false ∧ sentenceEnd? line = some s.stop.column ∧
      s.stop.line = before.length ∧
      s.text = Text.join ['\n'] (before ++ [line.take s.stop.column]) := by
  induction ls generalizing s with
  | nil => simp [leadingSentence?] at h
  | cons line rest ih =>
    simp only [leadingSentence?] at h
    split at h
    · simp at h
    · rename_i hb
      rw [Bool.not_eq_true] at hb
      split at h
      · rename_i column he
        obtain rfl := Option.some.inj h
        exact ⟨[], line, rest, rfl, by simp, hb, he, rfl, rfl⟩
      · -- the sentence goes on: it is the line and what the search finds after it
        rename_i he
        obtain ⟨t, ht, rfl⟩ := Option.map_eq_some_iff.1 h
        obtain ⟨before, last, after, rfl, hbefore, hlast, hend, hline, htext⟩ := ih ht
        refine ⟨line :: before, last, after, rfl, ?_, hlast, hend, ?_, ?_⟩
        · exact List.forall_mem_cons.2 ⟨⟨hb, he⟩, hbefore⟩
        · rw [Sentence.after, hline, List.length_cons]
        · rw [Sentence.after, htext, List.cons_append, Text.join_cons_of_ne_nil _ _ (by simp),
            List.append_assoc, List.singleton_append]

/-- Whole lines without a sentence end and then a line that has one make a sentence. -/
theorem leadingSentence?_append {before : List Text} {line : Text} {column : Nat}
    (hbefore : ∀ l ∈ before, l.isBlank = false ∧ sentenceEnd? l = none)
    (hend : sentenceEnd? line = some column) (after : List Text) :
    leadingSentence? (before ++ line :: after) =
      some ⟨Text.join ['\n'] (before ++ [line.take column]), ⟨before.length, column⟩⟩ := by
  induction before with
  | nil =>
    have blank : ¬ line.isBlank = true := by rw [isBlank_of_sentenceEnd? hend]; decide
    rw [List.nil_append, leadingSentence?, if_neg blank, hend]
    rfl
  | cons first before ih =>
    obtain ⟨hb, he⟩ := hbefore first (by simp)
    have blank : ¬ first.isBlank = true := by rw [hb]; decide
    have later := ih fun l hl => hbefore l (List.mem_cons_of_mem _ hl)
    rw [List.cons_append, leadingSentence?, if_neg blank, he]
    simp only [later, Option.map_some, Sentence.after, List.length_cons]
    rw [List.cons_append, Text.join_cons_of_ne_nil _ _ (by simp), List.append_assoc,
      List.singleton_append]

end DocSnippets
