import DocSnippets.Proofs.Snippet.Anatomy

/-!
# DocSnippets.Proofs.Snippet.Paragraph

**A paragraph as one text.** The first sentence is looked for line by line, but the line feeds
between the lines make no difference: a sentence end at the end of a line is one before a blank in
the joined paragraph, no run of closers goes over a line feed, and no line feed ends a sentence. So
the search over the lines is one search over the paragraph.

* `EndsSentence`, `FirstEnd` — a sentence end by its offsets, and the one whose terminator comes
  first, without a search;
* `sentenceEnd?_eq_some_iff_firstEnd` — the search in a text finds that one;
* `sentenceEnd?_append_break` — a line feed splits the search;
* `sentenceEnd?_paragraph` — the search over lines is the search in the joined paragraph;
* `firstSentenceFrom_paragraph` — what the first sentence of a paragraph is, and where it stops.
-/

namespace DocSnippets

/-! ### Sentence ends by their offsets -/

/-- A sentence ends in a text, with the terminator at the first offset and what closes it up to the
second one. -/
structure EndsSentence (t : Text) (i j : Nat) : Prop where
  /-- A terminator stands at the first offset. -/
  terminator : ∃ c, t[i]? = some c ∧ isTerminator c = true
  /-- Only closers stand between it and the second offset. -/
  closers : ∀ k, i < k → k < j → ∃ c, t[k]? = some c ∧ isCloser c = true
  /-- No further closer follows. -/
  all_closers : ∀ c, t[j]? = some c → isCloser c = false
  /-- The text ends at the second offset, or a blank stands there. -/
  stop : ∀ c, t[j]? = some c → isSpace c = true
  /-- The second offset lies behind the first one and within the text. -/
  inside : i < j ∧ j ≤ t.length

namespace EndsSentence

/-- Of two sentence ends the one whose terminator comes first is over before the other begins. -/
theorem end_le_of_lt {t : Text} {i j i' j' : Nat} (h : EndsSentence t i j)
    (h' : EndsSentence t i' j') (lt : i < i') : j ≤ i' := by
  refine Nat.le_of_not_lt fun inside => ?_
  -- the second terminator would be one of the closers of the first
  obtain ⟨c, hc, closer⟩ := h.closers i' lt inside
  obtain ⟨d, hd, term⟩ := h'.terminator
  obtain rfl := Option.some.inj (hc.symm.trans hd)
  rw [isCloser_of_isTerminator term] at closer
  cases closer

theorem end_le_of_eq {t : Text} {i j j' : Nat} (h : EndsSentence t i j)
    (h' : EndsSentence t i j') : j ≤ j' := by
  refine Nat.le_of_not_lt fun inside => ?_
  obtain ⟨c, hc, closer⟩ := h.closers j' h'.inside.1 inside
  rw [h'.all_closers c hc] at closer
  cases closer

theorem end_le {t : Text} {i j i' j' : Nat} (h : EndsSentence t i j)
    (h' : EndsSentence t i' j') (le : i ≤ i') : j ≤ j' := by
  rcases Nat.lt_or_eq_of_le le with lt | rfl
  · exact Nat.le_trans (h.end_le_of_lt h' lt) (Nat.le_of_lt h'.inside.1)
  · exact h.end_le_of_eq h'

/-- The parts of a text around a sentence end give its offsets. -/
theorem of_parts {before closers after : Text} {terminator : Char}
    (term : isTerminator terminator = true) (closing : ∀ c ∈ closers, isCloser c = true)
    (all : ∀ c ∈ after.head?, isCloser c = false) (stop : ∀ c ∈ after.head?, isSpace c = true) :
    EndsSentence (before ++ terminator :: closers ++ after) before.length
      (before.length + 1 + closers.length) := by
  have at_offset (k : Nat) : (before ++ terminator :: closers ++ after)[before.length + 1 + k]? =
      (closers ++ after)[k]? := by
    rw [List.append_assoc, List.getElem?_append_right (by omega), Nat.add_assoc,
      Nat.add_sub_cancel_left, List.cons_append, Nat.add_comm, List.getElem?_cons_succ]
  have at_end : (before ++ terminator :: closers ++ after)[before.length + 1 + closers.length]? =
      after.head? := by
    rw [at_offset, List.getElem?_append_right (Nat.le_refl _), Nat.sub_self, List.head?_eq_getElem?]
  refine ⟨⟨terminator, by simp, term⟩, ?_, ?_, ?_, ?_⟩
  · -- an offset within the closers is one of them
    intro k above below
    obtain ⟨m, rfl⟩ := Nat.exists_eq_add_of_lt above
    have inside : m < closers.length := by omega
    refine ⟨closers[m], ?_, closing _ (List.getElem_mem inside)⟩
    rw [Nat.add_right_comm, at_offset, List.getElem?_append_left inside,
      List.getElem?_eq_getElem inside]
  · rwa [at_end]
  · rwa [at_end]
  · simp only [List.length_append, List.length_cons]
    omega

/-- The parts of a text around a sentence end. -/
theorem exists_parts {t : Text} {i j : Nat} (h : EndsSentence t i j) :
    ∃ terminator closers, t = t.take i ++ terminator :: closers ++ t.drop j ∧
      isTerminator terminator = true ∧ (∀ c ∈ closers, isCloser c = true) ∧
      j = i + 1 + closers.length := by
  obtain ⟨terminator, hi, term⟩ := h.terminator
  obtain ⟨lt, le⟩ := h.inside
  obtain ⟨inside, rfl⟩ := List.getElem?_eq_some_iff.1 hi
  obtain ⟨size, rfl⟩ := Nat.exists_eq_add_of_le (Nat.succ_le_of_lt lt)
  refine ⟨t[i], (t.drop (i + 1)).take size, ?_, term, ?_, ?_⟩
  · have behind : t.drop (i + 1 + size) = (t.drop (i + 1)).drop size := by rw [List.drop_drop]
    rw [Nat.succ_eq_add_one, behind, List.append_assoc, List.cons_append, List.take_append_drop,
      ← List.drop_eq_getElem_cons, List.take_append_drop]
  · intro c hc
    obtain ⟨k, hk⟩ := List.mem_iff_getElem?.1 hc
    rw [List.getElem?_take, List.getElem?_drop] at hk
    split at hk
    · obtain ⟨d, hd, closer⟩ := h.closers (i + 1 + k) (by omega) (by omega)
      obtain rfl := Option.some.inj (hk.symm.trans hd)
      exact closer
    · cases hk
  · rw [List.length_take, List.length_drop]
    omega

end EndsSentence

theorem startsBlank_iff {t : Text} : startsBlank t = true ↔ ∀ c ∈ t.head?, isSpace c = true := by
  cases t <;> simp [startsBlank]

/-- A sentence ends right before an offset if it has a terminator somewhere before. -/
theorem sentenceEnd_iff {t : Text} {j : Nat} : SentenceEnd t j ↔ ∃ i, EndsSentence t i j := by
  constructor
  · intro isEnd
    obtain ⟨before, terminator, closers, after, rfl, term, closing, all, stop, rfl⟩ := isEnd
    exact ⟨_, .of_parts term closing all (startsBlank_iff.1 stop)⟩
  · intro some_end
    obtain ⟨i, h⟩ := some_end
    obtain ⟨terminator, closers, parts, term, closing, size⟩ := h.exists_parts
    refine ⟨_, terminator, closers, _, parts, term, closing, ?_, startsBlank_iff.2 ?_, ?_⟩
    · rw [List.head?_drop]
      exact h.all_closers
    · rw [List.head?_drop]
      exact h.stop
    · rw [List.length_take]
      have := h.inside
      omega

/-- The first sentence end of a text: no terminator before it ends a sentence. -/
def FirstEnd (t : Text) (i j : Nat) : Prop :=
  EndsSentence t i j ∧ ∀ i' j', EndsSentence t i' j' → i ≤ i'

/-- The search in a text finds the first sentence end. -/
theorem sentenceEnd?_eq_some_iff_firstEnd {t : Text} {j : Nat} :
    sentenceEnd? t = some j ↔ ∃ i, FirstEnd t i j := by
  rw [sentenceEnd?_eq_some_iff]
  constructor
  · intro least
    obtain ⟨⟨i, ends⟩, first⟩ := (least.imp_left sentenceEnd_iff.1)
    refine ⟨i, ends, fun i' j' other => Nat.le_of_not_lt fun earlier => ?_⟩
    have passed := other.end_le_of_lt ends earlier
    have later := first j' (sentenceEnd_iff.2 ⟨i', other⟩)
    have := ends.inside
    omega
  · intro least
    obtain ⟨i, ends, first⟩ := least
    refine ⟨sentenceEnd_iff.2 ⟨i, ends⟩, fun k hk => ?_⟩
    obtain ⟨i', other⟩ := sentenceEnd_iff.1 hk
    exact ends.end_le other (first i' k other)

/-! ### Lines and the paragraph -/

/-- The paragraph that the lines begin with as one text. -/
def paragraph (ls : List Text) : Text := Text.join ['\n'] (leadingRun ls)

/-- What may follow the closers after a terminator is the same at the end of a line and before a
line feed, and so are the closers. -/
theorem closers_append_break (line rest : Text) :
    (line ++ '\n' :: rest).takeWhile isCloser = line.takeWhile isCloser ∧
      startsBlank ((line ++ '\n' :: rest).dropWhile isCloser) =
        startsBlank (line.dropWhile isCloser) := by
  have feed : isCloser '\n' = false := by decide
  induction line with
  | nil => simp [feed, startsBlank, show isSpace '\n' = true by decide]
  | cons c line ih =>
    cases hc : isCloser c with
    | true => simpa [hc] using ih
    | false => simp [hc, startsBlank]

/-- The search in a line goes on behind the line feed after it. -/
theorem sentenceEnd?_append_break (line rest : Text) :
    sentenceEnd? (line ++ '\n' :: rest) =
      (sentenceEnd? line).or ((sentenceEnd? rest).map (line.length + 1 + ·)) := by
  induction line with
  | nil =>
    have feed : isTerminator '\n' = false := by decide
    simp [sentenceEnd?, feed, Nat.add_comm]
  | cons c line ih =>
    obtain ⟨closers, stop⟩ := closers_append_break line rest
    rw [List.cons_append, sentenceEnd?, sentenceEnd?, closers, stop, ih]
    split
    · rfl
    · cases sentenceEnd? line with
      | some column => rfl
      | none =>
        simp only [Option.none_or, Option.map_none, Option.map_map, List.length_cons]
        refine Option.map_congr fun k _ => ?_
        simp only [Function.comp_apply]
        omega

theorem paragraph_cons {line : Text} (rest : List Text) (h : line.isBlank = false) :
    paragraph (line :: rest) =
      if leadingRun rest = [] then line else line ++ '\n' :: paragraph rest := by
  rw [paragraph, paragraph, leadingRun_cons_of_not_blank h]
  split
  · rename_i single
    rw [single, Text.join_singleton]
  · rename_i more
    rw [Text.join_cons_of_ne_nil _ _ more, List.append_assoc, List.singleton_append]

theorem sentenceEnd?_paragraph_cons {line : Text} (rest : List Text)
    (h : line.isBlank = false) :
    sentenceEnd? (paragraph (line :: rest)) =
      (sentenceEnd? line).or ((sentenceEnd? (paragraph rest)).map (line.length + 1 + ·)) := by
  rw [paragraph_cons rest h]
  split
  · rename_i single
    rw [paragraph, single, Text.join_nil, sentenceEnd?, Option.map_none, Option.or_none]
  · exact sentenceEnd?_append_break line (paragraph rest)

/-- The search over the lines is the search in the paragraph. -/
theorem sentenceEnd?_paragraph (ls : List Text) :
    sentenceEnd? (paragraph ls) = (leadingSentence? ls).map fun s => s.text.length := by
  induction ls with
  | nil => rfl
  | cons line rest ih =>
    cases hb : line.isBlank with
    | true =>
      rw [paragraph, leadingRun_cons_of_blank hb, leadingSentence?, if_pos hb]
      rfl
    | false =>
      have blank : ¬ line.isBlank = true := by rw [hb]; decide
      rw [sentenceEnd?_paragraph_cons rest hb, leadingSentence?, if_neg blank, ih]
      cases he : sentenceEnd? line with
      | some column => simp [Nat.min_eq_left (sentenceEnd?_le he).2]
      | none =>
        simp only [Option.none_or, Option.map_map]
        refine Option.map_congr fun s _ => ?_
        simp only [Function.comp_apply, Sentence.after, List.length_append, List.length_cons]
        omega

/-- The sentence that the search over the lines finds is a start of the paragraph. -/
theorem text_prefix_paragraph {ls : List Text} {s : Sentence} (h : leadingSentence? ls = some s) :
    s.text <+: paragraph ls := by
  induction ls generalizing s with
  | nil => cases h
  | cons line rest ih =>
    simp only [leadingSentence?] at h
    split at h
    · cases h
    · rename_i blank
      rw [paragraph_cons rest (by rwa [Bool.not_eq_true] at blank)]
      split at h
      · obtain rfl := Option.some.inj h
        split
        · exact List.take_prefix _ _
        · exact (List.take_prefix _ _).trans (List.prefix_append _ _)
      · obtain ⟨t, ht, rfl⟩ := Option.map_eq_some_iff.1 h
        -- a line with the end of the sentence follows
        have more : leadingRun rest ≠ [] := by
          intro single
          rw [leadingSentence?_eq_none_iff.2 (by simp [single])] at ht
          cases ht
        rw [if_neg more]
        exact (List.prefix_append_right_inj line).2 ((List.prefix_cons_inj '\n').2 (ih ht))

/-! ### The first sentence -/

/-- A place in the lines of a page is that of an offset in the paragraph that opens at a line: so
many whole lines of it, and a start of the next one, stand before the offset. -/
def IsPlace (ls : List Text) (start offset line column : Nat) : Prop :=
  start ≤ line ∧ ∃ last, ls[line]? = some last ∧ column ≤ last.length ∧
    (paragraph (ls.drop start)).take offset =
      Text.join ['\n'] ((ls.take line).drop start ++ [last.take column])

/-- A sentence of a page is whole lines and a start of the line after them. -/
theorem isPlace_of_leadingSentence? {ls : List Text} {start : Nat} {s : Sentence}
    (h : leadingSentence? (ls.drop start) = some s) :
    IsPlace ls start s.text.length (start + s.stop.line) s.stop.column := by
  have found : firstSentence? ls start =
      some ⟨s.text, ⟨start + s.stop.line, s.stop.column⟩⟩ := by
    rw [firstSentence?, h, Option.map_some]
  have place : scanPoint ls start = ⟨start + s.stop.line, s.stop.column⟩ := by
    rw [scanPoint, found]
    rfl
  -- the synopsis of prose that opens at the start is this sentence
  have synopsis := (isSynopsis_ofProse ls start).present s.text (by rw [found]; rfl)
  rw [place] at synopsis
  obtain ⟨last, at_line, below, -, isEnd, -, -, lines⟩ := synopsis
  obtain ⟨i, ends⟩ := sentenceEnd_iff.1 isEnd
  refine ⟨below, last, at_line, ends.inside.2, ?_⟩
  rw [← List.prefix_iff_eq_take.1 (text_prefix_paragraph h), lines]

/-- **The first sentence of a paragraph** is the start of the joined paragraph up to its first
sentence end, and it stops at the place of that offset. The search finds none exactly where the
joined paragraph has no sentence end, and what it finds holds no shorter sentence. -/
theorem firstSentenceFrom_paragraph (ls : List Text) (start : Nat) :
    (Cursor.firstSentenceFrom ls start = .ok none ↔
      ∀ i j, ¬ EndsSentence (paragraph (ls.drop start)) i j) ∧
    ∀ i j, FirstEnd (paragraph (ls.drop start)) i j → ∃ line column : Nat,
      Cursor.firstSentenceFrom ls start =
        .ok (some ((paragraph (ls.drop start)).take j, (line : Int), column)) ∧
      IsPlace ls start j line column ∧
      ∀ k < j, ∀ i', ¬ EndsSentence (paragraph (ls.drop start)) i' k := by
  have search := sentenceEnd?_paragraph (ls.drop start)
  rw [Cursor.firstSentenceFrom_ofNat, firstSentence?]
  constructor
  · rw [Except.ok.injEq, Option.map_eq_none_iff, Option.map_eq_none_iff,
      ← Option.map_eq_none_iff (f := fun s : Sentence => s.text.length), ← search,
      sentenceEnd?_eq_none_iff]
    simp only [sentenceEnd_iff, not_exists]
    exact forall_comm
  · intro i j first
    have found := sentenceEnd?_eq_some_iff_firstEnd.2 ⟨i, first⟩
    obtain ⟨s, hs, rfl⟩ := Option.map_eq_some_iff.1 (search.symm.trans found)
    refine ⟨start + s.stop.line, s.stop.column, ?_, isPlace_of_leadingSentence? hs, ?_⟩
    · rw [hs, ← List.prefix_iff_eq_take.1 (text_prefix_paragraph hs)]
      rfl
    · intro k before i' shorter
      have least := (sentenceEnd?_eq_some_iff.1 found).2 k (sentenceEnd_iff.2 ⟨i', shorter⟩)
      exact Nat.not_le.2 before least

end DocSnippets
