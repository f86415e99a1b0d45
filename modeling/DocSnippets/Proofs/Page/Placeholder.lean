import DocSnippets.Template

/-!
# DocSnippets.Proofs.Page.Placeholder

**Which names are templates.** A name is a template when it can be taken apart at a placeholder at
all, and it is taken apart where the part before the placeholder is longest. The search for the
last placeholder finds one wherever there is one (`exists_lastSplit?`), and none after it is left
out; both facts are inductions along the name, placeholders that share a bar with the next one
being no special case.

* `Parts`, `IsLongest` — the ways to take a name apart, and the one that counts;
* `lastSplit?_eq_some_iff` — what the search for the last placeholder finds;
* `split?_eq_some_iff` — a name is split at its longest parts;
* `greedy?`, `greedy?_eq_some_iff` — giving back characters of the longest start finds these too;
* `split?_recognises` — exactly the names that have parts are templates.
-/

namespace DocSnippets

namespace Template

/-! ### The search for the last placeholder -/

theorem afterPlaceholder?_append {after : Text} (ne : after ≠ []) :
    afterPlaceholder? (placeholder ++ after) = some after := by
  unfold afterPlaceholder?
  rw [if_pos (List.isPrefixOf_iff_prefix.2 (List.prefix_append _ _)), List.drop_left]
  cases after with
  | nil => exact absurd rfl ne
  | cons c rest => rfl

theorem afterPlaceholder?_eq_some_iff {t after : Text} :
    afterPlaceholder? t = some after ↔ t = placeholder ++ after ∧ after ≠ [] := by
  constructor
  · exact append_of_afterPlaceholder?
  · intro known
    obtain ⟨rfl, ne⟩ := known
    exact afterPlaceholder?_append ne

/-- Where there is a placeholder with something after it, one is found, and none further on is
left out. -/
theorem exists_lastSplit? (start : Text) {rest : Text} (ne : rest ≠ []) :
    ∃ before after, lastSplit? (start ++ placeholder ++ rest) = some (before, after) ∧
      start.length ≤ before.length := by
  induction start with
  | nil =>
    have here := afterPlaceholder?_append ne
    have bar : placeholder ++ rest = '_' :: ("LANG_".toList ++ rest) := rfl
    rw [List.nil_append]
    rw [bar] at here ⊢
    simp only [lastSplit?]
    cases lastSplit? ("LANG_".toList ++ rest) with
    | none =>
      rw [here]
      exact ⟨[], rest, rfl, Nat.zero_le _⟩
    | some sides => exact ⟨_, sides.2, rfl, Nat.zero_le _⟩
  | cons c start ih =>
    obtain ⟨before, after, found, longer⟩ := ih
    refine ⟨c :: before, after, ?_, Nat.succ_le_succ longer⟩
    simp only [List.cons_append, lastSplit?]
    rw [found]

/-- What the search finds: a placeholder with something after it, the last one of these. -/
theorem lastSplit?_eq_some_iff {t before after : Text} :
    lastSplit? t = some (before, after) ↔
      (t = before ++ placeholder ++ after ∧ after ≠ []) ∧
        ∀ start rest, t = start ++ placeholder ++ rest → rest ≠ [] →
          start.length ≤ before.length := by
  constructor
  · intro h
    refine ⟨append_of_lastSplit? h, fun start rest parts ne => ?_⟩
    obtain ⟨other, _, found, longer⟩ := exists_lastSplit? start ne
    rw [← parts, h] at found
    cases found
    exact longer
  · intro known
    obtain ⟨⟨parts, ne⟩, last⟩ := known
    obtain ⟨other, rest, found, longer⟩ := exists_lastSplit? before ne
    rw [← parts] at found
    -- the one that is found is as far on as the one that is known, so they are the same
    obtain ⟨others, ne'⟩ := append_of_lastSplit? found
    have same : other.length = before.length := Nat.le_antisymm (last other rest others ne') longer
    rw [parts, List.append_assoc, List.append_assoc] at others
    obtain ⟨rfl, tail⟩ := List.append_inj others same.symm
    rw [found, List.append_cancel_left tail]

/-! ### Names taken apart -/

/-- A way to take a name apart: the placeholder with something before it and something after it,
all of capital letters and bars. -/
structure Parts (name before after : Text) : Prop where
  whole : name = before ++ placeholder ++ after
  before_ne_nil : before ≠ []
  after_ne_nil : after ≠ []
  before_chars : ∀ c ∈ before, c = '_' ∨ 'A' ≤ c ∧ c ≤ 'Z'
  after_chars : ∀ c ∈ after, c = '_' ∨ 'A' ≤ c ∧ c ≤ 'Z'

/-- The way that counts: no other one has more before the placeholder. -/
def IsLongest (name before after : Text) : Prop :=
  Parts name before after ∧ ∀ start rest, Parts name start rest → start.length ≤ before.length

theorem isNameChar_iff {c : Char} : isNameChar c = true ↔ c = '_' ∨ 'A' ≤ c ∧ c ≤ 'Z' := by
  simp [isNameChar]

/-- The characters of a text around the placeholder are name characters when all of them are. -/
theorem all_isNameChar_iff {before after : Text} :
    (before ++ placeholder ++ after).all isNameChar = true ↔
      (∀ c ∈ before, c = '_' ∨ 'A' ≤ c ∧ c ≤ 'Z') ∧
        ∀ c ∈ after, c = '_' ∨ 'A' ≤ c ∧ c ≤ 'Z' := by
  have own : placeholder.all isNameChar = true := by decide
  rw [List.all_append, List.all_append, own, Bool.and_true, Bool.and_eq_true]
  simp only [List.all_eq_true, isNameChar_iff]

theorem Parts.all_isNameChar {name before after : Text} (h : Parts name before after) :
    name.all isNameChar = true := by
  rw [h.whole]
  exact all_isNameChar_iff.2 ⟨h.before_chars, h.after_chars⟩

theorem Parts.eq_of_length {name before after start rest : Text} (h : Parts name before after)
    (g : Parts name start rest) (same : start.length = before.length) :
    start = before ∧ rest = after := by
  have whole := g.whole.symm.trans h.whole
  rw [List.append_assoc, List.append_assoc] at whole
  obtain ⟨rfl, tail⟩ := List.append_inj whole same
  exact ⟨rfl, List.append_cancel_left tail⟩

theorem IsLongest.eq {name before after start rest : Text} (h : IsLongest name before after)
    (g : IsLongest name start rest) : start = before ∧ rest = after :=
  h.1.eq_of_length g.1 (Nat.le_antisymm (h.2 _ _ g.1) (g.2 _ _ h.1))

theorem isLongest_of_split? {name before after : Text} (h : split? name = some (before, after)) :
    IsLongest name before after := by
  unfold split? at h
  split at h
  · rename_i chars
    split at h
    · rename_i c start rest found
      cases h
      obtain ⟨⟨parts, ne⟩, last⟩ := lastSplit?_eq_some_iff.1 found
      rw [parts, all_isNameChar_iff] at chars
      refine ⟨⟨parts, List.cons_ne_nil _ _, ne, chars.1, chars.2⟩, fun start rest other => ?_⟩
      exact last start rest other.whole other.after_ne_nil
    · cases h
  · cases h

theorem exists_split? {name start rest : Text} (h : Parts name start rest) :
    ∃ before after, split? name = some (before, after) := by
  obtain ⟨before, after, found, longer⟩ := exists_lastSplit? start h.after_ne_nil
  rw [← h.whole] at found
  unfold split?
  rw [if_pos h.all_isNameChar, found]
  cases before with
  | nil => exact absurd (List.length_eq_zero_iff.1 (Nat.le_zero.1 longer)) h.before_ne_nil
  | cons c before => exact ⟨_, _, rfl⟩

theorem split?_eq_some_iff {name before after : Text} :
    split? name = some (before, after) ↔ IsLongest name before after := by
  refine ⟨isLongest_of_split?, fun longest => ?_⟩
  obtain ⟨start, rest, found⟩ := exists_split? longest.1
  obtain ⟨rfl, rfl⟩ := longest.eq (isLongest_of_split? found)
  exact found

/-! ### Giving back characters -/

/-- The parts of a name of which the first one has at most so many characters: the longest such
start of the name is tried first, and then one character less each time. -/
def backtrack? (name : Text) : Nat → Option (Text × Text)
  | 0 => none
  | k + 1 =>
    match afterPlaceholder? (name.drop (k + 1)) with
    | some after =>
      if after.all isNameChar then some (name.take (k + 1), after) else backtrack? name k
    | none => backtrack? name k

/-- The parts of a name: the first one takes as many name characters as there are and gives back
one after the other, until the placeholder follows and after it nothing but name characters. -/
def greedy? (name : Text) : Option (Text × Text) :=
  backtrack? name (name.takeWhile isNameChar).length

/-- What is found is a way to take the name apart. -/
theorem parts_of_backtrack? {name before after : Text} {k : Nat}
    (run : (name.take k).all isNameChar = true) (h : backtrack? name k = some (before, after)) :
    Parts name before after := by
  induction k with
  | zero => cases h
  | succ k ih =>
    have shorter : (name.take k).all isNameChar = true := by
      rw [List.all_eq_true] at run ⊢
      exact fun c hc => run c (List.take_subset_take_left name (Nat.le_succ k) hc)
    unfold backtrack? at h
    split at h
    · rename_i found
      split at h
      · rename_i chars
        cases h
        obtain ⟨rest, ne⟩ := afterPlaceholder?_eq_some_iff.1 found
        have whole : name = name.take (k + 1) ++ placeholder ++ after := by
          rw [List.append_assoc, ← rest, List.take_append_drop]
        rw [List.all_eq_true] at run chars
        refine ⟨whole, fun none => ?_, ne, fun c hc => isNameChar_iff.1 (run c hc),
          fun c hc => isNameChar_iff.1 (chars c hc)⟩
        obtain rfl := (List.take_eq_nil_iff.1 none).resolve_left (Nat.succ_ne_zero k)
        cases rest
      · exact ih shorter h
    · exact ih shorter h

/-- A way to take the name apart is found unless a longer one is. -/
theorem exists_backtrack? {name start rest : Text} (h : Parts name start rest) {k : Nat}
    (le : start.length ≤ k) :
    ∃ before after, backtrack? name k = some (before, after) ∧ start.length ≤ before.length := by
  have bound : start.length ≤ name.length := by
    rw [h.whole, List.append_assoc, List.length_append]
    exact Nat.le_add_right _ _
  induction k with
  | zero => exact absurd (List.length_eq_zero_iff.1 (Nat.le_zero.1 le)) h.before_ne_nil
  | succ k ih =>
    have first : start.length ≤ (name.take (k + 1)).length := by
      rw [List.length_take]
      exact Nat.le_min.2 ⟨le, bound⟩
    unfold backtrack?
    -- down to the length of the start, what is found is no shorter; there the start itself is found
    rcases Nat.lt_or_eq_of_le le with shorter | same
    · have later := ih (Nat.lt_succ_iff.1 shorter)
      split
      · split
        · exact ⟨_, _, rfl, first⟩
        · exact later
      · exact later
    · have stop : name.drop (k + 1) = placeholder ++ rest := by
        rw [← same, h.whole, List.append_assoc, List.drop_left]
      have chars : rest.all isNameChar = true :=
        List.all_eq_true.2 fun c hc => isNameChar_iff.2 (h.after_chars c hc)
      rw [stop, afterPlaceholder?_append h.after_ne_nil]
      simp only
      rw [if_pos chars]
      exact ⟨_, _, rfl, first⟩

/-- Giving back characters one after the other finds the longest parts. -/
theorem greedy?_eq_some_iff {name before after : Text} :
    greedy? name = some (before, after) ↔ IsLongest name before after := by
  have run : (name.take (name.takeWhile isNameChar).length).all isNameChar = true := by
    rw [← List.prefix_iff_eq_take.1 (List.takeWhile_prefix _)]
    exact List.all_takeWhile
  -- the first part is made of name characters, so it is within those the search starts with
  have within : ∀ {start rest : Text}, Parts name start rest →
      start.length ≤ (name.takeWhile isNameChar).length := by
    intro start rest parts
    have chars : ∀ c ∈ start, isNameChar c = true :=
      fun c hc => isNameChar_iff.2 (parts.before_chars c hc)
    rw [parts.whole, List.append_assoc, List.takeWhile_append_of_pos chars, List.length_append]
    exact Nat.le_add_right _ _
  constructor
  · intro h
    refine ⟨parts_of_backtrack? run h, fun start rest parts => ?_⟩
    obtain ⟨other, tail, found, longer⟩ := exists_backtrack? parts (within parts)
    rw [greedy?, found] at h
    cases h
    exact longer
  · intro longest
    obtain ⟨parts, last⟩ := longest
    obtain ⟨other, tail, found, longer⟩ := exists_backtrack? parts (within parts)
    have others := parts_of_backtrack? run found
    obtain ⟨rfl, rfl⟩ := parts.eq_of_length others (Nat.le_antisymm (last _ _ others) longer)
    exact found

/-! ### Template names -/

/-- After the longest parts no placeholder is left that something follows, not even one that shares
its first bar with the placeholder before it. -/
theorem IsLongest.no_later {name before after start rest : Text} (h : IsLongest name before after)
    (later : '_' :: after = start ++ placeholder ++ rest) : rest = [] := by
  obtain ⟨parts, last⟩ := h
  refine Decidable.byContradiction fun ne => ?_
  have whole : name = (before ++ "_LANG".toList ++ start) ++ placeholder ++ rest :=
    calc name = before ++ "_LANG".toList ++ '_' :: after := by
          rw [parts.whole, List.append_assoc, List.append_assoc]
          rfl
      _ = (before ++ "_LANG".toList ++ start) ++ placeholder ++ rest := by
          rw [later]
          simp only [List.append_assoc]
  have chars := parts.all_isNameChar
  rw [whole, all_isNameChar_iff] at chars
  have longer := last _ rest ⟨whole, by simp, ne, chars.1, chars.2⟩
  simp only [List.length_append] at longer
  have : "_LANG".toList.length = 5 := rfl
  omega

/-- **Template names are recognised exactly, and split at the last placeholder.** A name is a
template when it is a placeholder with something before it and something after it, all of capital
letters and bars. It is split where the part before the placeholder is longest, so that no
placeholder with something after it is left behind, not even one that shares a bar with the one
before it. Taking a start of the name as long as possible and giving back its characters one after
the other comes to the same. -/
theorem split?_recognises (name : Text) :
    (split? name ≠ none ↔ ∃ before after, Parts name before after) ∧
    (∀ before after, split? name = some (before, after) →
      Parts name before after ∧
      (∀ start rest, Parts name start rest → start.length ≤ before.length) ∧
      ∀ start rest, '_' :: after = start ++ placeholder ++ rest → rest = []) ∧
    split? name = greedy? name := by
  refine ⟨⟨fun known => ?_, fun known => ?_⟩, fun before after h => ?_, ?_⟩
  · obtain ⟨⟨before, after⟩, h⟩ := Option.ne_none_iff_exists'.1 known
    exact ⟨before, after, (split?_eq_some_iff.1 h).1⟩
  · obtain ⟨start, rest, parts⟩ := known
    obtain ⟨before, after, found⟩ := exists_split? parts
    rw [found]
    exact Option.some_ne_none _
  · have longest := split?_eq_some_iff.1 h
    exact ⟨longest.1, longest.2, fun start rest => longest.no_later⟩
  · refine Option.ext fun sides => ?_
    rw [split?_eq_some_iff, greedy?_eq_some_iff]

/-- Of two placeholders that share a bar the second one counts. -/
example :
    split? "FOO_LANG_LANG_BAR".toList = some ("FOO_LANG".toList, "BAR".toList) := by decide

end Template

end DocSnippets
