import DocSnippets.Text.Shortcode

/-!
# DocSnippets.Proofs.Text.Shortcode

**Where shortcodes are replaced.** A shortcode is what stands between two colons without a blank, so
none goes across a blank that has no second colon before it, and a text can be replaced part by part
there. Every pictograph is made of characters that may stand in a string as they are, and none of
them is a colon.
-/

namespace DocSnippets

namespace Shortcode

/-! ### Codes -/

/-- What a shortcode is: what stands before the next colon, if there is no blank in it. -/
theorem code?_eq_some_iff {t code rest : Text} :
    code? t = some (code, rest) ↔
      t = code ++ ':' :: rest ∧ ∀ c ∈ code, c ≠ ':' ∧ isSpace c = false := by
  have inside : ∀ c, (c != ':' && !isSpace c) = true ↔ c ≠ ':' ∧ isSpace c = false := by simp
  unfold code?
  simp only
  constructor
  · intro h
    split at h
    · rename_i after hd
      cases h
      refine ⟨?_, fun c hc => (inside c).1 (List.all_eq_true.1 List.all_takeWhile c hc)⟩
      rw [← hd]
      exact List.takeWhile_append_dropWhile.symm
    · cases h
  · intro h
    obtain ⟨rfl, all⟩ := h
    have pass : ∀ c ∈ code, (c != ':' && !isSpace c) = true := fun c hc => (inside c).2 (all c hc)
    rw [List.dropWhile_append_of_pos pass, List.takeWhile_append_of_pos pass]
    simp

theorem code?_append_of_some {s t code rest : Text} (h : code? s = some (code, rest)) :
    code? (s ++ t) = some (code, rest ++ t) := by
  obtain ⟨rfl, all⟩ := code?_eq_some_iff.1 h
  exact code?_eq_some_iff.2 ⟨by simp, all⟩

/-- Where no shortcode begins either part, none begins the whole. -/
theorem code?_append_of_none {s t : Text} (h : code? s = none) (g : code? t = none) :
    code? (s ++ t) = none := by
  cases found : code? (s ++ t) with
  | none => rfl
  | some pair =>
    obtain ⟨code, rest⟩ := pair
    obtain ⟨parts, all⟩ := code?_eq_some_iff.1 found
    -- the colon after the code is in the first part or in the second one
    rcases List.append_eq_append_iff.1 parts with ⟨more, hcode, ht⟩ | ⟨more, hs, hrest⟩
    · have second := code?_eq_some_iff.2 ⟨ht, fun c hc => all c (by simp [hcode, hc])⟩
      rw [g] at second
      cases second
    · cases more with
      | nil =>
        have second : code? t = some ([], rest) :=
          code?_eq_some_iff.2 ⟨by simpa using hrest.symm, by simp⟩
        rw [g] at second
        cases second
      | cons c more =>
        obtain ⟨rfl, -⟩ := List.cons.inj hrest
        have first := code?_eq_some_iff.2 ⟨hs, all⟩
        rw [h] at first
        cases first

theorem code?_cons_of_none {c : Char} {t : Text} (ne : c ≠ ':') (h : code? t = none) :
    code? (c :: t) = none := by
  cases found : code? (c :: t) with
  | none => rfl
  | some pair =>
    obtain ⟨code, rest⟩ := pair
    obtain ⟨parts, all⟩ := code?_eq_some_iff.1 found
    cases code with
    | nil => exact absurd (List.cons.inj parts).1 ne
    | cons d code =>
      have later := code?_eq_some_iff.2 ⟨(List.cons.inj parts).2, fun e he => all e (by simp [he])⟩
      rw [h] at later
      cases later

theorem code?_cons_of_isSpace {c : Char} (space : isSpace c = true) (t : Text) :
    code? (c :: t) = none := by
  cases found : code? (c :: t) with
  | none => rfl
  | some pair =>
    obtain ⟨code, rest⟩ := pair
    obtain ⟨parts, all⟩ := code?_eq_some_iff.1 found
    cases code with
    | nil =>
      obtain ⟨rfl, -⟩ := List.cons.inj parts
      exact absurd space (by decide)
    | cons d code =>
      obtain ⟨rfl, -⟩ := List.cons.inj parts
      exact absurd (space.symm.trans (all c (by simp)).2) (by decide)

end Shortcode

/-! ### Replacing part by part -/

theorem expandShortcodes_nil : expandShortcodes [] = [] := by rw [expandShortcodes]

theorem expandShortcodes_code {t code rest : Text} (h : Shortcode.code? t = some (code, rest)) :
    expandShortcodes (':' :: t) =
      (Shortcode.pictograph? code).getD (':' :: code ++ [':']) ++ expandShortcodes rest := by
  rw [expandShortcodes, if_pos rfl]
  split
  · rename_i other after eq
    rw [h] at eq
    cases eq
    rfl
  · rename_i eq
    rw [h] at eq
    cases eq

theorem expandShortcodes_colon {t : Text} (h : Shortcode.code? t = none) :
    expandShortcodes (':' :: t) = ':' :: expandShortcodes t := by
  rw [expandShortcodes, if_pos rfl]
  split
  · rename_i other after eq
    rw [h] at eq
    cases eq
  · rfl

theorem expandShortcodes_append_of_notMem {s : Text} (h : ':' ∉ s) (t : Text) :
    expandShortcodes (s ++ t) = s ++ expandShortcodes t := by
  induction s with
  | nil => rfl
  | cons c rest ih =>
    simp only [List.mem_cons, not_or] at h
    rw [List.cons_append, expandShortcodes_plain _ (Ne.symm h.1), ih h.2, List.cons_append]

theorem expandShortcodes_of_notMem {s : Text} (h : ':' ∉ s) : expandShortcodes s = s := by
  have kept := expandShortcodes_append_of_notMem h []
  rwa [expandShortcodes_nil, List.append_nil] at kept

/-- **Part by part**: where no shortcode begins before a text, what stands before it is replaced by
itself. -/
theorem expandShortcodes_append (s : Text) {t : Text} (h : Shortcode.code? t = none) :
    expandShortcodes (s ++ t) = expandShortcodes s ++ expandShortcodes t := by
  fun_induction expandShortcodes s with
  | case1 => rfl
  | case2 rest code after eq ih =>
    rw [List.cons_append, expandShortcodes_code (Shortcode.code?_append_of_some eq), ih,
      List.append_assoc]
  | case3 rest eq ih =>
    rw [List.cons_append, expandShortcodes_colon (Shortcode.code?_append_of_none eq h), ih,
      List.cons_append]
  | case4 c rest ne ih =>
    rw [List.cons_append, expandShortcodes_plain _ ne, ih, List.cons_append]

/-! ### The characters of pictographs -/

/-- Whether a character may stand in a string as it is, and is no colon. -/
def isGlyph (c : Char) : Bool :=
  c != ':' && c != '"' && c != '\\' && decide (0x20 ≤ c.toNat)

namespace Pictograph

/-- Whether all pictographs of an index are made of such characters. -/
def Index.isGlyphs (index : Index) : Bool :=
  index.all fun group => group.2.all fun e => e.2.all fun n => isGlyph (Char.ofNat n)

theorem isGlyphs_names : names.isGlyphs = true := by decide +kernel

theorem isGlyphs_tonedNames : tonedNames.isGlyphs = true := by decide +kernel

theorem isGlyph_of_find? {index : Index} (all : index.isGlyphs = true) {name p : Text}
    (h : find? index name = some p) : ∀ c ∈ p, isGlyph c = true := by
  simp only [find?, Option.bind_eq_bind, Option.bind_eq_some_iff, Option.pure_def,
    Option.some.injEq] at h
  obtain ⟨first, -, entries, group, entry, found, rfl⟩ := h
  obtain ⟨before, after, parts, -⟩ := List.lookup_eq_some_iff.1 group
  have inGroup := List.all_eq_true.1 all (first, entries) (by simp [parts])
  have inEntry := List.all_eq_true.1 inGroup entry (List.mem_of_find?_eq_some found)
  intro c hc
  obtain ⟨n, hn, rfl⟩ := List.mem_map.1 hc
  exact List.all_eq_true.1 inEntry n hn

/-- A tone is such a character, and so are the characters around it. -/
theorem isGlyph_withTone {tone : Char} {p : Text} (ht : isGlyph tone = true)
    (hp : ∀ c ∈ p, isGlyph c = true) : ∀ c ∈ withTone tone p, isGlyph c = true := by
  cases p with
  | nil =>
    intro c hc
    cases hc
  | cons first rest =>
    have rest' : ∀ c ∈ (if rest.head? = some selector then rest.tail else rest), c ∈ rest := by
      intro c hc
      split at hc
      · exact List.mem_of_mem_tail hc
      · exact hc
    intro c hc
    simp only [withTone, List.mem_cons] at hc
    rcases hc with rfl | rfl | hc
    · exact hp c (by simp)
    · exact ht
    · exact hp c (by simp [rest' c hc])

theorem isGlyph_of_ofName? {name p : Text} (h : ofName? name = some p) :
    ∀ c ∈ p, isGlyph c = true := by
  unfold ofName? at h
  rcases Option.or_eq_some_iff.1 h with h | ⟨-, h⟩
  · rcases Option.or_eq_some_iff.1 h with h | ⟨-, h⟩
    · exact isGlyph_of_find? isGlyphs_names h
    · exact isGlyph_of_find? isGlyphs_tonedNames h
  · have modifiers : ∀ t ∈ tones, isGlyph t.2 = true := by decide
    simp only [findToned?, Option.bind_eq_bind, Option.bind_eq_some_iff, Option.pure_def,
      Option.some.injEq] at h
    obtain ⟨⟨ending, tone⟩, hTone, plain, hPlain, rfl⟩ := h
    exact isGlyph_withTone (modifiers _ (List.mem_of_find?_eq_some hTone))
      (isGlyph_of_find? isGlyphs_tonedNames hPlain)

end Pictograph

/-- **The pictograph of a shortcode** is made of characters that may stand in a string as they are,
and none of them is a colon. -/
theorem Shortcode.isGlyph_of_pictograph? {code p : Text} (h : pictograph? code = some p) :
    ∀ c ∈ p, isGlyph c = true := by
  have selectors : ∀ form ∈ forms, isGlyph form.2 = true := by decide
  have form : ∀ c ∈ (nameAndForm code).2, isGlyph c = true := by
    unfold nameAndForm
    split
    · rename_i found
      intro c hc
      obtain rfl := List.mem_singleton.1 hc
      exact selectors _ (List.mem_of_find?_eq_some found)
    · intro c hc
      cases hc
  obtain ⟨plain, hPlain, rfl⟩ := Option.map_eq_some_iff.1 h
  intro c hc
  rcases List.mem_append.1 hc with hc | hc
  · exact Pictograph.isGlyph_of_ofName? hPlain c hc
  · exact form c hc

end DocSnippets
