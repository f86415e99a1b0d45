import DocSnippets.Proofs.Json.RoundTrip
import DocSnippets.Proofs.Text.Shortcode

/-!
# DocSnippets.Proofs.Json.Shown

**A printed value with its shortcodes replaced.** Between two strings there is a blank before the
next colon, so both colons of a shortcode stand within one string, as long as the names of members
have none. Replacing shortcodes in a printed value thus replaces them in the insides of its texts,
and what is read of the result is the value with its texts as they are shown. A text is shown as it
is just if no shortcode in its string is known: a pictograph has no colon, and two colons are gone
with each known shortcode.

`asShown` is what is read of the string of a text after its shortcodes were replaced. Everything
else follows a value through its printed form: replacing goes on within strings only
(`expandShortcodes_print`), so reading the result gives the value with each text as it is shown.
-/

namespace DocSnippets

namespace Json

/-! ### The inside of a string -/

/-- The inside of the string of a text, with its shortcodes replaced. -/
def shownInside (t : Text) : Text := expandShortcodes (t.flatMap escape)

theorem colon_notMem_hex (width n : Nat) : ':' ∉ Text.hex width n := by
  have digit : ∀ k ∈ List.range 16, hexDigit k ≠ ':' := by decide
  induction width generalizing n with
  | zero => simp [Text.hex]
  | succ width ih =>
    simp only [Text.hex, List.mem_append, List.mem_singleton, not_or]
    exact ⟨ih _, (digit _ (List.mem_range.2 (Nat.mod_lt _ (by decide)))).symm⟩

theorem colon_notMem_escape {c : Char} (h : c ≠ ':') : ':' ∉ escape c := by
  have code : ∀ n, ':' ∉ escapeCode n := by
    intro n
    simp [escapeCode, colon_notMem_hex]
  unfold escape
  repeat' split
  all_goals first
    | decide
    | exact code _
    | exact fun mem => h (List.mem_singleton.1 mem).symm
    | simp [code]

/-- A colon in the inside of a string is one of its text. -/
theorem colon_of_flatMap_escape {t code after : Text} (h : t.flatMap escape = code ++ ':' :: after)
    (none : ':' ∉ code) :
    ∃ first second, t = first ++ ':' :: second ∧ code = first.flatMap escape ∧
      after = second.flatMap escape := by
  induction t generalizing code with
  | nil => simp at h
  | cons c rest ih =>
    rw [List.flatMap_cons] at h
    by_cases colon : c = ':'
    · subst colon
      have written : escape ':' = [':'] := by decide
      rw [written, List.singleton_append] at h
      cases code with
      | nil => exact ⟨[], rest, rfl, rfl, (List.cons.inj h).2.symm⟩
      | cons d code => exact absurd (List.mem_cons.2 (.inl (List.cons.inj h).1)) none
    · -- all of the first escape comes before the colon
      have before :
          ∃ more, code = escape c ++ more ∧ rest.flatMap escape = more ++ ':' :: after := by
        rcases List.append_eq_append_iff.1 h with found | ⟨more, hescape, hrest⟩
        · exact found
        · cases more with
          | nil => exact ⟨[], by simpa using hescape.symm, by simpa using hrest.symm⟩
          | cons d more =>
            obtain ⟨rfl, -⟩ := List.cons.inj hrest
            exact absurd (by simp [hescape]) (colon_notMem_escape colon)
      obtain ⟨more, rfl, later⟩ := before
      obtain ⟨first, second, rfl, rfl, rfl⟩ := ih later fun mem => none (by simp [mem])
      exact ⟨c :: first, second, rfl, rfl, rfl⟩

theorem readAs_of_isGlyph {p : Text} (h : ∀ c ∈ p, isGlyph c = true) : ReadAs p p := by
  induction p with
  | nil => exact readAs_nil
  | cons c rest ih =>
    have glyph := h c (by simp)
    simp only [isGlyph, Bool.and_eq_true, bne_iff_ne, decide_eq_true_eq] at glyph
    exact (readAs_plain glyph.1.1.2 glyph.1.2 glyph.2).append (ih fun d hd => h d (by simp [hd]))

/-- The string of a text was changed, and is read as some text: as the one it was, if nothing was
changed, and else as one of fewer colons. -/
def ShownAs (t changed u : Text) : Prop :=
  ReadAs changed u ∧ (changed = t.flatMap escape ∧ u = t ∨ u.count ':' < t.count ':')

theorem shownAs_self (t : Text) : ShownAs t (t.flatMap escape) t :=
  ⟨readAs_flatMap_escape t, .inl ⟨rfl, rfl⟩⟩

theorem shownAs_of_isGlyph {t p : Text} (h : ∀ c ∈ p, isGlyph c = true) (colon : ':' ∈ t) :
    ShownAs t p p := by
  have none : p.count ':' = 0 := List.count_eq_zero.2 fun mem => absurd (h ':' mem) (by decide)
  exact ⟨readAs_of_isGlyph h, .inr (by rw [none]; exact List.count_pos_iff.2 colon)⟩

theorem ShownAs.append {s t first second u v : Text} (h : ShownAs s first u)
    (g : ShownAs t second v) : ShownAs (s ++ t) (first ++ second) (u ++ v) := by
  refine ⟨h.1.append g.1, ?_⟩
  rw [List.count_append, List.count_append]
  rcases h.2 with ⟨rfl, rfl⟩ | fewer
  · rcases g.2 with ⟨rfl, rfl⟩ | fewer
    · exact .inl ⟨List.flatMap_append.symm, rfl⟩
    · exact .inr (by omega)
  · rcases g.2 with ⟨-, rfl⟩ | fewer'
    · exact .inr (by omega)
    · exact .inr (by omega)

/-- Replacing the shortcodes in the string of a text changes nothing, or leaves fewer colons. -/
theorem exists_shownAs (t : Text) : ∃ u, ShownAs t (shownInside t) u := by
  unfold shownInside
  induction hn : t.length using Nat.strongRecOn generalizing t with
  | _ n ih =>
    subst hn
    cases t with
    | nil => exact ⟨[], by simpa [expandShortcodes_nil] using shownAs_self []⟩
    | cons c rest =>
      rw [List.flatMap_cons]
      by_cases colon : c = ':'
      · subst colon
        have written : escape ':' = [':'] := by decide
        rw [written, List.singleton_append]
        cases hcode : Shortcode.code? (rest.flatMap escape) with
        | none =>
          obtain ⟨u, later⟩ := ih rest.length (by simp) rest rfl
          rw [expandShortcodes_colon hcode]
          exact ⟨_, (shownAs_self [':']).append later⟩
        | some pair =>
          -- the code is the string of what stands between two colons of the text
          obtain ⟨code, after⟩ := pair
          obtain ⟨parts, all⟩ := Shortcode.code?_eq_some_iff.1 hcode
          obtain ⟨first, second, rfl, rfl, rfl⟩ :=
            colon_of_flatMap_escape parts fun mem => (all ':' mem).1 rfl
          obtain ⟨u, later⟩ := ih second.length (by simp; omega) second rfl
          rw [expandShortcodes_code hcode,
            show ':' :: (first ++ ':' :: second) = (':' :: first ++ [':']) ++ second by simp]
          cases known : Shortcode.pictograph? (first.flatMap escape) with
          | none =>
            have kept := shownAs_self (':' :: first ++ [':'])
            simp only [List.cons_append, List.flatMap_cons, List.flatMap_append, written,
              List.flatMap_nil, List.append_nil, List.nil_append] at kept
            exact ⟨_, kept.append later⟩
          | some p =>
            have glyphs := Shortcode.isGlyph_of_pictograph? known
            exact ⟨_, (shownAs_of_isGlyph glyphs (by simp)).append later⟩
      · obtain ⟨u, later⟩ := ih rest.length (by simp) rest rfl
        rw [expandShortcodes_append_of_notMem (colon_notMem_escape colon)]
        have kept := shownAs_self [c]
        rw [List.flatMap_cons, List.flatMap_nil, List.append_nil] at kept
        exact ⟨_, kept.append later⟩

/-- A text as it is shown: what is read of its string after the shortcodes there were replaced. -/
def asShown (t : Text) : Text :=
  match readString (shownInside t ++ ['"']) with
  | .ok (w, _) => (Text.narrow? w).getD []
  | .error _ => []

theorem asShown_of_readAs {t u : Text} (h : ReadAs (shownInside t) u) : asShown t = u := by
  rw [asShown, h.readString []]
  simp only [Text.narrow?_wide, Option.getD_some]

theorem readAs_asShown (t : Text) : ReadAs (shownInside t) (asShown t) := by
  obtain ⟨u, read, -⟩ := exists_shownAs t
  rwa [asShown_of_readAs read]

/-- **Texts shown as they are** are those whose string has no known shortcode. -/
theorem asShown_eq_iff {t : Text} : asShown t = t ↔ shownInside t = t.flatMap escape := by
  constructor
  · intro same
    obtain ⟨u, read, kept | fewer⟩ := exists_shownAs t
    · exact kept.1
    · rw [← asShown_of_readAs read, same] at fewer
      exact absurd fewer (Nat.lt_irrefl _)
  · intro kept
    exact asShown_of_readAs (kept ▸ readAs_flatMap_escape t)

/-! ### Printed values -/

/-- A value in which names of members and numbers have no colon. -/
inductive Unmarked : Json → Prop
  | null : Unmarked .null
  | bool (b : Bool) : Unmarked (.bool b)
  | number {written : Text} (plain : ':' ∉ written) : Unmarked (.number written)
  | text (t : Text) : Unmarked (.text t)
  | array {items : List Json} (each : ∀ item ∈ items, Unmarked item) : Unmarked (.array items)
  | object {members : List (Text × Json)} (names : ∀ name ∈ members.map (·.1), ':' ∉ name)
      (each : ∀ m ∈ members, Unmarked m.2) : Unmarked (.object members)

theorem code?_newLine (depth : Nat) (t : Text) : Shortcode.code? (newLine depth ++ t) = none :=
  Shortcode.code?_cons_of_isSpace (by decide) _

theorem expandShortcodes_newLine (depth : Nat) (t : Text) :
    expandShortcodes (newLine depth ++ t) = newLine depth ++ expandShortcodes t := by
  refine expandShortcodes_append_of_notMem (fun mem => ?_) t
  rcases List.mem_cons.1 mem with same | mem
  · exact absurd same (by decide)
  · exact absurd (List.eq_of_mem_replicate mem) (by decide)

theorem expandShortcodes_string (inside : Text) :
    expandShortcodes ('"' :: inside ++ ['"']) = '"' :: expandShortcodes inside ++ ['"'] := by
  have mark := expandShortcodes_of_notMem (show ':' ∉ ['"'] by decide)
  rw [List.cons_append, expandShortcodes_plain _ (by decide),
    expandShortcodes_append inside (Shortcode.code?_cons_of_none (by decide) rfl), mark,
    List.cons_append]

theorem expandShortcodes_quote_eq_iff {t : Text} :
    expandShortcodes (quote t) = quote t ↔ asShown t = t := by
  rw [asShown_eq_iff, quote, expandShortcodes_string, shownInside]
  simp

theorem expandShortcodes_join (depth : Nat) (parts : List Text) :
    expandShortcodes (Text.join (separator depth) parts) =
      Text.join (separator depth) (parts.map expandShortcodes) := by
  induction parts with
  | nil => exact expandShortcodes_nil
  | cons part rest ih =>
    cases rest with
    | nil => rfl
    | cons next more =>
      rw [Text.join_cons_cons, List.append_assoc, separator, List.cons_append,
        expandShortcodes_append part (Shortcode.code?_cons_of_none (by decide) (code?_newLine ..)),
        expandShortcodes_plain _ (by decide), expandShortcodes_newLine, ← separator, ih]
      simp [separator, Text.join_cons_cons]

theorem expandShortcodes_bracketed {opening closing : Char} (depth : Nat) (parts : List Text)
    (first : opening ≠ ':') (last : closing ≠ ':') :
    expandShortcodes (bracketed opening closing depth parts) =
      bracketed opening closing depth (parts.map expandShortcodes) := by
  have closes := expandShortcodes_of_notMem (show ':' ∉ [closing] by simp [last.symm])
  cases parts with
  | nil => rw [bracketed, expandShortcodes_plain _ first, closes, List.map_nil, bracketed]
  | cons part rest =>
    have inner := expandShortcodes_join (depth + 1) (part :: rest)
    simp only [List.map_cons, separator] at inner
    simp only [bracketed, List.map_cons, List.cons_append, List.append_assoc]
    rw [expandShortcodes_plain _ first, expandShortcodes_newLine,
      expandShortcodes_append _ (code?_newLine ..), inner, expandShortcodes_newLine, closes]

theorem expandShortcodes_member {name : Text} (plain : ':' ∉ name) (value : Text) :
    expandShortcodes (quote name ++ ':' :: ' ' :: value) =
      quote name ++ ':' :: ' ' :: expandShortcodes value := by
  have notMem : ':' ∉ quote name := by
    intro mem
    simp only [quote, List.cons_append, List.mem_cons, List.mem_append, List.mem_flatMap,
      List.not_mem_nil, or_false] at mem
    rcases mem with same | ⟨c, hc, mem⟩ | same
    · exact absurd same (by decide)
    · exact absurd mem (colon_notMem_escape fun same => plain (same ▸ hc))
    · exact absurd same (by decide)
  rw [expandShortcodes_append_of_notMem notMem,
    expandShortcodes_colon (Shortcode.code?_cons_of_isSpace (by decide) _),
    expandShortcodes_plain _ (by decide)]

/-- **Replacing goes on within strings**: a printed value with its shortcodes replaced is the value
printed with the shortcodes in its strings replaced. -/
theorem expandShortcodes_print {v : Json} (h : Unmarked v) (depth : Nat) :
    expandShortcodes (print depth v) = printWith shownInside depth v := by
  -- by induction on the value: only its texts have colons, apart from the one after each name
  have nulls := expandShortcodes_of_notMem (show ':' ∉ "null".toList by decide)
  have falses := expandShortcodes_of_notMem (show ':' ∉ "false".toList by decide)
  have trues := expandShortcodes_of_notMem (show ':' ∉ "true".toList by decide)
  induction h generalizing depth with
  | null => exact nulls
  | bool b =>
    cases b
    · exact falses
    · exact trues
  | number plain => exact expandShortcodes_of_notMem plain
  | text t => exact expandShortcodes_string (t.flatMap escape)
  | array each ih =>
    rw [print, printWith, expandShortcodes_bracketed depth _ (by decide) (by decide),
      printItems_eq_map, printItemsWith_eq_map, List.map_map]
    refine congrArg (bracketed '[' ']' depth) (List.map_congr_left fun item hi => ?_)
    exact ih item hi (depth + 1)
  | object names each ih =>
    rw [print, printWith, expandShortcodes_bracketed depth _ (by decide) (by decide),
      printMembers_eq_map, printMembersWith_eq_map, List.map_map]
    refine congrArg (bracketed '\x7b' '\x7d' depth) (List.map_congr_left fun m hm => ?_)
    have name := names m.1 (List.mem_map_of_mem hm)
    rw [Function.comp_apply, expandShortcodes_member name, ih m hm (depth + 1)]

/-- **What is read** of a printed value after its shortcodes were replaced is the value with its
texts as they are shown. -/
theorem parse_expandShortcodes_render {v : Json} (fits : Fits maxDepth v) (unmarked : Unmarked v)
    {tail : Text} (blank : skipSpace tail = []) :
    parse (expandShortcodes (render v) ++ tail) = .ok (wide (mapTexts asShown v)) := by
  rw [render, expandShortcodes_print unmarked]
  exact parse_printWith readAs_asShown fits blank

/-! ### Values shown as they are -/

mutual

theorem printWith_congr {inside other : Text → Text} (depth : Nat) (v : Json)
    (h : ∀ t ∈ texts v, inside t = other t) :
    printWith inside depth v = printWith other depth v := by
  cases v with
  | null => rfl
  | bool b => rfl
  | number written => rfl
  | text t => rw [printWith, printWith, h t (by simp [texts])]
  | array items => rw [printWith, printWith, printItemsWith_congr (depth + 1) items h]
  | object members => rw [printWith, printWith, printMembersWith_congr (depth + 1) members h]

theorem printItemsWith_congr {inside other : Text → Text} (depth : Nat) (items : List Json)
    (h : ∀ t ∈ textsOfItems items, inside t = other t) :
    printItemsWith inside depth items = printItemsWith other depth items := by
  cases items with
  | nil => rfl
  | cons item rest =>
    simp only [textsOfItems, List.mem_append, or_imp, forall_and] at h
    rw [printItemsWith, printItemsWith, printWith_congr depth item h.1,
      printItemsWith_congr depth rest h.2]

theorem printMembersWith_congr {inside other : Text → Text} (depth : Nat)
    (members : List (Text × Json)) (h : ∀ t ∈ textsOfMembers members, inside t = other t) :
    printMembersWith inside depth members = printMembersWith other depth members := by
  cases members with
  | nil => rfl
  | cons m rest =>
    obtain ⟨name, value⟩ := m
    simp only [textsOfMembers, List.mem_append, or_imp, forall_and] at h
    rw [printMembersWith, printMembersWith, printWith_congr depth value h.1,
      printMembersWith_congr depth rest h.2]

end

/-- **Values shown as they are**: what is read is the value just if replacing shortcodes changes
nothing, and that is so just if all its texts are shown as they are. -/
theorem expandShortcodes_render_eq_iff {v : Json} (fits : Fits maxDepth v)
    (unmarked : Unmarked v) :
    (expandShortcodes (render v) = render v ↔ ∀ t ∈ texts v, asShown t = t) ∧
      (mapTexts asShown v = v ↔ ∀ t ∈ texts v, asShown t = t) := by
  refine ⟨⟨?_, ?_⟩, mapTexts_eq_self_iff v⟩
  · intro same
    have back := parse_expandShortcodes_render fits unmarked (show skipSpace [] = [] from rfl)
    rw [same, List.append_nil, parse_render fits] at back
    exact (mapTexts_eq_self_iff v).1 (wide_inj.1 (Except.ok.inj back)).symm
  · intro kept
    rw [render, expandShortcodes_print unmarked, print_eq_printWith]
    exact printWith_congr 0 v fun t ht => asShown_eq_iff.1 (kept t ht)

end Json

end DocSnippets
