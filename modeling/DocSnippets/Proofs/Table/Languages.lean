import DocSnippets.Proofs.Table.Entries
import DocSnippets.Template

/-!
# DocSnippets.Proofs.Table.Languages

**A template page documents its languages.** The keys that a template page gives differ from each
other, and from the name of the page, in one part only. Folding goes into the parts of a key, and
the parts around the language cancel, so the keys are told apart as far as the languages are: where
no two languages fold alike, each has an entry of its own, and where none folds like the mark in
the placeholder, the name of the page itself has none.
-/

namespace DocSnippets

/-! ### Renderings -/

/-- The rendering of a snippet: on several lines its parts, a missing one left out, and on one line
the synopsis with blanks for its line breaks. -/
def Snippet.render (s : Snippet) : Bool → Text
  | true => Text.join ['\n'] ([s.synopsis, s.usage].filterMap id)
  | false => Text.join [' '] (s.synopsis.getD []).lines

theorem Record.render_eq (r : Record) (multi : Bool) :
    r.render multi = Snippet.render ⟨r.synopsis, r.usage⟩ multi := by
  cases multi with
  | true => rfl
  | false =>
    rw [Record.render, if_neg Bool.false_ne_true, Record.singleLine, Snippet.render]
    cases r.synopsis with
    | none => rw [Option.getD_none, Text.lines_nil, Text.join_nil]
    | some synopsis => rfl

namespace Languages

/-! ### Keys -/

/-- What stands for a language in the placeholder. -/
def mark : Text := "LANG".toList

theorem eq_entity_of_split? {name before after : Text}
    (h : Template.split? name = some (before, after)) : name = entity before mark after := by
  unfold Template.split? at h
  split at h
  · split at h
    · rename_i hs
      obtain ⟨rfl, rfl⟩ := Prod.mk.inj (Option.some.inj h)
      obtain ⟨parts, -⟩ := Template.append_of_lastSplit? hs
      rw [parts, entity, List.append_assoc, List.append_assoc]
      rfl
    · cases h
  · cases h

theorem foldCase_entity (before language after : Text) :
    foldCase (entity before language after) =
      entity (foldCase before) (foldCase language) (foldCase after) := by
  have bar : foldChar '_' = ['_'] := foldChar_of_not_upper (by decide) (by decide)
  simp only [entity, foldCase_append, foldCase_cons, bar, List.cons_append, List.nil_append]

/-- Keys with the same parts around the language are equal only if the languages are. -/
theorem entity_inj {before after language other : Text} :
    entity before language after = entity before other after ↔ language = other := by
  rw [entity, entity, List.append_assoc, List.append_assoc, List.append_right_inj,
    List.cons_append, List.cons_append, List.cons_inj_right, List.append_left_inj]

theorem foldCase_entity_inj {before after language other : Text} :
    foldCase (entity before language after) = foldCase (entity before other after) ↔
      foldCase language = foldCase other := by
  rw [foldCase_entity, foldCase_entity, entity_inj]

/-! ### Tables -/

/-- Languages that are told apart by case folding, from each other and from the mark. -/
structure Apart (languages : Languages) : Prop where
  /-- No two languages fold alike. -/
  distinct : (languages.names.map foldCase).Nodup
  /-- None folds like the mark. -/
  no_mark : ∀ language ∈ languages.names, foldCase language ≠ "lang".toList

theorem apart_standard : standard.Apart where
  distinct := by decide +kernel
  no_mark := by decide +kernel

theorem forall₂_templateRecord (before after : Text) (s : Snippet) (names : List Text) :
    List.Forall₂ (fun language r => r.key = entity before language after ∧
      ⟨r.synopsis, r.usage⟩ = s) names (names.map (templateRecord before after s)) := by
  rw [List.forall₂_map_right_iff]
  exact List.forall₂_same.2 fun _ _ => ⟨rfl, rfl⟩

theorem nodup_foldedKey_templateRecord {languages : Languages} (apart : languages.Apart)
    (before after : Text) (s : Snippet) :
    ((languages.names.map (templateRecord before after s)).map Record.foldedKey).Nodup := by
  have distinct := apart.distinct
  rw [List.Nodup, List.pairwise_map] at distinct
  rw [List.Nodup, List.pairwise_map, List.pairwise_map]
  exact distinct.imp fun differ same => differ (foldCase_entity_inj.1 same)

/-- The key of a language, however its ASCII letters are capitalized, gives the record of the
language. -/
theorem get?_of_caseVariant {languages : Languages} (apart : languages.Apart)
    {before after language spelled : Text} (s : Snippet) (known : language ∈ languages.names)
    (variant : CaseVariant (entity before language after) spelled) :
    (Table.ofRecords (languages.names.map (templateRecord before after s))).get? spelled =
      some (templateRecord before after s language) := by
  rw [Table.get?_eq_some_iff, foldCase_of_caseVariant variant,
    Table.records_ofRecords (nodup_foldedKey_templateRecord apart before after s)]
  exact ⟨List.mem_map_of_mem known, rfl⟩

theorem get?_entity_mark {languages : Languages} (apart : languages.Apart) (before after : Text)
    (s : Snippet) :
    (Table.ofRecords (languages.names.map (templateRecord before after s))).get?
      (entity before mark after) = none := by
  rw [Table.get?_ofRecords_eq_none_iff]
  intro r hr same
  obtain ⟨language, known, rfl⟩ := List.mem_map.1 hr
  exact apart.no_mark language known (foldCase_entity_inj.1 same)

/-- **A template page documents every language and nothing else.** Where the languages are told
apart, as the standard ones are, the table of the records of a template page has one entry for each
language, in their order. The key of each language, however its ASCII letters are capitalized, gives
the rendering of the page's snippet, and the name of the page gives nothing. -/
theorem lookup_templatePage {languages : Languages} {name before after : Text}
    (split : Template.split? name = some (before, after)) (apart : languages.Apart) (s : Snippet) :
    standard.Apart ∧ ∃ rs, languages.expand name s = .ok rs ∧
      List.Forall₂ (fun language r => r.key = entity before language after ∧
        ⟨r.synopsis, r.usage⟩ = s) languages.names (Table.ofRecords rs).records ∧
      (∀ language ∈ languages.names, ∀ spelled, CaseVariant (entity before language after) spelled →
        ∀ multi, (Table.ofRecords rs).lookup spelled multi = some (s.render multi)) ∧
      ∀ multi, (Table.ofRecords rs).lookup name multi = none := by
  refine ⟨apart_standard, _, expand_of_split? split, ?_, ?_, fun multi => ?_⟩
  · rw [Table.records_ofRecords (nodup_foldedKey_templateRecord apart before after s)]
    exact forall₂_templateRecord before after s languages.names
  · intro language known spelled variant multi
    rw [Table.lookup, get?_of_caseVariant apart s known variant, Option.map_some, Record.render_eq]
    rfl
  · rw [Table.lookup, eq_entity_of_split? split, get?_entity_mark apart, Option.map_none]

/-- A page with overlapping placeholders in its name, and in small letters the key of a language
whose own name holds an underscore. -/
theorem lookup_templatePage_overlapping :
    let name : Text := "CMAKE_LANG_LANG_FLAGS".toList
    let s : Snippet := ⟨some "Flags for\nall.".toList, some []⟩
    Template.split? name = some ("CMAKE_LANG".toList, "FLAGS".toList) ∧ standard.Apart ∧
      ∃ rs, standard.expand name s = .ok rs ∧
      (Table.ofRecords rs).size = 15 ∧
      (Table.ofRecords rs).lookup "cmake_lang_asm_masm_flags".toList true =
        some "Flags for\nall.\n".toList ∧
      (Table.ofRecords rs).lookup "cmake_lang_asm_masm_flags".toList false =
        some "Flags for all.".toList ∧
      (Table.ofRecords rs).lookup name true = none := by
  intro name s
  have split : Template.split? name = some ("CMAKE_LANG".toList, "FLAGS".toList) := by decide
  obtain ⟨-, rs, done, entries, found, missing⟩ := lookup_templatePage split apart_standard s
  have variant : CaseVariant (entity "CMAKE_LANG".toList "ASM_MASM".toList "FLAGS".toList)
      "cmake_lang_asm_masm_flags".toList := by
    unfold CaseVariant
    decide
  have given := found "ASM_MASM".toList (by decide) _ variant
  refine ⟨split, apart_standard, rs, done, ?_, ?_, ?_, missing true⟩
  · rw [Table.size, ← entries.length_eq]
    rfl
  · rw [given]
    rfl
  · rw [given]
    rfl

end Languages

end DocSnippets
