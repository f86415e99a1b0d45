import DocSnippets.Record

/-!
# DocSnippets.Template

**Names with a placeholder for a language.** A page named with a placeholder documents one entity
per language: the placeholder, which needs something before and something after it, is replaced by
each language's name. Where several placeholders could be meant, overlapping ones included, the
last one is.
-/

namespace DocSnippets

namespace Template

/-- The placeholder for a language in the name of a page. -/
def placeholder : Text := "_LANG_".toList

/-- Whether a character may stand in the name of a template page. -/
def isNameChar (c : Char) : Bool := c == '_' || (decide ('A' ≤ c) && decide (c ≤ 'Z'))

/-- What follows the placeholder at the start of a text, unless nothing does. -/
def afterPlaceholder? (t : Text) : Option Text :=
  if placeholder.isPrefixOf t then
    match t.drop placeholder.length with
    | [] => none
    | c :: rest => some (c :: rest)
  else none

/-- The two sides of the last placeholder that something follows. -/
def lastSplit? : Text → Option (Text × Text)
  | [] => none
  | c :: rest =>
    match lastSplit? rest with
    | some (before, after) => some (c :: before, after)
    | none => (afterPlaceholder? (c :: rest)).map fun after => ([], after)

/-- The two sides of the placeholder in a template name; none if the name is no template. -/
def split? (name : Text) : Option (Text × Text) :=
  if name.all isNameChar then
    match lastSplit? name with
    | some (c :: before, after) => some (c :: before, after)
    | _ => none
  else none

theorem append_of_afterPlaceholder? {t after : Text} (h : afterPlaceholder? t = some after) :
    t = placeholder ++ after ∧ after ≠ [] := by
  unfold afterPlaceholder? at h
  split at h
  · rename_i hp
    obtain ⟨s, rfl⟩ := List.isPrefixOf_iff_prefix.1 hp
    rw [List.drop_left] at h
    split at h
    · simp at h
    · obtain rfl := Option.some.inj h
      exact ⟨rfl, by simp⟩
  · simp at h

theorem append_of_lastSplit? {t before after : Text} (h : lastSplit? t = some (before, after)) :
    t = before ++ placeholder ++ after ∧ after ≠ [] := by
  induction t generalizing before with
  | nil => simp [lastSplit?] at h
  | cons c rest ih =>
    simp only [lastSplit?] at h
    split at h
    · rename_i p s hs
      obtain ⟨rfl, rfl⟩ := Prod.mk.inj (Option.some.inj h)
      obtain ⟨hr, hne⟩ := ih hs
      exact ⟨by rw [hr]; simp, hne⟩
    · obtain ⟨s, hs, he⟩ := Option.map_eq_some_iff.1 h
      obtain ⟨rfl, rfl⟩ := Prod.mk.inj he
      simpa using append_of_afterPlaceholder? hs

theorem split?_sides_ne_nil {name before after : Text} (h : split? name = some (before, after)) :
    before ≠ [] ∧ after ≠ [] := by
  unfold split? at h
  split at h
  · split at h
    · rename_i hs
      obtain ⟨rfl, rfl⟩ := Prod.mk.inj (Option.some.inj h)
      exact ⟨by simp, (append_of_lastSplit? hs).2⟩
    · simp at h
  · simp at h

end Template

/-- The languages that a template page documents, at least one, in order. -/
structure Languages where
  /-- The names put in place of the placeholder. -/
  names : List Text
  /-- There is a language. -/
  names_ne_nil : names ≠ []

namespace Languages

/-- A list of languages was empty. -/
inductive Fault
  | noLanguage
  deriving DecidableEq, Repr

def Fault.message : Fault → Text
  | .noLanguage => "languages must not be empty".toList

/-- The languages with the given names. -/
def ofNames (names : List Text) : Except Fault Languages :=
  if h : names = [] then .error .noLanguage else .ok ⟨names, h⟩

/-- The languages of the pages about compilers and build tools. -/
def standard : Languages where
  names :=
    ["ASM".toList, "ASM-ATT".toList, "ASM_MASM".toList, "ASM_MARMASM".toList, "ASM_NASM".toList,
      "C".toList, "CSharp".toList, "CUDA".toList, "CXX".toList, "Fortran".toList, "HIP".toList,
      "ISPC".toList, "OBJC".toList, "OBJCXX".toList, "Swift".toList]
  names_ne_nil := by simp

/-- The name of an entity in one language. -/
def entity (before language after : Text) : Text := before ++ '_' :: language ++ '_' :: after

/-- The record of a template page in one language. -/
def templateRecord (before after : Text) (s : Snippet) (language : Text) : Record where
  key := entity before language after
  synopsis := s.synopsis
  usage := s.usage
  key_ne_nil := by simp [entity]

/-- The records of a page: one per language for a template name, one for any other. -/
def expand (ls : Languages) (name : Text) (s : Snippet) : Except Record.Fault (List Record) :=
  match Template.split? name with
  | some (before, after) => .ok (ls.names.map (templateRecord before after s))
  | none => (Record.ofParts name s.synopsis s.usage).map ([·])

theorem expand_of_split? {ls : Languages} {name before after : Text} {s : Snippet}
    (h : Template.split? name = some (before, after)) :
    ls.expand name s = .ok (ls.names.map (templateRecord before after s)) := by
  simp [expand, h]

theorem expand_of_plain {ls : Languages} {name : Text} {s : Snippet} (ne : name ≠ [])
    (h : Template.split? name = none) :
    ls.expand name s = .ok [⟨name, s.synopsis, s.usage, ne⟩] := by
  simp [expand, h, Record.ofParts, ne, Except.map]

end Languages

end DocSnippets
