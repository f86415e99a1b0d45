import DocSnippets.Snippet.Basic
import DocSnippets.Text.Alphabet

/-!
# DocSnippets.Record

A **record** is one entry of the documentation table: the name of an entity with its synopsis and
its usage example. The name is never empty, and two names are the same entity when they are equal
after case folding.
-/

namespace DocSnippets

/-- The documentation of one entity, in characters unless told otherwise. -/
structure Record (α : Type := Char) where
  /-- The name of the entity, as the pages spell it. -/
  key : Text α
  /-- What the entity is, in one sentence. -/
  synopsis : Option (Text α)
  /-- How the entity is used, verbatim. -/
  usage : Option (Text α)
  /-- An entity has a name. -/
  key_ne_nil : key ≠ []
  deriving DecidableEq

namespace Record

/-- A record was asked for without a key. -/
inductive Fault
  | emptyKey
  deriving DecidableEq, Repr

def Fault.message : Fault → Text
  | .emptyKey => "DocumentationRecord key must not be empty".toList

variable {α : Type}

/-- The record with the given parts, unless its key is empty. -/
def ofParts [DecidableEq α] (key : Text α) (synopsis usage : Option (Text α)) :
    Except Fault (Record α) :=
  if h : key = [] then .error .emptyKey else .ok ⟨key, synopsis, usage, h⟩

theorem ofParts_eq_ok_iff [DecidableEq α] {key : Text α} {synopsis usage : Option (Text α)}
    {r : Record α} :
    ofParts key synopsis usage = .ok r ↔
      r.key = key ∧ r.synopsis = synopsis ∧ r.usage = usage := by
  unfold ofParts
  split
  · rename_i h
    simp only [reduceCtorEq, false_iff]
    intro known
    obtain ⟨hk, -, -⟩ := known
    exact r.key_ne_nil (hk.trans h)
  · cases r
    simp [Record.mk.injEq, eq_comm]

/-- The key with its case folded: what lookups compare. -/
def foldedKey [Alphabet α] (r : Record α) : Text α := foldCase r.key

/-- A record of texts as one of code points. -/
def wide (r : Record) : Record CodePoint where
  key := Text.wide r.key
  synopsis := r.synopsis.map Text.wide
  usage := r.usage.map Text.wide
  key_ne_nil := mt Text.wide_eq_nil_iff.1 r.key_ne_nil

/-! ### Rendering -/

/-- The synopsis and the usage example, each on lines of its own; a missing part is left out. -/
def multiline [Alphabet α] (r : Record α) : Text α :=
  Text.join [Alphabet.ofChar '\n'] ([r.synopsis, r.usage].filterMap id)

/-- The synopsis with its line breaks flattened to blanks; the usage example is never shown. -/
def singleLine [Alphabet α] (r : Record α) : Text α :=
  match r.synopsis with
  | some synopsis => Text.join [Alphabet.ofChar ' '] (Alphabet.lines synopsis)
  | none => []

/-- The rendering for callers that can show several lines, and for those that cannot. -/
def render [Alphabet α] (r : Record α) (multi : Bool) : Text α :=
  if multi then r.multiline else r.singleLine

theorem multiline_eq (r : Record) : r.multiline =
    match r.synopsis, r.usage with
    | some synopsis, some usage => synopsis ++ '\n' :: usage
    | some synopsis, none => synopsis
    | none, some usage => usage
    | none, none => [] := by
  unfold multiline
  split <;> rename_i hs hu <;> simp [hs, hu, Text.join_cons_cons]

theorem singleLine_of_synopsis {r : Record} {synopsis : Text} (h : r.synopsis = some synopsis) :
    r.singleLine = Text.join [' '] synopsis.lines := by
  simp [singleLine, h]

end Record

end DocSnippets
