import DocSnippets.Text.Blank
import DocSnippets.Text.Pictograph

/-!
# DocSnippets.Text.Shortcode

**Pictograph shortcodes**: a name between colons stands for a pictograph. An ending after a hyphen
asks for its plain or its coloured form. A name that is not known stays as it is, both its colons
used up.
-/

namespace DocSnippets

namespace Shortcode

/-- The endings that ask for a form, with the character that does the same. -/
def forms : List (Text × Char) := [("-emoji".toList, '\ufe0f'), ("-text".toList, '\ufe0e')]

/-- The name in a shortcode and the character for the form it asks for. -/
def nameAndForm (code : Text) : Text × Text :=
  match forms.find? fun form => form.1.isSuffixOf code with
  | some (ending, form) => (code.take (code.length - ending.length), [form])
  | none => (code, [])

/-- The pictograph that a shortcode stands for; capitals in its name do not matter. -/
def pictograph? (code : Text) : Option Text :=
  let (name, form) := nameAndForm code
  (Pictograph.ofName? (name.map Char.toLower)).map (· ++ form)

/-- The shortcode between a colon and the next one, given what follows the first colon, and what
follows the second one. No blank stands in between. -/
def code? (t : Text) : Option (Text × Text) :=
  let inside := fun c => c != ':' && !isSpace c
  match t.dropWhile inside with
  | ':' :: rest => some (t.takeWhile inside, rest)
  | _ => none

theorem length_of_code? {t code rest : Text} (h : code? t = some (code, rest)) :
    rest.length < t.length := by
  unfold code? at h
  simp only at h
  split at h
  · rename_i tail hd
    obtain ⟨-, rfl⟩ := Prod.mk.inj (Option.some.inj h)
    have := (List.dropWhile_suffix (fun c => c != ':' && !isSpace c) (l := t)).length_le
    rw [hd] at this
    simp only [List.length_cons] at this
    omega
  · simp at h

end Shortcode

/-- A text with its known shortcodes replaced by their pictographs. -/
def expandShortcodes (t : Text) : Text :=
  match t with
  | [] => []
  | c :: rest =>
    if c = ':' then
      match _h : Shortcode.code? rest with
      | some (code, after) =>
        (Shortcode.pictograph? code).getD (':' :: code ++ [':']) ++ expandShortcodes after
      | none => ':' :: expandShortcodes rest
    else c :: expandShortcodes rest
termination_by t.length
decreasing_by
  all_goals first
    | exact Nat.lt_trans (Shortcode.length_of_code? _h) (Nat.lt_succ_self _)
    | exact Nat.lt_succ_self _

theorem expandShortcodes_plain {c : Char} (rest : Text) (h : c ≠ ':') :
    expandShortcodes (c :: rest) = c :: expandShortcodes rest := by
  rw [expandShortcodes, if_neg h]

end DocSnippets
