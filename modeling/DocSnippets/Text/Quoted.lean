import DocSnippets.Text.Hex
import DocSnippets.Text.Printable

/-!
# DocSnippets.Text.Quoted

**Quoted text for messages.** The quote mark is the single one, unless the text holds a single
quote mark and no double one. The quote mark and the backslash are escaped, and so is every
character that is not printable, so a quoted text is one line whatever it quotes.
-/

namespace DocSnippets

namespace Quoted

/-- The single quote mark. -/
def single : Char := '\x27'

/-- The double quote mark. -/
def double : Char := '\x22'

/-- The quote mark put around a text. -/
def mark (t : Text) : Char :=
  if t.contains single && !t.contains double then double else single

/-- The escape of a character that is not printable, by its code point. -/
def escapeCode (n : Nat) : Text :=
  if n < 0x100 then '\\' :: 'x' :: Text.hex 2 n
  else if n < 0x10000 then '\\' :: 'u' :: Text.hex 4 n
  else '\\' :: 'U' :: Text.hex 8 n

/-- A character as it stands between quote marks. -/
def escape (quoteMark c : Char) : Text :=
  if c = quoteMark ∨ c = '\\' then ['\\', c]
  else if c = '\t' then ['\\', 't']
  else if c = '\n' then ['\\', 'n']
  else if c = '\r' then ['\\', 'r']
  else if isPrintable c then [c]
  else escapeCode c.toNat

/-- A text between quote marks. -/
def quote (t : Text) : Text :=
  mark t :: t.flatMap (escape (mark t)) ++ [mark t]

theorem mark_eq (t : Text) : mark t = single ∨ mark t = double := by
  unfold mark
  split
  · exact .inr rfl
  · exact .inl rfl

theorem isPrintable_hex {width n : Nat} : ∀ c ∈ Text.hex width n, isPrintable c = true := by
  have digit : ∀ k ∈ List.range 16, isPrintable (hexDigit k) = true := by decide
  induction width generalizing n with
  | zero => simp [Text.hex]
  | succ w ih =>
    intro c hc
    rcases List.mem_append.1 hc with hc | hc
    · exact ih c hc
    · obtain rfl := List.mem_singleton.1 hc
      exact digit _ (List.mem_range.2 (Nat.mod_lt _ (by decide)))

/-- An escape holds printable characters only. -/
theorem mem_escape_printable {q c d : Char} (hq : isPrintable q = true) (h : d ∈ escape q c) :
    isPrintable d = true := by
  -- a backslash and then the character itself, a letter for it, or hexadecimal digits
  unfold escape at h
  split at h
  · rename_i hc
    simp only [List.mem_cons, List.not_mem_nil, or_false] at h
    rcases h with rfl | rfl
    · decide
    · rcases hc with rfl | rfl
      · exact hq
      · decide
  · split at h
    · simp only [List.mem_cons, List.not_mem_nil, or_false] at h
      rcases h with rfl | rfl <;> decide
    · split at h
      · simp only [List.mem_cons, List.not_mem_nil, or_false] at h
        rcases h with rfl | rfl <;> decide
      · split at h
        · simp only [List.mem_cons, List.not_mem_nil, or_false] at h
          rcases h with rfl | rfl <;> decide
        · split at h
          · rename_i hp
            obtain rfl := List.mem_singleton.1 h
            exact hp
          · unfold escapeCode at h
            repeat' split at h
            all_goals
              simp only [List.mem_cons] at h
              rcases h with rfl | rfl | h
              · decide
              · decide
              · exact isPrintable_hex _ h

end Quoted

end DocSnippets
