import DocSnippets.Json.Value
import DocSnippets.Text.Hex

/-!
# DocSnippets.Json.Printer

**Writing JSON**, in ASCII, one item or member a line and two more blanks of indentation at each
depth. A character outside ASCII is escaped by its code, or by two halves beyond 16 bits.
-/

namespace DocSnippets

namespace Json

/-- The escape of a code of at most 16 bits. -/
def escapeCode (n : Nat) : Text := '\\' :: 'u' :: Text.hex 4 n

/-- A character as it stands in a string. -/
def escape (c : Char) : Text :=
  if c = '"' then ['\\', '"']
  else if c = '\\' then ['\\', '\\']
  else if c = '\n' then ['\\', 'n']
  else if c = '\r' then ['\\', 'r']
  else if c = '\t' then ['\\', 't']
  else if c = '\x08' then ['\\', 'b']
  else if c = '\x0c' then ['\\', 'f']
  else if 0x20 ≤ c.toNat ∧ c.toNat < 0x7F then [c]
  else if c.toNat < 0x10000 then escapeCode c.toNat
  else
    escapeCode (0xD800 + (c.toNat - 0x10000) / 0x400) ++
      escapeCode (0xDC00 + (c.toNat - 0x10000) % 0x400)

/-- A text as a string. -/
def quote (t : Text) : Text := '"' :: t.flatMap escape ++ ['"']

/-- A line break and the indentation at a depth. -/
def newLine (depth : Nat) : Text := '\n' :: List.replicate (2 * depth) ' '

/-- Printed parts between brackets, each on a line of its own. -/
def bracketed (opening closing : Char) (depth : Nat) (parts : List Text) : Text :=
  match parts with
  | [] => [opening, closing]
  | _ =>
    opening :: newLine (depth + 1) ++ Text.join (',' :: newLine (depth + 1)) parts ++
      newLine depth ++ [closing]

mutual

/-- A value as text, its first line indented already to a depth. -/
def print (depth : Nat) : Json → Text
  | .null => "null".toList
  | .bool true => "true".toList
  | .bool false => "false".toList
  | .number written => written
  | .text t => quote t
  | .array items => bracketed '[' ']' depth (printItems (depth + 1) items)
  | .object members => bracketed '\x7b' '\x7d' depth (printMembers (depth + 1) members)

/-- Items as texts. -/
def printItems (depth : Nat) : List Json → List Text
  | [] => []
  | item :: rest => print depth item :: printItems depth rest

/-- Members as texts. -/
def printMembers (depth : Nat) : List (Text × Json) → List Text
  | [] => []
  | (name, value) :: rest =>
    (quote name ++ ':' :: ' ' :: print depth value) :: printMembers depth rest

end

/-- A value as text. -/
def render (v : Json) : Text := print 0 v

/-- Whether a character is visible ASCII. -/
def isVisible (c : Char) : Bool := decide (0x20 ≤ c.toNat) && decide (c.toNat < 0x7F)

theorem isVisible_hex {width n : Nat} : ∀ c ∈ Text.hex width n, isVisible c = true := by
  have digit : ∀ k ∈ List.range 16, isVisible (hexDigit k) = true := by decide
  induction width generalizing n with
  | zero => simp [Text.hex]
  | succ w ih =>
    intro c hc
    rcases List.mem_append.1 hc with hc | hc
    · exact ih c hc
    · obtain rfl := List.mem_singleton.1 hc
      exact digit _ (List.mem_range.2 (Nat.mod_lt _ (by decide)))

/-- An escaped character is visible ASCII. -/
theorem escape_ascii (c : Char) : ∀ d ∈ escape c, isVisible d = true := by
  have code : ∀ n, ∀ d ∈ escapeCode n, isVisible d = true := by
    intro n d hd
    simp only [escapeCode, List.mem_cons] at hd
    rcases hd with rfl | rfl | hd
    · decide
    · decide
    · exact isVisible_hex d hd
  intro d hd
  unfold escape at hd
  repeat' split at hd
  all_goals first
    | exact code _ d hd
    | (rcases List.mem_append.1 hd with hd | hd <;> exact code _ d hd)
    | (simp only [List.mem_cons, List.not_mem_nil, or_false] at hd
       rcases hd with rfl | rfl <;> decide)
    | (obtain rfl := List.mem_singleton.1 hd
       rename_i h
       simpa [isVisible] using h)

end Json

end DocSnippets
