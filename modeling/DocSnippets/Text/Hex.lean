import DocSnippets.Text.Basic

/-!
# DocSnippets.Text.Hex

**Hexadecimal digits**, small letters, of a fixed width.
-/

namespace DocSnippets

/-- The digit of a value below sixteen. -/
def hexDigit (n : Nat) : Char :=
  if n < 10 then Char.ofNat (0x30 + n) else Char.ofNat (0x57 + n)

/-- The value of a digit, small or capital. -/
def hexValue? (c : Char) : Option Nat :=
  if 0x30 ≤ c.toNat ∧ c.toNat ≤ 0x39 then some (c.toNat - 0x30)
  else if 0x61 ≤ c.toNat ∧ c.toNat ≤ 0x66 then some (c.toNat - 0x57)
  else if 0x41 ≤ c.toNat ∧ c.toNat ≤ 0x46 then some (c.toNat - 0x37)
  else none

theorem hexValue?_hexDigit {n : Nat} (h : n < 16) : hexValue? (hexDigit n) = some n := by
  have all : ∀ k ∈ List.range 16, hexValue? (hexDigit k) = some k := by decide
  exact all n (List.mem_range.2 h)

/-- The last so many digits of a number, the highest first. -/
def Text.hex : Nat → Nat → Text
  | 0, _ => []
  | width + 1, n => Text.hex width (n / 16) ++ [hexDigit (n % 16)]

@[simp] theorem Text.length_hex (width n : Nat) : (Text.hex width n).length = width := by
  induction width generalizing n with
  | zero => rfl
  | succ w ih => simp [Text.hex, ih]

end DocSnippets
