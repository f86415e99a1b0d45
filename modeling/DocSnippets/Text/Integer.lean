import DocSnippets.Text.Blank
import DocSnippets.Text.Digit

/-!
# DocSnippets.Text.Integer

**Reading whole numbers** as people type them: blanks around, a sign, the digits of any script,
and single underscores between digits.
-/

namespace DocSnippets

/-- Whether a character may stand around a number: an ASCII blank, no separator control, or any
blank outside ASCII. -/
def isNumberSpace (c : Char) : Bool :=
  isSpace c && !(decide (0x1C ≤ c.toNat) && decide (c.toNat ≤ 0x1F))

/-- The values of digits, single underscores between them; none for anything else. -/
def underscored? : Text → Option (List Nat)
  | [] => none
  | [c] => (digitValue? c).map fun n => [n]
  | c :: '_' :: rest => do
    let n ← digitValue? c
    let ns ← underscored? rest
    return n :: ns
  | c :: rest => do
    let n ← digitValue? c
    let ns ← underscored? rest
    return n :: ns

/-- The number with the given digits, the highest first. -/
def ofDigits (ns : List Nat) : Nat := ns.foldl (fun value n => value * 10 + n) 0

/-- The most digits a number may have. -/
def maxIntegerDigits : Nat := 4300

/-- The natural number that a text writes. -/
def readNatural? (t : Text) : Option Nat :=
  (underscored? t).bind fun ns => if ns.length ≤ maxIntegerDigits then some (ofDigits ns) else none

/-- The whole number that a text writes. -/
def readInteger? (t : Text) : Option Int :=
  match t.strip isNumberSpace with
  | '+' :: rest => (readNatural? rest).map Int.ofNat
  | '-' :: rest => (readNatural? rest).map fun n => -(n : Int)
  | rest => (readNatural? rest).map Int.ofNat

end DocSnippets
