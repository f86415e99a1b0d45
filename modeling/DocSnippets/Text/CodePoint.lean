import DocSnippets.Text.Hex

/-!
# DocSnippets.Text.CodePoint

**Code points**: characters, and halves of characters beyond 16 bits that stand by themselves. Text
that is decoded from bytes is made of characters only, but an escape may write half of one, and then
it is kept as it is. What is made of characters only is `Text.wide` of a text, and `Text.narrow?`
gives that text back. No stream of bytes takes a half: the standard output refuses it
(`Text.unencodable`), and the standard error shows its escape (`Text.shown`).
-/

namespace DocSnippets

/-- A character, or one of the two halves that a character beyond 16 bits is escaped by. -/
inductive CodePoint
  | char (c : Char)
  /-- A half by itself, counted from the first one. -/
  | half (n : Fin 0x800)
  deriving DecidableEq, Repr

namespace CodePoint

/-- The number of a code point. -/
def code : CodePoint → Nat
  | .char c => c.toNat
  | .half n => 0xD800 + n

/-- The character that a code point is, unless it is half of one. -/
def char? : CodePoint → Option Char
  | .char c => some c
  | .half _ => none

/-- Code points come in the order of their numbers. -/
instance : LT CodePoint := ⟨fun p q => p.code < q.code⟩

instance : DecidableLT CodePoint := fun p q => inferInstanceAs (Decidable (p.code < q.code))

theorem code_injective {p q : CodePoint} (h : p.code = q.code) : p = q := by
  -- no character has the number of a half
  have apart : ∀ (c : Char) (n : Fin 0x800), c.toNat ≠ 0xD800 + n := by
    intro c n same
    have valid : c.toNat < 0xD800 ∨ (0xDFFF < c.toNat ∧ c.toNat < 0x110000) := c.valid
    omega
  cases p with
  | char c =>
    cases q with
    | char d => exact congrArg char (Char.toNat_inj.1 h)
    | half n => exact absurd h (apart c n)
  | half n =>
    cases q with
    | char c => exact absurd h.symm (apart c n)
    | half m => exact congrArg half (Fin.ext (Nat.add_left_cancel h))

/-- A code point where halves cannot be written: a half is shown by its escape. -/
def shown : CodePoint → Text
  | .char c => [c]
  | .half n => '\\' :: 'u' :: Text.hex 4 (0xD800 + n)

end CodePoint

namespace Text

/-- A text as code points. -/
def wide (t : Text) : Text CodePoint := t.map .char

/-- The text that code points make, unless one of them is a half. -/
def narrow? : Text CodePoint → Option Text
  | [] => some []
  | .char c :: rest => (narrow? rest).map (c :: ·)
  | .half _ :: _ => none

/-- Code points where halves cannot be written. -/
def shown (w : Text CodePoint) : Text := w.flatMap CodePoint.shown

/-- What is said of code points that cannot be encoded: where the first halves stand. -/
def unencodable (w : Text CodePoint) : Text :=
  let place := (w.takeWhile fun p => p.char?.isSome).length
  match (w.dropWhile fun p => p.char?.isSome).takeWhile fun p => p.char?.isNone with
  | [half] =>
    "'utf-8' codec can't encode character '".toList ++ half.shown ++ "' in position ".toList ++
      Text.ofNat place ++ ": surrogates not allowed".toList
  | halves =>
    "'utf-8' codec can't encode characters in position ".toList ++ Text.ofNat place ++ '-' ::
      Text.ofNat (place + halves.length - 1) ++ ": surrogates not allowed".toList

@[simp] theorem wide_nil : wide [] = [] := rfl

@[simp] theorem wide_cons (c : Char) (t : Text) : wide (c :: t) = .char c :: wide t := rfl

@[simp] theorem wide_append (s t : Text) : wide (s ++ t) = wide s ++ wide t := List.map_append

@[simp] theorem wide_inj {s t : Text} : wide s = wide t ↔ s = t :=
  List.map_inj_right fun _ _ => CodePoint.char.inj

theorem wide_eq_nil_iff {t : Text} : wide t = [] ↔ t = [] := List.map_eq_nil_iff

/-- Code points make a text just if they are those of the text. -/
theorem narrow?_eq_some_iff {w : Text CodePoint} {t : Text} :
    narrow? w = some t ↔ w = wide t := by
  fun_induction narrow? w generalizing t with
  | case1 => simp [wide, eq_comm]
  | case2 c rest ih =>
    cases t with
    | nil => simp
    | cons d t =>
      rw [Option.map_eq_some_iff, wide_cons, List.cons.injEq, CodePoint.char.injEq, ← ih]
      constructor
      · rintro ⟨narrow, known, same⟩
        obtain ⟨rfl, rfl⟩ := List.cons.inj same
        exact ⟨rfl, known⟩
      · rintro ⟨rfl, known⟩
        exact ⟨t, known, rfl⟩
  | case3 n rest =>
    cases t with
    | nil => simp
    | cons d t => simp

@[simp] theorem narrow?_wide (t : Text) : narrow? (wide t) = some t := narrow?_eq_some_iff.2 rfl

end Text

end DocSnippets
