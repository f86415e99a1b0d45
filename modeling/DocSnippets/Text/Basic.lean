/-!
# DocSnippets.Text.Basic

**Text** is a list of letters, which are characters unless told otherwise: lengths, columns and
positions count letters, and order is by code point. This module holds the few operations on it that
the rest of the library shares.
-/

namespace DocSnippets

/-- A text: its letters in order. -/
abbrev Text (α : Type := Char) := List α

/-! ### Sizes -/

/-- The sizes of parts, added up. -/
def total (sizes : List Nat) : Nat := sizes.foldr (· + ·) 0

@[simp] theorem total_nil : total [] = 0 := rfl

@[simp] theorem total_cons (size : Nat) (sizes : List Nat) :
    total (size :: sizes) = size + total sizes := rfl

@[simp] theorem total_replicate (k size : Nat) : total (List.replicate k size) = k * size := by
  induction k with
  | zero => rw [List.replicate_zero, total_nil, Nat.zero_mul]
  | succ k ih => rw [List.replicate_succ, total_cons, ih, Nat.succ_mul, Nat.add_comm]

namespace Text

/-! ### Joining and splitting -/

section

variable {α : Type}

/-- The parts in order, with the separator between neighbours. -/
def join (separator : Text α) : List (Text α) → Text α
  | [] => []
  | [part] => part
  | part :: next :: rest => part ++ separator ++ join separator (next :: rest)

@[simp] theorem join_nil (separator : Text α) : join separator [] = [] := rfl

@[simp] theorem join_singleton (separator part : Text α) : join separator [part] = part := rfl

theorem join_cons_cons (separator part next : Text α) (rest : List (Text α)) :
    join separator (part :: next :: rest) = part ++ separator ++ join separator (next :: rest) :=
  rfl

theorem join_cons_of_ne_nil (separator part : Text α) {rest : List (Text α)} (ne : rest ≠ []) :
    join separator (part :: rest) = part ++ separator ++ join separator rest := by
  cases rest with
  | nil => exact absurd rfl ne
  | cons next more => rfl

end

/-- The parts of a text between the occurrences of a mark; there is always at least one. -/
def split (mark : Char) : Text → List Text
  | [] => [[]]
  | c :: rest =>
    if c = mark then [] :: split mark rest
    else
      match split mark rest with
      | [] => [[c]]
      | part :: parts => (c :: part) :: parts

theorem split_of_notMem {mark : Char} {t : Text} (h : mark ∉ t) : split mark t = [t] := by
  induction t with
  | nil => rfl
  | cons c rest ih =>
    simp only [List.mem_cons, not_or] at h
    simp [split, Ne.symm h.1, ih h.2]

/-- Splitting undoes joining parts that do not hold the mark. -/
theorem join_split {mark : Char} (parts : List Text) (ne : parts ≠ [])
    (h : ∀ part ∈ parts, mark ∉ part) : split mark (join [mark] parts) = parts := by
  have glue : ∀ (part tail : Text), mark ∉ part →
      split mark (part ++ mark :: tail) = part :: split mark tail := by
    intro part tail hp
    induction part with
    | nil => simp [split]
    | cons c rest ih =>
      simp only [List.mem_cons, not_or] at hp
      simp [split, Ne.symm hp.1, ih hp.2]
  induction parts with
  | nil => exact absurd rfl ne
  | cons part rest ih =>
    cases rest with
    | nil => simpa using split_of_notMem (h part (by simp))
    | cons next more =>
      have := ih (by simp) fun p hp => h p (by simp [hp])
      simp [join_cons_cons, glue part _ (h part (by simp)), this]

/-! ### Searching and trimming -/

/-- Whether a text holds another one as a contiguous part. -/
def holds : Text → Text → Bool
  | [], part => part.isEmpty
  | c :: rest, part => part.isPrefixOf (c :: rest) || holds rest part

theorem holds_iff {t part : Text} : t.holds part = true ↔ part <:+: t := by
  induction t with
  | nil => simp [holds]
  | cons c rest ih =>
    simp only [holds, Bool.or_eq_true, ih, List.isPrefixOf_iff_prefix]
    exact (List.infix_cons_iff).symm

/-- A text without its longest end whose characters all satisfy the test. -/
def dropWhileEnd (p : Char → Bool) (t : Text) : Text := (t.reverse.dropWhile p).reverse

/-- A text without its longest start and end whose characters all satisfy the test. -/
def strip (p : Char → Bool) (t : Text) : Text := dropWhileEnd p (t.dropWhile p)

/-! ### Numbers -/

/-- A natural number in decimal digits. -/
def ofNat (n : Nat) : Text := Nat.toDigits 10 n

end Text

end DocSnippets
