import DocSnippets.Text.Lines
import DocSnippets.Text.Quoted
import Mathlib.Algebra.Group.Nat.Defs

/-!
# DocSnippets.Proofs.Text.Quoted

**Quoted texts stay on their line and are told apart.** What stands between the quote marks is
printable, and no line break is. Each character there is read back without a look at what comes
after it, and the quote mark that ends them is no beginning of an escape; so a quoted text is known
where it stands, whatever follows it, and with whichever of the two marks it is quoted.
-/

namespace DocSnippets

/-! ### Hexadecimal numbers -/

/-- The number that hexadecimal digits write. -/
def Text.hexNumber (digits : Text) : Nat :=
  digits.foldl (fun n digit => 16 * n + (hexValue? digit).getD 0) 0

theorem Text.hexNumber_hex {width n : Nat} (h : n < 16 ^ width) :
    (Text.hex width n).hexNumber = n := by
  induction width generalizing n with
  | zero =>
    obtain rfl : n = 0 := Nat.lt_one_iff.1 h
    rfl
  | succ width ih =>
    have higher : n / 16 < 16 ^ width := Nat.div_lt_of_lt_mul (by rwa [Nat.pow_succ'] at h)
    have last := hexValue?_hexDigit (Nat.mod_lt n (by decide : 0 < 16))
    have front := ih higher
    rw [hexNumber] at front
    rw [Text.hex, hexNumber, List.foldl_append, front, List.foldl_cons, List.foldl_nil, last,
      Option.getD_some]
    omega

namespace Quoted

/-! ### Lines -/

theorem isBreak_of_isPrintable {c : Char} (h : isPrintable c = true) : isBreak c = false := by
  have apart : rangesApart printableRanges breakRanges = true := by decide +kernel
  have ascii : rangesApart [(0x20, 0x7E)] breakRanges = true := by decide
  unfold isPrintable at h
  split at h
  · rename_i small
    have range : inRanges [(0x20, 0x7E)] c = true :=
      inRanges_iff.2 ⟨_, List.mem_singleton.2 rfl, of_decide_eq_true h, Nat.le_of_lt_succ small⟩
    exact inRanges_eq_false_of_apart ascii range
  · exact inRanges_eq_false_of_apart apart h

theorem isPrintable_mark (t : Text) : isPrintable (mark t) = true := by
  rcases mark_eq t with h | h
  · rw [h]
    decide
  · rw [h]
    decide

theorem isPrintable_of_mem_quote {t : Text} {c : Char} (h : c ∈ quote t) :
    isPrintable c = true := by
  rw [quote, List.mem_append, List.mem_cons, List.mem_flatMap, List.mem_singleton] at h
  rcases h with (rfl | ⟨d, -, hc⟩) | rfl
  · exact isPrintable_mark t
  · exact mem_escape_printable (isPrintable_mark t) hc
  · exact isPrintable_mark t

theorem isBreak_of_mem_quote {t : Text} {c : Char} (h : c ∈ quote t) : isBreak c = false :=
  isBreak_of_isPrintable (isPrintable_of_mem_quote h)

/-! ### Reading back -/

/-- The character of a code point of so many digits, and what follows them. -/
def coded (width : Nat) (t : Text) : Char × Text :=
  (Char.ofNat (Text.hexNumber (t.take width)), t.drop width)

/-- The character that stands next in a text with the given quote mark, and what follows it; none
at the mark itself. -/
def unescape? (quoteMark : Char) : Text → Option (Char × Text)
  | [] => none
  | '\\' :: 't' :: rest => some ('\t', rest)
  | '\\' :: 'n' :: rest => some ('\n', rest)
  | '\\' :: 'r' :: rest => some ('\r', rest)
  | '\\' :: 'x' :: rest => some (coded 2 rest)
  | '\\' :: 'u' :: rest => some (coded 4 rest)
  | '\\' :: 'U' :: rest => some (coded 8 rest)
  | '\\' :: c :: rest => some (c, rest)
  | c :: rest => if c = quoteMark then none else some (c, rest)

theorem coded_hex {width : Nat} {c : Char} (h : c.toNat < 16 ^ width) (rest : Text) :
    coded width (Text.hex width c.toNat ++ rest) = (c, rest) := by
  have size := Text.length_hex width c.toNat
  rw [coded, List.take_left' size, List.drop_left' size, Text.hexNumber_hex h, Char.ofNat_toNat]

theorem unescape?_cons {q c : Char} (backslash : c ≠ '\\') (rest : Text) :
    unescape? q (c :: rest) = if c = q then none else some (c, rest) := by
  unfold unescape?
  split <;> simp_all

theorem unescape?_mark {q : Char} (hq : q = single ∨ q = double) (rest : Text) :
    unescape? q (q :: rest) = none := by
  rcases hq with rfl | rfl
  · rfl
  · rfl

theorem unescape?_escapeCode (q c : Char) (rest : Text) :
    unescape? q (escapeCode c.toNat ++ rest) = some (c, rest) := by
  have bound : c.toNat < 0x110000 := by
    have valid : c.toNat < 0xD800 ∨ (0xDFFF < c.toNat ∧ c.toNat < 0x110000) := c.valid
    omega
  unfold escapeCode
  split
  · rename_i small
    exact congrArg some (coded_hex small rest)
  split
  · rename_i small
    exact congrArg some (coded_hex small rest)
  · exact congrArg some (coded_hex (Nat.lt_trans bound (by decide)) rest)

/-- A character is read back from its escape, whatever follows it. -/
theorem unescape?_escape {q : Char} (hq : q = single ∨ q = double) (c : Char) (rest : Text) :
    unescape? q (escape q c ++ rest) = some (c, rest) := by
  unfold escape
  split
  · rename_i own
    rcases own with rfl | rfl
    · rcases hq with rfl | rfl
      · rfl
      · rfl
    · rfl
  rename_i plain
  obtain ⟨mark, backslash⟩ := not_or.1 plain
  split
  · subst c
    rfl
  split
  · subst c
    rfl
  split
  · subst c
    rfl
  split
  · rw [List.singleton_append, unescape?_cons backslash, if_neg mark]
  · exact unescape?_escapeCode q c rest

/-! ### Texts side by side -/

/-- Up to the quote mark that ends it, what is quoted is known. -/
theorem flatMap_escape_append_inj {q : Char} (hq : q = single ∨ q = double) {s t rest more : Text}
    (h : s.flatMap (escape q) ++ q :: rest = t.flatMap (escape q) ++ q :: more) :
    s = t ∧ rest = more := by
  -- reading one character back from both sides tells which text goes on and with what
  induction s generalizing t with
  | nil =>
    cases t with
    | nil => exact ⟨rfl, (List.cons.inj h).2⟩
    | cons d t =>
      have next := congrArg (unescape? q) h
      rw [List.flatMap_cons, List.append_assoc, unescape?_escape hq] at next
      rw [List.flatMap_nil, List.nil_append, unescape?_mark hq] at next
      cases next
  | cons c s ih =>
    have next := congrArg (unescape? q) h
    rw [List.flatMap_cons, List.append_assoc, unescape?_escape hq] at next
    cases t with
    | nil =>
      rw [List.flatMap_nil, List.nil_append, unescape?_mark hq] at next
      cases next
    | cons d t =>
      rw [List.flatMap_cons, List.append_assoc, unescape?_escape hq] at next
      obtain ⟨rfl, later⟩ := Prod.mk.inj (Option.some.inj next)
      obtain ⟨rfl, same⟩ := ih later
      exact ⟨rfl, same⟩

/-- A quoted text is told apart from what follows it, though the text itself decides how it is
quoted. -/
theorem quote_append_inj {s t rest more : Text} (h : quote s ++ rest = quote t ++ more) :
    s = t ∧ rest = more := by
  simp only [quote, List.cons_append, List.append_assoc, List.nil_append] at h
  obtain ⟨same, inside⟩ := List.cons.inj h
  rw [same] at inside
  exact flatMap_escape_append_inj (mark_eq t) inside

end Quoted

end DocSnippets
