import DocSnippets.Json.Printer
import DocSnippets.Json.Reader

/-!
# DocSnippets.Proofs.Json.Strings

**A string is read back as it was written.** The reader works in two passes: it turns the inside of
a string into codes, and then codes into code points. A character is one code, or two halves beyond
16 bits; `units` gives them, and each pass undoes its part of writing (`readCodes_escape`,
`ofCodes_units`). A text may stand in a string in more than one way; `ReadAs` says which, and is put
together piece by piece, up to what is read of a written string (`readString_quote`). A half by
itself is never written, but where it is escaped it is read as what it is (`readString_half`).
-/

namespace DocSnippets

namespace Json

/-- The codes of a character: its code point, or the two halves of one beyond 16 bits. -/
def units (c : Char) : List Nat :=
  if c.toNat < 0x10000 then [c.toNat]
  else [0xD800 + (c.toNat - 0x10000) / 0x400, 0xDC00 + (c.toNat - 0x10000) % 0x400]

theorem units_of_lt {c : Char} (h : c.toNat < 0x10000) : units c = [c.toNat] := if_pos h

theorem units_of_not_lt {c : Char} (h : ¬ c.toNat < 0x10000) :
    units c = [0xD800 + (c.toNat - 0x10000) / 0x400, 0xDC00 + (c.toNat - 0x10000) % 0x400] :=
  if_neg h

/-- What is read after codes that were read before. -/
def afterCodes (before : List Nat) (reading : Reading (List Nat)) : Reading (List Nat) :=
  reading.map fun (codes, r) => (before ++ codes, r)

theorem afterCodes_afterCodes (first second : List Nat) (reading : Reading (List Nat)) :
    afterCodes first (afterCodes second reading) = afterCodes (first ++ second) reading := by
  cases reading with
  | error stop => rfl
  | ok read => simp [afterCodes, Except.map]

/-! ### Codes of an escape -/

theorem hexCode?_hex {n : Nat} (h : n < 0x10000) :
    ∃ a b c d, Text.hex 4 n = [a, b, c, d] ∧ hexCode? a b c d = some n := by
  refine ⟨_, _, _, _, rfl, ?_⟩
  have digit : ∀ k, hexValue? (hexDigit (k % 16)) = some (k % 16) :=
    fun k => hexValue?_hexDigit (Nat.mod_lt _ (by decide))
  simp only [hexCode?, digit, Option.bind_eq_bind, Option.bind_some, Option.pure_def,
    Option.some.injEq]
  omega

theorem readCodes_escapeCode {n left : Nat} {rest : Text} (h : n < 0x10000) (ne : rest ≠ []) :
    readCodes left (escapeCode n ++ rest) = afterCodes [n] (readCodes left rest) := by
  obtain ⟨a, b, c, d, digits, code⟩ := hexCode?_hex h
  cases rest with
  | nil => exact absurd rfl ne
  | cons e more =>
    simp only [escapeCode, digits, List.cons_append, List.nil_append, readCodes, code]
    rfl

theorem readCodes_simpleEscape {left : Nat} {letter c : Char} {rest : Text}
    (h : simpleEscape? letter = some c) (small : c.toNat < 0x10000) :
    readCodes left ('\\' :: letter :: rest) = afterCodes (units c) (readCodes left rest) := by
  have notCode : letter ≠ 'u' := by
    intro code
    rw [code] at h
    cases h
  rw [readCodes, h, units_of_lt small]
  · rfl
  · simp [notCode]
  · simp [notCode]

/-- The escape of a character is read as its codes, where something follows it. -/
theorem readCodes_escape (c : Char) {left : Nat} {rest : Text} (ne : rest ≠ []) :
    readCodes left (escape c ++ rest) = afterCodes (units c) (readCodes left rest) := by
  unfold escape
  split
  · subst c
    exact readCodes_simpleEscape rfl (by decide)
  split
  · subst c
    exact readCodes_simpleEscape rfl (by decide)
  split
  · subst c
    exact readCodes_simpleEscape rfl (by decide)
  split
  · subst c
    exact readCodes_simpleEscape rfl (by decide)
  split
  · subst c
    exact readCodes_simpleEscape rfl (by decide)
  split
  · subst c
    exact readCodes_simpleEscape rfl (by decide)
  split
  · subst c
    exact readCodes_simpleEscape rfl (by decide)
  split
  · rename_i quote backslash _ _ _ _ _ visible
    rw [List.singleton_append, codes_plain quote backslash visible.1, units_of_lt (by omega)]
    rfl
  split
  · rename_i small
    rw [readCodes_escapeCode small ne, units_of_lt small]
  · -- beyond 16 bits the two halves are escaped one after the other
    rename_i large
    have valid := c.valid
    simp only [UInt32.isValidChar, Nat.isValidChar] at valid
    have bound : c.toNat < 0x110000 := by
      change c.val.toNat < _
      omega
    rw [List.append_assoc, readCodes_escapeCode (by omega) (by simp [escapeCode]),
      readCodes_escapeCode (by omega) ne, afterCodes_afterCodes, units_of_not_lt large]
    rfl

/-! ### Code points of codes -/

theorem isHigh_isLow_toNat (c : Char) : isHigh c.toNat = false ∧ isLow c.toNat = false := by
  have valid : c.toNat < 0xD800 ∨ (0xDFFF < c.toNat ∧ c.toNat < 0x110000) := c.valid
  simp only [isHigh, isLow, Bool.and_eq_false_iff, decide_eq_false_iff_not]
  omega

theorem ofCodes_toNat (c : Char) (codes : List Nat) :
    ofCodes (c.toNat :: codes) = .char c :: ofCodes codes := by
  obtain ⟨high, low⟩ := isHigh_isLow_toNat c
  have back : ofCode c.toNat = .char c := by
    rw [ofCode, high, low]
    exact congrArg CodePoint.char (Char.ofNat_toNat c)
  cases codes with
  | nil => exact congrArg (fun d => [d]) back
  | cons m rest =>
    rw [ofCodes, high, Bool.false_and, if_neg (by decide), back]

/-- The codes of a character are turned back into the character. -/
theorem ofCodes_units (c : Char) (codes : List Nat) :
    ofCodes (units c ++ codes) = .char c :: ofCodes codes := by
  by_cases small : c.toNat < 0x10000
  · rw [units_of_lt small]
    exact ofCodes_toNat c codes
  · have valid : c.toNat < 0xD800 ∨ (0xDFFF < c.toNat ∧ c.toNat < 0x110000) := c.valid
    -- the first half is high and the second one low, so they are joined
    have high : isHigh (0xD800 + (c.toNat - 0x10000) / 0x400) = true := by
      simp only [isHigh, Bool.and_eq_true, decide_eq_true_eq]
      omega
    have low : isLow (0xDC00 + (c.toNat - 0x10000) % 0x400) = true := by
      simp only [isLow, Bool.and_eq_true, decide_eq_true_eq]
      omega
    have joined : joinHalves (0xD800 + (c.toNat - 0x10000) / 0x400)
        (0xDC00 + (c.toNat - 0x10000) % 0x400) = c.toNat := by
      unfold joinHalves
      omega
    rw [units_of_not_lt small, List.cons_append, List.cons_append, List.nil_append, ofCodes, high,
      low, Bool.and_self, if_pos rfl, joined, Char.ofNat_toNat]

/-! ### Strings -/

/-- The inside of a string is read as a text: its codes are read where something follows them, and
they are turned back into the text whatever codes come after them. -/
def ReadAs (inside t : Text) : Prop :=
  ∃ codes,
    (∀ left rest, rest ≠ [] →
      readCodes left (inside ++ rest) = afterCodes codes (readCodes left rest)) ∧
    ∀ later, ofCodes (codes ++ later) = Text.wide t ++ ofCodes later

theorem readAs_nil : ReadAs [] [] := by
  refine ⟨[], fun left rest _ => ?_, fun later => rfl⟩
  cases h : readCodes left rest with
  | error stop => simp [afterCodes, h, Except.map]
  | ok read => simp [afterCodes, h, Except.map]

theorem ReadAs.append {first second s t : Text} (h : ReadAs first s) (g : ReadAs second t) :
    ReadAs (first ++ second) (s ++ t) := by
  obtain ⟨before, hr, ho⟩ := h
  obtain ⟨after, gr, go⟩ := g
  refine ⟨before ++ after, ?_, ?_⟩
  · intro left rest ne
    rw [List.append_assoc, hr left _ (by simp [ne]), gr left rest ne, afterCodes_afterCodes]
  · intro later
    rw [List.append_assoc, ho, go, Text.wide_append, List.append_assoc]

theorem readAs_escape (c : Char) : ReadAs (escape c) [c] :=
  ⟨units c, fun _ _ => readCodes_escape c, ofCodes_units c⟩

theorem readAs_plain {c : Char} (quote : c ≠ '"') (backslash : c ≠ '\\')
    (visible : 0x20 ≤ c.toNat) : ReadAs [c] [c] := by
  refine ⟨[c.toNat], fun left rest _ => ?_, ofCodes_toNat c⟩
  rw [List.singleton_append, codes_plain quote backslash visible]
  rfl

theorem readAs_flatMap_escape (t : Text) : ReadAs (t.flatMap escape) t := by
  induction t with
  | nil => exact readAs_nil
  | cons c rest ih => exact (readAs_escape c).append ih

theorem ReadAs.readString {inside t : Text} (h : ReadAs inside t) (rest : Text) :
    readString (inside ++ '"' :: rest) = .ok (Text.wide t, rest) := by
  obtain ⟨codes, hr, ho⟩ := h
  have whole := ho []
  rw [List.append_nil] at whole
  rw [Json.readString, hr _ _ (by simp), codes_quote]
  simp [afterCodes, Except.map, whole, ofCodes]

theorem readString_quote (t rest : Text) :
    readString (t.flatMap escape ++ '"' :: rest) = .ok (Text.wide t, rest) :=
  (readAs_flatMap_escape t).readString rest

theorem readString_half (n : Fin 0x800) (rest : Text) :
    readString (escapeCode (0xD800 + n) ++ '"' :: rest) = .ok ([.half n], rest) := by
  have half : ofCode (0xD800 + n) = .half n := by
    have either : (isHigh (0xD800 + n) || isLow (0xD800 + n)) = true := by
      simp only [isHigh, isLow, Bool.or_eq_true, Bool.and_eq_true, decide_eq_true_eq]
      omega
    rw [ofCode, if_pos either, Nat.add_sub_cancel_left]
    exact congrArg CodePoint.half (Fin.ofNat_val_eq_self n)
  rw [readString, readCodes_escapeCode (by omega) (by simp), codes_quote]
  simp [afterCodes, Except.map, ofCodes, half]

end Json

end DocSnippets
