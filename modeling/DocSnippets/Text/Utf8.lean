import DocSnippets.Text.Hex

/-!
# DocSnippets.Text.Utf8

**UTF-8**, strict: no overlong form, no surrogate, nothing above U+10FFFF. Decoding goes byte by
byte; it refuses at the first byte that rules the text out and tells which bytes are at fault.
-/

namespace DocSnippets

namespace Utf8

/-! ### Faults -/

/-- Why bytes are no UTF-8. -/
inductive Reason
  /-- A byte that starts no character. -/
  | invalidStart
  /-- A byte that cannot follow the bytes before it. -/
  | invalidContinuation
  /-- The bytes end within a character. -/
  | cutShort
  deriving DecidableEq, Repr

def Reason.words : Reason → Text
  | .invalidStart => "invalid start byte".toList
  | .invalidContinuation => "invalid continuation byte".toList
  | .cutShort => "unexpected end of data".toList

/-- The bytes that are at fault, and why. -/
structure Fault where
  reason : Reason
  /-- The first of them. -/
  lead : UInt8
  /-- The number of bytes before them. -/
  start : Nat
  size : Nat
  deriving DecidableEq, Repr

def Fault.message (f : Fault) : Text :=
  let place :=
    if f.size = 1 then
      "byte 0x".toList ++ Text.hex 2 f.lead.toNat ++ " in position ".toList ++ Text.ofNat f.start
    else
      "bytes in position ".toList ++ Text.ofNat f.start ++ ['-'] ++
        Text.ofNat (f.start + f.size - 1)
  "'utf-8' codec can't decode ".toList ++ place ++ ": ".toList ++ f.reason.words

/-! ### Decoding -/

/-- The least and the greatest byte at a place. -/
abbrev Bounds := Nat × Nat

/-- The bounds of a byte that continues a character. -/
def tail : Bounds := (0x80, 0xBF)

/-- The bits of the character that its first byte gives, and the bounds of the bytes after it. -/
def lead? (b : Nat) : Option (Nat × List Bounds) :=
  if b < 0x80 then some (b, [])
  -- what continues a character starts none, and `0xC0` and `0xC1` start overlong forms
  else if b < 0xC2 then none
  else if b < 0xE0 then some (b - 0xC0, [tail])
  else if b = 0xE0 then some (0, [(0xA0, 0xBF), tail])
  -- from `0xED 0xA0` on the code points are surrogates
  else if b = 0xED then some (0xD, [(0x80, 0x9F), tail])
  else if b < 0xF0 then some (b - 0xE0, [tail, tail])
  else if b = 0xF0 then some (0, [(0x90, 0xBF), tail, tail])
  else if b = 0xF4 then some (4, [(0x80, 0x8F), tail, tail])
  else if b < 0xF4 then some (b - 0xF0, [tail, tail, tail])
  else none

/-- A character that is not complete yet. -/
structure Pending where
  /-- The first byte of the character. -/
  lead : UInt8
  /-- The number of bytes before the character. -/
  start : Nat
  /-- How many bytes of the character were read. -/
  seen : Nat
  /-- The bits read so far. -/
  value : Nat
  /-- The bounds of the next byte. -/
  next : Bounds
  /-- The bounds of the bytes after it. -/
  more : List Bounds

/-- The fault that lies in the bytes read of a character. -/
def Pending.fault (p : Pending) (reason : Reason) : Fault := ⟨reason, p.lead, p.start, p.seen⟩

/-- The text of the bytes after an incomplete character, if there is one, and a number of bytes. -/
def decodeFrom : Option Pending → Nat → List UInt8 → Except Fault Text
  | none, _, [] => .ok []
  | some p, _, [] => .error (p.fault .cutShort)
  | none, position, b :: rest =>
    match lead? b.toNat with
    | none => .error ⟨.invalidStart, b, position, 1⟩
    | some (value, []) => (decodeFrom none (position + 1) rest).map (Char.ofNat value :: ·)
    | some (value, next :: more) =>
      decodeFrom (some ⟨b, position, 1, value, next, more⟩) (position + 1) rest
  | some p, position, b :: rest =>
    if p.next.1 ≤ b.toNat ∧ b.toNat ≤ p.next.2 then
      let value := p.value * 64 + (b.toNat - 0x80)
      match p.more with
      | [] => (decodeFrom none (position + 1) rest).map (Char.ofNat value :: ·)
      | next :: more =>
        decodeFrom (some ⟨p.lead, p.start, p.seen + 1, value, next, more⟩) (position + 1) rest
    else .error (p.fault .invalidContinuation)

/-- The text that bytes encode. -/
def decode (bytes : List UInt8) : Except Fault Text := decodeFrom none 0 bytes

/-! ### Encoding -/

/-- The bytes of a character, as numbers. -/
def encodeCode (n : Nat) : List Nat :=
  if n < 0x80 then [n]
  else if n < 0x800 then [0xC0 + n / 64, 0x80 + n % 64]
  else if n < 0x10000 then [0xE0 + n / 4096, 0x80 + n / 64 % 64, 0x80 + n % 64]
  else [0xF0 + n / 262144, 0x80 + n / 4096 % 64, 0x80 + n / 64 % 64, 0x80 + n % 64]

/-- The bytes of a text. -/
def encode (t : Text) : List UInt8 :=
  t.flatMap fun c => (encodeCode c.toNat).map Nat.toUInt8

/-! ### Round trip -/

theorem toNat_toUInt8 {n : Nat} (h : n < 256) : n.toUInt8.toNat = n := by
  exact UInt8.toNat_ofNat'.trans (Nat.mod_eq_of_lt h)

/-- The first of two bytes is followed by any byte that continues a character. -/
theorem lead?_two {n : Nat} (low : 0x80 ≤ n) (high : n < 0x800) :
    lead? (0xC0 + n / 64) = some (n / 64, [tail]) := by
  unfold lead?
  rw [if_neg (by omega), if_neg (by omega), if_pos (by omega), Nat.add_sub_cancel_left]

/-- The first of three bytes has bounds for the second one, and the second one keeps to them: they
only leave out overlong forms and surrogates. -/
theorem lead?_three {n : Nat} (low : 0x800 ≤ n) (high : n < 0x10000)
    (scalar : n < 0xD800 ∨ 0xDFFF < n) :
    ∃ lo hi, lead? (0xE0 + n / 4096) = some (n / 4096, [(lo, hi), tail]) ∧
      lo ≤ 0x80 + n / 64 % 64 ∧ 0x80 + n / 64 % 64 ≤ hi := by
  unfold lead?
  rw [if_neg (by omega), if_neg (by omega), if_neg (by omega)]
  split
  · exact ⟨0xA0, 0xBF, by simp; omega, by omega, by omega⟩
  · split
    · exact ⟨0x80, 0x9F, by simp; omega, by omega, by omega⟩
    · rw [if_pos (by omega)]
      exact ⟨0x80, 0xBF, by simp [tail], by omega, by omega⟩

/-- So has the first of four bytes; here they leave out overlong forms and what is above the last
code point. -/
theorem lead?_four {n : Nat} (low : 0x10000 ≤ n) (high : n < 0x110000) :
    ∃ lo hi, lead? (0xF0 + n / 262144) = some (n / 262144, [(lo, hi), tail, tail]) ∧
      lo ≤ 0x80 + n / 4096 % 64 ∧ 0x80 + n / 4096 % 64 ≤ hi := by
  unfold lead?
  rw [if_neg (by omega), if_neg (by omega), if_neg (by omega), if_neg (by omega),
    if_neg (by omega), if_neg (by omega)]
  split
  · exact ⟨0x90, 0xBF, by simp; omega, by omega, by omega⟩
  · split
    · exact ⟨0x80, 0x8F, by simp; omega, by omega, by omega⟩
    · rw [if_pos (by omega)]
      exact ⟨0x80, 0xBF, by simp [tail], by omega, by omega⟩

/-- The bytes of a character are decoded to that character. -/
theorem decodeFrom_encodeCode (c : Char) (position : Nat) (rest : List UInt8) :
    ∃ k, decodeFrom none position ((encodeCode c.toNat).map Nat.toUInt8 ++ rest) =
      (decodeFrom none k rest).map (c :: ·) := by
  have valid : c.toNat < 0xD800 ∨ (0xDFFF < c.toNat ∧ c.toNat < 0x110000) := by
    have := c.valid
    simpa [UInt32.isValidChar, Nat.isValidChar] using this
  have back : Char.ofNat c.toNat = c := Char.ofNat_toNat c
  generalize c.toNat = n at valid back
  subst back
  -- one case for each length; in each the bits of the bytes are put together to the code again
  unfold encodeCode
  split
  · rename_i h
    refine ⟨position + 1, ?_⟩
    simp [decodeFrom, toNat_toUInt8 (show n < 256 by omega), lead?, h]
  · split
    · rename_i h0 h
      refine ⟨position + 1 + 1, ?_⟩
      have first := lead?_two (Nat.not_lt.1 h0) h
      simp only [List.map_cons, List.map_nil, List.cons_append, List.nil_append, decodeFrom,
        toNat_toUInt8 (show 0xC0 + n / 64 < 256 by omega),
        toNat_toUInt8 (show 0x80 + n % 64 < 256 by omega), first, tail]
      rw [if_pos (by omega)]
      rw [show n / 64 * 64 + (0x80 + n % 64 - 0x80) = n by omega]
    · split
      · rename_i h0 h1 h
        refine ⟨position + 1 + 1 + 1, ?_⟩
        obtain ⟨lo, hi, first, hlo, hhi⟩ :=
          lead?_three (Nat.not_lt.1 h1) h (valid.imp_right And.left)
        simp only [List.map_cons, List.map_nil, List.cons_append, List.nil_append, decodeFrom,
          toNat_toUInt8 (show 0xE0 + n / 4096 < 256 by omega),
          toNat_toUInt8 (show 0x80 + n / 64 % 64 < 256 by omega),
          toNat_toUInt8 (show 0x80 + n % 64 < 256 by omega), first, tail]
        rw [if_pos ⟨hlo, hhi⟩, if_pos (by omega)]
        rw [show (n / 4096 * 64 + (0x80 + n / 64 % 64 - 0x80)) * 64 + (0x80 + n % 64 - 0x80) = n
          by omega]
      · rename_i h0 h1 h2
        refine ⟨position + 1 + 1 + 1 + 1, ?_⟩
        obtain ⟨lo, hi, first, hlo, hhi⟩ := lead?_four (n := n) (by omega) (by omega)
        simp only [List.map_cons, List.map_nil, List.cons_append, List.nil_append, decodeFrom,
          toNat_toUInt8 (show 0xF0 + n / 262144 < 256 by omega),
          toNat_toUInt8 (show 0x80 + n / 4096 % 64 < 256 by omega),
          toNat_toUInt8 (show 0x80 + n / 64 % 64 < 256 by omega),
          toNat_toUInt8 (show 0x80 + n % 64 < 256 by omega), first, tail]
        rw [if_pos ⟨hlo, hhi⟩, if_pos (by omega), if_pos (by omega)]
        rw [show ((n / 262144 * 64 + (0x80 + n / 4096 % 64 - 0x80)) * 64 +
          (0x80 + n / 64 % 64 - 0x80)) * 64 + (0x80 + n % 64 - 0x80) = n by omega]

theorem decode_encode (t : Text) : decode (encode t) = .ok t := by
  have step : ∀ position, decodeFrom none position (encode t) = .ok t := by
    induction t with
    | nil => intro position; rfl
    | cons c rest ih =>
      intro position
      obtain ⟨k, hk⟩ := decodeFrom_encodeCode c position (encode rest)
      have split : encode (c :: rest) = (encodeCode c.toNat).map Nat.toUInt8 ++ encode rest := by
        simp [encode]
      rw [split, hk, ih k]
      rfl
  exact step 0

end Utf8

/-- A text with every carriage return, and the line feed after it, turned into one line feed. -/
def Text.unifyBreaks : Text → Text
  | [] => []
  | '\r' :: '\n' :: rest => '\n' :: unifyBreaks rest
  | c :: rest => (if c = '\r' then '\n' else c) :: unifyBreaks rest

theorem Text.unifyBreaks_of_notMem {t : Text} (h : '\r' ∉ t) : t.unifyBreaks = t := by
  fun_induction unifyBreaks t with
  | case1 => rfl
  | case2 rest ih => simp at h
  | case3 c rest _ ih =>
    simp only [List.mem_cons, not_or] at h
    rw [if_neg (Ne.symm h.1), ih h.2]

end DocSnippets
