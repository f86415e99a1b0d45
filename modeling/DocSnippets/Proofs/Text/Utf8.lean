import DocSnippets.Text.Utf8
import Mathlib.Data.List.Forall2

/-!
# DocSnippets.Proofs.Text.Utf8

**What is decoded is an encoding.** The bytes that decoding accepts are those that encode a text,
and no others: a character is the bits of its first byte followed by six bits of each byte after
it, and with the bounds of those bytes that is the one way to write it.
-/

namespace DocSnippets

namespace Utf8

/-- Whether a byte is within bounds. -/
def Within (b : UInt8) (bounds : Bounds) : Prop := bounds.1 ≤ b.toNat ∧ b.toNat ≤ bounds.2

/-- The code point of a character, from the bits of its first byte and the bytes after it. -/
def codeFrom (value : Nat) (bs : List UInt8) : Nat :=
  bs.foldl (fun value b => value * 64 + (b.toNat - 0x80)) value

@[simp] theorem codeFrom_nil (value : Nat) : codeFrom value [] = value := rfl

@[simp] theorem codeFrom_cons (value : Nat) (b : UInt8) (bs : List UInt8) :
    codeFrom value (b :: bs) = codeFrom (value * 64 + (b.toNat - 0x80)) bs := by
  rw [codeFrom, List.foldl_cons, ← codeFrom]

/-- The bits of a first byte, and the bounds after it, by the number of bytes that follow. -/
theorem lead?_eq_some {b value : Nat} {bounds : List Bounds}
    (h : lead? b = some (value, bounds)) :
    (bounds = [] ∧ b < 0x80 ∧ value = b) ∨
      (bounds = [tail] ∧ 0xC2 ≤ b ∧ b < 0xE0 ∧ value = b - 0xC0) ∨
      (∃ lo hi, bounds = [(lo, hi), tail] ∧ 0xE0 ≤ b ∧ b < 0xF0 ∧ value = b - 0xE0 ∧
        0x80 ≤ lo ∧ hi ≤ 0xBF ∧ (b = 0xE0 → lo = 0xA0) ∧ (b = 0xED → hi = 0x9F)) ∨
      (∃ lo hi, bounds = [(lo, hi), tail, tail] ∧ 0xF0 ≤ b ∧ b ≤ 0xF4 ∧ value = b - 0xF0 ∧
        0x80 ≤ lo ∧ hi ≤ 0xBF ∧ (b = 0xF0 → lo = 0x90) ∧ (b = 0xF4 → hi = 0x8F)) := by
  -- the first bytes `0xE0`, `0xED`, `0xF0` and `0xF4` have rows of their own in the table, and
  -- bounds of their own for the byte after them
  unfold lead? at h
  split at h
  · obtain ⟨rfl, rfl⟩ := by simpa using h
    exact .inl ⟨rfl, by omega, rfl⟩
  split at h
  · cases h
  split at h
  · obtain ⟨rfl, rfl⟩ := by simpa using h
    exact .inr (.inl ⟨rfl, by omega, by omega, rfl⟩)
  split at h
  · obtain ⟨rfl, rfl⟩ := by simpa using h
    exact .inr (.inr (.inl ⟨0xA0, 0xBF, rfl, by omega⟩))
  split at h
  · obtain ⟨rfl, rfl⟩ := by simpa using h
    exact .inr (.inr (.inl ⟨0x80, 0x9F, rfl, by omega⟩))
  split at h
  · obtain ⟨rfl, rfl⟩ := by simpa using h
    exact .inr (.inr (.inl ⟨0x80, 0xBF, rfl, by omega⟩))
  split at h
  · obtain ⟨rfl, rfl⟩ := by simpa using h
    exact .inr (.inr (.inr ⟨0x90, 0xBF, rfl, by omega⟩))
  split at h
  · obtain ⟨rfl, rfl⟩ := by simpa using h
    exact .inr (.inr (.inr ⟨0x80, 0x8F, rfl, by omega⟩))
  split at h
  · obtain ⟨rfl, rfl⟩ := by simpa using h
    exact .inr (.inr (.inr ⟨0x80, 0xBF, rfl, by omega⟩))
  · cases h

/-- The bytes that make up a character are its encoding. -/
theorem encodeCode_of_lead? {b : UInt8} {value : Nat} {bounds : List Bounds} {bs : List UInt8}
    (h : lead? b.toNat = some (value, bounds)) (within : List.Forall₂ Within bs bounds) :
    (codeFrom value bs).isValidChar ∧
      encodeCode (codeFrom value bs) = b.toNat :: bs.map UInt8.toNat := by
  -- one case for each number of bytes; the bounds leave the encoder no other choice
  rcases lead?_eq_some h with ⟨rfl, hb, hv⟩ | ⟨rfl, hlo, hhi, hv⟩ |
    ⟨lo, hi, rfl, hlo, hhi, hv, bounds⟩ | ⟨lo, hi, rfl, hlo, hhi, hv, bounds⟩
  · cases within
    rw [codeFrom_nil, hv, encodeCode, if_pos hb]
    exact ⟨.inl (by omega), rfl⟩
  · obtain _ | ⟨⟨xlo, xhi⟩, _ | _⟩ := within
    rename_i x
    simp only [tail] at xlo xhi
    have hn : codeFrom value [x] = value * 64 + (x.toNat - 0x80) := rfl
    generalize codeFrom value [x] = n at hn
    refine ⟨.inl (by omega), ?_⟩
    rw [encodeCode, if_neg (by omega), if_pos (by omega), List.map_cons, List.map_nil]
    simp only [List.cons.injEq, and_true]
    omega
  · obtain _ | ⟨⟨xlo, xhi⟩, _ | ⟨⟨ylo, yhi⟩, _ | _⟩⟩ := within
    rename_i x y
    simp only [tail] at xlo xhi ylo yhi
    have hn : codeFrom value [x, y] =
        (value * 64 + (x.toNat - 0x80)) * 64 + (y.toNat - 0x80) := rfl
    generalize codeFrom value [x, y] = n at hn
    refine ⟨by unfold Nat.isValidChar; omega, ?_⟩
    rw [encodeCode, if_neg (by omega), if_neg (by omega), if_pos (by omega)]
    simp only [List.map_cons, List.map_nil, List.cons.injEq, and_true]
    omega
  · obtain _ | ⟨⟨xlo, xhi⟩, _ | ⟨⟨ylo, yhi⟩, _ | ⟨⟨zlo, zhi⟩, _ | _⟩⟩⟩ := within
    rename_i x y z
    simp only [tail] at xlo xhi ylo yhi zlo zhi
    have hn : codeFrom value [x, y, z] = ((value * 64 + (x.toNat - 0x80)) * 64 +
        (y.toNat - 0x80)) * 64 + (z.toNat - 0x80) := rfl
    generalize codeFrom value [x, y, z] = n at hn
    refine ⟨.inr (by omega), ?_⟩
    rw [encodeCode, if_neg (by omega), if_neg (by omega), if_neg (by omega)]
    simp only [List.map_cons, List.map_nil, List.cons.injEq, and_true]
    omega

/-- What is decoded within a character: the bytes that complete it, and then further text. -/
theorem decodeFrom_pending {more : List Bounds} {lead : UInt8} {start seen value position : Nat}
    {next : Bounds} {bytes : List UInt8} {text : Text}
    (h : decodeFrom (some ⟨lead, start, seen, value, next, more⟩) position bytes = .ok text) :
    ∃ bs rest k later, bytes = bs ++ rest ∧ List.Forall₂ Within bs (next :: more) ∧
      decodeFrom none k rest = .ok later ∧ text = Char.ofNat (codeFrom value bs) :: later := by
  -- the induction is on the bytes that the character still wants after the next one
  induction more generalizing seen value position next bytes with
  | nil =>
    cases bytes with
    | nil => cases h
    | cons b rest =>
      simp only [decodeFrom] at h
      split at h
      · rename_i hw
        cases hr : decodeFrom none (position + 1) rest with
        | error f => rw [hr] at h; cases h
        | ok later =>
          rw [hr] at h
          cases h
          exact ⟨[b], rest, position + 1, later, rfl, .cons hw .nil, hr, rfl⟩
      · cases h
  | cons following more ih =>
    cases bytes with
    | nil => cases h
    | cons b rest =>
      simp only [decodeFrom] at h
      split at h
      · rename_i hw
        obtain ⟨bs, rest, k, later, rfl, within, hr, rfl⟩ := ih h
        refine ⟨b :: bs, rest, k, later, rfl, .cons hw within, hr, ?_⟩
        rw [codeFrom_cons]
      · cases h

/-- What is decoded from a character on: its bytes, and then further text. -/
theorem decodeFrom_cons {b : UInt8} {position : Nat} {bytes : List UInt8} {text : Text}
    (h : decodeFrom none position (b :: bytes) = .ok text) :
    ∃ value bounds bs rest k later, lead? b.toNat = some (value, bounds) ∧ bytes = bs ++ rest ∧
      List.Forall₂ Within bs bounds ∧ decodeFrom none k rest = .ok later ∧
      text = Char.ofNat (codeFrom value bs) :: later := by
  simp only [decodeFrom] at h
  split at h
  · cases h
  · rename_i value hl
    cases hr : decodeFrom none (position + 1) bytes with
    | error f => rw [hr] at h; cases h
    | ok later =>
      rw [hr] at h
      cases h
      exact ⟨value, [], [], bytes, position + 1, later, hl, rfl, .nil, hr, rfl⟩
  · rename_i value next more hl
    obtain ⟨bs, rest, k, later, hb, within, hr, ht⟩ := decodeFrom_pending h
    exact ⟨value, next :: more, bs, rest, k, later, hl, hb, within, hr, ht⟩

/-- The bytes of a text that was decoded encode it. -/
theorem encode_of_decodeFrom {bytes : List UInt8} {position : Nat} {text : Text}
    (h : decodeFrom none position bytes = .ok text) : encode text = bytes := by
  -- the bytes after a character are fewer than those from it on
  induction hn : bytes.length using Nat.strongRecOn generalizing bytes position text with
  | ind n ih =>
    cases bytes with
    | nil => cases h; rfl
    | cons b bytes =>
      obtain ⟨value, bounds, bs, rest, k, later, hl, rfl, within, hr, rfl⟩ := decodeFrom_cons h
      obtain ⟨valid, code⟩ := encodeCode_of_lead? hl within
      have hlater := ih rest.length (by simp at hn; omega) hr rfl
      have same : (Char.ofNat (codeFrom value bs)).toNat = codeFrom value bs := by
        rw [Char.ofNat, dif_pos valid]
        rfl
      have bytesBack : (b.toNat :: bs.map UInt8.toNat).map Nat.toUInt8 = b :: bs := by
        simp [Function.comp_def]
      rw [encode, List.flatMap_cons, same, code, bytesBack, ← encode, hlater, List.cons_append]

theorem decode_eq_ok_iff {bytes : List UInt8} {text : Text} :
    decode bytes = .ok text ↔ bytes = encode text := by
  constructor
  · intro h
    exact (encode_of_decodeFrom h).symm
  · intro h
    rw [h]
    exact decode_encode text

theorem decode_eq_error_iff {bytes : List UInt8} :
    (∃ f, decode bytes = .error f) ↔ ∀ text, bytes ≠ encode text := by
  constructor
  · intro refused text h
    obtain ⟨f, hf⟩ := refused
    rw [h, decode_encode] at hf
    cases hf
  · intro h
    cases hd : decode bytes with
    | error f => exact ⟨f, rfl⟩
    | ok text => exact absurd (decode_eq_ok_iff.1 hd) (h text)

end Utf8

end DocSnippets
