import DocSnippets.Table.Basic
import Mathlib.Data.List.Forall2

/-!
# DocSnippets.Proofs.Table.LastWins

**The last record wins.** In the table of records a name finds the last record whose key folds like
it, and none if no key does. How the ASCII letters of a name are capitalized makes no difference.
-/

namespace DocSnippets

/-! ### The last record of a name -/

section

variable {α : Type} [Alphabet α]

/-- A record is the last one of the list whose key folds like the name. -/
def IsLast (rs : List (Record α)) (name : Text α) (r : Record α) : Prop :=
  ∃ before after, rs = before ++ r :: after ∧ r.foldedKey = foldCase name ∧
    ∀ s ∈ after, s.foldedKey ≠ foldCase name

variable {rs more : List (Record α)} {name : Text α} {r : Record α}

theorem IsLast.append_left (h : IsLast rs name r) : IsLast (more ++ rs) name r := by
  obtain ⟨before, after, rfl, key, others⟩ := h
  exact ⟨more ++ before, after, by rw [List.append_assoc], key, others⟩

theorem IsLast.append_right (h : IsLast rs name r)
    (foreign : ∀ s ∈ more, s.foldedKey ≠ foldCase name) : IsLast (rs ++ more) name r := by
  obtain ⟨before, after, rfl, key, others⟩ := h
  refine ⟨before, after ++ more, by simp, key, fun s hs => ?_⟩
  rcases List.mem_append.1 hs with hs | hs
  · exact others s hs
  · exact foreign s hs

end

namespace Table

variable {α : Type} [Alphabet α] [DecidableEq α]

/-- After records were put in, a name finds the last of them whose key folds like it, and what it
found before if there is none. -/
theorem get?_foldl_add (rs : List (Record α)) (t : Table α) (name : Text α) :
    (rs.foldl add t).get? name =
      (rs.reverse.find? fun r => decide (r.foldedKey = foldCase name)).or (t.get? name) := by
  induction rs generalizing t with
  | nil => rfl
  | cons r rest ih =>
    rw [List.foldl_cons, ih, get?_add, List.reverse_cons, List.find?_append, Option.or_assoc]
    congr 1
    by_cases h : r.foldedKey = foldCase name
    · simp [h]
    · simp [h, Ne.symm h]

/-- A name finds the last record whose key folds like it. -/
theorem get?_ofRecords_eq_some_iff {rs : List (Record α)} {name : Text α} {r : Record α} :
    (ofRecords rs).get? name = some r ↔ IsLast rs name r := by
  have fresh : (empty : Table α).get? name = none := rfl
  rw [ofRecords, get?_foldl_add, fresh, Option.or_none, List.find?_eq_some_iff_append]
  -- the first one from the end is the last one from the start
  constructor
  · intro first
    obtain ⟨key, before, after, parts, others⟩ := first
    refine ⟨after.reverse, before.reverse, ?_, by simpa using key, ?_⟩
    · have := congrArg List.reverse parts
      simpa using this
    · intro s hs
      simpa using others s (by simpa using hs)
  · intro last
    obtain ⟨before, after, rfl, key, others⟩ := last
    refine ⟨by simpa using key, after.reverse, before.reverse, by simp, ?_⟩
    intro s hs
    simpa using others s (by simpa using hs)

theorem get?_ofRecords_eq_none_iff {rs : List (Record α)} {name : Text α} :
    (ofRecords rs).get? name = none ↔ ∀ r ∈ rs, r.foldedKey ≠ foldCase name := by
  have fresh : (empty : Table α).get? name = none := rfl
  rw [ofRecords, get?_foldl_add, fresh, Option.or_none, List.find?_eq_none]
  simp

end Table

/-! ### The case of ASCII letters -/

/-- A name with the case of some of its ASCII letters changed. -/
def CaseVariant (name other : Text) : Prop :=
  List.Forall₂ (fun c d => d = c ∨ d = c.toUpper ∨ d = c.toLower) name other

/-- What holds of the ASCII characters one by one, and of the others, holds of all. -/
theorem forall_char_of_ascii {p : Char → Prop}
    (ascii : ∀ n ∈ List.range 0x80, p (Char.ofNat n)) (wide : ∀ c : Char, 0x80 ≤ c.toNat → p c)
    (c : Char) : p c := by
  by_cases h : c.toNat < 0x80
  · have := ascii c.toNat (List.mem_range.2 h)
    rwa [Char.ofNat_toNat] at this
  · exact wide c (by omega)

theorem foldChar_toUpper (c : Char) : foldChar c.toUpper = foldChar c := by
  refine forall_char_of_ascii (p := fun c => foldChar c.toUpper = foldChar c)
    (by decide +kernel) ?_ c
  intro c wide
  -- only ASCII letters have a capital here
  have same : c.toUpper = c := dif_neg fun small => by
    have bound : c.toNat ≤ 0x7A := small.2
    omega
  rw [same]

theorem foldChar_toLower (c : Char) : foldChar c.toLower = foldChar c := by
  refine forall_char_of_ascii (p := fun c => foldChar c.toLower = foldChar c)
    (by decide +kernel) ?_ c
  intro c wide
  have same : c.toLower = c := dif_neg fun capital => by
    have bound : c.toNat ≤ 0x5A := capital.2
    omega
  rw [same]

theorem foldCase_of_caseVariant {name other : Text} (h : CaseVariant name other) :
    foldCase other = foldCase name := by
  induction h with
  | nil => rfl
  | cons hc _ ih =>
    rw [foldCase_cons, foldCase_cons, ih]
    rcases hc with rfl | rfl | rfl
    · rfl
    · rw [foldChar_toUpper]
    · rw [foldChar_toLower]

end DocSnippets
