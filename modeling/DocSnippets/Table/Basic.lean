import DocSnippets.Record

/-!
# DocSnippets.Table.Basic

The **documentation table**: records in the order in which their keys first came, no two of which
have the same folded key. A record that comes later with the same folded key takes the place of
the earlier one.
-/

namespace DocSnippets

section

variable {α : Type} [Alphabet α] [DecidableEq α]

/-- Puts a record in the place of the one with the same folded key, or at the end. -/
def putRecord (r : Record α) : List (Record α) → List (Record α)
  | [] => [r]
  | s :: rest => if s.foldedKey = r.foldedKey then r :: rest else s :: putRecord r rest

/-- Putting a record adds its folded key at the end, unless the key is there already. -/
theorem map_foldedKey_putRecord (r : Record α) (rs : List (Record α)) :
    (putRecord r rs).map Record.foldedKey =
      if r.foldedKey ∈ rs.map Record.foldedKey then rs.map Record.foldedKey
      else rs.map Record.foldedKey ++ [r.foldedKey] := by
  induction rs with
  | nil => simp [putRecord]
  | cons s rest ih =>
    by_cases h : s.foldedKey = r.foldedKey
    · simp [putRecord, h]
    · simp only [putRecord, h, if_false, List.map_cons, ih, List.mem_cons, Ne.symm h, false_or]
      split <;> simp

end

/-- Records with distinct folded keys, in order. -/
structure Table (α : Type := Char) [Alphabet α] where
  /-- The stored records, in the order in which their keys first came. -/
  records : List (Record α)
  /-- No two records have the same folded key. -/
  nodup : (records.map Record.foldedKey).Nodup

namespace Table

variable {α : Type} [Alphabet α] [DecidableEq α]

/-- The table without records. -/
def empty : Table α := ⟨[], List.nodup_nil⟩

/-- The table with a record put in. -/
def add (t : Table α) (r : Record α) : Table α where
  records := putRecord r t.records
  nodup := by
    rw [map_foldedKey_putRecord]
    split
    · exact t.nodup
    · rename_i h
      exact List.nodup_append.2 ⟨t.nodup, by simp, by
        rintro a ha b hb rfl
        exact h (List.mem_singleton.1 hb ▸ ha)⟩

/-- The table of the records, put in one after the other. -/
def ofRecords (rs : List (Record α)) : Table α := rs.foldl add empty

/-- The stored record whose key folds like the name. -/
def get? (t : Table α) (name : Text α) : Option (Record α) :=
  t.records.find? fun r => decide (r.foldedKey = foldCase name)

/-- Whether a name is in the table. -/
def contains (t : Table α) (name : Text α) : Bool :=
  t.records.any fun r => decide (r.foldedKey = foldCase name)

/-- How many records the table holds. -/
def size (t : Table α) : Nat := t.records.length

/-- The stored keys, in order. -/
def keys (t : Table α) : List (Text α) := t.records.map Record.key

/-- The rendering of the record that a name stands for. -/
def lookup (t : Table α) (name : Text α) (multi : Bool) : Option (Text α) :=
  (t.get? name).map (·.render multi)

@[simp] theorem records_add (t : Table α) (r : Record α) :
    (t.add r).records = putRecord r t.records := rfl

theorem contains_eq_isSome (t : Table α) (name : Text α) :
    t.contains name = (t.get? name).isSome := by
  rw [Bool.eq_iff_iff]
  simp [contains, get?, List.find?_isSome]

/-- Looking a name up finds the stored record with its folded key. -/
theorem get?_eq_some_iff {t : Table α} {name : Text α} {r : Record α} :
    t.get? name = some r ↔ r ∈ t.records ∧ r.foldedKey = foldCase name := by
  -- the induction is on any list without repeated keys, as a table has no smaller tables in it
  have key : ∀ rs : List (Record α), (rs.map Record.foldedKey).Nodup →
      (rs.find? (fun r => decide (r.foldedKey = foldCase name)) = some r ↔
        r ∈ rs ∧ r.foldedKey = foldCase name) := by
    intro rs nodup
    induction rs with
    | nil => simp
    | cons s rest ih =>
      simp only [List.map_cons, List.nodup_cons] at nodup
      by_cases h : s.foldedKey = foldCase name
      · simp only [List.find?_cons, h, decide_true, Option.some.injEq, List.mem_cons]
        constructor
        · rintro rfl; exact ⟨.inl rfl, h⟩
        · intro known
          obtain ⟨rfl | hr, hk⟩ := known
          · rfl
          · exact absurd (List.mem_map.2 ⟨r, hr, hk.trans h.symm⟩) nodup.1
      · simp only [List.find?_cons, h, decide_false, ih nodup.2, List.mem_cons]
        constructor
        · intro known
          obtain ⟨hr, hk⟩ := known
          exact ⟨.inr hr, hk⟩
        · intro known
          obtain ⟨rfl | hr, hk⟩ := known
          · exact absurd hk h
          · exact ⟨hr, hk⟩
  exact key t.records t.nodup

/-- After adding a record its key, in any case, gives that record, and every other name gives what
it gave before. -/
theorem get?_add (t : Table α) (r : Record α) (name : Text α) :
    (t.add r).get? name = if foldCase name = r.foldedKey then some r else t.get? name := by
  have key : ∀ rs : List (Record α),
      (putRecord r rs).find? (fun s => decide (s.foldedKey = foldCase name)) =
        if foldCase name = r.foldedKey then some r
        else rs.find? fun s => decide (s.foldedKey = foldCase name) := by
    intro rs
    induction rs with
    | nil => by_cases h : foldCase name = r.foldedKey <;> simp [putRecord, h, eq_comm]
    | cons s rest ih =>
      by_cases h : foldCase name = r.foldedKey
      · by_cases hs : s.foldedKey = r.foldedKey
        · simp [putRecord, hs, h]
        · simp only [h, if_true] at ih
          simp [putRecord, hs, h, ih]
      · by_cases hs : s.foldedKey = r.foldedKey
        · simp [putRecord, hs, h, eq_comm]
        · simp [putRecord, hs, h, ih, List.find?_cons]
  exact key t.records

end Table

end DocSnippets
