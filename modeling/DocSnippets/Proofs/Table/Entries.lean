import DocSnippets.Proofs.Table.LastWins
import Mathlib.Data.List.Induction
import Mathlib.Data.List.Nodup

/-!
# DocSnippets.Proofs.Table.Entries

**First place, last record.** A table of records has one entry for each folded key. The entry
stands where its key came first, and it is the record with which the key came last. What putting
one record does to the order of the keys (`map_foldedKey_putRecord`) and to what names find
(`get?_add`) carries both, and a table is no more than these two (`eq_of_get?_eq`).
-/

namespace DocSnippets

namespace Table

theorem eraseDups_concat {α : Type} [DecidableEq α] (keys : List (Text α)) (key : Text α) :
    (keys ++ [key]).eraseDups =
      if key ∈ keys then keys.eraseDups else keys.eraseDups ++ [key] := by
  rw [List.eraseDups_append]
  split
  · rename_i known
    simp [List.removeAll, known]
  · rename_i new
    simp [List.removeAll, new, List.eraseDups_cons]

theorem eq_of_records_eq {α : Type} [Alphabet α] {t u : Table α} (h : t.records = u.records) :
    t = u := by
  cases t
  cases u
  congr

theorem nodup_keys {α : Type} [Alphabet α] (t : Table α) : t.keys.Nodup := by
  have folds : t.keys.map foldCase = t.records.map Record.foldedKey := by
    rw [keys, List.map_map]
    rfl
  exact .of_map foldCase (folds ▸ t.nodup)

variable {α : Type} [Alphabet α] [DecidableEq α]

/-! ### Order -/

theorem ofRecords_concat (rs : List (Record α)) (r : Record α) :
    ofRecords (rs ++ [r]) = (ofRecords rs).add r := by
  rw [ofRecords, List.foldl_concat, ofRecords]

theorem map_foldedKey_ofRecords (rs : List (Record α)) :
    (ofRecords rs).records.map Record.foldedKey = (rs.map Record.foldedKey).eraseDups := by
  induction rs using List.reverseRecOn with
  | nil => rfl
  | append_singleton rs r ih =>
    have known : r.foldedKey ∈ (rs.map Record.foldedKey).eraseDups ↔
        r.foldedKey ∈ rs.map Record.foldedKey := List.mem_eraseDups
    rw [ofRecords_concat, records_add, map_foldedKey_putRecord, ih, List.map_append,
      List.map_singleton, eraseDups_concat]
    simp only [known]

/-! ### Entries -/

theorem get?_key_of_mem {t : Table α} {r : Record α} (h : r ∈ t.records) : t.get? r.key = some r :=
  get?_eq_some_iff.2 ⟨h, rfl⟩

/-- Tables with the same folded keys, in the same order, where every name finds the same, are the
same. -/
theorem eq_of_get?_eq {t u : Table α}
    (keys : t.records.map Record.foldedKey = u.records.map Record.foldedKey)
    (found : ∀ name, t.get? name = u.get? name) : t = u := by
  have size : t.records.length = u.records.length := by
    simpa using congrArg List.length keys
  refine eq_of_records_eq (List.ext_getElem size fun i ht hu => ?_)
  have own : t.get? t.records[i].key = some t.records[i] := get?_key_of_mem (List.getElem_mem ht)
  have key : u.records[i].foldedKey = foldCase t.records[i].key := by
    have same := List.getElem_of_eq keys.symm (by simpa using hu)
    rwa [List.getElem_map, List.getElem_map] at same
  have other : u.get? t.records[i].key = some u.records[i] :=
    get?_eq_some_iff.2 ⟨List.getElem_mem hu, key⟩
  rw [found, other] at own
  exact (Option.some.inj own).symm

/-- What the table of a list of records is. -/
structure LastWins (rs : List (Record α)) (t : Table α) : Prop where
  /-- It has one entry for each folded key, in the order in which the keys first came. -/
  order : t.records.map Record.foldedKey = (rs.map Record.foldedKey).eraseDups
  /-- Each entry is the last record with its folded key. -/
  entry : ∀ r ∈ t.records, IsLast rs r.key r
  /-- A name finds the last record whose key folds like it. -/
  found : ∀ name r, t.get? name = some r ↔ IsLast rs name r
  /-- A name finds nothing when no key folds like it. -/
  missing : ∀ name, t.get? name = none ↔ ∀ r ∈ rs, r.foldedKey ≠ foldCase name
  /-- The names in the table are those that find something. -/
  contains : ∀ name, t.contains name = true ↔ t.get? name ≠ none
  /-- The names in the table are those that fold like a stored key. -/
  stored : ∀ name, t.contains name = true ↔ ∃ key ∈ t.keys, foldCase key = foldCase name
  /-- The stored keys are those of the entries. -/
  keys : t.keys = t.records.map Record.key
  /-- The size is the number of the entries, that is of the distinct folded keys. -/
  size : t.size = t.records.length ∧ t.size = (rs.map Record.foldedKey).eraseDups.length

/-- The table of records holds the last record of each folded key, at the place of the first. -/
theorem lastWins_ofRecords (rs : List (Record α)) : LastWins rs (ofRecords rs) where
  order := map_foldedKey_ofRecords rs
  entry r hr := get?_ofRecords_eq_some_iff.1 (get?_key_of_mem hr)
  found name r := get?_ofRecords_eq_some_iff
  missing name := get?_ofRecords_eq_none_iff
  contains name := by rw [contains_eq_isSome, Option.isSome_iff_ne_none]
  stored name := by
    simp only [Table.contains, Table.keys, List.any_eq_true, decide_eq_true_eq, List.mem_map,
      exists_exists_and_eq_and]
    rfl
  keys := rfl
  size := by
    refine ⟨rfl, ?_⟩
    rw [← map_foldedKey_ofRecords, List.length_map]
    rfl

/-! ### Tables put in again -/

theorem putRecord_of_new {r : Record α} {rs : List (Record α)}
    (new : r.foldedKey ∉ rs.map Record.foldedKey) : putRecord r rs = rs ++ [r] := by
  induction rs with
  | nil => rfl
  | cons s rest ih =>
    rw [List.map_cons, List.mem_cons, not_or] at new
    rw [putRecord, if_neg (Ne.symm new.1), ih new.2, List.cons_append]

theorem records_foldl_add {rs : List (Record α)} {t : Table α}
    (distinct : ((t.records ++ rs).map Record.foldedKey).Nodup) :
    (rs.foldl add t).records = t.records ++ rs := by
  induction rs generalizing t with
  | nil => rw [List.foldl_nil, List.append_nil]
  | cons r rest ih =>
    have put : putRecord r t.records = t.records ++ [r] := by
      refine putRecord_of_new fun known => ?_
      rw [List.map_append, List.map_cons] at distinct
      exact (List.nodup_append.1 distinct).2.2 _ known _ List.mem_cons_self rfl
    have step : (t.add r).records ++ rest = t.records ++ r :: rest := by
      rw [records_add, put, List.append_assoc, List.singleton_append]
    rw [List.foldl_cons, ih (by rw [step]; exact distinct), step]

theorem records_ofRecords {rs : List (Record α)} (distinct : (rs.map Record.foldedKey).Nodup) :
    (ofRecords rs).records = rs :=
  records_foldl_add (t := empty) distinct

theorem ofRecords_records (t : Table α) : ofRecords t.records = t :=
  eq_of_records_eq (records_ofRecords t.nodup)

/-- Putting the records of a table in before others is as good as what the table was made of. -/
theorem ofRecords_records_append (xs ys : List (Record α)) :
    ofRecords ((ofRecords xs).records ++ ys) = ofRecords (xs ++ ys) := by
  have again := ofRecords_records (ofRecords xs)
  simp only [ofRecords, List.foldl_append] at again ⊢
  rw [again]

theorem ofRecords_append_self (rs : List (Record α)) : ofRecords (rs ++ rs) = ofRecords rs := by
  refine eq_of_get?_eq ?_ fun name => ?_
  · have none : (rs.map Record.foldedKey).removeAll (rs.map Record.foldedKey) = [] := by
      simp [List.removeAll]
    rw [map_foldedKey_ofRecords, map_foldedKey_ofRecords, List.map_append, List.eraseDups_append,
      none, List.eraseDups_nil, List.append_nil]
  · rw [ofRecords, ofRecords, List.foldl_append, get?_foldl_add, get?_foldl_add, ← Option.or_assoc,
      Option.or_self]

/-- **First place, last record.** The table of records has one entry for each folded key, at the
place where the key came first and with the last record that has it, and names find these entries.
So the records of a table may stand for those that it was made of, and putting all records in twice
changes nothing. -/
theorem ofRecords_lastWins (rs : List (Record α)) :
    LastWins rs (ofRecords rs) ∧
      (∀ more, ofRecords ((ofRecords rs).records ++ more) = ofRecords (rs ++ more)) ∧
      ofRecords (rs ++ rs) = ofRecords rs :=
  ⟨lastWins_ofRecords rs, ofRecords_records_append rs, ofRecords_append_self rs⟩

end Table

end DocSnippets
