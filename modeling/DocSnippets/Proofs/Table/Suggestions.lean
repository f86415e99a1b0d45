import DocSnippets.Proofs.Table.Entries
import DocSnippets.Table.Suggest
import Mathlib.Data.Char
import Mathlib.Data.List.Infix
import Mathlib.Data.List.Lex
import Mathlib.Data.List.Sort
import Mathlib.Data.Prod.Lex

/-!
# DocSnippets.Proofs.Table.Suggestions

**The best so many.** Stored keys are told apart by their folds, so no two of them rank alike, and
a list of keys in the order of their ranks (`RanksBefore`) is determined by which keys are in it.
That settles the order of the records, the spelling of the name and a higher cutoff; suggestions are
a start of the ranking. `Selects` says what they are without the sorting, and `closest_selects` that
the keys closest to a name are such a selection, for any score that takes values in a linear order.
The score of the table's own suggestions is a floating-point number, of which no order is assumed:
`suggest_closest` is what holds of them all the same.
-/

namespace DocSnippets

/-! ### Candidates -/

section

variable {σ α : Type} [LE σ] [DecidableLE σ] [Alphabet α]

/-- The candidate that a key is for a name. -/
def Candidate.ofKey (score : Text α → Text α → σ) (name key : Text α) : Candidate σ α :=
  ⟨score (foldCase name) (foldCase key), key⟩

theorem Table.eq_ofKey_of_mem {t : Table α} {score : Text α → Text α → σ}
    {cutoff : σ} {name : Text α} {c : Candidate σ α}
    (h : c ∈ t.candidates score cutoff name) : c = .ofKey score name c.key := by
  obtain ⟨r, -, rfl, -⟩ := mem_candidates_iff.1 h
  rfl

namespace Table

variable [LT α] [DecidableEq α] [DecidableLT α] {score : Text α → Text α → σ} {name : Text α}

/-- The stored keys that reach the cutoff, best first. -/
def ranked (t : Table α) (score : Text α → Text α → σ) (cutoff : σ) (name : Text α) :
    List (Text α) :=
  ((t.candidates score cutoff name).mergeSort Candidate.before).map (·.key)

theorem closest_eq_take (t : Table α) (score : Text α → Text α → σ) (cutoff : σ) (limit : Nat)
    (name : Text α) :
    t.closest score cutoff limit name = (t.ranked score cutoff name).take limit :=
  closest_of_nonneg t score cutoff limit name

theorem mem_ranked_iff {t : Table α} {cutoff : σ} {key : Text α} :
    key ∈ t.ranked score cutoff name ↔
      key ∈ t.keys ∧ cutoff ≤ score (foldCase name) (foldCase key) := by
  simp only [ranked, keys, List.mem_map, List.mem_mergeSort, mem_candidates_iff]
  constructor
  · rintro ⟨c, ⟨r, hr, rfl, reaches⟩, rfl⟩
    exact ⟨⟨r, hr, rfl⟩, reaches⟩
  · rintro ⟨⟨r, hr, rfl⟩, reaches⟩
    exact ⟨_, ⟨r, hr, rfl, reaches⟩, rfl⟩

theorem nodup_ranked (t : Table α) (score : Text α → Text α → σ) (cutoff : σ) (name : Text α) :
    (t.ranked score cutoff name).Nodup := by
  have order := (List.mergeSort_perm (t.candidates score cutoff name) Candidate.before).map
    Candidate.key
  have kept : ((t.candidates score cutoff name).map Candidate.key).Sublist t.keys := by
    have all := (List.filter_sublist (p := fun c : Candidate σ α => decide (cutoff ≤ c.score))
      (l := t.records.map fun r => ⟨score (foldCase name) r.foldedKey, r.key⟩)).map Candidate.key
    rwa [List.map_map] at all
  exact order.nodup_iff.2 (t.nodup_keys.sublist kept)

theorem start_takeLimit {β : Type} (limit : Int) (items : List β) :
    takeLimit limit items <+: items := by
  cases limit with
  | ofNat n => exact List.take_prefix _ _
  | negSucc n => exact List.take_prefix _ _

end Table

end

/-! ### The order of keys -/

/-- Code points are in the linear order of their numbers. -/
instance : LinearOrder CodePoint := .lift' CodePoint.code fun _ _ => CodePoint.code_injective

variable {σ α : Type} [LinearOrder σ] [LinearOrder α]

namespace Candidate

/-- The place of a candidate: high scores come first, and low keys among equal ones. -/
def place (c : Candidate σ α) : σᵒᵈ ×ₗ Text α := toLex (OrderDual.toDual c.score, c.key)

/-- Candidates are compared by their places. -/
theorem before_iff {a b : Candidate σ α} : a.before b = true ↔ a.place ≤ b.place := by
  rw [before, place, place, Prod.Lex.toLex_le_toLex]
  split
  · rename_i le
    simp only [Bool.and_eq_true, decide_eq_true_eq, OrderDual.toDual_lt_toDual,
      OrderDual.toDual_inj]
    constructor
    · intro known
      exact .inr ⟨le_antisymm le known.1, not_lt.1 known.2⟩
    · rintro (more | known)
      · exact absurd more (not_lt.2 le)
      · exact ⟨known.1.ge, not_lt.2 known.2⟩
  · rename_i more
    simp only [true_iff]
    exact .inl (OrderDual.toDual_lt_toDual.2 (not_le.1 more))

theorem pairwise_mergeSort (cs : List (Candidate σ α)) :
    (cs.mergeSort before).Pairwise fun a b => a.place ≤ b.place := by
  refine (List.pairwise_mergeSort ?_ ?_ cs).imp before_iff.1
  · intro a b c first second
    exact before_iff.2 ((before_iff.1 first).trans (before_iff.1 second))
  · intro a b
    rw [Bool.or_eq_true, before_iff, before_iff]
    exact le_total _ _

end Candidate

namespace Table

variable [Alphabet α] {score : Text α → Text α → σ} {name : Text α}

/-- A key ranks before another one for a name: it scores more, or as much and comes first by code
points. -/
def RanksBefore (score : Text α → Text α → σ) (name first second : Text α) : Prop :=
  score (foldCase name) (foldCase second) < score (foldCase name) (foldCase first) ∨
    score (foldCase name) (foldCase first) = score (foldCase name) (foldCase second) ∧
      first < second

theorem ranksBefore_iff {first second : Text α} :
    RanksBefore score name first second ↔
      (Candidate.ofKey score name first).place < (Candidate.ofKey score name second).place := by
  rw [Candidate.place, Candidate.place, Prod.Lex.toLex_lt_toLex]
  rfl

instance : Std.Irrefl (RanksBefore score name) :=
  ⟨fun _ own => lt_irrefl _ (ranksBefore_iff.1 own)⟩

instance : Std.Antisymm (RanksBefore score name) :=
  ⟨fun _ _ first second => absurd (ranksBefore_iff.1 second) (ranksBefore_iff.1 first).asymm⟩

theorem RanksBefore.score_le {first second : Text α} (h : RanksBefore score name first second) :
    score (foldCase name) (foldCase second) ≤ score (foldCase name) (foldCase first) :=
  h.elim le_of_lt fun same => same.1.ge

/-! ### The ranking -/

theorem pairwise_ranked (t : Table α) (score : Text α → Text α → σ) (cutoff : σ) (name : Text α) :
    (t.ranked score cutoff name).Pairwise (RanksBefore score name) := by
  have distinct := t.nodup_ranked score cutoff name
  rw [ranked, List.Nodup, List.pairwise_map] at distinct
  rw [ranked, List.pairwise_map]
  refine ((Candidate.pairwise_mergeSort _).and distinct).imp_of_mem ?_
  intro a b ha hb known
  rw [List.mem_mergeSort] at ha hb
  rw [ranksBefore_iff, ← eq_ofKey_of_mem ha, ← eq_ofKey_of_mem hb]
  refine known.1.lt_of_ne fun same => known.2 ?_
  exact (Prod.mk.inj (toLex.injective same)).2

theorem ranked_congr {t u : Table α} (same : ∀ key, key ∈ t.keys ↔ key ∈ u.keys) (cutoff : σ) :
    t.ranked score cutoff name = u.ranked score cutoff name := by
  refine (t.pairwise_ranked ..).eq_of_mem_iff (u.pairwise_ranked ..) fun key => ?_
  rw [mem_ranked_iff, mem_ranked_iff, same]

/-- Where what passes a test comes first, dropping the rest is the same as stopping at it. -/
theorem filter_eq_takeWhile {α : Type} {test : α → Bool} {items : List α}
    (h : items.Pairwise fun first second => test second = true → test first = true) :
    items.filter test = items.takeWhile test := by
  induction h with
  | nil => rfl
  | @cons item rest first _ ih =>
    cases ht : test item with
    | true => rw [List.filter_cons_of_pos ht, List.takeWhile_cons_of_pos ht, ih]
    | false =>
      have none : ∀ other ∈ rest, ¬ test other = true := by
        intro other ho passes
        rw [first other ho passes] at ht
        cases ht
      have fails : ¬ test item = true := by rw [ht]; decide
      rw [List.filter_cons_of_neg fails, List.takeWhile_cons_of_neg fails,
        List.filter_eq_nil_iff.2 none]

theorem ranked_eq_takeWhile (t : Table α) {cutoff higher : σ} (le : cutoff ≤ higher) :
    t.ranked score higher name = (t.ranked score cutoff name).takeWhile
      fun key => decide (higher ≤ score (foldCase name) (foldCase key)) := by
  have order := t.pairwise_ranked score cutoff name
  rw [← filter_eq_takeWhile]
  · refine (t.pairwise_ranked ..).eq_of_mem_iff (order.filter _) fun key => ?_
    rw [List.mem_filter, mem_ranked_iff, mem_ranked_iff, decide_eq_true_eq]
    exact ⟨fun known => ⟨⟨known.1, le.trans known.2⟩, known.2⟩,
      fun known => ⟨known.1.1, known.2⟩⟩
  · refine order.imp fun ranks reaches => ?_
    rw [decide_eq_true_eq] at reaches ⊢
    exact reaches.trans ranks.score_le

theorem head?_ranked {t : Table α} {cutoff : σ} {key : Text α}
    (mem : key ∈ t.ranked score cutoff name)
    (best : ∀ other ∈ t.ranked score cutoff name, ¬ RanksBefore score name other key) :
    (t.ranked score cutoff name).head? = some key := by
  have order := t.pairwise_ranked score cutoff name
  cases parts : t.ranked score cutoff name with
  | nil => rw [parts] at mem; cases mem
  | cons first rest =>
    rw [parts] at mem best order
    rcases List.mem_cons.1 mem with rfl | later
    · rfl
    · exact absurd ((List.pairwise_cons.1 order).1 key later) (best first List.mem_cons_self)

/-! ### Suggestions -/

/-- What suggestions for a name are: the best so many of the stored keys that reach the cutoff. -/
structure Selects (t : Table α) (score : Text α → Text α → σ) (cutoff : σ) (limit : Nat)
    (name : Text α) (suggested : List (Text α)) : Prop where
  /-- No key is repeated. -/
  nodup : suggested.Nodup
  /-- Each key finds the stored record with that very key, and reaches the cutoff. -/
  stored : ∀ key ∈ suggested, ∃ r ∈ t.records, t.get? key = some r ∧ r.key = key ∧
    cutoff ≤ score (foldCase name) r.foldedKey
  /-- High scores come first, and low keys among equal ones. -/
  order : suggested.Pairwise (RanksBefore score name)
  /-- There are no more than the limit. -/
  size : suggested.length ≤ limit
  /-- A stored key that reaches the cutoff is left out only if the limit is reached, and ranks after
  all that are not. -/
  left_out : ∀ r ∈ t.records, cutoff ≤ score (foldCase name) r.foldedKey → r.key ∉ suggested →
    suggested.length = limit ∧ ∀ key ∈ suggested, RanksBefore score name key r.key

/-- The keys closest to a name are a selection of the best. -/
theorem selects_closest (t : Table α) (score : Text α → Text α → σ) (cutoff : σ) (limit : Nat)
    (name : Text α) :
    t.Selects score cutoff limit name (t.closest score cutoff limit name) := by
  have order := t.pairwise_ranked score cutoff name
  have start := List.take_sublist limit (t.ranked score cutoff name)
  rw [closest_eq_take]
  refine ⟨(t.nodup_ranked ..).sublist start, ?_, order.sublist start, List.length_take_le .., ?_⟩
  · intro key hk
    obtain ⟨known, reaches⟩ := mem_ranked_iff.1 (start.mem hk)
    obtain ⟨r, hr, rfl⟩ := List.mem_map.1 known
    exact ⟨r, hr, get?_key_of_mem hr, rfl, reaches⟩
  · -- it is ranked, so it is among the keys after the limit
    intro r hr reaches out
    have mem : r.key ∈ t.ranked score cutoff name :=
      mem_ranked_iff.2 ⟨List.mem_map_of_mem hr, reaches⟩
    rw [← List.take_append_drop limit (t.ranked score cutoff name)] at mem order
    have behind := (List.mem_append.1 mem).resolve_left out
    refine ⟨List.length_take_of_le ?_, ?_⟩
    · have := List.length_pos_of_mem behind
      rw [List.length_drop] at this
      omega
    · intro key hk
      exact (List.pairwise_append.1 order).2.2 key hk r.key behind

/-- Where a score is highest for equal texts and for no others, a stored name comes first. -/
theorem head?_closest {t : Table α} {cutoff one : σ} {limit : Nat} {r : Record α}
    (top : ∀ s u, score s u ≤ one ∧ (score s u = one ↔ s = u)) (room : 1 ≤ limit)
    (le : cutoff ≤ one) (known : t.get? name = some r) :
    (t.closest score cutoff limit name).head? = some r.key := by
  obtain ⟨hr, fold⟩ := get?_eq_some_iff.1 known
  have full : score (foldCase name) (foldCase r.key) = one := (top _ _).2.2 fold.symm
  have mem : r.key ∈ t.ranked score cutoff name :=
    mem_ranked_iff.2 ⟨List.mem_map_of_mem hr, full ▸ le⟩
  rw [closest_eq_take, List.head?_take, if_neg (by omega)]
  refine head?_ranked mem fun other ho ranks => ?_
  -- a key that scores as much folds like the name, so it is this one
  have equal : score (foldCase name) (foldCase other) = one :=
    le_antisymm (top _ _).1 (full ▸ ranks.score_le)
  obtain ⟨s, hs, rfl⟩ := List.mem_map.1 (mem_ranked_iff.1 ho).1
  have found : t.get? name = some s := get?_eq_some_iff.2 ⟨hs, ((top _ _).2.1 equal).symm⟩
  obtain rfl : r = s := Option.some.inj (known.symm.trans found)
  exact irrefl _ ranks

/-- **Suggestions are the best so many**, however scores are measured. They are a selection of the
best stored keys that reach the cutoff; a smaller limit or a higher cutoff gives a start of them;
neither the order of records with distinct folded keys nor the spelling of the name makes a
difference; and where a score is highest for equal texts alone, a name in the table is suggested
first. -/
theorem closest_selects (t : Table α) (score : Text α → Text α → σ) (cutoff : σ) (limit : Nat)
    (name : Text α) :
    t.Selects score cutoff limit name (t.closest score cutoff limit name) ∧
      (∀ (smaller : Nat) (higher : σ), smaller ≤ limit → cutoff ≤ higher →
        t.closest score higher smaller name <+: t.closest score cutoff limit name) ∧
      (∀ first second : List (Record α), first.Perm second → (first.map Record.foldedKey).Nodup →
        (ofRecords first).closest score cutoff limit name =
          (ofRecords second).closest score cutoff limit name) ∧
      (∀ other, foldCase other = foldCase name →
        t.closest score cutoff limit other = t.closest score cutoff limit name) ∧
      ∀ (one : σ) (r : Record α), (∀ s u, score s u ≤ one ∧ (score s u = one ↔ s = u)) →
        1 ≤ limit → cutoff ≤ one → t.get? name = some r →
        (t.closest score cutoff limit name).head? = some r.key := by
  refine ⟨t.selects_closest score cutoff limit name, ?_, ?_, ?_, ?_⟩
  · -- the keys that reach the higher cutoff are the first of those that reach the lower one
    intro smaller higher fewer le
    rw [closest_eq_take, closest_eq_take, ranked_eq_takeWhile t le]
    exact ((List.takeWhile_prefix _).take smaller).trans (List.take_prefix_take_left fewer)
  · intro first second perm distinct
    have stored : ∀ {rs : List (Record α)}, (rs.map Record.foldedKey).Nodup →
        (ofRecords rs).keys = rs.map Record.key := by
      intro rs distinct
      rw [keys, records_ofRecords distinct]
    have others := (perm.map Record.foldedKey).nodup_iff.1 distinct
    rw [closest_eq_take, closest_eq_take, ranked_congr]
    intro key
    rw [stored distinct, stored others]
    exact (perm.map Record.key).mem_iff
  · intro other same
    rw [closest, closest, candidates, candidates, same]
  · intro one r top room le known
    exact head?_closest top room le known

/-- Three keys, a name in small letters of which one is known, and a score that is highest for equal
texts: the known one is suggested first, and after a smaller limit it still is. -/
theorem closest_selects_flags :
    let score : Text → Text → Nat := fun s u =>
      if s = u then 100 else min 99 (Text.commonLength s u)
    let r : Record := ⟨"C_FLAGS".toList, none, none, by decide⟩
    let t := ofRecords [⟨"D_FLAGS".toList, none, none, by decide⟩, r,
      ⟨"B_FLAGS".toList, none, none, by decide⟩]
    (∀ s u, score s u ≤ 100 ∧ (score s u = 100 ↔ s = u)) ∧ t.get? "c_flags".toList = some r ∧
      (t.closest score 5 (2 : Nat) "c_flags".toList).head? = some r.key ∧
      t.closest score 6 (1 : Nat) "c_flags".toList <+:
        t.closest score 5 (2 : Nat) "c_flags".toList := by
  intro score r t
  have top : ∀ s u, score s u ≤ 100 ∧ (score s u = 100 ↔ s = u) := by
    intro s u
    by_cases same : s = u
    · simp [score, same]
    · simp only [score, if_neg same, iff_false, same]
      omega
  have known : t.get? "c_flags".toList = some r := by decide +kernel
  obtain ⟨-, fewer, -, -, first⟩ := closest_selects t score 5 2 "c_flags".toList
  exact ⟨top, known, first 100 r top (by decide) (by decide) known,
    fewer 1 6 (by decide) (by decide)⟩

end Table

/-! ### Similarity -/

namespace Table

variable {α : Type} [Alphabet α] [LT α] [DecidableEq α] [DecidableLT α]

/-- **The suggestions of a table** are the keys closest to the name by their similarity. Whatever
the limit is, each of them is a stored key that reaches the cutoff, and none is repeated; a limit
that leaves nothing off the end is kept. -/
theorem suggest_closest (t : Table α) (name : Text α) (limit : Int) (cutoff : Float) :
    t.suggest name limit cutoff = t.closest Text.similarity cutoff limit name ∧
      (∀ key ∈ t.suggest name limit cutoff, key ∈ t.keys ∧
        cutoff ≤ Text.similarity (foldCase name) (foldCase key)) ∧
      (t.suggest name limit cutoff).Nodup ∧
      ∀ n : Nat, limit = n → (t.suggest name limit cutoff).length ≤ n := by
  have start : t.suggest name limit cutoff <+: t.ranked Text.similarity cutoff name :=
    (start_takeLimit limit _).map _
  refine ⟨rfl, fun key hk => mem_ranked_iff.1 (start.subset hk),
    (t.nodup_ranked ..).sublist start.sublist, ?_⟩
  rintro n rfl
  rw [suggest, closest_eq_take]
  exact List.length_take_le ..

end Table

end DocSnippets
