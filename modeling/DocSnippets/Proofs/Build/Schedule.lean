import DocSnippets.Proofs.Build.Conservation
import Mathlib.Data.List.Nodup

/-!
# DocSnippets.Proofs.Build.Schedule

**Workers change nothing in a build but its speed.** In whatever order a pool of workers takes and
finishes pages, the results gathered are those of one worker who does one page after the other.

At any moment the place of each item stands in exactly one of three lists: the item waits, or it is
worked on, or its result is filed. A move carries one place to the next list and leaves the others
where they are. So a pool that is finished has one result for each place; that it is the result of
the item of that place is kept by every move as well.

* `Pool.Step` — what a move does where no place is worked on twice;
* `Pool.Accounted` — what is true of a pool at any moment;
* `Pool.Accounted.step`, `Pool.Accounted.run` — a move keeps that, and so do moves in a row;
* `Pool.Accounted.exists_run` — a pool never gets stuck;
* `Pool.results?_of_finished` — the results of a finished pool are those of the items, in order;
* `Build.exists_gathered_pooled` — the build of a pool is that of one worker.
-/

namespace DocSnippets

namespace Pool

variable {α β : Type} {workers : Nat} {work : α → β} {items : List α} {p q : Pool α β}

/-! ### What a move does -/

/-- What a move does where no place is worked on twice: it carries one item to the next list. -/
inductive Step (workers : Nat) (work : α → β) : Pool α β → Move → Pool α β → Prop
  | take {item : Nat × α} {rest busy : List (Nat × α)} {done : List (Nat × β)}
      (free : busy.length < workers) :
      Step workers work ⟨item :: rest, busy, done⟩ .take ⟨rest, busy ++ [item], done⟩
  | finish {place : Nat} {item : α} {waiting before after : List (Nat × α)}
      {done : List (Nat × β)} :
      Step workers work ⟨waiting, before ++ (place, item) :: after, done⟩ (.finish place)
        ⟨waiting, before ++ after, done ++ [(place, work item)]⟩

/-- Leaving out the place of an item leaves out that item only, where places differ. -/
theorem filter_ne_of_nodup {before after : List (Nat × α)} {x : Nat × α}
    (distinct : ((before ++ x :: after).map Prod.fst).Nodup) :
    (before ++ x :: after).filter (·.1 != x.1) = before ++ after := by
  rw [List.map_append, List.map_cons, List.nodup_middle, List.nodup_cons, ← List.map_append]
    at distinct
  have others : ∀ y ∈ before ++ after, (y.1 != x.1) = true := by
    intro y hy
    rw [bne_iff_ne]
    intro same
    exact distinct.1 (same ▸ List.mem_map_of_mem hy)
  rw [List.filter_append, List.filter_cons_of_neg (by simp), ← List.filter_append]
  exact List.filter_eq_self.2 others

/-- A move that can be made is a step. -/
theorem step_of_move? (distinct : (p.busy.map Prod.fst).Nodup) {m : Move}
    (h : p.move? workers work m = some q) : Step workers work p m q := by
  obtain ⟨waiting, busy, done⟩ := p
  cases m with
  | take =>
    cases waiting with
    | nil => cases h
    | cons item rest =>
      by_cases free : busy.length < workers
      · rw [move?_take rfl free] at h
        cases h
        exact .take free
      · simp [move?, free] at h
  | finish place =>
    cases found : busy.find? (·.1 == place) with
    | none => simp [move?, found] at h
    | some item =>
      rw [move?_finish found] at h
      cases h
      obtain ⟨here, before, after, rfl, -⟩ := List.find?_eq_some_iff_append.1 found
      obtain rfl := eq_of_beq here
      rw [filter_ne_of_nodup distinct]
      exact .finish

/-! ### The accounts of a pool -/

/-- What is true at any moment of a pool in which the items waited at the start. -/
structure Accounted (workers : Nat) (work : α → β) (items : List α) (p : Pool α β) : Prop where
  /-- Each place stands in exactly one of the three lists, and once. -/
  places : (p.done.map Prod.fst ++ p.busy.map Prod.fst ++ p.waiting.map Prod.fst).Perm
    (List.range items.length)
  /-- The items that wait are the last ones: items are taken in their order. -/
  queued : p.waiting <:+ items.zipIdx.map Prod.swap
  /-- Whoever works at a place works on the item of that place. -/
  taken : ∀ x ∈ p.busy, items[x.1]? = some x.2
  /-- A result is filed at the place of its own item. -/
  filed : ∀ x ∈ p.done, ∃ item, items[x.1]? = some item ∧ x.2 = work item
  /-- No more items are worked on than there are workers. -/
  few : p.busy.length ≤ workers

namespace Accounted

theorem start (workers : Nat) (work : α → β) (items : List α) :
    (Pool.start items : Pool α β).Accounted workers work items where
  places := by simp [Pool.start, Function.comp_def, List.range_eq_range']
  queued := List.suffix_refl _
  taken := by simp [Pool.start]
  filed := by simp [Pool.start]
  few := by simp [Pool.start]

theorem nodup_busy (h : p.Accounted workers work items) : (p.busy.map Prod.fst).Nodup := by
  have all := h.places.nodup_iff.2 List.nodup_range
  rw [List.append_assoc] at all
  exact (List.nodup_append.1 (List.nodup_append.1 all).2.1).1

/-- A move keeps the accounts. -/
theorem step (h : p.Accounted workers work items) {m : Move} (made : Step workers work p m q) :
    q.Accounted workers work items := by
  cases made with
  | @take item rest busy done free =>
    have first : item ∈ items.zipIdx.map Prod.swap := h.queued.subset (by simp)
    refine ⟨by simpa using h.places, (List.suffix_cons item rest).trans h.queued, ?_, h.filed, ?_⟩
    · intro x hx
      rcases List.mem_append.1 hx with hx | hx
      · exact h.taken x hx
      · obtain rfl := List.mem_singleton.1 hx
        obtain ⟨y, hy, rfl⟩ := List.mem_map.1 first
        exact List.mem_zipIdx_iff_getElem?.1 hy
    · rw [List.length_append, List.length_singleton]
      exact free
  | @finish place item waiting before after done =>
    refine ⟨?_, h.queued, fun x hx => h.taken x ?_, ?_, ?_⟩
    · -- the place goes from the middle of the second list to the end of the first one
      refine List.Perm.trans ?_ h.places
      simp only [List.map_append, List.map_cons, List.map_nil, List.append_assoc,
        List.cons_append, List.nil_append]
      exact List.perm_middle.symm.append_left _
    · rcases List.mem_append.1 hx with hx | hx <;> simp [hx]
    · intro x hx
      rcases List.mem_append.1 hx with hx | hx
      · exact h.filed x hx
      · obtain rfl := List.mem_singleton.1 hx
        exact ⟨item, h.taken (place, item) (by simp), rfl⟩
    · have few := h.few
      simp only [List.length_append, List.length_cons] at few ⊢
      omega

theorem run (h : p.Accounted workers work items) {moves : List Move}
    (made : p.run workers work moves = some q) : q.Accounted workers work items := by
  induction moves generalizing p with
  | nil =>
    cases made
    exact h
  | cons m rest ih =>
    obtain ⟨between, first, others⟩ := Option.bind_eq_some_iff.1 made
    exact ih (h.step (step_of_move? h.nodup_busy first)) others

end Accounted

/-! ### A pool never gets stuck -/

/-- How many moves are left: an item that waits is to be taken and to be finished. -/
def left (p : Pool α β) : Nat := 2 * p.waiting.length + p.busy.length

theorem left_start (items : List α) : (start items : Pool α β).left = 2 * items.length := by
  simp [left, start]

theorem finished_iff_left : p.finished = true ↔ p.left = 0 := by
  simp only [finished, left, Bool.and_eq_true, List.isEmpty_iff, ← List.length_eq_zero_iff]
  omega

theorem Step.left {m : Move} (made : Step workers work p m q) : p.left = q.left + 1 := by
  cases made with
  | take =>
    simp only [Pool.left, List.length_cons, List.length_append, List.length_nil]
    omega
  | finish =>
    simp only [Pool.left, List.length_cons, List.length_append]
    omega

theorem exists_move? (work : α → β) (free : 0 < workers) (h : p.finished = false) :
    ∃ m q, p.move? workers work m = some q := by
  obtain ⟨waiting, busy, done⟩ := p
  cases busy with
  | cons x others =>
    have found : (x :: others).find? (·.1 == x.1) = some x := by simp
    exact ⟨.finish x.1, _, move?_finish found⟩
  | nil =>
    cases waiting with
    | nil => cases h
    | cons item rest => exact ⟨.take, _, move?_take rfl free⟩

namespace Accounted

theorem left_run (h : p.Accounted workers work items) {moves : List Move}
    (made : p.run workers work moves = some q) : p.left = moves.length + q.left := by
  induction moves generalizing p with
  | nil =>
    cases made
    simp
  | cons m rest ih =>
    obtain ⟨between, first, others⟩ := Option.bind_eq_some_iff.1 made
    have step := step_of_move? h.nodup_busy first
    rw [step.left, ih (h.step step) others, List.length_cons]
    omega

theorem exists_run (free : 0 < workers) (h : p.Accounted workers work items) :
    ∃ moves q, p.run workers work moves = some q ∧ q.finished = true := by
  induction hn : p.left generalizing p with
  | zero => exact ⟨[], p, rfl, finished_iff_left.2 hn⟩
  | succ n ih =>
    have unfinished : p.finished = false := by
      rw [Bool.eq_false_iff, Ne, finished_iff_left]
      omega
    obtain ⟨m, between, made⟩ := exists_move? work free unfinished
    have step := step_of_move? h.nodup_busy made
    obtain ⟨rest, q, others, done⟩ := ih (h.step step) (by have := step.left; omega)
    exact ⟨m :: rest, q, Option.bind_eq_some_iff.2 ⟨between, made, others⟩, done⟩

/-! ### What a finished pool has gathered -/

theorem places_done (h : p.Accounted workers work items) (done : p.finished = true) :
    (p.done.map Prod.fst).Perm (List.range items.length) := by
  have none := h.places
  simp only [finished, Bool.and_eq_true, List.isEmpty_iff] at done
  simpa [done.1, done.2] using none

theorem lookup_done (h : p.Accounted workers work items) (done : p.finished = true) {place : Nat}
    (inside : place < items.length) : p.done.lookup place = (items.map work)[place]? := by
  have filed : place ∈ p.done.map Prod.fst :=
    (h.places_done done).mem_iff.2 (List.mem_range.2 inside)
  cases found : p.done.lookup place with
  | none =>
    obtain ⟨x, hx, rfl⟩ := List.mem_map.1 filed
    simpa using List.lookup_eq_none_iff.1 found x hx
  | some result =>
    obtain ⟨before, after, split, -⟩ := List.lookup_eq_some_iff.1 found
    obtain ⟨item, own, rfl⟩ := h.filed (place, result) (by simp [split])
    rw [List.getElem?_map, own]
    rfl

theorem gather_eq_map (h : p.Accounted workers work items) (done : p.finished = true) :
    p.gather items.length = items.map work := by
  have each : ∀ place ∈ List.range items.length,
      p.done.lookup place = (items.map work)[place]? :=
    fun place hp => h.lookup_done done (List.mem_range.1 hp)
  rw [gather, List.filterMap_congr each]
  simpa using filterMap_getElem?_range (items.map work)

end Accounted

/-- Whatever moves finish all items, the results are those of the items, in their order. -/
theorem results?_of_finished {moves : List Move}
    (made : (Pool.start items).run workers work moves = some p) (done : p.finished = true) :
    results? workers work moves items = some (items.map work) := by
  have accounted := (Accounted.start workers work items).run made
  simp only [results?, made, done, if_true, accounted.gather_eq_map done]

end Pool

namespace Build

/-! ### The build of a pool -/

/-- The plan with one worker. -/
def Plan.alone (plan : Plan) : Plan := { plan with workers := 1, workers_pos := Nat.one_pos }

/-- **The pool of workers never changes a build.** Let the workers of a plan take pages in their
order and finish them in any order. At any moment each page stands in exactly one list: it waits,
or one of the workers, who are not more than the plan has, works on it, or what it contributes is
filed at its place. The pool never gets stuck, and it is finished after two moves for each page.
Then there is one outcome for each page, and the result is that of one worker alone. -/
theorem exists_gathered_pooled (plan : Plan) (t : Tree) (pages : List Page)
    {moves : List Pool.Move} {p : Pool Page (Except Record.Fault Outcome)}
    (made : (Pool.start pages).run plan.workers (process t plan.languages) moves = some p) :
    p.Accounted plan.workers (process t plan.languages) pages ∧
    (∃ rest q, p.run plan.workers (process t plan.languages) rest = some q ∧
      q.finished = true) ∧
    (p.finished = true ↔ moves.length = 2 * pages.length) ∧
    (p.finished = true →
      (p.done.map Prod.fst).Perm (List.range pages.length) ∧
      ∃ outcomes result,
        Pool.results? plan.workers (process t plan.languages) moves pages = some outcomes ∧
        Result.gathered outcomes = .ok result ∧
        Result.gathered (processAll plan.alone (process t plan.alone.languages) pages) =
          .ok result ∧
        result.fileCount = pages.length) := by
  have started := Pool.Accounted.start plan.workers (process t plan.languages) pages
  have accounted := started.run made
  refine ⟨accounted, accounted.exists_run plan.workers_pos, ?_, ?_⟩
  · -- each move takes one from what is left to do, which is two moves for each page at first
    have count := started.left_run made
    rw [Pool.left_start] at count
    rw [Pool.finished_iff_left]
    omega
  · intro done
    obtain ⟨result, gathered, count⟩ := exists_gathered t plan.languages pages
    refine ⟨accounted.places_done done, _, result, Pool.results?_of_finished made done,
      gathered, ?_, count⟩
    rw [processAll_eq_map]
    exact gathered

/-- The two pages of the folder `mixedTree`. -/
def mixedPages : List Page :=
  [⟨.ofText "docs".toList, .ofText ".rst".toList⟩,
    ⟨.ofText "docs".toList, .ofText "A_LANG_B.rst".toList⟩]

/-- Two workers take one page each, and the second page is finished first. -/
theorem exists_gathered_pooled_crossed :
    ∃ outcomes result, Pool.results? 2 (process mixedTree .standard)
        [.take, .take, .finish 1, .finish 0] mixedPages = some outcomes ∧
      Result.gathered outcomes = .ok result ∧ result.fileCount = 2 := by
  let plan : Plan := ⟨".rst".toList, [], 2, .standard, by decide, by decide⟩
  have made : (Pool.start mixedPages).run plan.workers (process mixedTree plan.languages)
      [.take, .take, .finish 1, .finish 0] =
    some ⟨[], [], [(1, process mixedTree .standard mixedPages[1]),
      (0, process mixedTree .standard mixedPages[0])]⟩ := rfl
  obtain ⟨-, -, -, done⟩ := exists_gathered_pooled plan mixedTree mixedPages made
  obtain ⟨-, outcomes, result, pooled, gathered, -, count⟩ := done rfl
  exact ⟨outcomes, result, pooled, gathered, count⟩

end Build

end DocSnippets
