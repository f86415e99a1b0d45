/-!
# DocSnippets.Build.Pool

A **pool of workers** takes items from a queue in order, at most so many at a time, and finishes
them in any order. Each result is filed under the place of its item in the queue, and the results
are gathered by place.

`Pool.move?` is partial: a worker may take an item only if one waits and a worker is idle, and may
finish only what is worked on. Any list of moves that goes through is a run of the pool, so a
statement about all runs is one about all orders in which the workers may happen to finish.
-/

namespace DocSnippets

/-- The state of a pool: items that wait, items that are worked on, and results, each with the
place of its item in the queue. -/
structure Pool (α β : Type) where
  /-- The items that nobody has taken yet, in order. -/
  waiting : List (Nat × α)
  /-- The items that are worked on. -/
  busy : List (Nat × α)
  done : List (Nat × β)

namespace Pool

variable {α β : Type}

/-- What can happen next in a pool. -/
inductive Move
  /-- A worker takes the first item that waits. -/
  | take
  /-- The item of that place is finished. -/
  | finish (place : Nat)
  deriving DecidableEq, Repr

/-- The pool in which all items wait. -/
def start (items : List α) : Pool α β := ⟨items.zipIdx.map Prod.swap, [], []⟩

/-- The pool after a move; none if the move cannot be made. -/
def move? (workers : Nat) (work : α → β) (p : Pool α β) : Move → Option (Pool α β)
  | .take =>
    match p.waiting with
    | [] => none
    | item :: rest =>
      if p.busy.length < workers then some ⟨rest, p.busy ++ [item], p.done⟩ else none
  | .finish place =>
    match p.busy.find? (·.1 == place) with
    | none => none
    | some item =>
      some ⟨p.waiting, p.busy.filter (·.1 != place), p.done ++ [(place, work item.2)]⟩

/-- The pool after moves, one after the other. -/
def run (workers : Nat) (work : α → β) (p : Pool α β) : List Move → Option (Pool α β)
  | [] => some p
  | m :: rest => (p.move? workers work m).bind fun q => q.run workers work rest

/-- Whether all items are finished. -/
def finished (p : Pool α β) : Bool := p.waiting.isEmpty && p.busy.isEmpty

/-- The results by the places of their items. -/
def gather (size : Nat) (p : Pool α β) : List β :=
  (List.range size).filterMap fun place => p.done.lookup place

/-- The moves by which each item is finished before the next one is taken. -/
def oneByOne (size : Nat) : List Move :=
  (List.range size).flatMap fun place => [.take, .finish place]

/-- The results of all items, worked on by a pool that makes the given moves. -/
def results? (workers : Nat) (work : α → β) (moves : List Move) (items : List α) :
    Option (List β) :=
  match (start items).run workers work moves with
  | some p => if p.finished then some (p.gather items.length) else none
  | none => none

theorem move?_take {workers : Nat} {work : α → β} {p : Pool α β} {item : Nat × α}
    {rest : List (Nat × α)} (h : p.waiting = item :: rest) (free : p.busy.length < workers) :
    p.move? workers work .take = some ⟨rest, p.busy ++ [item], p.done⟩ := by
  simp [move?, h, free]

theorem move?_finish {workers : Nat} {work : α → β} {p : Pool α β} {item : Nat × α} {place : Nat}
    (h : p.busy.find? (·.1 == place) = some item) :
    p.move? workers work (.finish place) =
      some ⟨p.waiting, p.busy.filter (·.1 != place), p.done ++ [(place, work item.2)]⟩ := by
  simp [move?, h]

theorem run_append (workers : Nat) (work : α → β) (p : Pool α β) (first second : List Move) :
    p.run workers work (first ++ second) =
      (p.run workers work first).bind fun q => q.run workers work second := by
  induction first generalizing p with
  | nil => rfl
  | cons m rest ih =>
    simp only [List.cons_append, run, Option.bind_assoc]
    congr 1
    funext q
    exact ih q

/-! ### One item after the other -/

/-- The places of items counted from a number on, each with the result of its item. -/
def resultsFrom (work : α → β) (place : Nat) (items : List α) : List (Nat × β) :=
  (items.zipIdx place).map fun x => (x.2, work x.1)

theorem run_oneByOne {workers : Nat} (work : α → β) (free : 0 < workers) (items : List α)
    (place : Nat) (done : List (Nat × β)) :
    (Pool.mk ((items.zipIdx place).map Prod.swap) [] done).run workers work
        ((List.range' place items.length).flatMap fun place => [.take, .finish place]) =
      some ⟨[], [], done ++ resultsFrom work place items⟩ := by
  induction items generalizing place done with
  | nil => simp [run, resultsFrom]
  | cons item rest ih =>
    have := ih (place + 1) (done ++ [(place, work item)])
    simp only [List.length_cons, List.range'_succ, List.flatMap_cons, List.zipIdx_cons,
      List.map_cons, List.cons_append, List.nil_append, run]
    rw [move?_take rfl (by simpa using free)]
    simp [move?, this, resultsFrom]

theorem lookup_resultsFrom (work : α → β) (items : List α) (first place : Nat) :
    (resultsFrom work first items).lookup (first + place) = (items.map work)[place]? := by
  induction items generalizing first place with
  | nil => simp [resultsFrom]
  | cons item rest ih =>
    cases place with
    | zero => simp [resultsFrom]
    | succ place =>
      have next := ih (first + 1) place
      have later : (first + 1 + place == first) = false := by
        rw [beq_eq_false_iff_ne]
        omega
      rw [show first + (place + 1) = first + 1 + place by omega]
      simpa [resultsFrom, List.lookup_cons, later] using next

theorem filterMap_getElem?_range (items : List β) :
    (List.range items.length).filterMap (fun place => items[place]?) = items := by
  induction items with
  | nil => rfl
  | cons item rest ih =>
    rw [List.length_cons, List.range_succ_eq_map, List.filterMap_cons]
    simpa [List.filterMap_map, Function.comp_def] using ih

/-- The results of items that are finished one after the other are the results in order. -/
theorem results?_oneByOne {workers : Nat} (work : α → β) (free : 0 < workers) (items : List α) :
    results? workers work (oneByOne items.length) items = some (items.map work) := by
  have whole := run_oneByOne work free items 0 []
  have filed := lookup_resultsFrom work items 0
  simp only [List.nil_append, Nat.zero_add] at whole filed
  simp only [results?, start, oneByOne, List.range_eq_range', whole, finished, gather,
    List.isEmpty_nil, Bool.and_self, if_true, filed]
  simpa [List.range_eq_range'] using filterMap_getElem?_range (items.map work)

end Pool

end DocSnippets
