import DocSnippets.Proofs.Command.Delivery

/-!
# DocSnippets.Proofs.Command.Stages

**The stages of a run, and what can go wrong at each.** What a request needs is looked at first,
then the request is carried out, its result written, and only then shown. `Fails` says which stage
goes wrong and why, and nothing of what the run does about it; the lemmas here say that, one for
each stage, so that no later proof opens the stages again.

* `Fails` — what goes wrong when a request is carried out;
* `runBuild_stages` — a build stops before it has a result, or delivers the one it has;
* `deliver_of_written`, `deliver_of_unwritten` — a result is shown once it is written, or not at
  all;
* `runLookup_stages` — a look-up goes wrong, or gives the answer of the table it reads;
* `onePage` — the smallest tree on which a build has something to do.
-/

namespace DocSnippets

namespace Command

/-! ### What can go wrong -/

/-- What can go wrong once the arguments are read. -/
inductive Mishap
  /-- Something that is needed was asked for without its value. -/
  | withheld (w : Withheld)
  /-- There is no result. -/
  | build (f : Build.Fault)
  /-- The result cannot be written. -/
  | write (f : Tree.PathFault)
  /-- The result cannot be shown. -/
  | unshown
  /-- The artifact cannot be read. -/
  | read (f : Artifact.Fault)
  /-- The answer cannot be written. -/
  | unencodable (rendered : Text CodePoint)

namespace BuildRequest

/-- The path of the artifact that is asked for; no path is none, and neither is an empty one. -/
def target? (r : BuildRequest) : Option Path :=
  match r.output with
  | none | some [] => none
  | some target => some (.ofText target)

/-- The tree after a result was written where it is asked for, or why it cannot be written there. -/
def written (r : BuildRequest) (t : Tree) (result : Build.Result) : Tree × Option Tree.PathFault :=
  match r.target? with
  | none => (t, none)
  | some p => Artifact.write t p result.records result.errors

/-- A request gives a result, and nothing that it needs is withheld. -/
def Runs (r : BuildRequest) (t : Tree) (result : Build.Result) : Prop :=
  r.workers ≠ none ∧ r.Builds t result

/-- What goes wrong before a request has a result. -/
inductive Stops (t : Tree) (r : BuildRequest) : Mishap → Prop
  | root (unnamed : r.paths? = none) : Stops t r (.withheld .path)
  | plan {roots : List Path} {f : Build.Fault} (named : r.paths? = some roots)
      (rejected : r.plan = .error f) : Stops t r (.build f)
  | workers {roots : List Path} {plan : Build.Plan} (named : r.paths? = some roots)
      (planned : r.plan = .ok plan) (uncounted : r.workers = none) :
      Stops t r (.withheld .workers)
  | build {roots : List Path} {plan : Build.Plan} {f : Build.Fault}
      (named : r.paths? = some roots) (planned : r.plan = .ok plan) (counted : r.workers ≠ none)
      (failed : Build.run plan t roots = .error f) : Stops t r (.build f)

end BuildRequest

/-- A build that stops is refused, or nobody answers for what was withheld. -/
theorem runBuild_of_stops {t : Tree} {r : BuildRequest} {m : Mishap} (h : r.Stops t m) :
    (∃ w, m = .withheld w ∧ runBuild t r = ⟨t, [], [], .uncaught (.withheld w)⟩) ∨
      ∃ f, m = .build f ∧ runBuild t r = refused t f := by
  unfold runBuild
  cases h with
  | root unnamed =>
    rw [unnamed]
    exact .inl ⟨.path, rfl, rfl⟩
  | plan named rejected =>
    rw [named, rejected]
    exact .inr ⟨_, rfl, rfl⟩
  | workers named planned uncounted =>
    rw [named, planned, uncounted]
    exact .inl ⟨.workers, rfl, rfl⟩
  | build named planned counted failed =>
    obtain ⟨workers, hworkers⟩ := Option.ne_none_iff_exists'.1 counted
    rw [named, planned, hworkers]
    simp only [failed]
    exact .inr ⟨_, rfl, rfl⟩

theorem runBuild_of_runs {t : Tree} {r : BuildRequest} {result : Build.Result}
    (h : r.Runs t result) : runBuild t r = deliver t r.output r.format result := by
  obtain ⟨counted, roots, plan, named, planned, built⟩ := h
  obtain ⟨workers, hworkers⟩ := Option.ne_none_iff_exists'.1 counted
  unfold runBuild
  rw [named, planned, hworkers]
  simp only [built]

theorem runBuild_stages (t : Tree) (r : BuildRequest) :
    (∃ m, r.Stops t m) ∨ ∃ result, r.Runs t result := by
  cases named : r.paths? with
  | none => exact .inl ⟨_, .root named⟩
  | some roots =>
    cases planned : r.plan with
    | error f => exact .inl ⟨_, .plan named planned⟩
    | ok plan =>
      by_cases counted : r.workers = none
      · exact .inl ⟨_, .workers named planned counted⟩
      · cases built : Build.run plan t roots with
        | error f => exact .inl ⟨_, .build named planned counted built⟩
        | ok result => exact .inr ⟨result, counted, roots, plan, named, planned, built⟩

theorem deliver_eq (t : Tree) (r : BuildRequest) (result : Build.Result) :
    deliver t r.output r.format result =
      match r.written t result with
      | (u, none) => present u r.format result
      | (u, some f) =>
        if f.fault.isSystem then
          ⟨u, [], sourceErrorLines result.errors ++ "Failed to write table artifact: ".toList ++
            r.output.getD [] ++ ['\n'], exitUsage⟩
        else ⟨u, [], sourceErrorLines result.errors, .uncaught (.path f)⟩ := by
  unfold BuildRequest.written BuildRequest.target?
  rcases r.output with _ | ⟨_ | ⟨c, rest⟩⟩
  · rfl
  · rfl
  · rfl

theorem deliver_of_written {t : Tree} {r : BuildRequest} {result : Build.Result}
    (h : (r.written t result).2 = none) :
    deliver t r.output r.format result = present (r.written t result).1 r.format result := by
  rw [deliver_eq, ← Prod.eta (r.written t result), h]

/-- A result that cannot be written is not shown. The lines on pages that could not be read come
first. -/
theorem deliver_of_unwritten {t : Tree} {r : BuildRequest} {result : Build.Result}
    {f : Tree.PathFault} (h : (r.written t result).2 = some f) :
    deliver t r.output r.format result =
      if f.fault.isSystem then
        ⟨(r.written t result).1, [],
          sourceErrorLines result.errors ++ "Failed to write table artifact: ".toList ++
            r.output.getD [] ++ ['\n'], exitUsage⟩
      else
        ⟨(r.written t result).1, [], sourceErrorLines result.errors, .uncaught (.path f)⟩ := by
  rw [deliver_eq, ← Prod.eta (r.written t result), h]

/-! ### Looking up -/

def manFolder : Location := [.of "man"]

def manPage : Location := [.of "man", .of "page.rst"]

/-- The tree of a folder with one page. -/
def onePage (content : List UInt8) : Tree where
  entries := [(manFolder, .folder), (manPage, .file content)]
  ascending := by
    refine .cons ?_ (.cons (by simp) .nil)
    intro later h
    obtain rfl := List.mem_singleton.1 h
    exact Location.isBefore_iff.1 rfl
  below := by simp [manFolder, manPage]
  closed := by simp [manFolder, manPage]

/-- A page with a title and one sentence. -/
def plainTree : Tree := onePage (Utf8.encode "x\n\nA.\n".toList)

end Command

end DocSnippets
