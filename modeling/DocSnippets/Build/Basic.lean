import DocSnippets.Build.Pool
import DocSnippets.Page.Listing
import DocSnippets.Page.Source
import DocSnippets.Snippet.Extract
import DocSnippets.Template

/-!
# DocSnippets.Build.Basic

**Building the records of a documentation tree.** All roots are listed first, in the order given;
then every page is read and its snippet expanded to records. A page that cannot be read is an
error of the build and does not stop it. The number of workers changes nothing but the speed.

What pages contribute is worked out page by page (`processAll_eq_map`), and both the listings and
the results of several builds can be put one after the other.
-/

namespace DocSnippets

/-- A page that could not be read. -/
structure SourceError where
  /-- The page, by its place below its root. -/
  filePath : Text
  message : Text
  deriving DecidableEq, Repr

namespace Build

/-- What a build gives. -/
structure Result where
  /-- The records of all pages that could be read, in the order of the pages. -/
  records : List Record
  /-- The pages that could not be read, in order. -/
  errors : List SourceError
  /-- How many pages were found. -/
  fileCount : Nat

/-- Why a build is refused. -/
inductive Fault
  | emptyExtension
  /-- There would be nobody to do the work. -/
  | noWorkers
  /-- A root cannot be listed. -/
  | listing (f : Listing.Fault)
  /-- A page gives a record without a key. -/
  | record (f : Record.Fault)
  deriving DecidableEq

def Fault.message : Fault → Text
  | .emptyExtension => "extension must not be empty".toList
  | .noWorkers => "max_workers must be > 0".toList
  | .listing f => f.message
  | .record f => f.message

/-- How to build. -/
structure Plan where
  extension : Text
  patterns : List Text
  workers : Nat
  languages : Languages
  extension_ne_nil : extension ≠ []
  workers_pos : 0 < workers

/-- The plan with the given parts, unless it has no extension or no workers. -/
def Plan.make (extension : Text) (patterns : List Text) (workers : Int) (languages : Languages) :
    Except Fault Plan :=
  if e : extension = [] then .error .emptyExtension
  else if w : 0 < workers then
    .ok ⟨extension, patterns, workers.toNat, languages, e, by omega⟩
  else .error .noWorkers

/-! ### One page -/

/-- What a page contributes. -/
inductive Outcome
  | records (rs : List Record)
  | failed (e : SourceError)

def Outcome.recordList : Outcome → List Record
  | .records rs => rs
  | .failed _ => []

def Outcome.error? : Outcome → Option SourceError
  | .records _ => none
  | .failed e => some e

/-- What a page contributes: the records of its snippet, or the reason why it cannot be read. -/
def process (t : Tree) (languages : Languages) (p : Page) : Except Record.Fault Outcome :=
  match Source.read t p.path with
  | .error f => .ok (.failed ⟨p.relative, f.message⟩)
  | .ok source =>
    (languages.expand source.baseName (Snippet.ofText source.text)).map Outcome.records

/-! ### All pages -/

/-- The pages below all roots, one root after the other. -/
def listAll (t : Tree) (extension : Text) (patterns : List Text) (roots : List Path) :
    Except Listing.Fault (List Page) :=
  (roots.mapM (Listing.pages t extension patterns)).map List.flatten

/-- The result of outcomes in order. -/
def Result.ofOutcomes (outcomes : List Outcome) : Result where
  records := outcomes.flatMap Outcome.recordList
  errors := outcomes.filterMap Outcome.error?
  fileCount := outcomes.length

/-- What every page contributes, in the order of the pages, worked out by one worker after the
other or by a pool of workers. -/
def processAll (plan : Plan) (work : Page → Except Record.Fault Outcome) (pages : List Page) :
    List (Except Record.Fault Outcome) :=
  if plan.workers = 1 then pages.map work
  else ((Pool.results? plan.workers work (Pool.oneByOne pages.length) pages).getD [])

theorem processAll_eq_map (plan : Plan) (work : Page → Except Record.Fault Outcome)
    (pages : List Page) : processAll plan work pages = pages.map work := by
  simp [processAll, Pool.results?_oneByOne work plan.workers_pos]

/-- The build of all pages below the roots. -/
def run (plan : Plan) (t : Tree) (roots : List Path) : Except Fault Result :=
  match listAll t plan.extension plan.patterns roots with
  | .error f => .error (.listing f)
  | .ok pages =>
    match (processAll plan (process t plan.languages) pages).mapM id with
    | .error f => .error (.record f)
    | .ok outcomes => .ok (Result.ofOutcomes outcomes)

theorem listAll_append (t : Tree) (extension : Text) (patterns : List Text)
    (first second : List Path) :
    listAll t extension patterns (first ++ second) =
      (listAll t extension patterns first).bind fun ps =>
        (listAll t extension patterns second).map (ps ++ ·) := by
  simp only [listAll, List.mapM_append]
  cases first.mapM (Listing.pages t extension patterns) with
  | error f => rfl
  | ok ps =>
    cases second.mapM (Listing.pages t extension patterns) with
    | error f => rfl
    | ok qs => simp [Except.map, Except.bind, bind, pure, Except.pure]

/-- The result of pages is the result of the first ones and then that of the others. -/
theorem Result.ofOutcomes_append (first second : List Outcome) :
    Result.ofOutcomes (first ++ second) =
      ⟨(Result.ofOutcomes first).records ++ (Result.ofOutcomes second).records,
        (Result.ofOutcomes first).errors ++ (Result.ofOutcomes second).errors,
        (Result.ofOutcomes first).fileCount + (Result.ofOutcomes second).fileCount⟩ := by
  simp [Result.ofOutcomes]

end Build

end DocSnippets
