import DocSnippets.Artifact
import DocSnippets.Command.Usage
import DocSnippets.Report.Grid
import DocSnippets.Table.Suggest
import DocSnippets.Text.Shortcode

/-!
# DocSnippets.Command.Run

**Running a command line** on a tree of files: what is left of the tree, what is written to the
standard output and the standard error, and how the run ends. Building shows the records only when
everything else went well; looking up never touches the tree (`lookup_tree`). The streams are those
of a process that writes UTF-8: the standard output takes no half of a character, and the standard
error shows the escape of one.
-/

namespace DocSnippets

namespace Command

/-! ### Endings -/

/-- What a request needs and was asked for without a value. -/
inductive Withheld
  /-- The path of a root or of an artifact. -/
  | path
  | workers
  | name
  deriving DecidableEq, Repr

def Withheld.words : Withheld → Text
  | .path => "expected str, bytes or os.PathLike object, not list".toList
  | .workers => "'<=' not supported between instances of 'list' and 'int'".toList
  | .name => "'list' object has no attribute 'casefold'".toList

/-- A fault that a run does not answer for. -/
inductive Uncaught
  /-- An exclusion pattern has a reversed range. -/
  | pattern (f : Ignore.Fault)
  /-- An artifact has an integer that is too long or a value that is too deep. -/
  | artifact (f : Artifact.Fault)
  /-- A path does not reach the file system. -/
  | path (f : Tree.PathFault)
  /-- Something was asked for without its value. -/
  | withheld (w : Withheld)
  /-- The table cannot be shown. -/
  | unshown
  /-- An answer cannot be written, as it holds half of a character. -/
  | unencodable (rendered : Text CodePoint)
  deriving DecidableEq

def Uncaught.message : Uncaught → Text
  | .pattern f => f.message
  | .artifact f => Text.shown f.message
  | .path f => f.message
  | .withheld w => w.words
  | .unshown => "list index out of range".toList
  | .unencodable rendered => Text.unencodable rendered

/-- How a run ends. -/
inductive Ending
  | code (n : Nat)
  /-- With a fault that nobody answers for. -/
  | uncaught (f : Uncaught)
  deriving DecidableEq

/-- The run did what it was asked for. -/
def exitOk : Ending := .code 0

/-- The name is not in the table. -/
def exitNoResult : Ending := .code 1

/-- The run could not do what it was asked for. -/
def exitUsage : Ending := .code 2

/-- What a run leaves behind. -/
structure Outcome where
  tree : Tree
  stdout : Text
  stderr : Text
  ending : Ending

/-! ### Building -/

/-- The line that tells that a page could not be read. -/
def sourceErrorLine (e : SourceError) : Text :=
  "source_error: SourceError(file_path=".toList ++ Quoted.quote e.filePath ++
    ", message=".toList ++ Quoted.quote e.message ++ [')', '\n']

/-- The lines that tell which pages could not be read. -/
def sourceErrorLines (errors : List SourceError) : Text := errors.flatMap sourceErrorLine

/-- The records and source errors as they are shown, if they can be. -/
def shown? (format : Format) (r : Build.Result) : Option Text :=
  match format with
  | .json => some (expandShortcodes (Artifact.text r.records r.errors) ++ ['\n'])
  | .table => Report.grid? r.records

/-- Whether the fault of a build is answered for; a reversed range in a pattern is not, nor is a
name that the file system does not take. -/
def uncaughtBuild? : Build.Fault → Option Uncaught
  | .listing (.ignore (.reversedRange first last place regex)) =>
    some (.pattern (.reversedRange first last place regex))
  | .listing (.file f) => some (.path f)
  | _ => none

/-- The outcome of a build that is refused. -/
def refused (t : Tree) (f : Build.Fault) : Outcome :=
  match uncaughtBuild? f with
  | some u => ⟨t, [], [], .uncaught u⟩
  | none => ⟨t, [], f.message ++ ['\n'], exitUsage⟩

/-- The outcome of showing records, after the errors were told. -/
def present (t : Tree) (format : Format) (r : Build.Result) : Outcome :=
  match shown? format r with
  | some text => ⟨t, text, sourceErrorLines r.errors, exitOk⟩
  | none => ⟨t, [], sourceErrorLines r.errors, .uncaught .unshown⟩

/-- The outcome of a build whose records are to be shown, and written to an artifact first if
there is one. -/
def deliver (t : Tree) (output : Option Text) (format : Format) (r : Build.Result) : Outcome :=
  match output with
  | none | some [] => present t format r
  | some target =>
    match Artifact.write t (Path.ofText target) r.records r.errors with
    | (written, none) => present written format r
    | (left, some f) =>
      let errors := sourceErrorLines r.errors
      if f.fault.isSystem then
        ⟨left, [], errors ++ "Failed to write table artifact: ".toList ++ target ++ ['\n'],
          exitUsage⟩
      else ⟨left, [], errors, .uncaught (.path f)⟩

/-- The plan that a request makes; a missing number of workers is not looked at. -/
def BuildRequest.plan (r : BuildRequest) : Except Build.Fault Build.Plan :=
  Build.Plan.make r.extension r.patterns (r.workers.getD 1) Languages.standard

/-- The paths of the roots of a request, if all are named. -/
def BuildRequest.paths? (r : BuildRequest) : Option (List Path) :=
  r.roots.mapM fun root => root.map Path.ofText

/-- The outcome of building a table. -/
def runBuild (t : Tree) (r : BuildRequest) : Outcome :=
  match r.paths?, r.plan, r.workers with
  | none, _, _ => ⟨t, [], [], .uncaught (.withheld .path)⟩
  | some _, .error f, _ => refused t f
  | some _, .ok _, none => ⟨t, [], [], .uncaught (.withheld .workers)⟩
  | some roots, .ok plan, some _ =>
    match Build.run plan t roots with
    | .error f => refused t f
    | .ok result => deliver t r.output r.format result

/-! ### Looking up -/

/-- The fault of an artifact that is not answered for. -/
def uncaughtArtifact? (f : Artifact.Fault) : Option Uncaught :=
  match f with
  | .file g => if g.fault.isSystem then none else some (.path g)
  | f => if f.isFormat then none else some (.artifact f)

/-- The line that suggests names, if there are any. -/
def suggestionLine (name : Text) (suggestions : List (Text CodePoint)) : Text :=
  match suggestions with
  | [] => []
  | _ =>
    "No documentation for ".toList ++ name ++ "; did you mean: ".toList ++
      Text.join ", ".toList (suggestions.map Text.shown) ++ ['\n']

/-- The outcome of looking a name up in a table. -/
def answer (t : Tree) (table : Table CodePoint) (name : Text) (singleLine : Bool) : Outcome :=
  match table.lookup (Text.wide name) !singleLine with
  | some rendered =>
    match Text.narrow? rendered with
    | some shown => ⟨t, shown ++ ['\n'], [], exitOk⟩
    | none => ⟨t, [], [], .uncaught (.unencodable rendered)⟩
  | none =>
    let suggestions := table.suggest (Text.wide name) Table.defaultLimit Table.defaultCutoff
    ⟨t, [], suggestionLine name suggestions, exitNoResult⟩

/-- The outcome of looking a name up in the artifact of a path. -/
def runLookupAt (t : Tree) (path : Path) (r : LookupRequest) : Outcome :=
  match Artifact.read t path with
  | .error f =>
    match uncaughtArtifact? f with
    | some u => ⟨t, [], [], .uncaught u⟩
    | none =>
      ⟨t, [], "Failed to load table artifact: ".toList ++ path.text ++ ['\n'], exitUsage⟩
  | .ok table =>
    match r.name with
    | none => ⟨t, [], [], .uncaught (.withheld .name)⟩
    | some name => answer t table name r.singleLine

/-- The outcome of looking a name up. -/
def runLookup (t : Tree) (r : LookupRequest) : Outcome :=
  match r.table with
  | none => ⟨t, [], [], .uncaught (.withheld .path)⟩
  | some table => runLookupAt t (Path.ofText table) r

/-- The outcome of a request. -/
def runRequest (t : Tree) : Request → Outcome
  | .build r => runBuild t r
  | .lookup r => runLookup t r

/-- The outcome of a command line, without usage and help texts. -/
def run (t : Tree) (args : List Text) : Outcome :=
  match parse args with
  | .ok request => runRequest t request
  | .error _ => ⟨t, [], [], exitUsage⟩

/-- The outcome of a command line, with usage and help texts. -/
def runWithManual (t : Tree) (args : List Text) : Outcome :=
  match parse args with
  | .ok request => runRequest t request
  | .error reply => ⟨t, reply.stdout, reply.stderr, exitUsage⟩

end Command

end DocSnippets
