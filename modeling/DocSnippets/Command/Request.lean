import DocSnippets.Command.Grammar
import DocSnippets.Page.Listing
import DocSnippets.Text.Integer

/-!
# DocSnippets.Command.Request

**What a command line asks for**: to build a table, or to look a name up in one. This module holds
the options of the two commands and how arguments become a request.
-/

namespace DocSnippets

namespace Command

/-! ### Requests -/

/-- How a built table is shown. -/
inductive Format
  | table
  | json
  deriving DecidableEq, Repr

/-- A table to build. -/
structure BuildRequest where
  /-- The roots, in order; none where a root was asked for and not named. -/
  roots : List (Option Text)
  extension : Text
  /-- The exclusion patterns, in order. -/
  patterns : List Text
  /-- How many workers process the pages; none if they were asked for without a number. -/
  workers : Option Int
  format : Format
  /-- Where the artifact goes, if anywhere. -/
  output : Option Text
  deriving DecidableEq, Repr

/-- A name to look up. -/
structure LookupRequest where
  /-- The artifact of the table, if it is named. -/
  table : Option Text
  /-- The name, if it is given. -/
  name : Option Text
  /-- Whether only the synopsis is wanted, on one line. -/
  singleLine : Bool
  deriving DecidableEq, Repr

/-- What a command line asks for. -/
inductive Request
  | build (r : BuildRequest)
  | lookup (r : LookupRequest)
  deriving DecidableEq, Repr

/-! ### Options -/

/-- The options before the command. -/
inductive TopOption
  | help
  | verbose
  deriving DecidableEq, Repr

/-- The options of the command that builds. -/
inductive BuildOption
  | help
  | path
  | extension
  | exclude
  | workers
  | format
  | output
  deriving DecidableEq, Repr

/-- The options of the command that looks up. -/
inductive LookupOption
  | help
  | table
  | name
  | singleLine
  deriving DecidableEq, Repr

/-- The option that asks for help. -/
def helpOption {κ : Type} (kind : κ) : Opt κ := ⟨kind, ["-h".toList, "--help".toList], .help⟩

/-- An option with a value that may be anything. -/
def plainOption {κ : Type} (kind : κ) (spelling : String) : Opt κ :=
  ⟨kind, [spelling.toList], .value fun _ => none⟩

def formatNames : List Text := ["table".toList, "json".toList]

/-- What is wrong with the name of a format. -/
def formatComplaint (value : Text) : Option Complaint :=
  if formatNames.contains value then none else some (.notAChoice value formatNames)

/-- What is wrong with a number of workers. -/
def workersComplaint (value : Text) : Option Complaint :=
  if (readInteger? value).isSome then none else some (.notANumber value)

/-- The options before the command. -/
def topOptions : List (Opt TopOption) :=
  [helpOption .help, ⟨.verbose, ["--verbose".toList], .flag⟩]

/-- The options of the command that builds. -/
def buildLevel : Level BuildOption where
  options :=
    [helpOption .help, plainOption .path "--path", plainOption .extension "--extension",
      plainOption .exclude "--exclude",
      ⟨.workers, ["--workers".toList], .value workersComplaint⟩,
      ⟨.format, ["--format".toList], .value formatComplaint⟩, plainOption .output "--output"]
  required := [.path]

/-- The options of the command that looks up. -/
def lookupLevel : Level LookupOption where
  options :=
    [helpOption .help, plainOption .table "--table", plainOption .name "--name",
      ⟨.singleLine, ["--single-line".toList], .flag⟩]
  required := [.table, .name]

/-- The request that the options of the command that builds make. -/
def buildRequest (given : List (Given BuildOption)) : BuildRequest where
  roots := valuesOf given .path
  extension := ((lastOf given .extension).getD (some Listing.defaultExtension)).getD []
  patterns := (valuesOf given .exclude).filterMap id
  workers := (lastOf given .workers).elim (some 1) fun value? => value?.bind readInteger?
  format := if lastOf given .format = some (some "json".toList) then .json else .table
  output := (lastOf given .output).join

/-- The request that the options of the command that looks up make. -/
def lookupRequest (given : List (Given LookupOption)) : LookupRequest where
  table := (lastOf given .table).join
  name := (lastOf given .name).join
  singleLine := (lastOf given .singleLine).isSome

/-! ### Command lines -/

/-- Whose help or usage is shown. -/
inductive Manual
  | top
  | build
  | lookup
  deriving DecidableEq, Repr

/-- A notice, and who gives it. -/
structure Reply where
  manual : Manual
  notice : Notice
  deriving DecidableEq, Repr

/-- A problem that the program itself tells. -/
def topProblem {α : Type} (p : Problem) : Except Reply α := .error ⟨.top, .problem p⟩

def commandNames : List Text := ["build".toList, "lookup".toList]

/-- The request that a command makes of the arguments after its name, and the arguments that
nobody takes. -/
def readCommand (name : Text) (args : List Text) : Except Reply (Request × List Text) :=
  if name = "build".toList then
    match buildLevel.read args with
    | .error notice => .error ⟨.build, notice⟩
    | .ok (given, left) => .ok (.build (buildRequest given), left)
  else if name = "lookup".toList then
    match lookupLevel.read args with
    | .error notice => .error ⟨.lookup, notice⟩
    | .ok (given, left) => .ok (.lookup (lookupRequest given), left)
  else topProblem (.argument "command".toList (.notAChoice name commandNames))

/-- Stops with the complaint about an option before the command, if there is one. -/
def requireTop (o : Opt TopOption) (complaint : Option Complaint) : Except Reply Unit :=
  match require o complaint with
  | .ok () => .ok ()
  | .error notice => .error ⟨.top, notice⟩

/-- The request of a command line and the arguments that nobody takes. The first operand is the
command; a double hyphen with something after it is taken for one. -/
def readLine : List (Text × Word TopOption) → Except Reply (Request × List Text)
  | [] => topProblem (.missing ["command".toList])
  | (_, .option o attached) :: rest => do
    requireTop o (o.attachedComplaint attached)
    match o.kind with
    | .help => .error ⟨.top, .help⟩
    | .verbose => readLine rest
  | (arg, .operand) :: rest => readCommand arg (rest.map (·.1))
  -- it names no command, so what follows it is not looked at
  | (arg, .separator) :: next :: rest => readCommand arg ((next :: rest).map (·.1))
  | (arg, _) :: rest => do
    let (request, left) ← readLine rest
    return (request, arg :: left)

/-- The request of a command line. -/
def parse (args : List Text) : Except Reply Request :=
  match classifyAll topOptions args with
  | .error p => topProblem p
  | .ok words =>
    match readLine words with
    | .error reply => .error reply
    | .ok (request, []) => .ok request
    | .ok (_, left) => topProblem (.leftOver left)

end Command

end DocSnippets
