import DocSnippets.Text.Digit
import DocSnippets.Text.Quoted

/-!
# DocSnippets.Command.Grammar

**Arguments and options.** Arguments are told apart first: options in full, shortened or with a
value attached, options that nobody knows, and operands. Then they are taken one after the other.
After a double hyphen everything is an operand.
-/

namespace DocSnippets

namespace Command

/-! ### Problems -/

/-- What is wrong with the value of an argument. -/
inductive Complaint
  /-- The value is none of the choices. -/
  | notAChoice (value : Text) (choices : List Text)
  /-- The value is no whole number. -/
  | notANumber (value : Text)
  | noValue
  /-- A value was attached where none is taken. -/
  | valueIgnored (value : Text)
  deriving DecidableEq, Repr

def Complaint.words : Complaint → Text
  | .notAChoice value choices =>
    "invalid choice: ".toList ++ Quoted.quote value ++ " (choose from ".toList ++
      Text.join ", ".toList (choices.map Quoted.quote) ++ [')']
  | .notANumber value => "invalid int value: ".toList ++ Quoted.quote value
  | .noValue => "expected one argument".toList
  | .valueIgnored value => "ignored explicit argument ".toList ++ Quoted.quote value

/-- What is wrong with arguments. -/
inductive Problem
  /-- Something is wrong with the value of an argument. -/
  | argument (name : Text) (complaint : Complaint)
  | missing (names : List Text)
  /-- Nobody takes these arguments. -/
  | leftOver (args : List Text)
  /-- A shortened option stands for several. -/
  | ambiguous (arg : Text) (matching : List Text)
  deriving DecidableEq, Repr

def Problem.words : Problem → Text
  | .argument name complaint => "argument ".toList ++ name ++ ": ".toList ++ complaint.words
  | .missing names =>
    "the following arguments are required: ".toList ++ Text.join ", ".toList names
  | .leftOver args => "unrecognized arguments: ".toList ++ Text.join [' '] args
  | .ambiguous arg matching =>
    "ambiguous option: ".toList ++ arg ++ " could match ".toList ++
      Text.join ", ".toList matching

/-! ### Options -/

/-- What an option does. -/
inductive Action
  | help
  /-- It is given or not. -/
  | flag
  /-- It has a value, about which there may be something to complain. -/
  | value (complaint? : Text → Option Complaint)

/-- An option of a command, where `κ` says which ones there are. -/
structure Opt (κ : Type) where
  /-- Which option it is. -/
  kind : κ
  /-- How it is spelled. -/
  spellings : List Text
  action : Action

/-- How an option is named in messages. -/
def Opt.name {κ : Type} (o : Opt κ) : Text := Text.join ['/'] o.spellings

/-- What is attached to an option within its argument. -/
inductive Attached
  | nothing
  /-- A text after the equals sign of a long option. -/
  | value (t : Text)
  /-- A text after the letter of a short option, with or without an equals sign between them. -/
  | letters (t : Text)
  deriving DecidableEq, Repr

/-- The text that is attached. -/
def Attached.text? : Attached → Option Text
  | .nothing => none
  | .value t | .letters t => some t

/-- What an argument is. -/
inductive Word (κ : Type)
  | operand
  | separator
  | unknown
  | option (o : Opt κ) (attached : Attached)

variable {κ : Type}

/-- The option of a spelling. -/
def spelled? (opts : List (Opt κ)) (spelling : Text) : Option (Opt κ) :=
  opts.find? fun o => o.spellings.contains spelling

/-- An argument cut at its first equals sign, if it has one. -/
def cutValue (arg : Text) : Text × Option Text :=
  match arg.dropWhile (· != '=') with
  | [] => (arg, none)
  | _ :: value => (arg.takeWhile (· != '='), some value)

/-- The options that a shortened one may stand for, with their spellings. -/
def shortened (opts : List (Opt κ)) (start : Text) : List (Text × Opt κ) :=
  opts.flatMap fun o =>
    (o.spellings.filter fun spelling => start.isPrefixOf spelling).map (·, o)

/-- Whether an argument is a negative number; one line feed at its end does not count. -/
def isNegativeNumber (arg : Text) : Bool :=
  match arg with
  | '-' :: rest =>
    let number := if rest.getLast? = some '\n' then rest.dropLast else rest
    let fraction := number.dropWhile isDigit
    (number != [] && fraction == []) ||
      (fraction.head? == some '.' && fraction.tail != [] && fraction.tail.all isDigit)
  | _ => false

/-- What an argument is that begins with a hyphen and is no option of this command. -/
def classifyOther (arg : Text) : Word κ :=
  if isNegativeNumber arg || arg.contains ' ' then .operand else .unknown

/-- What an argument is before a double hyphen. -/
def classify (opts : List (Opt κ)) (arg : Text) : Except Problem (Word κ) :=
  match arg with
  | '-' :: c :: rest =>
    match spelled? opts arg with
    | some o => .ok (.option o .nothing)
    | none =>
      let (start, value?) := cutValue arg
      match value?, spelled? opts start with
      | some value, some o => .ok (.option o (if c = '-' then .value value else .letters value))
      | _, _ =>
        -- only long options may be shortened, and only short ones may run on
        if c = '-' then
          match shortened opts start with
          | [] => .ok (classifyOther arg)
          | [(_, o)] => .ok (.option o (value?.elim .nothing .value))
          | several => .error (.ambiguous arg (several.map (·.1)))
        else
          match spelled? opts ['-', c] with
          | some o => .ok (.option o (.letters rest))
          | none => .ok (classifyOther arg)
  | _ => .ok .operand

/-- What each argument is. -/
def classifyAll (opts : List (Opt κ)) : List Text → Except Problem (List (Text × Word κ))
  | [] => .ok []
  | arg :: rest =>
    if arg = ['-', '-'] then .ok ((arg, .separator) :: rest.map (·, .operand))
    else do
      let word ← classify opts arg
      let words ← classifyAll opts rest
      return (arg, word) :: words

/-! ### Taking arguments -/

/-- Why arguments are not followed. -/
inductive Notice
  | help
  | problem (p : Problem)
  deriving DecidableEq, Repr

/-- The letter of an option that has a short spelling. -/
def Opt.letter? (o : Opt κ) : Option Char :=
  o.spellings.findSome? fun
    | ['-', c] => some c
    | _ => none

/-- What is wrong with what is attached to an option that takes no value: the letter of a short
option may follow it any number of times, and nothing else may. -/
def Opt.attachedComplaint (o : Opt κ) : Attached → Option Complaint
  | .nothing => none
  | .value value => some (.valueIgnored value)
  | .letters t =>
    let rest := t.dropWhile fun c => o.letter? == some c
    if t ≠ [] ∧ rest = [] then none else some (.valueIgnored rest)

/-- An option that was given, with its value if it has one. -/
abbrev Given (κ : Type) := κ × Option Text

/-- The value that a text attached to an option gives it: two hyphens give none. -/
def attachedValue? (t : Text) : Option Text := if t = ['-', '-'] then none else some t

/-- Stops with the complaint about an option, if there is one. -/
def require (o : Opt κ) : Option Complaint → Except Notice Unit
  | none => .ok ()
  | some complaint => .error (.problem (.argument o.name complaint))

/-- The options given and the arguments that nobody takes. -/
def collect : List (Text × Word κ) → Except Notice (List (Given κ) × List Text)
  | [] => .ok ([], [])
  | (_, .option o attached) :: rest =>
    match o.action with
    | .help => do
      require o (o.attachedComplaint attached)
      .error .help
    | .flag => do
      require o (o.attachedComplaint attached)
      let (given, left) ← collect rest
      return ((o.kind, none) :: given, left)
    | .value complaint? =>
      -- an attached value comes first; without one the next argument is taken, if it is an operand
      match attached.text?, rest with
      | some t, rest => do
        require o ((attachedValue? t).bind complaint?)
        let (given, left) ← collect rest
        return ((o.kind, attachedValue? t) :: given, left)
      | none, (value, .operand) :: rest => do
        require o (complaint? value)
        let (given, left) ← collect rest
        return ((o.kind, some value) :: given, left)
      | none, _ => .error (.problem (.argument o.name .noValue))
  | (arg, _) :: rest => do
    let (given, left) ← collect rest
    return (given, arg :: left)

/-! ### Options of a command -/

/-- The options of a command, and those of them that have to be given. -/
structure Level (κ : Type) where
  options : List (Opt κ)
  /-- Those that have to be given. -/
  required : List κ

/-- What was given for an option each time, in order. -/
def valuesOf [DecidableEq κ] (given : List (Given κ)) (kind : κ) : List (Option Text) :=
  (given.filter fun g => decide (g.1 = kind)).map (·.2)

/-- What was given last for an option, if it was given. -/
def lastOf [DecidableEq κ] (given : List (Given κ)) (kind : κ) : Option (Option Text) :=
  (valuesOf given kind).getLast?

/-- The names of the required options that were not given. -/
def Level.missing [DecidableEq κ] (level : Level κ) (given : List (Given κ)) : List Text :=
  (level.options.filter fun o =>
    level.required.contains o.kind && (valuesOf given o.kind).isEmpty).map Opt.name

/-- The options given to a command and the arguments that nobody takes. -/
def Level.read [DecidableEq κ] (level : Level κ) (args : List Text) :
    Except Notice (List (Given κ) × List Text) :=
  match classifyAll level.options args with
  | .error p => .error (.problem p)
  | .ok words =>
    match collect words with
    | .error notice => .error notice
    | .ok (given, left) =>
      match level.missing given with
      | [] => .ok (given, left)
      | names => .error (.problem (.missing names))

end Command

end DocSnippets
