import DocSnippets.Build.Basic
import DocSnippets.Json.Printer
import DocSnippets.Json.Reader
import DocSnippets.Table.Basic

/-!
# DocSnippets.Artifact

The **table artifact**: records and source errors as a JSON file. Reading takes the records only
and makes a table of them; it refuses what is no JSON, what has no list of records, and the first
record that is none. What is written is made of characters. A file may hold escapes of halves of
characters too, so the records that are read are made of code points; the ones that were written are
read back as what they are there (`entryRecords_recordJson`), whatever errors stand beside them
(`entries?_toJson`).
-/

namespace DocSnippets

namespace Artifact

/-! ### Writing -/

/-- A record as JSON. -/
def recordJson (r : Record) : Json :=
  .object
    [("example".toList, Json.ofText? r.usage), ("key".toList, .text r.key),
      ("synopsis".toList, Json.ofText? r.synopsis)]

/-- A source error as JSON. -/
def errorJson (e : SourceError) : Json :=
  .object [("file_path".toList, .text e.filePath), ("message".toList, .text e.message)]

/-- Records and source errors as JSON. -/
def toJson (records : List Record) (errors : List SourceError) : Json :=
  .object
    [("errors".toList, .array (errors.map errorJson)),
      ("records".toList, .array (records.map recordJson))]

/-- The text of the artifact of records and source errors. -/
def text (records : List Record) (errors : List SourceError) : Text :=
  (toJson records errors).render

/-- The tree after writing an artifact, whether it could be written or not: folders made on the
way stay, and what was written of the file. -/
def write (t : Tree) (p : Path) (records : List Record) (errors : List SourceError) :
    Tree × Option Tree.PathFault :=
  match t.makeFolders p.parent with
  | (made, some f) => (made, some f)
  | (made, none) =>
    match made.write p (Utf8.encode (text records errors)) with
    | (written, none) => (written, none)
    | (left, some f) => (left, some ⟨f, p⟩)

/-! ### Reading -/

/-- Why an entry of an artifact is no record. -/
inductive EntryFault
  | notObject
  /-- It has no key, or an empty one. -/
  | noKey
  /-- Its synopsis is neither a string nor missing. -/
  | badSynopsis (key : Text CodePoint)
  /-- Its usage example is neither a string nor missing. -/
  | badUsage (key : Text CodePoint)
  deriving DecidableEq, Repr

def EntryFault.message (index : Nat) : EntryFault → Text CodePoint
  | .notObject => Text.wide ("Record ".toList ++ Text.ofNat index ++ " is not an object".toList)
  | .noKey => Text.wide ("Record ".toList ++ Text.ofNat index ++ " has no key".toList)
  | .badSynopsis key =>
    Text.wide ("Record ".toList ++ Text.ofNat index ++ " (".toList) ++ key ++
      Text.wide ") has a non-string synopsis".toList
  | .badUsage key =>
    Text.wide ("Record ".toList ++ Text.ofNat index ++ " (".toList) ++ key ++
      Text.wide ") has a non-string example".toList

/-- Why an artifact cannot be read. -/
inductive Fault
  /-- There is no file that may be read. -/
  | file (f : Tree.PathFault)
  /-- The file is no UTF-8. -/
  | encoding (path : Path) (f : Utf8.Fault)
  /-- The file is no JSON. -/
  | syntaxFault (path : Path) (f : Json.Fault)
  /-- The JSON has no list of records. -/
  | noRecords (path : Path)
  /-- An entry is no record. -/
  | entry (index : Nat) (f : EntryFault)
  deriving DecidableEq

/-- Whether a fault lies in what the file holds and not in how it is reached; an integer that is
too long and a value that is too deep count as neither. -/
def Fault.isFormat : Fault → Bool
  | .encoding _ _ | .noRecords _ | .entry _ _ => true
  | .syntaxFault _ (.malformed _ _ _) => true
  | .syntaxFault _ (.longInteger _) => false
  | .syntaxFault _ (.tooDeep _) => false
  | .file _ => false

def Fault.message : Fault → Text CodePoint
  | .file f => Text.wide f.message
  | .encoding path f =>
    Text.wide ("Invalid JSON in ".toList ++ path.text ++ ": ".toList ++ f.message)
  | .syntaxFault path (.malformed reason whole place) =>
    Text.wide ("Invalid JSON in ".toList ++ path.text ++ ": ".toList ++
      (Json.Fault.malformed reason whole place).message)
  | .syntaxFault _ (.longInteger digits) => Text.wide (Json.Fault.longInteger digits).message
  | .syntaxFault _ (.tooDeep container) => Text.wide (Json.Fault.tooDeep container).message
  | .noRecords path => Text.wide ("Missing 'records' list in ".toList ++ path.text)
  | .entry index f => f.message index

/-- The value of the last member of a name. -/
def field? (members : List (Text CodePoint × Json CodePoint)) (name : Text) :
    Option (Json CodePoint) :=
  Json.member? members (Text.wide name)

/-- A text that may be missing or null, unless the value is of another kind. -/
def optionalText? : Option (Json CodePoint) → Option (Option (Text CodePoint))
  | none => some none
  | some .null => some none
  | some (.text t) => some (some t)
  | some _ => none

/-- The record that an entry holds. -/
def entryRecord : Json CodePoint → Except EntryFault (Record CodePoint)
  | .object members =>
    match field? members "key".toList with
    | some (.text key) =>
      if ne : key = [] then .error .noKey
      else
        match optionalText? (field? members "synopsis".toList) with
        | none => .error (.badSynopsis key)
        | some synopsis =>
          match optionalText? (field? members "example".toList) with
          | none => .error (.badUsage key)
          | some usage => .ok ⟨key, synopsis, usage, ne⟩
    | _ => .error .noKey
  | _ => .error .notObject

/-- The records that entries hold, the first of which has the given number. -/
def entryRecords (index : Nat) :
    List (Json CodePoint) → Except (Nat × EntryFault) (List (Record CodePoint))
  | [] => .ok []
  | entry :: rest =>
    match entryRecord entry with
    | .error f => .error (index, f)
    | .ok r => (entryRecords (index + 1) rest).map (r :: ·)

/-- The list of entries in an artifact. -/
def entries? : Json CodePoint → Option (List (Json CodePoint))
  | .object members =>
    match field? members "records".toList with
    | some (.array items) => some items
    | _ => none
  | _ => none

/-- The records of the artifact that a path leads to. -/
def readRecords (t : Tree) (p : Path) : Except Fault (List (Record CodePoint)) :=
  match Source.readText t p with
  | .error (.file f) => .error (.file f)
  | .error (.encoding f) => .error (.encoding p f)
  | .ok text =>
    match Json.parse text with
    | .error f => .error (.syntaxFault p f)
    | .ok value =>
      match entries? value with
      | none => .error (.noRecords p)
      | some items =>
        match entryRecords 0 items with
        | .error (index, f) => .error (.entry index f)
        | .ok records => .ok records

/-- The table of the artifact that a path leads to. -/
def read (t : Tree) (p : Path) : Except Fault (Table CodePoint) :=
  (readRecords t p).map Table.ofRecords

theorem field?_wideMembers (members : List (Text × Json)) (name : Text) :
    field? (Json.wideMembers members) name = (Json.member? members name).map Json.wide :=
  Json.member?_wideMembers members name

/-- A written record is read back. -/
theorem entryRecord_recordJson (r : Record) : entryRecord (recordJson r).wide = .ok r.wide := by
  have optional : ∀ t : Option Text,
      optionalText? (some (Json.ofText? t).wide) = some (t.map Text.wide) := by
    intro t
    cases t <;> rfl
  let members := [("example".toList, Json.ofText? r.usage), ("key".toList, .text r.key),
    ("synopsis".toList, Json.ofText? r.synopsis)]
  have usage : Json.member? members "example".toList = some (Json.ofText? r.usage) := rfl
  have key : Json.member? members "key".toList = some (.text r.key) := rfl
  have synopsis : Json.member? members "synopsis".toList = some (Json.ofText? r.synopsis) := rfl
  show entryRecord (.object (Json.wideMembers members)) = .ok r.wide
  have ne : Text.wide r.key ≠ [] := r.wide.key_ne_nil
  simp only [entryRecord, field?_wideMembers, key, synopsis, usage, optional, Option.map_some,
    Json.wide, dif_neg ne]
  rfl

theorem entryRecords_recordJson (records : List Record) (index : Nat) :
    entryRecords index (records.map fun r => (recordJson r).wide) =
      .ok (records.map Record.wide) := by
  induction records generalizing index with
  | nil => rfl
  | cons r rest ih => simp [entryRecords, entryRecord_recordJson, ih, Except.map]

theorem entries?_toJson (records : List Record) (errors : List SourceError) :
    entries? (toJson records errors).wide = some (records.map fun r => (recordJson r).wide) := by
  have list : Json.member? [("errors".toList, Json.array (errors.map errorJson)),
      ("records".toList, Json.array (records.map recordJson))] "records".toList =
        some (.array (records.map recordJson)) := rfl
  simp only [entries?, toJson, Json.wide, field?_wideMembers, list, Option.map_some,
    Json.wideItems_eq_map, List.map_map]
  rfl

end Artifact

end DocSnippets
