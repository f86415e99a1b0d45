import DocSnippets.Command.Run

/-!
# DocSnippets.Main

The **program**: it takes in the working folder, with the folders above it, runs the command line
there, writes back what has changed, and shows the two outputs. All that it decides is decided by
`Command.runWithManual`.
-/

namespace DocSnippets

/-- The path of a location, as the system takes it. -/
def systemPath (l : Location) : String := String.ofList ('/' :: l.text)

/-- The tree in which nothing may be done where a path leads. -/
def close (t : Tree) (p : Path) : Tree :=
  match t.resolve p with
  | .error _ => t
  | .ok place =>
    { t with
      system :=
        { t.system with access := fun l => if l = place then .none else t.system.access l } }

/-- The tree with everything below a folder taken in, given the entries of the folder. What cannot
be read is closed. -/
partial def takeIn (t : Tree) (folder : Path) (entries : Array IO.FS.DirEntry) : IO Tree :=
  entries.foldlM (fun t entry => do
    let path := folder.append (Path.ofText entry.fileName.toList)
    match (← entry.path.metadata).type with
    | .dir =>
      let made := (t.makeFolders path).1
      try takeIn made path (← entry.path.readDir) catch _ => return close made path
    | .file =>
      try return (t.write path (← IO.FS.readBinFile entry.path).toList).1
      catch _ => return close (t.write path []).1 path
    | _ => return t) t

/-- Writes an entry, if it was not there before. -/
def writeBack (old : Tree) (l : Location) (e : Entry) : IO Unit :=
  if old.get? l = some e then return
  else
    match e with
    | .folder => IO.FS.createDir (systemPath l)
    | .file content => IO.FS.writeBinFile (systemPath l) ⟨content.toArray⟩

/-- The exit code of an ending; a fault that nobody answers for is told and ends with one. -/
def finish (e : Command.Ending) : IO UInt32 :=
  match e with
  | .code n => return n.toUInt32
  | .uncaught f => do
    IO.eprintln (String.ofList f.message)
    return 1

/-- Runs a command line in the working folder. -/
def runProgram (args : List String) : IO UInt32 := do
  let folder ← IO.currentDir
  let path := Path.ofText folder.toString.toList
  let above := (Tree.empty.makeFolders path).1
  let inside :=
    match above.resolve path with
    | .ok l => if h : above.get? l = some .folder then above.startAt l h else above
    | .error _ => above
  let tree ← takeIn inside path (← folder.readDir)
  let outcome := Command.runWithManual tree (args.map String.toList)
  outcome.tree.entries.forM fun (l, e) => writeBack tree l e
  IO.print (String.ofList outcome.stdout)
  IO.eprint (String.ofList outcome.stderr)
  finish outcome.ending

end DocSnippets

/-- The program. -/
def main (args : List String) : IO UInt32 := DocSnippets.runProgram args
