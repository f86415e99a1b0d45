import DocSnippets.Files.Tree
import DocSnippets.Text.Utf8

/-!
# DocSnippets.Page.Source

**Reading a page**: its bytes are UTF-8, and each line break of one or two carriage returns and
line feeds is turned into one line feed. The name of the file without its extension is the base
name of the page.
-/

namespace DocSnippets

/-- A page that was read. -/
structure Source where
  path : Path
  /-- The name of the page without its extension. -/
  baseName : Text
  text : Text
  deriving DecidableEq

namespace Source

/-- Why a page cannot be read. -/
inductive Fault
  /-- There is no file that may be read. -/
  | file (f : Tree.PathFault)
  /-- The bytes are no UTF-8. -/
  | encoding (f : Utf8.Fault)
  deriving DecidableEq

def Fault.message : Fault → Text
  | .file f => f.message
  | .encoding f => f.message

/-- The text of the file that a path leads to. -/
def readText (t : Tree) (p : Path) : Except Fault Text :=
  match t.read p with
  | .error f => .error (.file ⟨f, p⟩)
  | .ok bytes =>
    match Utf8.decode bytes with
    | .error f => .error (.encoding f)
    | .ok text => .ok text.unifyBreaks

/-- The page that a path leads to. -/
def read (t : Tree) (p : Path) : Except Fault Source :=
  (readText t p).map fun text => ⟨p, stem p.lastName, text⟩

theorem readText_eq_ok_iff {t : Tree} {p : Path} {text : Text} :
    readText t p = .ok text ↔
      ∃ bytes raw, t.read p = .ok bytes ∧ Utf8.decode bytes = .ok raw ∧ raw.unifyBreaks = text := by
  unfold readText
  cases t.read p with
  | error f => simp
  | ok bytes => cases hd : Utf8.decode bytes <;> simp [hd]

theorem read_eq_ok_iff {t : Tree} {p : Path} {source : Source} :
    Source.read t p = .ok source ↔
      ∃ text, readText t p = .ok text ∧ source = ⟨p, stem p.lastName, text⟩ := by
  unfold Source.read
  cases readText t p with
  | error f => simp [Except.map]
  | ok text => simp [Except.map, eq_comm]

end Source

end DocSnippets
