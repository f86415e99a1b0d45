import DocSnippets.Text.CellWidth

/-!
# DocSnippets.Text.Cluster

**Texts on a screen of fixed columns.** A joiner takes the character after it into the one before
it, and a selector makes a narrow pictograph before it wide, so a text may take fewer or more cells
than its characters do by themselves. A **cluster** is a character with all that is drawn with it;
a text is cut and cropped between clusters only.

Measuring skips a character after each joiner. Clusters have nothing to join a leading joiner to,
so a text that begins with joiners may take other cells by measure than by its clusters; it can
then be cropped to no width between the two.
-/

namespace DocSnippets

/-- The character that joins the characters around it. -/
def joiner : Char := '\u200d'

/-- The character that asks for the one before it as a pictograph. -/
def selector : Char := '\ufe0f'

/-! ### Measuring -/

/-- How many cells a text takes, after a character that a selector may make wide. -/
def cellsAfter (base : Option Char) : Text → Nat
  | [] => 0
  | c :: rest =>
    if c = joiner then
      match rest with
      | [] => 0
      | _ :: joined => cellsAfter base joined
    else if c = selector then (if base.any isWidened then 1 else 0) + cellsAfter none rest
    else if cellWidth c = 0 then cellsAfter base rest
    else cellWidth c + cellsAfter (some c) rest

/-- How many cells a text takes. -/
def Text.cells (t : Text) : Nat := cellsAfter none t

/-- A character with all that is drawn with it. -/
structure Cluster where
  /-- How many characters these are. -/
  size : Nat
  cells : Nat
  deriving DecidableEq, Repr

/-- A cluster with more characters, which take no cells of their own. -/
def Cluster.with (cluster : Cluster) (more : Nat) : Cluster :=
  ⟨cluster.size + more, cluster.cells⟩

/-- The clusters of a text after an unfinished one, and after a character that a selector may make
wide. -/
def clustersAfter (current : Option Cluster) (base : Option Char) : Text → List Cluster
  | [] => current.toList
  | c :: rest =>
    match current with
    | none => clustersAfter (some ⟨1, cellWidth c⟩) (if cellWidth c = 0 then base else some c) rest
    | some cluster =>
      if c = joiner then
        match rest with
        | [] => [cluster.with 1]
        | _ :: joined => clustersAfter (some (cluster.with 2)) base joined
      else if c = selector then
        if base.any isWidened then
          clustersAfter (some ⟨cluster.size + 1, cluster.cells + 1⟩) none rest
        else clustersAfter (some (cluster.with 1)) base rest
      else if cellWidth c = 0 then clustersAfter (some (cluster.with 1)) base rest
      else cluster :: clustersAfter (some ⟨1, cellWidth c⟩) (some c) rest

/-- The clusters of a text. -/
def clusters (t : Text) : List Cluster := clustersAfter none none t

theorem size_clustersAfter (current : Option Cluster) (base : Option Char) (t : Text) :
    total ((clustersAfter current base t).map Cluster.size) =
      (current.map Cluster.size).getD 0 + t.length := by
  fun_induction clustersAfter current base t with
  | case1 current => cases current <;> simp
  | _ => simp_all [Cluster.with] <;> omega

theorem size_clusters (t : Text) : total ((clusters t).map Cluster.size) = t.length := by
  simp [clusters, size_clustersAfter]

/-! ### Cutting and cropping -/

/-- How many characters each of the pieces has to which clusters are cut that take at most so many
cells, where the first piece has some characters and cells already. -/
def pieceSizes (width size used : Nat) : List Cluster → List Nat
  | [] => [size]
  | cluster :: rest =>
    if width < used + cluster.cells then
      size :: pieceSizes width cluster.size cluster.cells rest
    else pieceSizes width (size + cluster.size) (used + cluster.cells) rest

/-- A text cut to pieces of some sizes, and what is left. -/
def Text.cut : List Nat → Text → List Text
  | [], _ => []
  | [_], t => [t]
  | size :: sizes, t => t.take size :: Text.cut sizes (t.drop size)

/-- A text cut to pieces that take at most so many cells. -/
def chop (width : Nat) (t : Text) : List Text := Text.cut (pieceSizes width 0 0 (clusters t)) t

theorem join_cut {sizes : List Nat} (ne : sizes ≠ []) (t : Text) :
    (Text.cut sizes t).flatten = t := by
  fun_induction Text.cut sizes t with
  | case1 => simp at ne
  | case2 => simp
  | case3 size sizes t h ih => simp [ih h, List.take_append_drop]

/-- How many characters of a text, and how many blanks after them, take just so many cells by its
clusters; none if it ends before. A cluster that does not fit any more gives way to blanks. -/
def cropSize? : Nat → List Cluster → Option (Nat × Nat)
  | 0, _ => some (0, 0)
  | _ + 1, [] => none
  | width + 1, cluster :: rest =>
    if cluster.cells ≤ width + 1 then
      (cropSize? (width + 1 - cluster.cells) rest).map fun (size, blanks) =>
        (cluster.size + size, blanks)
    else some (0, width + 1)

/-- As much of a text as takes just so many cells, if it is not too short by its clusters. -/
def crop? (width : Nat) (t : Text) : Option Text :=
  (cropSize? width (clusters t)).map fun (size, blanks) =>
    t.take size ++ List.replicate blanks ' '

/-- A text cropped or filled up with blanks to some cells. -/
def fit? (width : Nat) (t : Text) : Option Text :=
  if width < t.cells then crop? width t
  else some (t ++ List.replicate (width - t.cells) ' ')

end DocSnippets
