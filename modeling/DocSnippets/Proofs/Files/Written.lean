import DocSnippets.Proofs.Files.Faults
import DocSnippets.Proofs.Files.Folders

/-!
# DocSnippets.Proofs.Files.Written

**A file that was written is there to be read, and is the only one that differs.** Writing puts one
file into a tree and leaves all folders, so every path goes through the tree as before, and the path
that was written leads to the file. That holds of a write that stops for want of room as well, only
that the file is then not all that was to be written.
-/

namespace DocSnippets

namespace Tree

/-- A tree has the entries of another one but for one file that may be read, where a path leads, and
beyond them only folders on the way there. -/
def FileWritten (t u : Tree) (p : Path) (content : List UInt8) : Prop :=
  u.system = t.system ∧
    ∃ l, u.resolve p = .ok l ∧ t.get? l ≠ some .folder ∧ u.get? l = some (.file content) ∧
      u.opens l = true ∧
      ∀ m, m ≠ l → u.get? m = t.get? m ∨
        t.get? m = none ∧ u.get? m = some .folder ∧
          ∃ steps, steps <+: p.parent.steps ∧ u.resolveFrom (u.startOf p.start) steps = .ok m

namespace FileWritten

variable {t u : Tree} {p : Path} {content : List UInt8}

theorem file_iff (h : FileWritten t u p content) {m : Location} (other : u.resolve p ≠ .ok m)
    {bytes : List UInt8} : u.get? m = some (.file bytes) ↔ t.get? m = some (.file bytes) := by
  obtain ⟨-, l, leads, -, -, -, others⟩ := h
  have ne : m ≠ l := by
    intro same
    exact other (same ▸ leads)
  rcases others m ne with same | ⟨none, folder, -⟩
  · rw [same]
  · rw [none, folder]
    simp

theorem read (h : FileWritten t u p content) : u.read p = .ok content := by
  obtain ⟨-, l, leads, -, there, may, -⟩ := h
  exact read_eq_ok_iff.2 ⟨l, leads, there, may⟩

theorem keeps (h : FileWritten t u p content) : Keeps t u := by
  obtain ⟨system, l, -, noFolder, -, -, others⟩ := h
  refine ⟨system, fun m hm => ?_⟩
  have ne : m ≠ l := by
    rintro rfl
    exact noFolder hm
  rcases others m ne with same | ⟨none, -, -⟩
  · rw [same, hm]
  · rw [none] at hm
    cases hm

end FileWritten

/-- Putting a file where a path leads is writing it. -/
theorem fileWritten_put {t : Tree} {p : Path} {l : Location} {kept : List UInt8}
    (leads : t.resolve p = .ok l) (noFolder : t.get? l ≠ some .folder) (ne : l ≠ [])
    (parent : t.get? l.dropLast = some .folder) (may : t.opens l = true)
    (keeps : t.get? l = some .folder → Entry.file kept = .folder) :
    FileWritten t (t.put l (.file kept) ne parent keeps) p kept := by
  have after (m : Location) : (t.put l (.file kept) ne parent keeps).get? m =
      if m = l then some (.file kept) else t.get? m := get?_put m
  have folders : Keeps t (t.put l (.file kept) ne parent keeps) := by
    refine ⟨rfl, fun m hm => ?_⟩
    rw [after, if_neg, hm]
    rintro rfl
    exact noFolder hm
  refine ⟨rfl, l, folders.resolve leads, noFolder, ?_, (folders.opens l).trans may, ?_⟩
  · rw [after, if_pos rfl]
  · intro m other
    exact .inl (by rw [after, if_neg other])

/-- What a write does: nothing, with a fault that has its own reason; or it puts the file; or it
puts a start of it, and tells that there was no room for all of it. -/
theorem write_cases (t : Tree) (p : Path) (content : List UInt8) :
    (∃ f, t.write p content = (t, some f) ∧
        (f.namesPath = true ∨ f = .nulInPath ∧ p.hasNul = true)) ∨
      (∃ u, t.write p content = (u, none) ∧ FileWritten t u p content) ∨
      ∃ u kept, t.write p content = (u, some .noRoom) ∧ kept <+: content ∧ kept ≠ content ∧
        FileWritten t u p kept := by
  unfold write
  split
  · rename_i f hf
    exact .inl ⟨f, rfl, namesPath_of_resolve hf⟩
  · rename_i l leads
    split
    · exact .inl ⟨_, rfl, .inl rfl⟩
    · rename_i noFolder
      split
      · rename_i parent
        split
        · rename_i writes
          have may : t.opens l = true := Access.opens_of_writes writes
          right
          -- without a limit the room is just what the content takes
          by_cases fits : (t.system.room l).getD content.length < content.length
          · simp only [if_pos fits]
            refine .inr ⟨_, _, rfl, List.take_prefix _ _, ?_,
              fileWritten_put leads noFolder _ parent may _⟩
            intro whole
            have length := congrArg List.length whole
            rw [List.length_take] at length
            omega
          · simp only [if_neg fits]
            refine .inl ⟨_, rfl, ?_⟩
            have whole := List.take_of_length_le (Nat.not_lt.1 fits)
            simp only [whole]
            exact fileWritten_put leads noFolder _ parent may _
        · exact .inl ⟨_, rfl, .inl rfl⟩
      · exact .inl ⟨_, rfl, .inl rfl⟩

/-- A file is written below folders that were made for it. -/
theorem FoldersMade.fileWritten {t made u : Tree} {p : Path} {content : List UInt8}
    (folders : FoldersMade t made p.parent) (h : FileWritten made u p content) :
    FileWritten t u p content := by
  have keeps := h.keeps
  obtain ⟨system, l, leads, noFolder, there, may, others⟩ := h
  refine ⟨system.trans folders.system, l, leads,
    fun before => noFolder (folders.keeps.folder l before), there, may, fun m other => ?_⟩
  rcases others m other with same | ⟨none, folder, path⟩
  · rcases folders.entries m with before | ⟨none, folder, steps, hs, way⟩
    · exact .inl (same.trans before)
    · rw [← keeps.startOf] at way
      exact .inr ⟨none, same.trans folder, steps, hs, keeps.resolveFrom way⟩
  · rcases folders.entries m with before | ⟨-, folder', -⟩
    · exact .inr ⟨before.symm.trans none, folder, path⟩
    · rw [folder'] at none
      cases none

end Tree

end DocSnippets
