import DocSnippets.Artifact
import DocSnippets.Proofs.Files.Written
import DocSnippets.Proofs.Json.RoundTrip
import DocSnippets.Proofs.Table.Wide

/-!
# DocSnippets.Proofs.Artifact.RoundTrip

**An artifact is read back as it was written.** Its JSON is three containers deep and holds no
numbers, so its text is parsed to the same JSON; the records and the errors are taken from that
unchanged, a missing part and an empty one kept apart.

What is read back is made of code points and what was written of characters, so the two are the same
up to `Text.wide`, which loses nothing.
-/

namespace DocSnippets

namespace Artifact

/-! ### The text -/

theorem fits_ofText? {depth : Nat} (t : Option Text) : Json.Fits depth (Json.ofText? t) := by
  cases t with
  | none => exact .null
  | some t => exact .text t

theorem fits_recordJson {depth : Nat} (r : Record) : Json.Fits (depth + 1) (recordJson r) := by
  refine .object fun m hm => ?_
  simp only [List.mem_cons, List.not_mem_nil, or_false] at hm
  rcases hm with rfl | rfl | rfl
  · exact fits_ofText? r.usage
  · exact .text r.key
  · exact fits_ofText? r.synopsis

theorem fits_errorJson {depth : Nat} (e : SourceError) : Json.Fits (depth + 1) (errorJson e) := by
  refine .object fun m hm => ?_
  simp only [List.mem_cons, List.not_mem_nil, or_false] at hm
  rcases hm with rfl | rfl
  · exact .text e.filePath
  · exact .text e.message

theorem fits_toJson {depth : Nat} (records : List Record) (errors : List SourceError) :
    Json.Fits (depth + 3) (toJson records errors) := by
  refine .object fun m hm => ?_
  simp only [List.mem_cons, List.not_mem_nil, or_false] at hm
  rcases hm with rfl | rfl
  · refine .array fun item hi => ?_
    obtain ⟨e, -, rfl⟩ := List.mem_map.1 hi
    exact fits_errorJson e
  · refine .array fun item hi => ?_
    obtain ⟨r, -, rfl⟩ := List.mem_map.1 hi
    exact fits_recordJson r

theorem parse_text (records : List Record) (errors : List SourceError) :
    Json.parse (text records errors) = .ok (toJson records errors).wide :=
  Json.parse_render (fits_toJson records errors)

theorem isPrinted_text (records : List Record) (errors : List SourceError) :
    ∀ c ∈ text records errors, Json.IsPrinted c :=
  Json.isPrinted_render (fits_toJson records errors)

theorem unifyBreaks_text (records : List Record) (errors : List SourceError) :
    (text records errors).unifyBreaks = text records errors := by
  refine Text.unifyBreaks_of_notMem fun h => ?_
  rcases isPrinted_text records errors '\r' h with visible | feed
  · exact absurd visible (by decide)
  · exact absurd feed (by decide)

/-! ### The errors -/

/-- The source error that an entry of the list of errors holds. -/
def entryError? : Json CodePoint → Option SourceError
  | .object members =>
    match field? members "file_path".toList, field? members "message".toList with
    | some (.text filePath), some (.text message) =>
      match Text.narrow? filePath, Text.narrow? message with
      | some filePath, some message => some ⟨filePath, message⟩
      | _, _ => none
    | _, _ => none
  | _ => none

/-- The source errors in an artifact. -/
def errors? : Json CodePoint → Option (List SourceError)
  | .object members =>
    match field? members "errors".toList with
    | some (.array items) => items.mapM entryError?
    | _ => none
  | _ => none

theorem entryError?_errorJson (e : SourceError) : entryError? (errorJson e).wide = some e := by
  let members := [("file_path".toList, Json.text e.filePath), ("message".toList, .text e.message)]
  have filePath : Json.member? members "file_path".toList = some (.text e.filePath) := rfl
  have message : Json.member? members "message".toList = some (.text e.message) := rfl
  show entryError? (.object (Json.wideMembers members)) = some e
  simp only [entryError?, field?_wideMembers, filePath, message, Option.map_some, Json.wide,
    Text.narrow?_wide]

theorem mapM_entryError?_errorJson (errors : List SourceError) :
    (errors.map fun e => (errorJson e).wide).mapM entryError? = some errors := by
  induction errors with
  | nil => rfl
  | cons e rest ih =>
    rw [List.map_cons, List.mapM_cons, entryError?_errorJson, ih]
    rfl

theorem errors?_toJson (records : List Record) (errors : List SourceError) :
    errors? (toJson records errors).wide = some errors := by
  have list : Json.member? [("errors".toList, Json.array (errors.map errorJson)),
      ("records".toList, Json.array (records.map recordJson))] "errors".toList =
        some (.array (errors.map errorJson)) := rfl
  simp only [errors?, toJson, Json.wide, field?_wideMembers, list, Option.map_some,
    Json.wideItems_eq_map, List.map_map]
  exact mapM_entryError?_errorJson errors

/-! ### The file -/

/-- What writing an artifact does: it makes folders at most, with a fault that has its own reason;
or it writes the file, or a start of it for which there was room. -/
theorem write_cases (t : Tree) (p : Path) (records : List Record) (errors : List SourceError) :
    (∃ u f, write t p records errors = (u, some f) ∧ Tree.FoldersMade t u p.parent ∧
        (f.fault.namesPath = true ∨ f.fault = .nulInPath ∧ p.hasNul = true ∨
          f.fault = .tooDeep ∧ Tree.maxMissing < p.parent.steps.length)) ∨
      (∃ u, write t p records errors = (u, none) ∧
        Tree.FileWritten t u p (Utf8.encode (text records errors))) ∨
      ∃ u kept, write t p records errors = (u, some ⟨.noRoom, p⟩) ∧
        kept <+: Utf8.encode (text records errors) ∧ kept ≠ Utf8.encode (text records errors) ∧
        Tree.FileWritten t u p kept := by
  have folders := Tree.foldersMade_makeFolders t p.parent
  unfold write
  cases hm : t.makeFolders p.parent with
  | mk made fault =>
    rw [hm] at folders
    cases fault with
    | some f =>
      refine .inl ⟨made, f, rfl, folders, ?_⟩
      refine (Tree.makeFolders_eq_error (congrArg Prod.snd hm)).imp_right (Or.imp_left ?_)
      -- a NUL on the way to the folder of the artifact is one in the path of the artifact
      rintro ⟨fault, nul⟩
      obtain ⟨step, mem, holds⟩ := List.any_eq_true.1 nul
      exact ⟨fault, List.any_eq_true.2 ⟨step, List.dropLast_subset _ mem, holds⟩⟩
    | none =>
      rcases Tree.write_cases made p (Utf8.encode (text records errors)) with
        ⟨f, eq, reason⟩ | ⟨u, eq, put⟩ | ⟨u, kept, eq, start, part, put⟩
      · exact .inl ⟨made, ⟨f, p⟩, by simp only [eq], folders, reason.imp_right .inl⟩
      · exact .inr (.inl ⟨u, by simp only [eq], folders.fileWritten put⟩)
      · exact .inr (.inr ⟨u, kept, by simp only [eq], start, part, folders.fileWritten put⟩)

theorem fileWritten_of_write {t : Tree} {p : Path} {records : List Record}
    {errors : List SourceError} (written : (write t p records errors).2 = none) :
    Tree.FileWritten t (write t p records errors).1 p (Utf8.encode (text records errors)) := by
  rcases write_cases t p records errors with ⟨u, f, eq, -⟩ | ⟨u, eq, put⟩ | ⟨u, kept, eq, -⟩
  · rw [eq] at written
    cases written
  · rw [eq]
    exact put
  · rw [eq] at written
    cases written

theorem read_of_write {t : Tree} {p : Path} {records : List Record} {errors : List SourceError}
    (written : (write t p records errors).2 = none) :
    (write t p records errors).1.read p = .ok (Utf8.encode (text records errors)) :=
  (fileWritten_of_write written).read

theorem readRecords_of_read {t : Tree} {p : Path} {records : List Record}
    {errors : List SourceError} (held : t.read p = .ok (Utf8.encode (text records errors))) :
    readRecords t p = .ok (records.map Record.wide) := by
  have source : Source.readText t p = .ok (text records errors) :=
    Source.readText_eq_ok_iff.2
      ⟨_, _, held, Utf8.decode_encode _, unifyBreaks_text records errors⟩
  simp only [readRecords, source, parse_text, entries?_toJson, entryRecords_recordJson]

/-- **Round trip.** Where an artifact could be written, the file holds its text, which is visible
ASCII and line feeds and which reading leaves as it is. From the file the same records are read, as
code points, and so the table of them, which holds what the table of the records holds; from the
text as JSON the same errors are decoded. -/
theorem read_write {t : Tree} {p : Path} {records : List Record} {errors : List SourceError}
    (written : (write t p records errors).2 = none) :
    (write t p records errors).1.read p = .ok (Utf8.encode (text records errors)) ∧
      (∀ c ∈ text records errors, 0x20 ≤ c.toNat ∧ c.toNat < 0x7F ∨ c = '\n') ∧
      (text records errors).unifyBreaks = text records errors ∧
      readRecords (write t p records errors).1 p = .ok (records.map Record.wide) ∧
      (∃ table, read (write t p records errors).1 p = .ok table ∧
        table.records = (Table.ofRecords records).records.map Record.wide) ∧
      ∃ value, Json.parse (text records errors) = .ok value ∧ errors? value = some errors := by
  have held := read_of_write written
  have back := readRecords_of_read held
  refine ⟨held, ?_, unifyBreaks_text records errors, back, ?_, ?_⟩
  · intro c hc
    refine (isPrinted_text records errors c hc).imp_left fun visible => ?_
    simpa [Json.isVisible] using visible
  · refine ⟨_, ?_, Table.records_ofRecords_wide records⟩
    rw [read, back]
    rfl
  · exact ⟨_, parse_text records errors, errors?_toJson records errors⟩

/-- Two records, one with an empty part and one without parts, are read back from the file that they
were written to in an empty folder. -/
theorem read_write_twoRecords :
    ∃ table, read (write .empty (.ofText "table.json".toList)
        [⟨['A'], some [], some ['"', '\\', '😀'], by decide⟩, ⟨['B'], none, none, by decide⟩] []).1
      (.ofText "table.json".toList) = .ok table ∧
        table.records = ([⟨['A'], some [], some ['"', '\\', '😀'], by decide⟩,
          ⟨['B'], none, none, by decide⟩] : List Record).map Record.wide :=
  (read_write (by decide +kernel)).2.2.2.2.1

end Artifact

end DocSnippets
