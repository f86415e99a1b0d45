import DocSnippets.Artifact
import DocSnippets.Proofs.Json.RoundTrip
import DocSnippets.Proofs.Results
import DocSnippets.Proofs.Text.Utf8

/-!
# DocSnippets.Proofs.Artifact.Acceptance

**What is taken for an artifact.** A file is one when its bytes are UTF-8, its text is JSON, the
JSON is an object with a list of records, and every entry of the list is a record. What an entry
has to be (`IsEntry`) and what may be wrong with it (`Flaw`) are said without the reader, and each
entry is either the one or the other (`entryRecord_cases`); the list is read from its start, so the
first flawed entry decides. Only three fields of an entry are looked at, and only one of the
payload, so whatever else is there does not matter.

* `entryRecord_eq_ok_iff`, `entryRecord_of_flaw` — one entry;
* `entryRecords_eq_ok_iff`, `entryRecords_of_flaw` — a list of entries, by induction on it;
* `SameFields`, `SamePayload` — entries and payloads that differ only in what is not looked at;
* `read_accepts` — which files are read, and what is said of those that are not.
-/

namespace DocSnippets

namespace Artifact

/-! ### One entry -/

/-- A field that may be missing or null and is a string otherwise, with what it holds. -/
inductive IsOptionalText : Option (Json CodePoint) → Option (Text CodePoint) → Prop
  | absent : IsOptionalText none none
  | null : IsOptionalText (some .null) none
  | text (t : Text CodePoint) : IsOptionalText (some (.text t)) (some t)

theorem optionalText?_eq_some_iff {field : Option (Json CodePoint)} {t : Option (Text CodePoint)} :
    optionalText? field = some t ↔ IsOptionalText field t := by
  constructor
  · intro h
    unfold optionalText? at h
    split at h
    · cases h
      exact .absent
    · cases h
      exact .null
    · cases h
      exact .text _
    · cases h
  · intro h
    cases h <;> rfl

theorem optionalText?_eq_none_iff {field : Option (Json CodePoint)} :
    optionalText? field = none ↔ ∀ t, ¬ IsOptionalText field t := by
  rw [Option.eq_none_iff_forall_ne_some]
  exact forall_congr' fun t => not_congr optionalText?_eq_some_iff

/-- An entry that is a record: an object with a key that is a non-empty string, and with a synopsis
and an example that are each missing, null or a string. -/
inductive IsEntry : Json CodePoint → Record CodePoint → Prop
  | object {members : List (Text CodePoint × Json CodePoint)} {r : Record CodePoint}
      (key : field? members "key".toList = some (.text r.key))
      (synopsis : IsOptionalText (field? members "synopsis".toList) r.synopsis)
      (usage : IsOptionalText (field? members "example".toList) r.usage) :
      IsEntry (.object members) r

/-- What is wrong with an entry that is no record, and the words for it. The checks come in this
order, and each flaw says that the checks before it are passed. -/
inductive Flaw : Json CodePoint → EntryFault → Text CodePoint → Prop
  /-- It is no object. -/
  | notObject {entry : Json CodePoint} (other : ∀ members, entry ≠ .object members) :
      Flaw entry .notObject (Text.wide " is not an object".toList)
  /-- It has no key that is a non-empty string. -/
  | noKey {members : List (Text CodePoint × Json CodePoint)}
      (keyless : ∀ key, key ≠ [] → field? members "key".toList ≠ some (.text key)) :
      Flaw (.object members) .noKey (Text.wide " has no key".toList)
  /-- Its synopsis is there, and neither null nor a string. -/
  | badSynopsis {members : List (Text CodePoint × Json CodePoint)} {key : Text CodePoint}
      (ne : key ≠ []) (named : field? members "key".toList = some (.text key))
      (bad : ∀ t, ¬ IsOptionalText (field? members "synopsis".toList) t) :
      Flaw (.object members) (.badSynopsis key)
        (Text.wide " (".toList ++ key ++ Text.wide ") has a non-string synopsis".toList)
  /-- Its example is there, and neither null nor a string. -/
  | badUsage {members : List (Text CodePoint × Json CodePoint)} {key : Text CodePoint}
      {synopsis : Option (Text CodePoint)} (ne : key ≠ [])
      (named : field? members "key".toList = some (.text key))
      (good : IsOptionalText (field? members "synopsis".toList) synopsis)
      (bad : ∀ t, ¬ IsOptionalText (field? members "example".toList) t) :
      Flaw (.object members) (.badUsage key)
        (Text.wide " (".toList ++ key ++ Text.wide ") has a non-string example".toList)

theorem Flaw.message_eq {entry : Json CodePoint} {f : EntryFault} {said : Text CodePoint}
    (h : Flaw entry f said) (index : Nat) :
    f.message index = Text.wide ("Record ".toList ++ Text.ofNat index) ++ said := by
  cases h with
  | notObject other => exact Text.wide_append _ _
  | noKey keyless => exact Text.wide_append _ _
  | badSynopsis ne named bad =>
    simp only [EntryFault.message, Text.wide_append, List.append_assoc]
  | badUsage ne named good bad =>
    simp only [EntryFault.message, Text.wide_append, List.append_assoc]

/-- An entry is a record or has a flaw, and reading it tells which. -/
theorem entryRecord_cases (entry : Json CodePoint) :
    (∃ r, entryRecord entry = .ok r ∧ IsEntry entry r) ∨
      ∃ f said, entryRecord entry = .error f ∧ Flaw entry f said := by
  cases entry with
  | object members =>
    -- the checks are made in the order of the constructors of `Flaw`
    simp only [entryRecord]
    split
    · rename_i key named
      split
      · rename_i empty
        refine .inr ⟨_, _, rfl, .noKey fun other ne known => ?_⟩
        rw [named] at known
        cases known
        exact ne empty
      · rename_i ne
        cases hs : optionalText? (field? members "synopsis".toList) with
        | none => exact .inr ⟨_, _, rfl, .badSynopsis ne named (optionalText?_eq_none_iff.1 hs)⟩
        | some synopsis =>
          have good := optionalText?_eq_some_iff.1 hs
          cases hu : optionalText? (field? members "example".toList) with
          | none => exact .inr ⟨_, _, rfl, .badUsage ne named good (optionalText?_eq_none_iff.1 hu)⟩
          | some usage =>
            exact .inl ⟨_, rfl, .object named good (optionalText?_eq_some_iff.1 hu)⟩
    · rename_i keyless
      exact .inr ⟨_, _, rfl, .noKey fun key _ => keyless key⟩
  | _ => exact .inr ⟨_, _, rfl, .notObject (by simp)⟩

theorem entryRecord_of_isEntry {entry : Json CodePoint} {r : Record CodePoint}
    (h : IsEntry entry r) :
    entryRecord entry = .ok r := by
  cases h with
  | object key synopsis usage =>
    simp only [entryRecord, key, optionalText?_eq_some_iff.2 synopsis,
      optionalText?_eq_some_iff.2 usage, dif_neg r.key_ne_nil]

/-- A flawed entry is refused for its flaw. -/
theorem entryRecord_of_flaw {entry : Json CodePoint} {f : EntryFault} {said : Text CodePoint}
    (h : Flaw entry f said) : entryRecord entry = .error f := by
  cases h with
  | notObject other =>
    cases entry with
    | object members => exact absurd rfl (other members)
    | _ => rfl
  | @noKey members keyless =>
    simp only [entryRecord]
    split
    · rename_i key named
      split
      · rfl
      · rename_i ne
        exact absurd named (keyless key ne)
    · rfl
  | badSynopsis ne named bad =>
    simp only [entryRecord, named, dif_neg ne, optionalText?_eq_none_iff.2 bad]
  | badUsage ne named good bad =>
    simp only [entryRecord, named, dif_neg ne, optionalText?_eq_some_iff.2 good,
      optionalText?_eq_none_iff.2 bad]

theorem entryRecord_eq_ok_iff {entry : Json CodePoint} {r : Record CodePoint} :
    entryRecord entry = .ok r ↔ IsEntry entry r := by
  refine ⟨fun h => ?_, entryRecord_of_isEntry⟩
  rcases entryRecord_cases entry with ⟨other, read, known⟩ | ⟨f, said, refused, -⟩
  · rw [h] at read
    cases read
    exact known
  · rw [h] at refused
    cases refused

/-! ### A list of entries -/

/-- Entries are read when each of them is a record. -/
theorem entryRecords_eq_ok_iff (index : Nat) {entries : List (Json CodePoint)}
    {records : List (Record CodePoint)} :
    entryRecords index entries = .ok records ↔ List.Forall₂ IsEntry entries records := by
  induction entries generalizing index records with
  | nil =>
    rw [entryRecords, List.forall₂_nil_left_iff]
    exact ⟨fun h => (Except.ok.inj h).symm, fun h => congrArg Except.ok h.symm⟩
  | cons entry rest ih =>
    rw [entryRecords, List.forall₂_cons_left_iff]
    constructor
    · intro h
      split at h
      · cases h
      · rename_i r first
        cases others : entryRecords (index + 1) rest with
        | error g =>
          rw [others] at h
          cases h
        | ok later =>
          rw [others] at h
          cases h
          exact ⟨r, later, entryRecord_eq_ok_iff.1 first, (ih _).1 others, rfl⟩
    · intro known
      obtain ⟨r, later, first, others, rfl⟩ := known
      rw [entryRecord_of_isEntry first, (ih _).2 others]
      rfl

/-- The first flawed entry is the one that is told, by its number. -/
theorem entryRecords_of_flaw (index : Nat) {before : List (Json CodePoint)}
    (after : List (Json CodePoint)) {entry : Json CodePoint} {f : EntryFault}
    {said : Text CodePoint} (good : ∀ e ∈ before, ∃ r, IsEntry e r) (flawed : Flaw entry f said) :
    entryRecords index (before ++ entry :: after) = .error (index + before.length, f) := by
  induction before generalizing index with
  | nil =>
    rw [List.nil_append, entryRecords, entryRecord_of_flaw flawed]
    rfl
  | cons first rest ih =>
    obtain ⟨⟨r, known⟩, others⟩ := List.forall_mem_cons.1 good
    have place : index + 1 + rest.length = index + (first :: rest).length := by
      rw [List.length_cons]
      omega
    rw [List.cons_append, entryRecords, entryRecord_of_isEntry known, ih _ others, place]
    rfl

theorem exists_records_or_flaw (entries : List (Json CodePoint)) :
    (∃ records, List.Forall₂ IsEntry entries records) ∨
      ∃ before entry after f said, entries = before ++ entry :: after ∧
        (∀ e ∈ before, ∃ r, IsEntry e r) ∧ Flaw entry f said := by
  induction entries with
  | nil => exact .inl ⟨[], .nil⟩
  | cons first rest ih =>
    rcases entryRecord_cases first with ⟨r, -, known⟩ | ⟨f, said, -, flawed⟩
    · rcases ih with ⟨records, all⟩ | ⟨before, entry, after, f, said, rfl, good, flawed⟩
      · exact .inl ⟨r :: records, .cons known all⟩
      · refine .inr ⟨first :: before, entry, after, f, said, rfl, ?_, flawed⟩
        exact List.forall_mem_cons.2 ⟨⟨r, known⟩, good⟩
    · exact .inr ⟨[], first, rest, f, said, rfl, by simp, flawed⟩

/-! ### The payload -/

/-- The bytes are UTF-8 and their text, line breaks unified, is JSON of this value. -/
def Writes (bytes : List UInt8) (value : Json CodePoint) : Prop :=
  ∃ raw, bytes = Utf8.encode raw ∧ Json.parse raw.unifyBreaks = .ok value

/-- The value is an object whose records are a list of these entries. -/
def HasEntries (value : Json CodePoint) (entries : List (Json CodePoint)) : Prop :=
  ∃ members, value = .object members ∧
    field? members "records".toList = some (.array entries)

theorem entries?_eq_some_iff {value : Json CodePoint} {entries : List (Json CodePoint)} :
    entries? value = some entries ↔ HasEntries value entries := by
  constructor
  · intro h
    unfold entries? at h
    split at h
    · rename_i members
      split at h
      · rename_i items listed
        cases h
        exact ⟨members, rfl, listed⟩
      · cases h
    · cases h
  · intro known
    obtain ⟨members, rfl, listed⟩ := known
    simp only [entries?, listed]

/-- The records of a payload, read from a path. -/
def payloadRecords (p : Path) (value : Json CodePoint) : Except Fault (List (Record CodePoint)) :=
  match entries? value with
  | none => .error (.noRecords p)
  | some items =>
    match entryRecords 0 items with
    | .error (index, f) => .error (.entry index f)
    | .ok records => .ok records

theorem readRecords_of_writes {t : Tree} {p : Path} {bytes : List UInt8} {value : Json CodePoint}
    (file : t.read p = .ok bytes) (written : Writes bytes value) :
    readRecords t p = payloadRecords p value := by
  obtain ⟨raw, rfl, parsed⟩ := written
  have source : Source.readText t p = .ok raw.unifyBreaks :=
    Source.readText_eq_ok_iff.2 ⟨_, raw, file, Utf8.decode_encode raw, rfl⟩
  simp only [readRecords, source, parsed]
  rfl

/-- Where a file writes no value, its bytes are no UTF-8 or its text is no JSON. -/
theorem readRecords_of_not_writes {t : Tree} {p : Path} {bytes : List UInt8}
    (file : t.read p = .ok bytes) (unwritten : ∀ value, ¬ Writes bytes value) :
    (∃ f, readRecords t p = .error (.encoding p f)) ∨
      ∃ raw f, bytes = Utf8.encode raw ∧ Json.parse raw.unifyBreaks = .error f ∧
        readRecords t p = .error (.syntaxFault p f) := by
  cases decoded : Utf8.decode bytes with
  | error f =>
    have source : Source.readText t p = .error (.encoding f) := by
      simp only [Source.readText, file, decoded]
    refine .inl ⟨f, ?_⟩
    simp only [readRecords, source]
  | ok raw =>
    have encoded := Utf8.decode_eq_ok_iff.1 decoded
    have source : Source.readText t p = .ok raw.unifyBreaks :=
      Source.readText_eq_ok_iff.2 ⟨bytes, raw, file, decoded, rfl⟩
    cases parsed : Json.parse raw.unifyBreaks with
    | ok value => exact absurd ⟨raw, encoded, parsed⟩ (unwritten value)
    | error f =>
      refine .inr ⟨raw, f, encoded, parsed, ?_⟩
      simp only [readRecords, source, parsed]

theorem payloadRecords_eq_ok_iff {p : Path} {value : Json CodePoint}
    {records : List (Record CodePoint)} :
    payloadRecords p value = .ok records ↔
      ∃ entries, HasEntries value entries ∧ List.Forall₂ IsEntry entries records := by
  simp only [← entries?_eq_some_iff, ← entryRecords_eq_ok_iff 0]
  unfold payloadRecords
  cases entries? value with
  | none => simp
  | some items =>
    simp only [Option.some.injEq, exists_eq_left']
    cases entryRecords 0 items <;> simp

theorem payloadRecords_of_flaw (p : Path) {value entry : Json CodePoint}
    {before after : List (Json CodePoint)} {f : EntryFault} {said : Text CodePoint}
    (has : HasEntries value (before ++ entry :: after))
    (good : ∀ e ∈ before, ∃ r, IsEntry e r) (flawed : Flaw entry f said) :
    payloadRecords p value = .error (.entry before.length f) := by
  have first := entryRecords_of_flaw 0 after good flawed
  rw [Nat.zero_add] at first
  simp only [payloadRecords, entries?_eq_some_iff.2 has, first]

theorem isFormat_of_payloadRecords {p : Path} {value : Json CodePoint} {f : Fault}
    (h : payloadRecords p value = .error f) : f.isFormat = true := by
  unfold payloadRecords at h
  split at h
  · cases h
    rfl
  · split at h
    · cases h
      rfl
    · cases h

/-- Which records a file holds. -/
theorem readRecords_eq_ok_iff {t : Tree} {p : Path} {bytes : List UInt8}
    {records : List (Record CodePoint)} (file : t.read p = .ok bytes) :
    readRecords t p = .ok records ↔
      ∃ value entries, Writes bytes value ∧ HasEntries value entries ∧
        List.Forall₂ IsEntry entries records := by
  constructor
  · intro h
    by_cases written : ∃ value, Writes bytes value
    · obtain ⟨value, written⟩ := written
      rw [readRecords_of_writes file written, payloadRecords_eq_ok_iff] at h
      obtain ⟨entries, has, all⟩ := h
      exact ⟨value, entries, written, has, all⟩
    · rcases readRecords_of_not_writes file (not_exists.1 written) with ⟨f, hf⟩ | ⟨_, f, -, -, hf⟩
      · rw [hf] at h
        cases h
      · rw [hf] at h
        cases h
  · intro known
    obtain ⟨value, entries, written, has, all⟩ := known
    rw [readRecords_of_writes file written, payloadRecords_eq_ok_iff]
    exact ⟨entries, has, all⟩

/-! ### What does not matter -/

/-- Entries that are told apart by no field of a record. -/
inductive SameFields : Json CodePoint → Json CodePoint → Prop
  | refl (entry : Json CodePoint) : SameFields entry entry
  | objects {members others : List (Text CodePoint × Json CodePoint)}
      (key : field? members "key".toList = field? others "key".toList)
      (synopsis : field? members "synopsis".toList = field? others "synopsis".toList)
      (usage : field? members "example".toList = field? others "example".toList) :
      SameFields (.object members) (.object others)

theorem SameFields.entryRecord_eq {entry other : Json CodePoint} (h : SameFields entry other) :
    entryRecord entry = entryRecord other := by
  cases h with
  | refl => rfl
  | objects key synopsis usage => simp only [entryRecord, key, synopsis, usage]

/-- Payloads whose records are the same, or lists of entries with the same fields. -/
inductive SamePayload : Json CodePoint → Json CodePoint → Prop
  | records {members others : List (Text CodePoint × Json CodePoint)}
      (same : field? members "records".toList = field? others "records".toList) :
      SamePayload (.object members) (.object others)
  | entries {members others : List (Text CodePoint × Json CodePoint)}
      {items otherItems : List (Json CodePoint)}
      (first : field? members "records".toList = some (.array items))
      (second : field? others "records".toList = some (.array otherItems))
      (same : List.Forall₂ SameFields items otherItems) :
      SamePayload (.object members) (.object others)

theorem entryRecords_congr {index : Nat} {items others : List (Json CodePoint)}
    (h : List.Forall₂ SameFields items others) :
    entryRecords index items = entryRecords index others := by
  induction h generalizing index with
  | nil => rfl
  | cons first _ ih => simp only [entryRecords, first.entryRecord_eq, ih]

theorem SamePayload.payloadRecords_eq {value other : Json CodePoint} (h : SamePayload value other)
    (p : Path) : payloadRecords p value = payloadRecords p other := by
  cases h with
  | records same => simp only [payloadRecords, entries?, same]
  | entries first second same =>
    simp only [payloadRecords, entries?, first, second, entryRecords_congr same]

/-! ### The file -/

theorem read_eq_ok_iff {t : Tree} {p : Path} {table : Table CodePoint} :
    read t p = .ok table ↔ ∃ records, readRecords t p = .ok records ∧
      table = Table.ofRecords records := by
  unfold read
  cases readRecords t p <;> simp [Except.map, eq_comm]

theorem read_of_error {t : Tree} {p : Path} {f : Fault} (h : readRecords t p = .error f) :
    read t p = .error f := by
  rw [read, h]
  rfl

/-- **Exactly the valid artifacts are read.** A file is read when its bytes are UTF-8, its text is
JSON, the JSON is an object with a list of records and every entry of the list is a record, and then
the table is that of the entries in order. Where a text is JSON or else malformed, every other file
is refused as no artifact. Where the records are a list, the first flawed entry is told by its
number, and of its flaws the first one. Whatever the payload and the entries hold beside the records
and their fields does not matter. -/
theorem read_accepts {t : Tree} {p : Path} {bytes : List UInt8} (file : t.read p = .ok bytes)
    (decided : ∀ raw f, bytes = Utf8.encode raw → Json.parse raw.unifyBreaks = .error f →
      ∃ reason whole place, f = .malformed reason whole place) :
    (∀ table, read t p = .ok table ↔ ∃ value entries records, Writes bytes value ∧
      HasEntries value entries ∧ List.Forall₂ IsEntry entries records ∧
        table = Table.ofRecords records) ∧
    ((∃ table, read t p = .ok table) ∨ ∃ f, read t p = .error f ∧ f.isFormat = true) ∧
    (∀ value entries, Writes bytes value → HasEntries value entries →
      (∃ records, List.Forall₂ IsEntry entries records ∧
        read t p = .ok (Table.ofRecords records)) ∨
      ∃ before entry after f said, entries = before ++ entry :: after ∧
        (∀ e ∈ before, ∃ r, IsEntry e r) ∧ Flaw entry f said ∧
          read t p = .error (.entry before.length f) ∧
          (Fault.entry before.length f).message =
            Text.wide ("Record ".toList ++ Text.ofNat before.length) ++ said) ∧
    ∀ (u : Tree) others value other, u.read p = .ok others → Writes bytes value →
      Writes others other → SamePayload value other → read u p = read t p := by
  refine ⟨fun table => ?_, ?_, fun value entries written has => ?_, ?_⟩
  · constructor
    · intro h
      obtain ⟨records, held, rfl⟩ := read_eq_ok_iff.1 h
      obtain ⟨value, entries, known⟩ := (readRecords_eq_ok_iff file).1 held
      exact ⟨value, entries, records, known.1, known.2.1, known.2.2, rfl⟩
    · intro known
      obtain ⟨value, entries, records, written, has, all, rfl⟩ := known
      have held := (readRecords_eq_ok_iff file).2 ⟨value, entries, written, has, all⟩
      exact read_eq_ok_iff.2 ⟨records, held, rfl⟩
  · -- what a file is refused for, whether it holds a value or none, is that it is no artifact
    cases held : readRecords t p with
    | ok records => exact .inl ⟨_, read_eq_ok_iff.2 ⟨records, held, rfl⟩⟩
    | error f =>
      refine .inr ⟨f, read_of_error held, ?_⟩
      by_cases written : ∃ value, Writes bytes value
      · obtain ⟨value, written⟩ := written
        rw [readRecords_of_writes file written] at held
        exact isFormat_of_payloadRecords held
      · have unwritten := readRecords_of_not_writes file (not_exists.1 written)
        rw [held] at unwritten
        rcases unwritten with ⟨g, hg⟩ | ⟨raw, g, encoded, parsed, hg⟩
        · cases hg
          rfl
        · cases hg
          obtain ⟨reason, text, place, rfl⟩ := decided raw g encoded parsed
          rfl
  · have held := readRecords_of_writes file written
    rcases exists_records_or_flaw entries with ⟨records, all⟩ | flaw
    · rw [payloadRecords_eq_ok_iff.2 ⟨entries, has, all⟩] at held
      exact .inl ⟨records, all, read_eq_ok_iff.2 ⟨records, held, rfl⟩⟩
    · obtain ⟨before, entry, after, f, said, rfl, good, flawed⟩ := flaw
      rw [payloadRecords_of_flaw p has good flawed] at held
      exact .inr ⟨before, entry, after, f, said, rfl, good, flawed, read_of_error held,
        flawed.message_eq before.length⟩
  · intro u others value other fileToo written writtenToo same
    rw [read, read, readRecords_of_writes file written, readRecords_of_writes fileToo writtenToo,
      same.payloadRecords_eq]

/-- An artifact with two entries that leave fields out and have another one, and whose errors are no
list. The key of each is half of a character. -/
def looseText : Text :=
  "\x7b\"errors\": 0, \"records\": [".toList ++
    "\x7b\"key\": \"\\ud800\", \"synopsis\": null, \"x\": []\x7d, ".toList ++
    "\x7b\"key\": \"\\udfff\"\x7d]\x7d".toList

/-- The working folder with that artifact. -/
def looseTree : Tree where
  entries := [([.of "t.json"], .file (Utf8.encode looseText))]

/-- It is read: the two keys are not the same. -/
theorem read_accepts_loose :
    let p : Path := .ofText "t.json".toList
    let table := Table.ofRecords [⟨[.half 0], none, none, by decide⟩,
      ⟨[.half 0x7FF], none, none, by decide⟩]
    looseTree.read p = .ok (Utf8.encode looseText) ∧ read looseTree p = .ok table ∧
      table.size = 2 ∧ ∃ value entries records, Writes (Utf8.encode looseText) value ∧
        HasEntries value entries ∧ List.Forall₂ IsEntry entries records ∧
          table = Table.ofRecords records := by
  intro p table
  have file : looseTree.read p = .ok (Utf8.encode looseText) := by decide +kernel
  have parsed : (Json.parse looseText.unifyBreaks).isOk = true := by decide +kernel
  have held : readRecords looseTree p = .ok [⟨[.half 0], none, none, by decide⟩,
      ⟨[.half 0x7FF], none, none, by decide⟩] := by decide +kernel
  have accepts := read_accepts file fun raw f encoded failed => by
    obtain rfl : looseText = raw := by
      have back := Utf8.decode_encode looseText
      rw [encoded, Utf8.decode_encode] at back
      exact (Except.ok.inj back).symm
    rw [failed] at parsed
    cases parsed
  have taken : read looseTree p = .ok table := read_eq_ok_iff.2 ⟨_, held, rfl⟩
  exact ⟨file, taken, by decide +kernel, (accepts.1 table).1 taken⟩

end Artifact

end DocSnippets
