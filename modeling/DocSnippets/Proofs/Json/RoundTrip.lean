import DocSnippets.Proofs.Json.Strings
import DocSnippets.Proofs.Text.Join

/-!
# DocSnippets.Proofs.Json.RoundTrip

**A value is read back as it was written.** Values without numbers, nested no deeper than the
reader goes, are what artifacts are made of. Between two of their tokens stand blanks only, and a
value never begins with one, so reading takes exactly what printing wrote for a value and leaves
what comes after it.

* `Fits` — the values that are read back, with the depth left for them;
* `printWith` — printing with the insides of strings written in any way that can be read;
* `readsBack_of_fits` — reading a value back, by induction on the value;
* `mapTexts_eq_self_iff` — a value stays as it is just if all its texts do;
* `parse_printWith` — so a whole text is read;
* `parse_render` — the text of a value is read as the value;
* `isPrinted_render` — it is visible ASCII and ends of lines.
-/

namespace DocSnippets

namespace Json

/-- A value without numbers in which so many more containers may be opened. -/
inductive Fits : Nat → Json → Prop
  | null {depth : Nat} : Fits depth .null
  | bool {depth : Nat} (b : Bool) : Fits depth (.bool b)
  | text {depth : Nat} (t : Text) : Fits depth (.text t)
  | array {depth : Nat} {items : List Json} (each : ∀ item ∈ items, Fits depth item) :
      Fits (depth + 1) (.array items)
  | object {depth : Nat} {members : List (Text × Json)} (each : ∀ m ∈ members, Fits depth m.2) :
      Fits (depth + 1) (.object members)

/-! ### Strings written in some way -/

mutual

/-- A value as text, with the insides of the strings of its texts written in some way. All else is
written as ever, the names of members too. -/
def printWith (inside : Text → Text) (depth : Nat) : Json → Text
  | .text t => '"' :: inside t ++ ['"']
  | .array items => bracketed '[' ']' depth (printItemsWith inside (depth + 1) items)
  | .object members =>
    bracketed '\x7b' '\x7d' depth (printMembersWith inside (depth + 1) members)
  | v => print depth v

/-- Items as texts. -/
def printItemsWith (inside : Text → Text) (depth : Nat) : List Json → List Text
  | [] => []
  | item :: rest => printWith inside depth item :: printItemsWith inside depth rest

/-- Members as texts. -/
def printMembersWith (inside : Text → Text) (depth : Nat) : List (Text × Json) → List Text
  | [] => []
  | (name, value) :: rest =>
    (quote name ++ ':' :: ' ' :: printWith inside depth value) ::
      printMembersWith inside depth rest

end

theorem printItemsWith_eq_map (inside : Text → Text) (depth : Nat) (items : List Json) :
    printItemsWith inside depth items = items.map (printWith inside depth) := by
  induction items with
  | nil => rfl
  | cons item rest ih => rw [printItemsWith, ih, List.map_cons]

theorem printMembersWith_eq_map (inside : Text → Text) (depth : Nat)
    (members : List (Text × Json)) :
    printMembersWith inside depth members =
      members.map fun m => quote m.1 ++ ':' :: ' ' :: printWith inside depth m.2 := by
  induction members with
  | nil => rfl
  | cons m rest ih => rw [printMembersWith, ih, List.map_cons]

mutual

/-- A value with its texts, but not the names of its members, made into others. -/
def mapTexts (f : Text → Text) : Json → Json
  | .text t => .text (f t)
  | .array items => .array (mapItems f items)
  | .object members => .object (mapMembers f members)
  | v => v

/-- Items with their texts made into others. -/
def mapItems (f : Text → Text) : List Json → List Json
  | [] => []
  | item :: rest => mapTexts f item :: mapItems f rest

/-- Members with their texts made into others. -/
def mapMembers (f : Text → Text) : List (Text × Json) → List (Text × Json)
  | [] => []
  | (name, value) :: rest => (name, mapTexts f value) :: mapMembers f rest

end

mutual

theorem print_eq_printWith (depth : Nat) (v : Json) :
    print depth v = printWith (·.flatMap escape) depth v := by
  cases v with
  | null => rfl
  | bool b => rfl
  | number written => rfl
  | text t => rfl
  | array items => rw [print, printWith, printItems_eq_printItemsWith]
  | object members => rw [print, printWith, printMembers_eq_printMembersWith]

theorem printItems_eq_printItemsWith (depth : Nat) (items : List Json) :
    printItems depth items = printItemsWith (·.flatMap escape) depth items := by
  cases items with
  | nil => rfl
  | cons item rest =>
    rw [printItems, printItemsWith, print_eq_printWith, printItems_eq_printItemsWith]

theorem printMembers_eq_printMembersWith (depth : Nat) (members : List (Text × Json)) :
    printMembers depth members = printMembersWith (·.flatMap escape) depth members := by
  cases members with
  | nil => rfl
  | cons m rest =>
    obtain ⟨name, value⟩ := m
    rw [printMembers, printMembersWith, print_eq_printWith, printMembers_eq_printMembersWith]

end

mutual

/-- The texts of a value, without the names of its members. -/
def texts : Json → List Text
  | .text t => [t]
  | .array items => textsOfItems items
  | .object members => textsOfMembers members
  | _ => []

/-- The texts of items. -/
def textsOfItems : List Json → List Text
  | [] => []
  | item :: rest => texts item ++ textsOfItems rest

/-- The texts of members. -/
def textsOfMembers : List (Text × Json) → List Text
  | [] => []
  | (_, value) :: rest => texts value ++ textsOfMembers rest

end

mutual

theorem mapTexts_eq_self_iff {f : Text → Text} (v : Json) :
    mapTexts f v = v ↔ ∀ t ∈ texts v, f t = t := by
  cases v with
  | null => simp [mapTexts, texts]
  | bool b => simp [mapTexts, texts]
  | number written => simp [mapTexts, texts]
  | text t => simp [mapTexts, texts]
  | array items => simp only [mapTexts, texts, array.injEq, mapItems_eq_self_iff]
  | object members => simp only [mapTexts, texts, object.injEq, mapMembers_eq_self_iff]

theorem mapItems_eq_self_iff {f : Text → Text} (items : List Json) :
    mapItems f items = items ↔ ∀ t ∈ textsOfItems items, f t = t := by
  cases items with
  | nil => simp [mapItems, textsOfItems]
  | cons item rest =>
    simp only [mapItems, textsOfItems, List.cons.injEq, List.mem_append, or_imp, forall_and,
      mapTexts_eq_self_iff item, mapItems_eq_self_iff rest]

theorem mapMembers_eq_self_iff {f : Text → Text} (members : List (Text × Json)) :
    mapMembers f members = members ↔ ∀ t ∈ textsOfMembers members, f t = t := by
  cases members with
  | nil => simp [mapMembers, textsOfMembers]
  | cons m rest =>
    obtain ⟨name, value⟩ := m
    simp only [mapMembers, textsOfMembers, List.cons.injEq, Prod.mk.injEq, true_and,
      List.mem_append, or_imp, forall_and, mapTexts_eq_self_iff value, mapMembers_eq_self_iff rest]

end

/-- Reading takes what was printed of a value, at any indentation, with its texts as they are read,
and leaves the rest; fuel of twice as many characters is enough. -/
def ReadsBack (inside shown : Text → Text) (depth : Nat) (v : Json) : Prop :=
  ∀ indent rest fuel, 2 * (printWith inside indent v).length ≤ fuel →
    readValue fuel depth (printWith inside indent v ++ rest) =
      .ok (wide (mapTexts shown v), rest)

variable {inside shown : Text → Text}

/-! ### Blanks between tokens -/

theorem skipSpace_of_not {c : Char} {t : Text} (h : isJsonSpace c = false) :
    skipSpace (c :: t) = c :: t := by
  simp [skipSpace, h]

theorem skipSpace_newLine (depth : Nat) (t : Text) :
    skipSpace (newLine depth ++ t) = skipSpace t := by
  have blanks : ∀ c ∈ newLine depth, isJsonSpace c = true := by
    intro c hc
    rcases List.mem_cons.1 hc with rfl | hc
    · rfl
    · obtain rfl := List.eq_of_mem_replicate hc
      rfl
  exact List.dropWhile_append_of_pos blanks

/-- How a printed value begins. -/
structure Opening (t : Text) : Prop where
  /-- It begins with a character that is no blank, closes no container and is no byte order mark. -/
  head : ∃ c rest, t = c :: rest ∧ isJsonSpace c = false ∧ c ≠ ']' ∧ c ≠ '\x7d' ∧ c ≠ '\ufeff'

theorem opening_bracketed {opening closing : Char} (depth : Nat) (parts : List Text)
    (starts : isJsonSpace opening = false ∧ opening ≠ ']' ∧ opening ≠ '\x7d' ∧ opening ≠ '\ufeff') :
    Opening (bracketed opening closing depth parts) := by
  cases parts with
  | nil => exact ⟨opening, _, rfl, starts⟩
  | cons part rest => exact ⟨opening, _, rfl, starts⟩

theorem opening_printWith (inside : Text → Text) {depth : Nat} {v : Json} (h : Fits depth v)
    (indent : Nat) : Opening (printWith inside indent v) := by
  cases h with
  | null => exact ⟨'n', _, rfl, by decide⟩
  | bool b =>
    cases b
    · exact ⟨'f', _, rfl, by decide⟩
    · exact ⟨'t', _, rfl, by decide⟩
  | text t => exact ⟨'"', _, rfl, by decide⟩
  | array _ => exact opening_bracketed indent _ (by decide)
  | object _ => exact opening_bracketed indent _ (by decide)

theorem Opening.skipSpace_append {t : Text} (h : Opening t) (rest : Text) :
    skipSpace (t ++ rest) = t ++ rest := by
  obtain ⟨c, more, rfl, blank, -⟩ := h.head
  exact skipSpace_of_not blank

theorem Opening.join {part : Text} (h : Opening part) (mark : Text) (parts : List Text) :
    Opening (Text.join mark (part :: parts)) := by
  obtain ⟨c, more, rfl, tests⟩ := h.head
  cases parts with
  | nil => exact ⟨c, more, rfl, tests⟩
  | cons next rest => exact ⟨c, _, rfl, tests⟩

/-! ### Items and members -/

/-- What stands between two parts of a container. -/
def separator (indent : Nat) : Text := ',' :: newLine indent

/-- Printed items are read back, up to the end of their list. -/
theorem readItems_printItemsWith {depth : Nat} {items : List Json} (ne : items ≠ [])
    (fits : ∀ item ∈ items, Fits depth item)
    (back : ∀ item ∈ items, ReadsBack inside shown depth item)
    (indent outer : Nat) (rest : Text) (fuel : Nat)
    (enough :
      2 * (Text.join (separator indent) (printItemsWith inside indent items)).length + 1 ≤ fuel) :
    readItems fuel depth (Text.join (separator indent) (printItemsWith inside indent items) ++
      (newLine outer ++ ']' :: rest)) = .ok (wideItems (mapItems shown items), rest) := by
  induction items generalizing fuel with
  | nil => exact absurd rfl ne
  | cons item more ih =>
    obtain ⟨fuel, rfl⟩ : ∃ f, fuel = f + 1 := ⟨fuel - 1, by omega⟩
    have first := back item (by simp) indent
    -- after the last item comes the end of the list, after any other one a comma
    cases more with
    | nil =>
      simp only [printItemsWith, Text.join_singleton] at enough ⊢
      rw [readItems, first _ _ (by omega)]
      simp only [skipSpace_newLine]
      rw [skipSpace_of_not (by decide)]
      rfl
    | cons next more =>
      have later := ih (by simp) (fun i hi => fits i (by simp [hi]))
        (fun i hi => back i (by simp [hi])) fuel
      have opening := (opening_printWith inside (fits next (by simp)) indent).join
        (separator indent) (printItemsWith inside indent more)
      have tail := opening.skipSpace_append (newLine outer ++ ']' :: rest)
      simp only [printItemsWith, separator] at enough later tail ⊢
      rw [Text.join_cons_cons] at enough ⊢
      simp only [List.length_append, List.length_cons] at enough
      rw [List.append_assoc, List.append_assoc, readItems, first _ _ (by omega), List.cons_append]
      simp only [skipSpace_of_not (show isJsonSpace ',' = false from rfl), skipSpace_newLine, tail]
      rw [later (by omega)]
      rfl

/-- Of a printed member the name and the value are read, and then what comes after it. -/
theorem readMembers_member {depth fuel indent : Nat} {name : Text} {value : Json} {rest : Text}
    (fits : Fits depth value) (back : ReadsBack inside shown depth value)
    (enough : 2 * (printWith inside indent value).length ≤ fuel) :
    readMembers (fuel + 1) depth
        (quote name ++ ':' :: ' ' :: printWith inside indent value ++ rest) =
      match skipSpace rest with
      | '\x7d' :: r => .ok ([(Text.wide name, wide (mapTexts shown value))], r)
      | ',' :: r => (readMembers fuel depth (skipSpace r)).map fun (members, r) =>
          ((Text.wide name, wide (mapTexts shown value)) :: members, r)
      | r => stopAt .comma r := by
  have start : skipSpace (' ' :: (printWith inside indent value ++ rest)) =
      printWith inside indent value ++ rest :=
    (opening_printWith inside fits indent).skipSpace_append rest
  simp only [quote, List.cons_append, List.append_assoc, List.nil_append]
  rw [readMembers, readString_quote]
  simp only [skipSpace_of_not (show isJsonSpace ':' = false from rfl), start]
  rewrite [back indent rest fuel enough]
  rfl

/-- Printed members are read back, up to the end of their object. -/
theorem readMembers_printMembersWith {depth : Nat} {members : List (Text × Json)}
    (ne : members ≠ [])
    (fits : ∀ m ∈ members, Fits depth m.2) (back : ∀ m ∈ members, ReadsBack inside shown depth m.2)
    (indent outer : Nat) (rest : Text) (fuel : Nat)
    (enough :
      2 * (Text.join (separator indent) (printMembersWith inside indent members)).length + 1 ≤
        fuel) :
    readMembers fuel depth (Text.join (separator indent) (printMembersWith inside indent members) ++
      (newLine outer ++ '\x7d' :: rest)) = .ok (wideMembers (mapMembers shown members), rest) := by
  induction members generalizing fuel with
  | nil => exact absurd rfl ne
  | cons member more ih =>
    obtain ⟨name, value⟩ := member
    obtain ⟨fuel, rfl⟩ : ∃ f, fuel = f + 1 := ⟨fuel - 1, by omega⟩
    have fitsFirst : Fits depth value := fits (name, value) (by simp)
    have backFirst : ReadsBack inside shown depth value := back (name, value) (by simp)
    cases more with
    | nil =>
      simp only [printMembersWith, Text.join_singleton, List.length_append,
        List.length_cons] at enough
      rw [printMembersWith, printMembersWith, Text.join_singleton,
        readMembers_member fitsFirst backFirst (by omega), skipSpace_newLine,
        skipSpace_of_not (by decide)]
      rfl
    | cons next more =>
      -- after the comma the reader skips blanks, and the next name begins with no blank
      have later := ih (by simp) (fun m hm => fits m (by simp [hm]))
        (fun m hm => back m (by simp [hm])) fuel
      have opening : Opening (quote next.1 ++ ':' :: ' ' :: printWith inside indent next.2) :=
        ⟨'"', _, rfl, by decide⟩
      have opening := opening.join (separator indent) (printMembersWith inside indent more)
      have tail := opening.skipSpace_append (newLine outer ++ '\x7d' :: rest)
      simp only [printMembersWith, separator] at enough later tail ⊢
      rw [Text.join_cons_cons] at enough ⊢
      simp only [List.length_append, List.length_cons] at enough
      rw [List.append_assoc, List.append_assoc,
        readMembers_member fitsFirst backFirst (by omega), List.cons_append,
        skipSpace_of_not (by decide)]
      simp only [skipSpace_newLine, tail]
      rw [later (by omega)]
      rfl

/-! ### Values -/

theorem readValue_array {fuel depth : Nat} {blanks t rest : Text} (opening : Opening t)
    (space : skipSpace blanks = t ++ rest) :
    readValue (fuel + 1) (depth + 1) ('[' :: blanks) =
      (readItems fuel depth (t ++ rest)).map fun (items, r) => (.array items, r) := by
  obtain ⟨c, more, rfl, -, goesOn, -⟩ := opening.head
  simp only [readValue, space]
  split
  · rename_i none
    cases none
  · rename_i closed
    exact absurd (List.cons.inj closed).1 goesOn
  · rename_i same _
    cases same
    rfl

theorem readValue_object {fuel depth : Nat} {blanks t rest : Text} (opening : Opening t)
    (space : skipSpace blanks = t ++ rest) :
    readValue (fuel + 1) (depth + 1) ('\x7b' :: blanks) =
      (readMembers fuel depth (t ++ rest)).map fun (members, r) => (.object members, r) := by
  obtain ⟨c, more, rfl, -, -, goesOn, -⟩ := opening.head
  simp only [readValue, space]
  split
  · rename_i none
    cases none
  · rename_i closed
    exact absurd (List.cons.inj closed).1 goesOn
  · rename_i same _
    cases same
    rfl

/-- **Reading back.** Every value without numbers, nested no deeper than the reader goes, is read
back as it was printed, with its texts as the insides of their strings are read. -/
theorem readsBack_of_fits (reads : ∀ t, ReadAs (inside t) (shown t)) {depth : Nat} {v : Json}
    (h : Fits depth v) : ReadsBack inside shown depth v := by
  induction h with
  | null =>
    intro indent rest fuel enough
    -- what was printed is not empty, so there is fuel
    obtain ⟨fuel, rfl⟩ : ∃ f, fuel = f + 1 :=
      ⟨fuel - 1, by simp [printWith, print] at enough; omega⟩
    rfl
  | bool b =>
    intro indent rest fuel enough
    obtain ⟨fuel, rfl⟩ : ∃ f, fuel = f + 1 :=
      ⟨fuel - 1, by cases b <;> simp [printWith, print] at enough <;> omega⟩
    cases b <;> rfl
  | text t =>
    intro indent rest fuel enough
    obtain ⟨fuel, rfl⟩ : ∃ f, fuel = f + 1 :=
      ⟨fuel - 1, by simp [printWith] at enough; omega⟩
    rw [printWith, List.append_assoc, List.cons_append, List.singleton_append, readValue,
      (reads t).readString]
    rfl
  | @array depth items each ih =>
    intro indent rest fuel enough
    obtain ⟨fuel, rfl⟩ : ∃ f, fuel = f + 1 :=
      ⟨fuel - 1, by cases items <;> simp [printWith, printItemsWith, bracketed] at enough <;> omega⟩
    cases items with
    | nil => rfl
    | cons item more =>
      have opening := (opening_printWith inside (each item (by simp)) (indent + 1)).join
        (separator (indent + 1)) (printItemsWith inside (indent + 1) more)
      have back := readItems_printItemsWith (by simp) each ih (indent + 1) indent rest fuel
      have space := opening.skipSpace_append (newLine indent ++ ']' :: rest)
      rw [← skipSpace_newLine (indent + 1)] at space
      simp only [printWith, printItemsWith, bracketed, separator, List.cons_append,
        List.append_assoc, List.nil_append, List.length_cons,
        List.length_append] at enough space back opening ⊢
      rw [readValue_array opening space, back (by omega)]
      rfl
  | @object depth members each ih =>
    intro indent rest fuel enough
    obtain ⟨fuel, rfl⟩ : ∃ f, fuel = f + 1 :=
      ⟨fuel - 1, by
        cases members <;> simp [printWith, printMembersWith, bracketed] at enough <;> omega⟩
    cases members with
    | nil => rfl
    | cons member more =>
      obtain ⟨name, value⟩ := member
      have first : Opening (quote name ++ ':' :: ' ' :: printWith inside (indent + 1) value) :=
        ⟨'"', _, rfl, by decide⟩
      have opening := first.join (separator (indent + 1))
        (printMembersWith inside (indent + 1) more)
      have back := readMembers_printMembersWith (by simp) each ih (indent + 1) indent rest fuel
      have space := opening.skipSpace_append (newLine indent ++ '\x7d' :: rest)
      rw [← skipSpace_newLine (indent + 1)] at space
      simp only [printWith, printMembersWith, bracketed, separator, List.cons_append,
        List.append_assoc, List.nil_append, List.length_cons,
        List.length_append] at enough space back opening ⊢
      rw [readValue_object opening space, back (by omega)]
      rfl

/-! ### Characters -/

/-- A character of a printed value: visible ASCII, or the end of a line. -/
def IsPrinted (c : Char) : Prop := isVisible c = true ∨ c = '\n'

theorem isPrinted_newLine {depth : Nat} : ∀ c ∈ newLine depth, IsPrinted c := by
  intro c hc
  rcases List.mem_cons.1 hc with rfl | hc
  · exact .inr rfl
  · obtain rfl := List.eq_of_mem_replicate hc
    exact .inl (by decide)

theorem isPrinted_quote (t : Text) : ∀ c ∈ quote t, IsPrinted c := by
  intro c hc
  simp only [quote, List.cons_append, List.mem_cons, List.mem_append, List.mem_flatMap,
    List.not_mem_nil, or_false] at hc
  rcases hc with rfl | ⟨d, -, hd⟩ | rfl
  · exact .inl (by decide)
  · exact .inl (escape_ascii d c hd)
  · exact .inl (by decide)

theorem isPrinted_bracketed {opening closing : Char} {depth : Nat} {parts : List Text}
    (first : IsPrinted opening) (last : IsPrinted closing)
    (each : ∀ part ∈ parts, ∀ c ∈ part, IsPrinted c) :
    ∀ c ∈ bracketed opening closing depth parts, IsPrinted c := by
  intro c hc
  unfold bracketed at hc
  split at hc
  · simp only [List.mem_cons, List.not_mem_nil, or_false] at hc
    rcases hc with rfl | rfl
    · exact first
    · exact last
  · simp only [List.cons_append, List.append_assoc, List.mem_cons, List.mem_append,
      List.not_mem_nil, or_false] at hc
    rcases hc with rfl | hc | hc | hc | rfl
    · exact first
    · exact isPrinted_newLine c hc
    · rcases Text.mem_join hc with hc | ⟨part, hp, hc⟩
      · rcases List.mem_cons.1 hc with rfl | hc
        · exact .inl (by decide)
        · exact isPrinted_newLine c hc
      · exact each part hp c hc
    · exact isPrinted_newLine c hc
    · exact last

theorem printItems_eq_map (depth : Nat) (items : List Json) :
    printItems depth items = items.map (print depth) := by
  induction items with
  | nil => rfl
  | cons item rest ih => rw [printItems, ih, List.map_cons]

theorem printMembers_eq_map (depth : Nat) (members : List (Text × Json)) :
    printMembers depth members =
      members.map fun m => quote m.1 ++ ':' :: ' ' :: print depth m.2 := by
  induction members with
  | nil => rfl
  | cons m rest ih => rw [printMembers, ih, List.map_cons]

theorem isPrinted_of_all {t : Text} (h : t.all isVisible = true) : ∀ c ∈ t, IsPrinted c := by
  intro c hc
  exact .inl (List.all_eq_true.1 h c hc)

/-- A printed value is visible ASCII and ends of lines. -/
theorem isPrinted_print {depth : Nat} {v : Json} (h : Fits depth v) (indent : Nat) :
    ∀ c ∈ print indent v, IsPrinted c := by
  induction h generalizing indent with
  | null =>
    show ∀ c ∈ "null".toList, IsPrinted c
    exact isPrinted_of_all (by decide)
  | bool b =>
    cases b
    · show ∀ c ∈ "false".toList, IsPrinted c
      exact isPrinted_of_all (by decide)
    · show ∀ c ∈ "true".toList, IsPrinted c
      exact isPrinted_of_all (by decide)
  | text t => exact isPrinted_quote t
  | array each ih =>
    refine isPrinted_bracketed (.inl (by decide)) (.inl (by decide)) ?_
    intro part hp
    rw [printItems_eq_map] at hp
    obtain ⟨item, hi, rfl⟩ := List.mem_map.1 hp
    exact ih item hi (indent + 1)
  | object each ih =>
    refine isPrinted_bracketed (.inl (by decide)) (.inl (by decide)) ?_
    intro part hp c hc
    rw [printMembers_eq_map] at hp
    obtain ⟨m, hm, rfl⟩ := List.mem_map.1 hp
    rcases List.mem_append.1 hc with hc | hc
    · exact isPrinted_quote m.1 c hc
    · simp only [List.mem_cons] at hc
      rcases hc with rfl | rfl | hc
      · exact .inl (by decide)
      · exact .inl (by decide)
      · exact ih m hm (indent + 1) c hc

/-! ### Whole texts -/

theorem isPrinted_render {v : Json} (h : Fits maxDepth v) : ∀ c ∈ render v, IsPrinted c :=
  isPrinted_print h 0

/-- A value that was printed, and blanks after it, are read as the value with its texts as the
insides of their strings are read. -/
theorem parse_printWith (reads : ∀ t, ReadAs (inside t) (shown t)) {v : Json}
    (h : Fits maxDepth v) {tail : Text} (blank : skipSpace tail = []) :
    parse (printWith inside 0 v ++ tail) = .ok (wide (mapTexts shown v)) := by
  have opening := opening_printWith inside h 0
  have space := opening.skipSpace_append tail
  have back := readsBack_of_fits reads h 0 tail (enoughFuel (printWith inside 0 v ++ tail))
    (by unfold enoughFuel; rw [List.length_append]; omega)
  have all : readAll (printWith inside 0 v ++ tail) = .ok (wide (mapTexts shown v)) := by
    unfold readAll
    split
    · rename_i rest mark
      obtain ⟨c, more, starts, -, -, -, noMark⟩ := opening.head
      rw [starts, List.cons_append] at mark
      exact absurd (List.cons.inj mark).1 noMark
    · rw [space, back]
      simp only [blank]
  rw [parse, all]

theorem parse_render {v : Json} (h : Fits maxDepth v) : parse (render v) = .ok (wide v) := by
  have reads : ∀ t : Text, ReadAs (t.flatMap escape) (id t) := readAs_flatMap_escape
  have noTail : skipSpace [] = [] := rfl
  have back := parse_printWith reads h noTail
  have same : mapTexts id v = v := (mapTexts_eq_self_iff v).2 fun _ _ => rfl
  rwa [List.append_nil, same, ← print_eq_printWith] at back

end Json

end DocSnippets
