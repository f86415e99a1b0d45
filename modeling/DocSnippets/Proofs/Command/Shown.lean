import DocSnippets.Proofs.Command.Endings
import DocSnippets.Proofs.Command.Trace
import DocSnippets.Proofs.Json.Shown

/-!
# DocSnippets.Proofs.Command.Shown

**What a build shows as JSON, beside what it writes.** Both come from the same text, but the one
that is shown has its shortcodes replaced. That is still JSON, of the same records and errors with
their texts as they are shown. So the two agree just if no string of the artifact has a known
shortcode: one such text among keys, synopses, usage examples, file paths and messages is enough to
make them differ.
-/

namespace DocSnippets

/-! ### The texts of an artifact -/

namespace Artifact

/-- The texts that an artifact holds: file paths and messages, usage examples, keys and synopses. -/
def texts (records : List Record) (errors : List SourceError) : List Text :=
  errors.flatMap (fun e => [e.filePath, e.message]) ++
    records.flatMap fun r => r.usage.toList ++ r.key :: r.synopsis.toList

theorem textsOfItems_map {α : Type} (json : α → Json) (as : List α) :
    Json.textsOfItems (as.map json) = as.flatMap fun a => (json a).texts := by
  induction as with
  | nil => rfl
  | cons a rest ih => rw [List.map_cons, Json.textsOfItems, ih, List.flatMap_cons]

theorem texts_recordJson (r : Record) :
    (recordJson r).texts = r.usage.toList ++ r.key :: r.synopsis.toList := by
  have optional : ∀ t : Option Text, (Json.ofText? t).texts = t.toList := by
    intro t
    cases t <;> rfl
  simp [recordJson, Json.texts, Json.textsOfMembers, optional]

theorem texts_toJson (records : List Record) (errors : List SourceError) :
    (toJson records errors).texts = texts records errors := by
  simp [toJson, Json.texts, Json.textsOfMembers, textsOfItems_map, texts_recordJson, errorJson,
    texts]

theorem unmarked_ofText? (t : Option Text) : Json.Unmarked (Json.ofText? t) := by
  cases t with
  | none => exact .null
  | some t => exact .text t

theorem unmarked_recordJson (r : Record) : Json.Unmarked (recordJson r) := by
  have names : ∀ name ∈ ["example".toList, "key".toList, "synopsis".toList], ':' ∉ name := by decide
  refine .object names fun m hm => ?_
  simp only [List.mem_cons, List.not_mem_nil, or_false] at hm
  rcases hm with rfl | rfl | rfl
  · exact unmarked_ofText? r.usage
  · exact .text r.key
  · exact unmarked_ofText? r.synopsis

theorem unmarked_errorJson (e : SourceError) : Json.Unmarked (errorJson e) := by
  have names : ∀ name ∈ ["file_path".toList, "message".toList], ':' ∉ name := by decide
  refine .object names fun m hm => ?_
  simp only [List.mem_cons, List.not_mem_nil, or_false] at hm
  rcases hm with rfl | rfl
  · exact .text e.filePath
  · exact .text e.message

theorem unmarked_toJson (records : List Record) (errors : List SourceError) :
    Json.Unmarked (toJson records errors) := by
  have names : ∀ name ∈ ["errors".toList, "records".toList], ':' ∉ name := by decide
  refine .object names fun m hm => ?_
  simp only [List.mem_cons, List.not_mem_nil, or_false] at hm
  rcases hm with rfl | rfl
  · refine .array fun item hi => ?_
    obtain ⟨e, -, rfl⟩ := List.mem_map.1 hi
    exact unmarked_errorJson e
  · refine .array fun item hi => ?_
    obtain ⟨r, -, rfl⟩ := List.mem_map.1 hi
    exact unmarked_recordJson r

/-- **What is shown of an artifact** is read as its JSON with the texts as they are shown. It is the
text of the artifact, and is read as its JSON, just if no shortcode in its strings is known. -/
theorem shown_iff (records : List Record) (errors : List SourceError) :
    let shown := expandShortcodes (text records errors) ++ ['\n']
    let plain := ∀ t ∈ texts records errors, expandShortcodes (Json.quote t) = Json.quote t
    Json.parse shown = .ok ((toJson records errors).mapTexts Json.asShown).wide ∧
      (shown = text records errors ++ ['\n'] ↔ plain) ∧
      (Json.parse shown = .ok (toJson records errors).wide ↔ plain) := by
  intro shown plain
  have fits : Json.Fits Json.maxDepth (toJson records errors) := fits_toJson records errors
  have unmarked := unmarked_toJson records errors
  have read : Json.parse shown = _ := Json.parse_expandShortcodes_render fits unmarked rfl
  have kept : plain ↔ ∀ t ∈ (toJson records errors).texts, Json.asShown t = t := by
    rw [texts_toJson]
    exact forall₂_congr fun t _ => Json.expandShortcodes_quote_eq_iff
  obtain ⟨sameText, sameJson⟩ := Json.expandShortcodes_render_eq_iff fits unmarked
  refine ⟨read, ?_, ?_⟩
  · rw [kept, ← sameText]
    exact List.append_left_inj _
  · rw [read, kept, ← sameJson, Except.ok.injEq, Json.wide_inj]

end Artifact

namespace Command

/-! ### Builds -/

/-- A build that ends well and is to show JSON shows the text of its artifact with the shortcodes
replaced. The artifact, where one is asked for, was written as it is. -/
theorem exists_shown {t : Tree} {r : BuildRequest} (json : r.format = .json)
    (ok : (runBuild t r).ending = exitOk) :
    ∃ result, r.Runs t result ∧
      let written := Artifact.text result.records result.errors
      (runBuild t r).stdout = expandShortcodes written ++ ['\n'] ∧
        ∀ p, r.target? = some p → (runBuild t r).tree.read p = .ok (Utf8.encode written) := by
  rcases runBuild_stages t r with ⟨m, stops⟩ | ⟨result, runs⟩
  · obtain ⟨-, -, notOk, -⟩ := stops_leaves stops
    exact absurd ok notOk
  · rw [runBuild_of_runs runs] at ok ⊢
    cases hw : (r.written t result).2 with
    | some f =>
      obtain ⟨-, -, notOk, -⟩ := unwritten_leaves hw
      exact absurd ok notOk
    | none =>
      rw [deliver_of_written hw, json]
      refine ⟨result, runs, rfl, fun p asked => ?_⟩
      rw [written_of_target?_eq_some asked] at hw ⊢
      exact Artifact.read_of_write hw

/-- **What a build shows, and what it writes.** A build that ends well and is to show JSON shows the
text of its artifact with the shortcodes replaced, and a line feed. That is JSON: the records and
errors of the build with their texts as they are shown. The artifact itself, where one is asked for,
is written as it is. What is shown is the text of the artifact, and is read as the records and
errors of the build, just if no shortcode in their strings is known. -/
theorem build_shows {t : Tree} {args : List Text} {r : BuildRequest}
    (parsed : parse args = .ok (.build r)) (json : r.format = .json)
    (ok : (run t args).ending = exitOk) :
    let after := run t args
    ∃ result, r.Runs t result ∧
      let written := Artifact.text result.records result.errors
      let payload := Artifact.toJson result.records result.errors
      let plain := ∀ s ∈ Artifact.texts result.records result.errors,
        expandShortcodes (Json.quote s) = Json.quote s
      after.stdout = expandShortcodes written ++ ['\n'] ∧
        Json.parse after.stdout = .ok (payload.mapTexts Json.asShown).wide ∧
        (∀ p, r.target? = some p → after.tree.read p = .ok (Utf8.encode written)) ∧
        (after.stdout = written ++ ['\n'] ↔ plain) ∧
        (Json.parse after.stdout = .ok payload.wide ↔ plain) := by
  have ran : run t args = runBuild t r := by
    rw [run, parsed]
    rfl
  rw [ran] at ok ⊢
  intro after
  obtain ⟨result, runs, stdout, file⟩ := exists_shown json ok
  -- from here on it is a fact about artifacts, of any records and errors
  have shown := Artifact.shown_iff result.records result.errors
  rw [← stdout] at shown
  exact ⟨result, runs, stdout, shown.1, file, shown.2⟩

/-! ### One page -/

/-- The arguments that build the table of a folder as JSON and write it. -/
def manArgs : List Text :=
  ["build".toList, "--path=man".toList, "--format=json".toList, "--output=t".toList]

/-- What those arguments ask for. -/
def manRequest : BuildRequest :=
  ⟨[some "man".toList], ".rst".toList, [], some 1, .json, some ['t']⟩

theorem parse_manArgs : parse manArgs = .ok (.build manRequest) := by decide +kernel

theorem texts_of_runs {t : Tree} {result : Build.Result} {texts : List Text}
    (h : manRequest.Runs t result)
    (computed : (Build.run ⟨".rst".toList, [], 1, .standard, by decide, by decide⟩ t
      [.ofText "man".toList]).map (fun r => Artifact.texts r.records r.errors) = .ok texts) :
    Artifact.texts result.records result.errors = texts := by
  obtain ⟨-, roots, plan, hroots, hplan, built⟩ := h
  cases hroots
  cases hplan
  have mapped := congrArg (Except.map fun r => Artifact.texts r.records r.errors) built
  exact Except.ok.inj (mapped.symm.trans computed)

/-- A page without shortcodes is shown as it is written. -/
theorem build_shows_plainTree :
    let after := run plainTree manArgs
    ∃ result, manRequest.Runs plainTree result ∧
      let written := Artifact.text result.records result.errors
      after.stdout = written ++ ['\n'] ∧
        Json.parse after.stdout = .ok (Artifact.toJson result.records result.errors).wide ∧
        after.tree.read (.ofText ['t']) = .ok (Utf8.encode written) := by
  intro after
  have ok : after.ending = exitOk := by decide +kernel
  obtain ⟨result, runs, -, -, file, sameText, sameJson⟩ := build_shows parse_manArgs rfl ok
  have texts : _ = ["page".toList, "A.".toList] := texts_of_runs runs (by decide +kernel)
  rw [texts] at sameText sameJson
  have plain : ∀ s ∈ ["page".toList, "A.".toList],
      expandShortcodes (Json.quote s) = Json.quote s := by
    decide +kernel
  exact ⟨result, runs, sameText.2 plain, sameJson.2 plain, file _ rfl⟩

/-- A page whose synopsis has a shortcode. -/
def shortcodeTree : Tree := onePage (Utf8.encode "t\n\nPress :100: now.\n".toList)

/-- That page is written as it is, and something else is shown. -/
theorem shortcode_not_shown :
    let after := run shortcodeTree manArgs
    after.ending = exitOk ∧ ∃ result, manRequest.Runs shortcodeTree result ∧
      let written := Artifact.text result.records result.errors
      after.tree.read (.ofText ['t']) = .ok (Utf8.encode written) ∧
        after.stdout ≠ written ++ ['\n'] ∧
        Json.parse after.stdout ≠ .ok (Artifact.toJson result.records result.errors).wide := by
  intro after
  have ran : after = runBuild shortcodeTree manRequest := by
    show run shortcodeTree manArgs = _
    rw [run, parse_manArgs]
    rfl
  have ok : (runBuild shortcodeTree manRequest).ending = exitOk := by decide +kernel
  obtain ⟨result, runs, stdout, file⟩ := exists_shown rfl ok
  obtain ⟨-, sameText, sameJson⟩ := Artifact.shown_iff result.records result.errors
  have texts : _ = ["page".toList, "Press :100: now.".toList] :=
    texts_of_runs runs (by decide +kernel)
  rw [texts] at sameText sameJson
  have marked : ¬ ∀ s ∈ ["page".toList, "Press :100: now.".toList],
      expandShortcodes (Json.quote s) = Json.quote s := by
    decide +kernel
  rw [← stdout] at sameText sameJson
  rw [ran]
  exact ⟨ok, result, runs, file _ rfl, fun same => marked (sameText.1 same),
    fun same => marked (sameJson.1 same)⟩

end Command

end DocSnippets
