import DocSnippets.Proofs.Command.Stages
import DocSnippets.Proofs.Text.Quoted

/-!
# DocSnippets.Proofs.Command.ErrorLines

**Pages that could not be read, one line each.** A build that ends well tells on the standard error
which pages it could not read, and tells nothing else there. The path and the message are quoted, so
the line of a page stays one line whatever the path holds, and says which path and which message it
tells of. What is told can therefore be taken apart again in one way only.

A text between quote marks is known where it stands, whatever follows (`Quoted.quote_append_inj`),
so a line can be cut after the path and the message is what is left. `build_tells_errors` puts this
together for the standard error of a build.
-/

namespace DocSnippets

/-- Lines that are written each with a line feed after it are the lines of the text. -/
theorem Text.lines_flatMap_lineFeed {texts : List Text}
    (whole : ∀ text ∈ texts, ∀ c ∈ text, isBreak c = false) :
    Text.lines (texts.flatMap fun text => text ++ ['\n']) = texts := by
  induction texts with
  | nil => exact lines_nil
  | cons text rest ih =>
    obtain ⟨first, others⟩ := List.forall_mem_cons.1 whole
    rw [List.flatMap_cons, List.append_assoc, List.singleton_append, lines_append_break first,
      ih others]

namespace Command

/-! ### One line -/

/-- The words before the path. -/
def beforePath : Text := "source_error: SourceError(file_path=".toList

/-- The words between the path and the message. -/
def beforeMessage : Text := ", message=".toList

/-- What is told of a page that could not be read, up to the end of the line. -/
def errorLine (e : SourceError) : Text :=
  beforePath ++ (Quoted.quote e.filePath ++ (beforeMessage ++ (Quoted.quote e.message ++ [')'])))

theorem sourceErrorLine_eq (e : SourceError) : sourceErrorLine e = errorLine e ++ ['\n'] := by
  have parts (start path words message : Text) : start ++ path ++ words ++ message ++ [')', '\n'] =
      start ++ (path ++ (words ++ (message ++ [')']))) ++ ['\n'] := by simp
  exact parts beforePath (Quoted.quote e.filePath) beforeMessage (Quoted.quote e.message)

theorem prefix_errorLine (e : SourceError) : "source_error: ".toList <+: errorLine e := by
  have start : "source_error: ".toList <+: beforePath := by decide +kernel
  exact start.trans (List.prefix_append _ _)

theorem errorLine_injective : Function.Injective errorLine := by
  intro e f h
  obtain ⟨path, later⟩ := Quoted.quote_append_inj (List.append_cancel_left h)
  obtain ⟨message, -⟩ := Quoted.quote_append_inj (List.append_cancel_left later)
  cases e
  cases f
  cases path
  cases message
  rfl

/-- A line feed in a path is no line feed in the line. -/
example : errorLine ⟨"a\n'b.rst".toList, ['c']⟩ =
    "source_error: SourceError(file_path=\"a\\n'b.rst\", message='c')".toList := by
  decide +kernel

theorem isBreak_of_mem_errorLine {e : SourceError} {c : Char} (h : c ∈ errorLine e) :
    isBreak c = false := by
  have unbroken : (beforePath ++ beforeMessage ++ [')']).all (isBreak · == false) = true := by
    decide +kernel
  have words := fun c known => eq_of_beq (List.all_eq_true.1 unbroken c known)
  simp only [errorLine, List.mem_append] at h words
  rcases h with h | h | h | h | h
  · exact words c (.inl (.inl h))
  · exact Quoted.isBreak_of_mem_quote h
  · exact words c (.inl (.inr h))
  · exact Quoted.isBreak_of_mem_quote h
  · exact words c (.inr h)

/-! ### Several lines -/

theorem sourceErrorLines_eq (errors : List SourceError) :
    sourceErrorLines errors = (errors.map errorLine).flatMap fun line => line ++ ['\n'] := by
  rw [sourceErrorLines, List.flatMap_map]
  exact congrArg errors.flatMap (funext sourceErrorLine_eq)

theorem lines_sourceErrorLines (errors : List SourceError) :
    Text.lines (sourceErrorLines errors) = errors.map errorLine := by
  rw [sourceErrorLines_eq]
  refine Text.lines_flatMap_lineFeed fun line h c hc => ?_
  obtain ⟨e, -, rfl⟩ := List.mem_map.1 h
  exact isBreak_of_mem_errorLine hc

theorem sourceErrorLines_injective : Function.Injective sourceErrorLines := by
  intro errors others h
  have lines := congrArg Text.lines h
  rw [lines_sourceErrorLines, lines_sourceErrorLines] at lines
  exact errorLine_injective.list_map lines

/-! ### Builds -/

theorem present_stderr (t : Tree) (format : Format) (result : Build.Result) :
    (present t format result).stderr = sourceErrorLines result.errors := by
  unfold present
  split
  · rfl
  · rfl

theorem stderr_of_deliver {t : Tree} {r : BuildRequest} {result : Build.Result}
    (ok : (deliver t r.output r.format result).ending = exitOk) :
    (deliver t r.output r.format result).stderr = sourceErrorLines result.errors := by
  cases hw : (r.written t result).2 with
  | none => rw [deliver_of_written hw, present_stderr]
  | some f =>
    rw [deliver_of_unwritten hw] at ok
    split at ok
    · cases ok
    · cases ok

/-- **What a build tells of the pages it could not read.** A build that ends well writes to the
standard error one line for each of its errors, in their order, and nothing else. Each line begins
alike and has no line break in it, whatever the path and the message hold, and lines that tell of
different paths or messages differ; so only these errors are told like that. -/
theorem build_tells_errors {t : Tree} {args : List Text} {r : BuildRequest}
    (parsed : parse args = .ok (.build r)) (ok : (run t args).ending = exitOk) :
    ∃ result, r.Builds t result ∧
      (run t args).stderr = (result.errors.map errorLine).flatMap (fun line => line ++ ['\n']) ∧
      (run t args).stderr.lines = result.errors.map errorLine ∧
      (∀ e, "source_error: ".toList <+: errorLine e ∧ ∀ c ∈ errorLine e, isBreak c = false) ∧
      (∀ e f, errorLine e = errorLine f → e = f) ∧
      ∀ errors, sourceErrorLines errors = (run t args).stderr → errors = result.errors := by
  have ran : run t args = runBuild t r := by
    rw [run, parsed]
    rfl
  rw [ran] at ok ⊢
  obtain ⟨result, built, delivered⟩ := exists_builds ok
  rw [delivered] at ok ⊢
  have told := stderr_of_deliver ok
  refine ⟨result, built, ?_, ?_,
    fun e => ⟨prefix_errorLine e, fun c => isBreak_of_mem_errorLine⟩,
    fun e f => @errorLine_injective e f, fun errors same => ?_⟩
  · rw [told, sourceErrorLines_eq]
  · rw [told, lines_sourceErrorLines]
  · exact sourceErrorLines_injective (same.trans told)

/-! ### A page named like a line -/

/-- A folder with two pages that are no UTF-8. The name of the first one goes on like a line after a
line feed. -/
def forgingTree : Tree where
  entries := [
    ([.of "guide"], .folder),
    ([.of "guide", .of "x\nsource_error: y.rst"], .file [0xFF]),
    ([.of "guide", .of "z.rst"], .file [0x41, 0xC3])]

/-- The arguments that build its table. -/
def forgingArgs : List Text := ["build".toList, "--path=guide".toList, "--format=json".toList]

/-- What those arguments ask for. -/
def forgingRequest : BuildRequest :=
  ⟨[some "guide".toList], ".rst".toList, [], some 1, .json, none⟩

/-- The errors of that build. -/
def forgingErrors : List SourceError :=
  [⟨"x\nsource_error: y.rst".toList,
      "'utf-8' codec can't decode byte 0xff in position 0: invalid start byte".toList⟩,
    ⟨"z.rst".toList,
      "'utf-8' codec can't decode byte 0xc3 in position 1: unexpected end of data".toList⟩]

/-- Both pages are told of on one line each. -/
theorem build_tells_errors_forging :
    let after := run forgingTree forgingArgs
    parse forgingArgs = .ok (.build forgingRequest) ∧ after.ending = exitOk ∧
      after.stderr.lines = forgingErrors.map errorLine ∧
      ∀ line ∈ after.stderr.lines, "source_error: ".toList <+: line ∧ '\n' ∉ line := by
  intro after
  have parsed : parse forgingArgs = .ok (.build forgingRequest) := by decide +kernel
  have ok : after.ending = exitOk := by decide +kernel
  obtain ⟨result, ⟨roots, plan, hroots, hplan, built⟩, -, lines, each, -⟩ :=
    build_tells_errors parsed ok
  cases hroots
  cases hplan
  have computed : (Build.run ⟨".rst".toList, [], 1, .standard, by decide, by decide⟩ forgingTree
      [.ofText "guide".toList]).map Build.Result.errors = .ok forgingErrors := by decide +kernel
  have told := congrArg (Except.map Build.Result.errors) built
  have errors : result.errors = forgingErrors := Except.ok.inj (told.symm.trans computed)
  rw [errors] at lines
  refine ⟨parsed, ok, lines, fun line h => ?_⟩
  rw [lines] at h
  obtain ⟨e, -, rfl⟩ := List.mem_map.1 h
  obtain ⟨start, whole⟩ := each e
  exact ⟨start, fun feed => absurd (whole _ feed) (by decide)⟩

end Command

end DocSnippets
