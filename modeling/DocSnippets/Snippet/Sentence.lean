import DocSnippets.Snippet.Basic
import DocSnippets.Text.Blank

/-!
# DocSnippets.Snippet.Sentence

**The first sentence of a paragraph.** A sentence ends with a full stop, a question mark or an
exclamation mark, the closing quotes and backticks right after it included, where the line ends or
a blank follows. A paragraph ends at the first blank line.
-/

namespace DocSnippets

/-- Whether a character ends a sentence. -/
def isTerminator (c : Char) : Bool := c == '.' || c == '?' || c == '!'

/-- Whether a character may close a quotation after the end of a sentence. -/
def isCloser (c : Char) : Bool := c == '\x60' || c == '\x27' || c == '\x22'

/-- Whether a text is empty or begins with a blank. -/
def startsBlank : Text → Bool
  | [] => true
  | c :: _ => isSpace c

/-- The column right after the first sentence end of a line. -/
def sentenceEnd? : Text → Option Nat
  | [] => none
  | c :: rest =>
    if isTerminator c && startsBlank (rest.dropWhile isCloser) then
      some ((rest.takeWhile isCloser).length + 1)
    else (sentenceEnd? rest).map (· + 1)

/-- A sentence end lies within its line, after at least one character. -/
theorem sentenceEnd?_le {line : Text} {column : Nat} (h : sentenceEnd? line = some column) :
    0 < column ∧ column ≤ line.length := by
  induction line generalizing column with
  | nil => simp [sentenceEnd?] at h
  | cons c rest ih =>
    simp only [sentenceEnd?] at h
    split at h
    · obtain rfl := Option.some.inj h
      have := (List.takeWhile_sublist isCloser (l := rest)).length_le
      simp only [List.length_cons]
      omega
    · obtain ⟨k, hk, rfl⟩ := Option.map_eq_some_iff.1 h
      have := ih hk
      simp only [List.length_cons]
      omega

/-- A sentence and where it stops, the lines counted from the one where the paragraph opens. -/
structure Sentence where
  /-- The text of the sentence, its lines joined by line feeds. -/
  text : Text
  /-- The point right after the sentence. -/
  stop : Position
  deriving DecidableEq, Repr

/-- A sentence with a whole line in front of it. -/
def Sentence.after (line : Text) (s : Sentence) : Sentence :=
  ⟨line ++ '\n' :: s.text, ⟨s.stop.line + 1, s.stop.column⟩⟩

/-- The first sentence of the paragraph that the lines begin with. -/
def leadingSentence? : List Text → Option Sentence
  | [] => none
  | line :: rest =>
    if line.isBlank then none
    else
      match sentenceEnd? line with
      | some column => some ⟨line.take column, ⟨0, column⟩⟩
      | none => (leadingSentence? rest).map (·.after line)

/-- The first sentence of the paragraph that opens at the start line, its point counted from the
first line. -/
def firstSentence? (ls : List Text) (start : Nat) : Option Sentence :=
  (leadingSentence? (ls.drop start)).map fun s =>
    ⟨s.text, ⟨start + s.stop.line, s.stop.column⟩⟩

/-- The text of a sentence is the lines before its last one and a start of that line. -/
theorem Sentence.text_eq {ls : List Text} {s : Sentence} (h : leadingSentence? ls = some s) :
    ∃ hs : s.stop.line < ls.length,
      s.text = Text.join ['\n'] (ls.take s.stop.line ++ [ls[s.stop.line].take s.stop.column]) := by
  induction ls generalizing s with
  | nil => simp [leadingSentence?] at h
  | cons line rest ih =>
    simp only [leadingSentence?] at h
    split at h
    · simp at h
    · split at h
      · obtain rfl := Option.some.inj h
        exact ⟨by simp, by simp⟩
      · obtain ⟨t, ht, rfl⟩ := Option.map_eq_some_iff.1 h
        obtain ⟨hl, htext⟩ := ih ht
        refine ⟨by simpa [Sentence.after] using hl, ?_⟩
        simp [Sentence.after, htext, Text.join_cons_of_ne_nil]

end DocSnippets
