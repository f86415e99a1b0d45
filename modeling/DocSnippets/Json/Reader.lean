import DocSnippets.Json.Value
import DocSnippets.Text.Hex

/-!
# DocSnippets.Json.Reader

**Reading JSON.** The text is read from left to right; a fault is told with the place where it
came up, given by how many characters were left there. Beside the standard, `NaN` and the two
infinities are numbers. An integer of very many digits is refused, and so is a value within very
many others. What is read is made of code points: the escapes of two halves one after the other are
one character, and any other half stays as it is.
-/

namespace DocSnippets

namespace Json

/-! ### Faults -/

/-- What is wrong with a text that is no JSON. -/
inductive Reason
  /-- A byte order mark comes first. -/
  | byteOrderMark
  /-- A value should stand here. -/
  | value
  /-- The name of a member should stand here. -/
  | name
  /-- A colon should stand here. -/
  | colon
  /-- A comma should stand here. -/
  | comma
  /-- Something follows the value. -/
  | extra
  /-- The string that starts here has no end. -/
  | unterminated
  /-- A control character stands in a string. -/
  | control
  /-- There is no such escape. -/
  | escape
  /-- An escape by code point is not complete. -/
  | codeEscape
  deriving DecidableEq, Repr

def Reason.words : Reason → Text
  | .byteOrderMark => "Unexpected UTF-8 BOM (decode using utf-8-sig)".toList
  | .value => "Expecting value".toList
  | .name => "Expecting property name enclosed in double quotes".toList
  | .colon => "Expecting ':' delimiter".toList
  | .comma => "Expecting ',' delimiter".toList
  | .extra => "Extra data".toList
  | .unterminated => "Unterminated string starting at".toList
  | .control => "Invalid control character at".toList
  | .escape => "Invalid \\escape".toList
  | .codeEscape => "Invalid \\uXXXX escape".toList

/-- A value that holds others. -/
inductive Container
  | array
  | object
  deriving DecidableEq, Repr

def Container.words : Container → Text
  | .array => "array".toList
  | .object => "object".toList

/-- Why reading stopped. -/
inductive Stop
  /-- The text is no JSON, as seen where so many characters were left. -/
  | malformed (reason : Reason) (left : Nat)
  /-- An integer has too many digits. -/
  | longInteger (digits : Nat)
  /-- A container stands within too many others. -/
  | tooDeep (container : Container)
  deriving DecidableEq, Repr

/-- What is read, and the rest of the text. -/
abbrev Reading (α : Type) := Except Stop (α × Text)

/-- The fault that comes up at the start of a text. -/
def stopAt {α : Type} (reason : Reason) (t : Text) : Except Stop α :=
  .error (.malformed reason t.length)

/-! ### Blanks and numbers -/

/-- Whether a character may stand between tokens. -/
def isJsonSpace (c : Char) : Bool := c == ' ' || c == '\t' || c == '\n' || c == '\r'

/-- A text without the blanks at its start. -/
def skipSpace (t : Text) : Text := t.dropWhile isJsonSpace

/-- Whether a character is one of the ten digits. -/
def isDecimal (c : Char) : Bool := decide ('0' ≤ c) && decide (c ≤ '9')

/-- The digits at the start of a text, and what follows them. -/
def digits (t : Text) : Text × Text := (t.takeWhile isDecimal, t.dropWhile isDecimal)

/-- The digits before a fraction: a zero, or any number of them without a zero in front. -/
def wholePart? : Text → Option (Text × Text)
  | '0' :: rest => some (['0'], rest)
  | t => if (digits t).1 = [] then none else some (digits t)

/-- A fraction at the start of a text, empty if there is none. -/
def fraction : Text → Text × Text
  | '.' :: rest =>
    if (digits rest).1 = [] then ([], '.' :: rest) else ('.' :: (digits rest).1, (digits rest).2)
  | t => ([], t)

/-- The sign of an exponent, empty if there is none. -/
def exponentSign : Text → Text × Text
  | '+' :: rest => (['+'], rest)
  | '-' :: rest => (['-'], rest)
  | t => ([], t)

/-- An exponent at the start of a text, empty if there is none. -/
def exponent (t : Text) : Text × Text :=
  match t with
  | c :: rest =>
    let (sign, tail) := exponentSign rest
    if (c = 'e' ∨ c = 'E') ∧ (digits tail).1 ≠ [] then
      (c :: sign ++ (digits tail).1, (digits tail).2)
    else ([], t)
  | [] => ([], [])

/-- The most digits an integer may have. -/
def maxDigits : Nat := 4300

/-- The number at the start of a text after its sign. -/
def unsignedNumber (whole : Text) (sign rest : Text) : Reading (Json CodePoint) :=
  match wholePart? rest with
  | none => stopAt .value whole
  | some (int, r) =>
    let (frac, r) := fraction r
    let (exp, r) := exponent r
    if frac = [] ∧ exp = [] ∧ maxDigits < int.length then .error (.longInteger int.length)
    else .ok (.number (sign ++ int ++ frac ++ exp), r)

/-- The number at the start of a text. -/
def readNumber (t : Text) : Reading (Json CodePoint) :=
  match t with
  | '-' :: rest => unsignedNumber t ['-'] rest
  | _ => unsignedNumber t [] t

/-! ### Strings -/

/-- The character that a letter stands for after a backslash. -/
def simpleEscape? : Char → Option Char
  | '"' => some '"'
  | '\\' => some '\\'
  | '/' => some '/'
  | 'b' => some '\x08'
  | 'f' => some '\x0c'
  | 'n' => some '\n'
  | 'r' => some '\r'
  | 't' => some '\t'
  | _ => none

/-- The number that four hexadecimal digits write. -/
def hexCode? (a b c d : Char) : Option Nat := do
  return (((← hexValue? a) * 16 + (← hexValue? b)) * 16 + (← hexValue? c)) * 16 + (← hexValue? d)

/-- The codes of the inside of a string and what follows its end; `left` tells where the string
starts. A code is a code point or, from an escape, half of one beyond 16 bits. -/
def readCodes (left : Nat) : Text → Reading (List Nat)
  | [] => .error (.malformed .unterminated left)
  | '"' :: rest => .ok ([], rest)
  | ['\\'] => .error (.malformed .unterminated left)
  -- the digits of a code are read only where something follows them
  | '\\' :: 'u' :: a :: b :: c :: d :: e :: rest =>
    match hexCode? a b c d with
    | some code => (readCodes left (e :: rest)).map fun (codes, r) => (code :: codes, r)
    | none => stopAt .codeEscape ('u' :: a :: b :: c :: d :: e :: rest)
  | '\\' :: 'u' :: rest => stopAt .codeEscape ('u' :: rest)
  | '\\' :: c :: rest =>
    match simpleEscape? c with
    | some d => (readCodes left rest).map fun (codes, r) => (d.toNat :: codes, r)
    | none => stopAt .escape ('\\' :: c :: rest)
  | c :: rest =>
    if c.toNat < 0x20 then stopAt .control (c :: rest)
    else (readCodes left rest).map fun (codes, r) => (c.toNat :: codes, r)

/-- Whether a code is the first half of a code point beyond 16 bits. -/
def isHigh (n : Nat) : Bool := decide (0xD800 ≤ n) && decide (n < 0xDC00)

/-- Whether a code is the second half of a code point beyond 16 bits. -/
def isLow (n : Nat) : Bool := decide (0xDC00 ≤ n) && decide (n < 0xE000)

/-- The code point of two halves. -/
def joinHalves (high low : Nat) : Nat := 0x10000 + (high - 0xD800) * 0x400 + (low - 0xDC00)

/-- The code point of a code by itself. -/
def ofCode (n : Nat) : CodePoint :=
  if isHigh n || isLow n then .half (Fin.ofNat _ (n - 0xD800)) else .char (Char.ofNat n)

/-- The code points of codes. -/
def ofCodes : List Nat → Text CodePoint
  | [] => []
  | [n] => [ofCode n]
  | n :: m :: rest =>
    if isHigh n && isLow m then .char (Char.ofNat (joinHalves n m)) :: ofCodes rest
    else ofCode n :: ofCodes (m :: rest)

/-- The string at the start of a text, given what follows its first quote mark. -/
def readString (rest : Text) : Reading (Text CodePoint) :=
  (readCodes (rest.length + 1) rest).map fun (codes, r) => (ofCodes codes, r)

theorem codes_quote (left : Nat) (rest : Text) : readCodes left ('"' :: rest) = .ok ([], rest) := by
  simp [readCodes]

/-- A character that is no quote mark, no backslash and no control stands for itself. -/
theorem codes_plain {left : Nat} {c : Char} {rest : Text} (hq : c ≠ '"') (hb : c ≠ '\\')
    (hc : 0x20 ≤ c.toNat) :
    readCodes left (c :: rest) =
      (readCodes left rest).map fun (codes, r) => (c.toNat :: codes, r) := by
  rw [readCodes.eq_7 _ _ _ (by simp [hq]) (by simp [hb]) (by simp [hb]) (by simp [hb])
    (by simp [hb]), if_neg (by omega)]

/-! ### Values -/

/-- How many containers may be open at once. -/
def maxDepth : Nat := 990

mutual

/-- The value at the start of a text, where so many more containers may be opened. The fuel bounds
the depth and the number of values. -/
def readValue : Nat → Nat → Text → Reading (Json CodePoint)
  | 0, _, t => stopAt .value t
  | fuel + 1, depth, t =>
    match t with
    | '"' :: rest => (readString rest).map fun (s, r) => (.text s, r)
    | '[' :: rest =>
      match depth, skipSpace rest with
      | 0, _ => .error (.tooDeep .array)
      | _ + 1, ']' :: r => .ok (.array [], r)
      | depth + 1, r => (readItems fuel depth r).map fun (items, r) => (.array items, r)
    | '\x7b' :: rest =>
      match depth, skipSpace rest with
      | 0, _ => .error (.tooDeep .object)
      | _ + 1, '\x7d' :: r => .ok (.object [], r)
      | depth + 1, r => (readMembers fuel depth r).map fun (members, r) => (.object members, r)
    | 'n' :: 'u' :: 'l' :: 'l' :: rest => .ok (.null, rest)
    | 't' :: 'r' :: 'u' :: 'e' :: rest => .ok (.bool true, rest)
    | 'f' :: 'a' :: 'l' :: 's' :: 'e' :: rest => .ok (.bool false, rest)
    | 'N' :: 'a' :: 'N' :: rest => .ok (.number "NaN".toList, rest)
    | 'I' :: 'n' :: 'f' :: 'i' :: 'n' :: 'i' :: 't' :: 'y' :: rest =>
      .ok (.number "Infinity".toList, rest)
    | '-' :: 'I' :: 'n' :: 'f' :: 'i' :: 'n' :: 'i' :: 't' :: 'y' :: rest =>
      .ok (.number "-Infinity".toList, rest)
    | t => readNumber t

/-- The items of a list up to its end. -/
def readItems : Nat → Nat → Text → Reading (List (Json CodePoint))
  | 0, _, t => stopAt .value t
  | fuel + 1, depth, t =>
    match readValue fuel depth t with
    | .error stop => .error stop
    | .ok (item, r) =>
      match skipSpace r with
      | ']' :: r => .ok ([item], r)
      | ',' :: r => (readItems fuel depth (skipSpace r)).map fun (items, r) => (item :: items, r)
      | r => stopAt .comma r

/-- The members of an object up to its end. -/
def readMembers : Nat → Nat → Text → Reading (List (Text CodePoint × Json CodePoint))
  | 0, _, t => stopAt .value t
  | fuel + 1, depth, t =>
    match t with
    | '"' :: rest =>
      match readString rest with
      | .error stop => .error stop
      | .ok (name, r) =>
        match skipSpace r with
        | ':' :: r =>
          match readValue fuel depth (skipSpace r) with
          | .error stop => .error stop
          | .ok (value, r) =>
            match skipSpace r with
            | '\x7d' :: r => .ok ([(name, value)], r)
            | ',' :: r =>
              (readMembers fuel depth (skipSpace r)).map fun (members, r) =>
                ((name, value) :: members, r)
            | r => stopAt .comma r
        | r => stopAt .colon r
    | t => stopAt .name t

end

/-- Fuel that is enough for a text: each step either takes a character or goes from a list to its
next item. -/
def enoughFuel (t : Text) : Nat := 2 * t.length + 2

/-- The value that a whole text writes. -/
def readAll (t : Text) : Except Stop (Json CodePoint) :=
  match t with
  | '\ufeff' :: _ => stopAt .byteOrderMark t
  | _ =>
    match readValue (enoughFuel t) maxDepth (skipSpace t) with
    | .error stop => .error stop
    | .ok (value, r) =>
      match skipSpace r with
      | [] => .ok value
      | r => stopAt .extra r

/-! ### Places -/

/-- Why a text is no JSON that can be read. -/
inductive Fault
  /-- The text is no JSON; with the number of characters before the place where that shows. -/
  | malformed (reason : Reason) (whole : Text) (place : Nat)
  /-- An integer has too many digits. -/
  | longInteger (digits : Nat)
  /-- A container stands within too many others. -/
  | tooDeep (container : Container)
  deriving DecidableEq, Repr

def Fault.message : Fault → Text
  | .malformed reason whole place =>
    let before := whole.take place
    let column := (before.reverse.takeWhile (· != '\n')).length + 1
    reason.words ++ ": line ".toList ++ Text.ofNat (before.count '\n' + 1) ++
      " column ".toList ++ Text.ofNat column ++ " (char ".toList ++ Text.ofNat place ++ [')']
  | .longInteger digits =>
    "Exceeds the limit (4300 digits) for integer string conversion: value has ".toList ++
      Text.ofNat digits ++
      " digits; use sys.set_int_max_str_digits() to increase the limit".toList
  | .tooDeep container =>
    "maximum recursion depth exceeded while decoding a JSON ".toList ++ container.words ++
      " from a unicode string".toList

/-- The value that a text writes. -/
def parse (t : Text) : Except Fault (Json CodePoint) :=
  match readAll t with
  | .ok value => .ok value
  | .error (.malformed reason left) => .error (.malformed reason t (t.length - left))
  | .error (.longInteger digits) => .error (.longInteger digits)
  | .error (.tooDeep container) => .error (.tooDeep container)

end Json

end DocSnippets
