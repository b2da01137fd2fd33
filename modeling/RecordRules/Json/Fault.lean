/-
  What can be wrong with a JSON text, and where. A place is kept as the number of bytes that are
  still unread, because a reader sees only what is left; the report counts lines and columns.
-/
import RecordRules.Text.Utf8

namespace RecordRules.JsonText

/-- The kinds of faults in a JSON text. -/
inductive Cause
  | endInList
  | endInObject
  | endInText
  | endInValue
  | noColon
  | noListCommaOrEnd
  | noObjectCommaOrEnd
  | noWord
  | noValue
  | badEscape
  | badNumber
  | controlCharacter
  | noKey
  | loneSurrogate
  | trailingComma
  | trailingCharacters
  | brokenSurrogates
  | tooDeep
  | other (message : String)
deriving DecidableEq, Repr

/-- The wording of a kind of fault. -/
def Cause.message : Cause → String
  | endInList => "EOF while parsing a list"
  | endInObject => "EOF while parsing an object"
  | endInText => "EOF while parsing a string"
  | endInValue => "EOF while parsing a value"
  | noColon => "expected `:`"
  | noListCommaOrEnd => "expected `,` or `]`"
  | noObjectCommaOrEnd => "expected `,` or `\x7d`"
  | noWord => "expected ident"
  | noValue => "expected value"
  | badEscape => "invalid escape"
  | badNumber => "invalid number"
  | controlCharacter =>
    "control character (\\u0000-\\u001F) found while parsing a string"
  | noKey => "key must be a string"
  | loneSurrogate => "lone leading surrogate in hex escape"
  | trailingComma => "trailing comma"
  | trailingCharacters => "trailing characters"
  | brokenSurrogates => "unexpected end of hex escape"
  | tooDeep => "recursion limit exceeded"
  | other message => message

/-- A fault, and how many bytes of the text lie behind its place. -/
structure Fault where
  cause : Cause
  left : Nat
deriving DecidableEq, Repr

/-- A fault at the place before what is left. -/
def Fault.here (cause : Cause) (rest : List Char) : Fault := ⟨cause, Text.utf8Size rest⟩

/-- A fault some bytes into what is left. -/
def Fault.ahead (cause : Cause) (bytes : Nat) (rest : List Char) : Fault :=
  ⟨cause, Text.utf8Size rest - bytes⟩

/-- A fault with the next character, or with the end: one byte into what is left. -/
def Fault.next (cause : Cause) (rest : List Char) : Fault := Fault.ahead cause 1 rest

/-- The line and the column of the place after so many bytes, from a line and a column on. Lines
    count from one; a column is the number of bytes since the line's start. -/
def place (line column : Nat) : (bytes : Nat) → List Char → Nat × Nat
  | _, [] => (line, column)
  | bytes, c :: cs =>
    if c.utf8Size ≤ bytes then
      if c = '\n' then place (line + 1) 0 (bytes - 1) cs
      else place line (column + c.utf8Size) (bytes - c.utf8Size) cs
    else (line, column + bytes)

/-- The report of a fault in a text. -/
def Fault.report (text : List Char) (f : Fault) : String :=
  let (line, column) := place 1 0 (Text.utf8Size text - f.left) text
  f.cause.message ++ " at line " ++ toString line ++ " column " ++ toString column

example : place 1 0 3 ['a', '\n', 'b', 'c'] = (2, 1) := by decide

/-- What reads a part of a text: a result and what is left, or a fault. -/
abbrev Reader (α : Type) := List Char → Except Fault (α × List Char)

/-- Blanks between the parts of a JSON text. -/
def isSpace (c : Char) : Bool := c = ' ' || c = '\n' || c = '\t' || c = '\r'

/-- What is left after blanks. -/
def skipSpace (cs : List Char) : List Char := cs.dropWhile isSpace

end RecordRules.JsonText
