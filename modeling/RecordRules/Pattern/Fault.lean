/-
  What can be wrong with the text of a pattern, and the report that shows the place: the pattern
  with marks under the faulty span, and between rulers with numbered lines if it has several lines.
-/
import RecordRules.Pattern.Span

namespace RecordRules.Pattern

/-- The kinds of faults in the text of a pattern. -/
inductive FaultKind
  | classEscapeInvalid
  | classRangeInvalid
  | classRangeLiteral
  | classUnclosed
  | decimalInvalid
  | escapeHexEmpty
  | escapeHexInvalid
  | escapeHexInvalidDigit
  | escapeUnexpectedEnd
  | escapeUnrecognized
  | flagDanglingNegation
  | flagDuplicate
  | flagRepeatedNegation
  | flagUnexpectedEnd
  | flagUnrecognized
  | groupNameDuplicate
  | groupNameEmpty
  | groupNameInvalid
  | groupNameUnexpectedEnd
  | groupUnclosed
  | groupUnopened
  | nestLimitExceeded (limit : Nat)
  | repetitionCountInvalid
  | repetitionCountEmpty
  | repetitionCountUnclosed
  | repetitionMissing
  | boundaryUnclosed
  | boundaryUnrecognized
  | boundaryUnexpectedEnd
  | unicodeClassInvalid
  | unsupportedBackreference
  | unsupportedLookAround
  | unicodeNotAllowed
  | invalidUtf8
  | propertyNotFound
  | propertyValueNotFound
deriving DecidableEq, Repr

/-- The wording of a kind of fault. -/
def FaultKind.message : FaultKind → String
  | classEscapeInvalid => "invalid escape sequence found in character class"
  | classRangeInvalid => "invalid character class range, the start must be <= the end"
  | classRangeLiteral => "invalid range boundary, must be a literal"
  | classUnclosed => "unclosed character class"
  | decimalInvalid => "decimal literal invalid"
  | escapeHexEmpty => "hexadecimal literal empty"
  | escapeHexInvalid => "hexadecimal literal is not a Unicode scalar value"
  | escapeHexInvalidDigit => "invalid hexadecimal digit"
  | escapeUnexpectedEnd => "incomplete escape sequence, reached end of pattern prematurely"
  | escapeUnrecognized => "unrecognized escape sequence"
  | flagDanglingNegation => "dangling flag negation operator"
  | flagDuplicate => "duplicate flag"
  | flagRepeatedNegation => "flag negation operator repeated"
  | flagUnexpectedEnd => "expected flag but got end of regex"
  | flagUnrecognized => "unrecognized flag"
  | groupNameDuplicate => "duplicate capture group name"
  | groupNameEmpty => "empty capture group name"
  | groupNameInvalid => "invalid capture group character"
  | groupNameUnexpectedEnd => "unclosed capture group name"
  | groupUnclosed => "unclosed group"
  | groupUnopened => "unopened group"
  | nestLimitExceeded limit =>
    "exceed the maximum number of nested parentheses/brackets (" ++ toString limit ++ ")"
  | repetitionCountInvalid => "invalid repetition count range, the start must be <= the end"
  | repetitionCountEmpty => "repetition quantifier expects a valid decimal"
  | repetitionCountUnclosed => "unclosed counted repetition"
  | repetitionMissing => "repetition operator missing expression"
  | boundaryUnclosed =>
    "special word boundary assertion is either unclosed or contains an invalid character"
  | boundaryUnrecognized =>
    "unrecognized special word boundary assertion, valid choices are: start, end, " ++
      "start-half or end-half"
  | boundaryUnexpectedEnd =>
    "found either the beginning of a special word boundary or a bounded repetition on a " ++
      "\\b with an opening brace, but no closing brace"
  | unicodeClassInvalid => "invalid Unicode character class"
  | unsupportedBackreference => "backreferences are not supported"
  | unsupportedLookAround =>
    "look-around, including look-ahead and look-behind, is not supported"
  | unicodeNotAllowed => "Unicode not allowed here"
  | invalidUtf8 => "pattern can match invalid UTF-8"
  | propertyNotFound => "Unicode property not found"
  | propertyValueNotFound => "Unicode property value not found"

/-- A fault, its place, and for a repetition of something the place of the first occurrence. -/
structure Fault where
  kind : FaultKind
  span : Span
  first : Option Span := none
deriving DecidableEq, Repr

/-- The places of a fault in rising order. -/
def Fault.spans (f : Fault) : List Span :=
  match f.first with
  | none => [f.span]
  | some s => if s.before f.span then [s, f.span] else [f.span, s]

/-- The pieces of a text between its line feeds. -/
def splitLines (text : List Char) : List (List Char) :=
  let (line, lines) := text.foldr
    (fun c (line, lines) => if c = '\n' then ([], line :: lines) else (c :: line, lines))
    (([], []) : List Char × List (List Char))
  line :: lines

/-- Lines of a text; a carriage return before a line feed belongs to the line's end. -/
def linesOf (text : List Char) : List (List Char) :=
  let lines := splitLines text
  (lines.dropLast.map fun line => if line.getLast? = some '\r' then line.dropLast else line) ++
    lines.drop (lines.length - 1)

/-- Marks under the spans of one line, which follow one another: `column` is the next free one. -/
def marksFrom : (column : Nat) → List Span → List Char
  | _, [] => []
  | column, s :: rest =>
    let width := max 1 (s.stop.column - s.start.column)
    List.replicate (s.start.column - column) ' ' ++ List.replicate width '^' ++
      marksFrom (max column s.start.column + width) rest

/-- The line of marks under a line, if some span lies on it. -/
def marksUnder (indent : Nat) (spans : List Span) (line : Nat) : Option (List Char) :=
  match spans.filter fun s => s.isOneLine && s.start.line == line with
  | [] => none
  | here => some (List.replicate indent ' ' ++ marksFrom 1 here)

/-- The pattern's lines, each after `label` and with its marks below. -/
def annotated (label : Nat → String) (indent : Nat) (spans : List Span) :
    (line : Nat) → List (List Char) → String
  | _, [] => ""
  | line, text :: rest =>
    label line ++ String.ofList text ++ "\n" ++
      (match marksUnder indent spans line with
        | some marks => String.ofList marks ++ "\n"
        | none => "") ++
      annotated label indent spans (line + 1) rest

/-- Words for a span that ends on a later line than it starts on. -/
def Span.describe (s : Span) : String :=
  "on line " ++ toString s.start.line ++ " (column " ++ toString s.start.column ++
    ") through line " ++ toString s.stop.line ++ " (column " ++ toString (s.stop.column - 1) ++ ")"

/-- A line number, filled up with blanks on the left. -/
def numberLabel (width line : Nat) : String :=
  let digits := toString line
  String.ofList (List.replicate (width - digits.length) ' ') ++ digits ++ ": "

/-- The report of a fault in a pattern. -/
def Fault.report (pattern : String) (f : Fault) : String :=
  let lines := linesOf pattern.toList
  let body :=
    if pattern.toList.contains '\n' then
      let ruler := String.ofList (List.replicate 79 '~') ++ "\n"
      let width := (toString lines.length).length
      let long := f.spans.filter fun s => !s.isOneLine
      ruler ++ annotated (numberLabel width) (width + 2) f.spans 1 lines ++ ruler ++
        (if long.isEmpty then "" else "\n".intercalate (long.map Span.describe) ++ "\n")
    else annotated (fun _ => "    ") 4 f.spans 1 lines
  "regex parse error:\n" ++ body ++ "error: " ++ f.kind.message

end RecordRules.Pattern
