/-
  Reading the text of a pattern. The reader goes through the text once, from left to right, and
  stops at the first fault. Each level of groups and brackets, and each part of a branch, takes at
  least one character, so a reader given more fuel than the text has characters never runs out.
-/
import RecordRules.Pattern.Fault
import RecordRules.Pattern.Tree
import RecordRules.Unicode.Property

namespace RecordRules.Pattern

open RecordRules.Unicode (hexValue? spaceChars alphabetic numeric)

/-- Where a reader stands: the unread text, its place, whether blanks and comments are skipped, and
    the names of the groups so far. -/
structure Scan where
  rest : List Char
  pos : Position := .start
  skipsBlanks : Bool := false
  names : List (String × Span) := []

/-- A step of reading: it moves the reader or finds a fault. -/
abbrev Reader := StateT Scan (Except Fault)

namespace Reader

/-- Stops at a fault. -/
def fail {α : Type} (kind : FaultKind) (span : Span) : Reader α := throw { kind, span }

/-- The next character. -/
def peek? : Reader (Option Char) := return (← get).rest.head?

/-- Whether the text is read to its end. -/
def atEnd : Reader Bool := return (← get).rest.isEmpty

/-- The place of the reader. -/
def place : Reader Position := return (← get).pos

/-- The span of the next character. -/
def charSpan : Reader Span := do
  let s ← get
  return match s.rest with
    | [] => .point s.pos
    | c :: _ => ⟨s.pos, s.pos.next c⟩

/-- Reads one character. -/
def bump : Reader Unit := modify fun s =>
  match s.rest with
  | [] => s
  | c :: cs => { s with rest := cs, pos := s.pos.next c }

/-- The text after blanks and comments; a comment goes from `#` to the end of its line. -/
def afterBlanks : List Char → Position → (inComment : Bool) → List Char × Position
  | [], pos, _ => ([], pos)
  | c :: cs, pos, true => afterBlanks cs (pos.next c) (c ≠ '\n')
  | c :: cs, pos, false =>
    if spaceChars.mem c then afterBlanks cs (pos.next c) false
    else if c = '#' then afterBlanks cs (pos.next c) true
    else (c :: cs, pos)

/-- Skips blanks and comments where the pattern says so. -/
def skipBlanks : Reader Unit := modify fun s =>
  if s.skipsBlanks then
    let (rest, pos) := afterBlanks s.rest s.pos false
    { s with rest, pos }
  else s

/-- Reads one character and the blanks after it; whether some text is left. -/
def advance : Reader Bool := do
  bump
  skipBlanks
  return !(← atEnd)

/-- Reads a given word, if it comes next. -/
def accept (word : List Char) : Reader Bool := do
  if word.isPrefixOf (← get).rest then
    word.forM fun _ => bump
    return true
  else return false

/-- The first sign in a text that is no blank; after `#` that sign does not count any more. -/
def signAfter : List Char → (inComment : Bool) → Option (List Char)
  | [], _ => none
  | c :: cs, inComment =>
    if spaceChars.mem c then signAfter cs inComment
    else if c = '#' ∧ !inComment then signAfter cs true
    else some (c :: cs)

/-- The character after the next one, past blanks where those are skipped. -/
def secondPastBlanks? : Reader (Option Char) := do
  let s ← get
  let tail := s.rest.drop 1
  return if s.skipsBlanks then ((signAfter tail false).getD tail).head? else tail.head?

/-! ## Numbers -/

/-- The decimal digits that come next. -/
def decimalDigits : Nat → (value : Nat) → (count : Nat) → Reader (Nat × Nat)
  | 0, value, count => return (value, count)
  | fuel + 1, value, count => do
    match ← peek? with
    | some c =>
      if c.isDigit then
        let _ ← advance
        decimalDigits fuel (10 * value + (c.toNat - '0'.toNat)) (count + 1)
      else return (value, count)
    | none => return (value, count)

/-- Skips white space, whether or not the pattern skips blanks elsewhere. -/
def skipSpace : Nat → Reader Unit
  | 0 => return
  | fuel + 1 => do
    match ← peek? with
    | some c => if spaceChars.mem c then bump; skipSpace fuel else return
    | none => return

/-- The bound on the counts of a repetition. -/
def countLimit : Nat := 0x100000000

/-- Reads a repetition count between optional blanks. The fault of a bad count is a value, because
    whether it matters depends on what follows. -/
def count : Reader (Except Fault Nat) := do
  let fuel := (← get).rest.length
  skipSpace fuel
  let start ← place
  let (value, digits) ← decimalDigits fuel 0 0
  let span := Span.mk start (← place)
  skipSpace fuel
  skipBlanks
  return if digits = 0 then .error { kind := .repetitionCountEmpty, span }
    else if value < countLimit then .ok value
    else .error { kind := .decimalInvalid, span }

/-! ## Escapes -/

/-- Characters that a backslash always turns into themselves. -/
def isMeta (c : Char) : Bool := "\\.+*?()|[]\x7b\x7d^$#&-~".toList.contains c

/-- Characters that need no backslash and may have one: ASCII signs other than angle brackets. -/
def isEscapable (c : Char) : Bool :=
  isMeta c || (c.toNat < 128 && !c.isAlphanum && c != '<' && c != '>')

/-- The character of a code, if there is one. -/
def charOf? (code : Nat) : Option Char :=
  if h : code.isValidChar then some (Char.ofNatAux code h) else none

/-- Reads `count` hexadecimal digits. -/
def hexDigits : (count : Nat) → (value : Nat) → Reader Nat
  | 0, value => return value
  | n + 1, value => do
    match ← peek? with
    | none => fail .escapeUnexpectedEnd (.point (← place))
    | some c =>
      match hexValue? c with
      | none => fail .escapeHexInvalidDigit (← charSpan)
      | some d =>
        let _ ← advance
        hexDigits n (16 * value + d)

/-- Reads hexadecimal digits up to a closing brace, which stays unread. -/
def hexDigitsInBraces : Nat → (value : Nat) → (digits : Nat) → Reader (Nat × Nat)
  | 0, value, digits => return (value, digits)
  | fuel + 1, value, digits => do
    match ← peek? with
    | none => return (value, digits)
    | some '\x7d' => return (value, digits)
    | some c =>
      match hexValue? c with
      | none => fail .escapeHexInvalidDigit (← charSpan)
      | some d =>
        let _ ← advance
        hexDigitsInBraces fuel (16 * value + d) (digits + 1)

/-- Reads the rest of an escape by code, after its backslash at `start`. -/
def hexEscape (start : Position) (width : Nat) : Reader Literal := do
  if !(← advance) then fail .escapeUnexpectedEnd (.point (← place))
  if (← peek?) = some '\x7b' then
    let brace ← place
    let first := (← charSpan).stop
    let _ ← advance
    let (value, digits) ← hexDigitsInBraces (← get).rest.length 0 0
    if ← atEnd then fail .escapeUnexpectedEnd ⟨brace, ← place⟩
    let last ← place
    let _ ← advance
    if digits = 0 then fail .escapeHexEmpty ⟨brace, ← place⟩
    match charOf? value with
    | none => fail .escapeHexInvalid ⟨first, last⟩
    | some char => return { span := ⟨start, ← place⟩, char }
  else
    let first ← place
    let value ← hexDigits width 0
    match charOf? value with
    | none => fail .escapeHexInvalid ⟨first, ← place⟩
    | some char => return { span := ⟨start, ← place⟩, char, isByte := width = 2 }

/-- Reads the name of a property up to a closing brace, which stays unread. -/
def propertyText : Nat → (read : List Char) → Reader (List Char)
  | 0, read => return read.reverse
  | fuel + 1, read => do
    match ← peek? with
    | none => return read.reverse
    | some '\x7d' => return read.reverse
    | some c =>
      let _ ← advance
      propertyText fuel (c :: read)

/-- Splits a text around the first occurrence of a word. -/
def splitAround (word : List Char) : (before : List Char) → List Char →
    Option (List Char × List Char)
  | before, [] => if word.isEmpty then some (before.reverse, []) else none
  | before, c :: cs =>
    if word.isPrefixOf (c :: cs) then some (before.reverse, (c :: cs).drop word.length)
    else splitAround word (c :: before) cs

/-- The question that a property's text asks: a name and a value around `!=`, `:` or `=`, or a name
    alone. -/
def queryOf (text : List Char) : PropertyQuery :=
  let attempts := [['!', '='], [':'], ['=']].findSome? fun word => splitAround word [] text
  match attempts with
  | some (name, value) => .valued (String.ofList name) (String.ofList value)
  | none => .named (String.ofList text)

/-- Reads the rest of a class of characters with a property. -/
def propertyEscape : Reader PropertyQuery := do
  if !(← advance) then fail .escapeUnexpectedEnd (.point (← place))
  match ← peek? with
  | some '\x7b' =>
    let _ ← advance
    let text ← propertyText (← get).rest.length []
    if ← atEnd then fail .escapeUnexpectedEnd (.point (← place))
    bump
    return queryOf text
  | some c =>
    if c = '\\' then fail .unicodeClassInvalid (← charSpan)
    let _ ← advance
    return .named (String.singleton c)
  | none => fail .escapeUnexpectedEnd (.point (← place))

/-- Reads the letters and hyphens of a boundary's name. -/
def boundaryName : Nat → (read : List Char) → Reader (List Char)
  | 0, read => return read.reverse
  | fuel + 1, read => do
    match ← peek? with
    | some c =>
      if c.isAlpha || c = '-' then
        let _ ← advance
        boundaryName fuel (c :: read)
      else return read.reverse
    | none => return read.reverse

/-- Reads the name in braces after `\b`, if there is one; a brace that opens something else is left
    for the repetition to read. `start` is the place of the backslash. -/
def namedBoundary? (start : Position) : Reader (Option Anchor) := do
  let before ← get
  let brace ← place
  if !(← advance) then fail .boundaryUnexpectedEnd ⟨start, ← place⟩
  let first ← place
  let isName := (← peek?).any fun c => c.isAlpha || c = '-'
  if !isName then
    set before
    return none
  let name ← boundaryName (← get).rest.length []
  if (← peek?) ≠ some '\x7d' then fail .boundaryUnclosed ⟨brace, ← place⟩
  let last ← place
  bump
  match String.ofList name with
  | "start" => return some .wordStart
  | "end" => return some .wordEnd
  | "start-half" => return some .wordStartHalf
  | "end-half" => return some .wordEndHalf
  | _ => fail .boundaryUnrecognized ⟨first, last⟩

/-- Reads a backslash and what it escapes. -/
def escape : Reader Tree := do
  let start ← place
  bump
  match ← peek? with
  | none => fail .escapeUnexpectedEnd ⟨start, ← place⟩
  | some c =>
    if c.isDigit then fail .unsupportedBackreference ⟨start, (← charSpan).stop⟩
    match c with
    | 'x' => return .literal (← hexEscape start 2)
    | 'u' => return .literal (← hexEscape start 4)
    | 'U' => return .literal (← hexEscape start 8)
    | 'p' | 'P' =>
      let query ← propertyEscape
      return .property ⟨start, ← place⟩ query (c = 'P')
    | _ => pure ()
    bump
    let span := Span.mk start (← place)
    let special (char : Char) : Reader Tree := return .literal { span, char }
    let anchor (kind : Anchor) : Reader Tree := return .anchor span kind
    let short (kind : ShortClass) : Reader Tree := return .short span kind c.isUpper
    if isEscapable c then special c
    else match c with
      | 'd' | 'D' => short .digit
      | 's' | 'S' => short .space
      | 'w' | 'W' => short .word
      | 'a' => special '\x07'
      | 'f' => special '\x0c'
      | 't' => special '\t'
      | 'n' => special '\n'
      | 'r' => special '\r'
      | 'v' => special '\x0b'
      | 'A' => anchor .startText
      | 'z' => anchor .endText
      | 'b' =>
        let named ← if (← peek?) = some '\x7b' then namedBoundary? start else pure none
        match named with
        | some kind => return .anchor ⟨start, ← place⟩ kind
        | none => anchor .wordBoundary
      | 'B' => anchor .notWordBoundary
      | '<' => anchor .wordStart
      | '>' => anchor .wordEnd
      | _ => fail .escapeUnrecognized span

/-! ## Brackets -/

/-- The members of a set so far, last first, and their span. -/
structure Members where
  span : Span
  items : List ClassTree := []

/-- One more member. -/
def Members.push (m : Members) (item : ClassTree) : Members :=
  { span := ⟨if m.items.isEmpty then item.span.start else m.span.start, item.span.stop⟩,
    items := item :: m.items }

/-- The set of the members. -/
def Members.close (m : Members) : ClassTree :=
  match m.items with
  | [] => .empty m.span
  | [item] => item
  | items => .union m.span items.reverse

/-- Reads hyphens that open a set. -/
def openingHyphens (start : Position) : Nat → Members → Reader Members
  | 0, m => return m
  | fuel + 1, m => do
    if (← peek?) = some '-' then
      let m := m.push (.literal { span := ← charSpan, char := '-' })
      if !(← advance) then fail .classUnclosed (.point start)
      openingHyphens start fuel m
    else return m

/-- Reads the opening of brackets: the bracket, a negation, hyphens, and a closing bracket that
    stands for itself because nothing precedes it. Gives the opening's span, whether the set is
    negated, and the members so far. -/
def openBrackets : Reader (Span × Bool × Members) := do
  let start ← place
  if !(← advance) then fail .classUnclosed ⟨start, ← place⟩
  let negated := (← peek?) = some '^'
  if negated then
    if !(← advance) then fail .classUnclosed ⟨start, ← place⟩
  let m ← openingHyphens start (← get).rest.length { span := .point (← place) }
  if m.items.isEmpty && (← peek?) = some ']' then
    let m := m.push (.literal { span := ← charSpan, char := ']' })
    if !(← advance) then fail .classUnclosed ⟨start, ← place⟩
    return (⟨start, ← place⟩, negated, m)
  return (⟨start, ← place⟩, negated, m)

/-- Names of the classes written in the form `[:name:]`. -/
def asciiNames : List String :=
  ["alnum", "alpha", "ascii", "blank", "cntrl", "digit", "graph", "lower", "print", "punct",
   "space", "upper", "word", "xdigit"]

/-- Reads a class of the form `[:name:]`, or nothing if none comes next. -/
def asciiClass? : Reader (Option ClassTree) := do
  let before ← get
  let start ← place
  let text := before.rest
  let (negated, tail) :=
    match text with
    | '[' :: ':' :: '^' :: tail => (true, tail)
    | '[' :: ':' :: tail => (false, tail)
    | _ => (false, [])
  let name := tail.takeWhile (· ≠ ':')
  match tail.dropWhile (· ≠ ':') with
  | ':' :: ']' :: _ =>
    if asciiNames.contains (String.ofList name) then
      let length := text.length - tail.length + name.length + 2
      (text.take length).forM fun _ => bump
      return some (.ascii ⟨start, ← place⟩ (String.ofList name) negated)
    else return none
  | _ => return none

/-- Reads one character or escape inside brackets. -/
def classUnit : Reader Tree := do
  match ← peek? with
  | some '\\' => escape
  | some char =>
    let span ← charSpan
    bump
    return .literal { span, char }
  | none => fail .escapeUnexpectedEnd (.point (← place))

/-- A unit as a member of a set. -/
def memberOf : Tree → Reader ClassTree
  | .literal l => return .literal l
  | .property s q n => return .property s q n
  | .short s k n => return .short s k n
  | t => fail .classEscapeInvalid t.span

/-- A unit as an end of a range. -/
def boundOf : Tree → Reader Literal
  | .literal l => return l
  | t => fail .classRangeLiteral t.span

/-- Reads a member of a set: a unit, or two around a hyphen. `opening` is the span of the opening
    of the innermost brackets. -/
def classMember (opening : Span) : Reader ClassTree := do
  let first ← classUnit
  skipBlanks
  if ← atEnd then fail .classUnclosed opening
  let next ← secondPastBlanks?
  if (← peek?) ≠ some '-' || next = some ']' || next = some '-' then memberOf first
  else
    if !(← advance) then fail .classUnclosed opening
    let last ← classUnit
    let span := Span.mk first.span.start last.span.stop
    let low ← boundOf first
    let high ← boundOf last
    if high.char < low.char then fail .classRangeInvalid span
    return .range span low high

/-- Applies an operation that waits for its right side. -/
def applyPending (pending : Option (SetOp × ClassTree)) (right : ClassTree) : ClassTree :=
  match pending with
  | none => right
  | some (kind, left) => .op ⟨left.span.start, right.span.stop⟩ kind left right

/-- The operation whose sign, a doubled character, comes next. -/
def setOp? : Reader (Option SetOp) := do
  return match (← get).rest with
    | '&' :: '&' :: _ => some .intersection
    | '-' :: '-' :: _ => some .difference
    | '~' :: '~' :: _ => some .symmetricDifference
    | _ => none

/-- Reads brackets from after their opening to their end; gives the span of the whole and the set.
    Operations take their sides from the left and bind alike. -/
def classBody : Nat → (opening : Span) → (pending : Option (SetOp × ClassTree)) → Members →
    Reader (Span × ClassTree)
  | 0, opening, _, _ => fail .classUnclosed opening
  | fuel + 1, opening, pending, m => do
    skipBlanks
    match ← peek? with
    | none => fail .classUnclosed opening
    | some ']' =>
      bump
      return (⟨opening.start, ← place⟩, applyPending pending m.close)
    | some '[' =>
      match ← asciiClass? with
      | some item => classBody fuel opening pending (m.push item)
      | none =>
        let (innerOpening, negated, members) ← openBrackets
        let (span, inner) ← classBody fuel innerOpening none members
        classBody fuel opening pending (m.push (.bracketed span negated inner))
    | some _ =>
      match ← setOp? with
      | some kind =>
        bump
        bump
        let left := applyPending pending m.close
        classBody fuel opening (some (kind, left)) { span := .point (← place) }
      | none =>
        let item ← classMember opening
        classBody fuel opening pending (m.push item)

/-- Reads a class in brackets. -/
def brackets : Reader Tree := do
  let (opening, negated, members) ← openBrackets
  let (span, inner) ← classBody ((← get).rest.length + 1) opening none members
  return .bracketed span negated inner

/-! ## Flags and groups -/

/-- The flag of a letter. -/
def flagOf? : Char → Option Flag
  | 'i' => some .caseInsensitive
  | 'm' => some .multiLine
  | 's' => some .dotMatchesNewLine
  | 'U' => some .swapGreed
  | 'u' => some .unicode
  | 'R' => some .crlf
  | 'x' => some .ignoreWhitespace
  | _ => none

/-- Reads switches up to `:` or `)`, which stays unread. `minus` is the place of the hyphen after
    which flags are cleared, and `dangling` says that no flag followed it yet. -/
def switchList : Nat → (flags : List (Flag × Bool × Span)) → (minus : Option Span) →
    (dangling : Bool) → Reader (List (Flag × Bool))
  | 0, _, _, _ => do fail .flagUnexpectedEnd (.point (← place))
  | fuel + 1, flags, minus, dangling => do
    match ← peek? with
    | none => fail .flagUnexpectedEnd (.point (← place))
    | some c =>
      if c = ':' ∨ c = ')' then
        match minus with
        | some span => if dangling then fail .flagDanglingNegation span
        | none => pure ()
        return flags.reverse.map fun (flag, on, _) => (flag, on)
      let span ← charSpan
      if c = '-' then
        if let some first := minus then
          throw { kind := .flagRepeatedNegation, span, first := some first }
        bump
        switchList fuel flags (some span) true
      else match flagOf? c with
        | none => fail .flagUnrecognized span
        | some flag =>
          if let some (_, _, first) := flags.find? fun e => e.1 == flag then
            throw { kind := .flagDuplicate, span, first := some first }
          bump
          switchList fuel ((flag, minus.isNone, span) :: flags) minus false

/-- Characters of a group's name: letters and `_`, and after the first also digits, dots and
    brackets. -/
def isNameChar (first : Bool) (c : Char) : Bool :=
  c = '_' || alphabetic.mem c ||
    (!first && (numeric.mem c || c = '.' || c = '[' || c = ']'))

/-- Reads a group's name up to its closing angle bracket, which stays unread. -/
def nameText : Nat → (read : List Char) → Reader (List Char)
  | 0, read => return read.reverse
  | fuel + 1, read => do
    match ← peek? with
    | none => return read.reverse
    | some '>' => return read.reverse
    | some c =>
      if !isNameChar read.isEmpty c then fail .groupNameInvalid (← charSpan)
      bump
      nameText fuel (c :: read)

/-- Reads the name of a group, which no earlier group may have. -/
def groupName : Reader Unit := do
  if ← atEnd then fail .groupNameUnexpectedEnd (.point (← place))
  let start ← place
  let name ← nameText (← get).rest.length []
  if ← atEnd then fail .groupNameUnexpectedEnd (.point (← place))
  let span := Span.mk start (← place)
  bump
  if name.isEmpty then fail .groupNameEmpty (.point start)
  let word := String.ofList name
  if let some (_, first) := (← get).names.find? fun e => e.1 == word then
    throw { kind := .groupNameDuplicate, span, first := some first }
  modify fun s => { s with names := (word, span) :: s.names }

/-- What an opening parenthesis opens. -/
inductive Opening
  | switches (flags : List (Flag × Bool))
  | group (flags : List (Flag × Bool)) (captures : Bool)

/-- Reads an opening parenthesis and what belongs to it. -/
def openGroup : Reader Opening := do
  let start ← charSpan
  bump
  skipBlanks
  for word in ["?=", "?!", "?<=", "?<!"] do
    if ← accept word.toList then fail .unsupportedLookAround ⟨start.start, ← place⟩
  let inner ← place
  if ← accept ['?', 'P', '<'] then
    groupName
    return .group [] true
  if ← accept ['?', '<'] then
    groupName
    return .group [] true
  if ← accept ['?'] then
    if ← atEnd then fail .groupUnclosed start
    let flags ← switchList ((← get).rest.length + 1) [] none false
    let last ← peek?
    bump
    if last = some ')' then
      if flags.isEmpty then fail .repetitionMissing (.point inner)
      return .switches flags
    return .group flags false
  return .group [] true

/-! ## Repetitions -/

/-- Takes the part that a repetition repeats off a branch; `last first` is the branch's order. -/
def repeated (parts : List Tree) : Reader (Tree × List Tree) := do
  match parts with
  | [] | .empty _ :: _ | .switches _ _ :: _ => fail .repetitionMissing (.point (← place))
  | part :: rest => return (part, rest)

/-- Reads the mark of a reluctant repetition, if it comes next. -/
def reluctance : Reader Unit := do
  if (← peek?) = some '?' then bump

/-- Reads a one-sign repetition. -/
def signRepetition (least : Nat) (most : Option Nat) (parts : List Tree) : Reader (List Tree) := do
  let (part, rest) ← repeated parts
  bump
  reluctance
  return .repetition ⟨part.span.start, ← place⟩ least most part :: rest

/-- Reads a counted repetition. -/
def countedRepetition (parts : List Tree) : Reader (List Tree) := do
  let start ← place
  let (part, rest) ← repeated parts
  let unclosed : Reader Unit := do fail .repetitionCountUnclosed ⟨start, ← place⟩
  if !(← advance) then unclosed
  let least ← count
  if ← atEnd then unclosed
  let (least, most) ←
    if (← peek?) ≠ some ',' then
      let n ← least
      pure (n, some n)
    else
      if !(← advance) then unclosed
      let n ← least
      if (← peek?) = some '\x7d' then pure (n, none)
      else
        let m ← ← count
        pure (n, some m)
  if (← peek?) ≠ some '\x7d' then unclosed
  let _ ← advance
  reluctance
  if most.any fun m => m < least then fail .repetitionCountInvalid ⟨start, ← place⟩
  return .repetition ⟨part.span.start, ← place⟩ least most part :: rest

/-! ## Branches -/

/-- The tree of a branch's parts, given last first. -/
def branchTree (start stop : Position) (parts : List Tree) : Tree :=
  match parts with
  | [] => .empty ⟨start, stop⟩
  | [part] => part
  | parts => .concat ⟨start, stop⟩ parts.reverse

/-- The tree of branches, given last first. -/
def choiceTree (start stop : Position) (branches : List Tree) : Tree :=
  match branches with
  | [branch] => branch
  | branches => .alternation ⟨start, stop⟩ branches.reverse

/-- Reads one sign outside groups and brackets. -/
def sign (c : Char) : Reader Tree := do
  let span ← charSpan
  bump
  return match c with
    | '.' => .dot span
    | '^' => .anchor span .startLine
    | '$' => .anchor span .endLine
    | char => .literal { span, char }

/-- Reads branches up to a closing parenthesis or the end of the text. `start` is the place where
    the first branch starts, `branches` holds the finished ones and `parts` the parts of the present
    one, which starts at `branchStart`. -/
def choice : Nat → (start : Position) → (branches : List Tree) → (branchStart : Position) →
    (parts : List Tree) → Reader Tree
  | 0, start, _, _, _ => fail .groupUnclosed (.point start)
  | fuel + 1, start, branches, branchStart, parts => do
    skipBlanks
    match ← peek? with
    | none | some ')' =>
      let stop ← place
      return choiceTree start stop (branchTree branchStart stop parts :: branches)
    | some '|' =>
      let branch := branchTree branchStart (← place) parts
      bump
      choice fuel start (branch :: branches) (← place) []
    | some '(' =>
      let opening ← charSpan
      let outer := (← get).skipsBlanks
      match ← openGroup with
      | .switches flags =>
        let skipsBlanks := (switchOf .ignoreWhitespace flags).getD outer
        modify fun s => { s with skipsBlanks }
        choice fuel start branches branchStart
          (.switches ⟨opening.start, ← place⟩ flags :: parts)
      | .group flags captures =>
        let skipsBlanks := (switchOf .ignoreWhitespace flags).getD outer
        modify fun s => { s with skipsBlanks }
        let innerStart ← place
        let inner ← choice fuel innerStart [] innerStart []
        if ← atEnd then fail .groupUnclosed opening
        modify fun s => { s with skipsBlanks := outer }
        bump
        choice fuel start branches branchStart
          (.group ⟨opening.start, ← place⟩ flags captures inner :: parts)
    | some '[' => choice fuel start branches branchStart ((← brackets) :: parts)
    | some '?' => choice fuel start branches branchStart (← signRepetition 0 (some 1) parts)
    | some '*' => choice fuel start branches branchStart (← signRepetition 0 none parts)
    | some '+' => choice fuel start branches branchStart (← signRepetition 1 none parts)
    | some '\x7b' => choice fuel start branches branchStart (← countedRepetition parts)
    | some '\\' => choice fuel start branches branchStart ((← escape) :: parts)
    | some c => choice fuel start branches branchStart ((← sign c) :: parts)

/-- Reads a whole pattern. -/
def whole : Reader Tree := do
  let fuel := (← get).rest.length + 1
  let tree ← choice fuel .start [] .start []
  if !(← atEnd) then fail .groupUnopened (← charSpan)
  return tree

end Reader

/-- The levels of groups, repetitions, brackets, branches and sequences that a pattern may have. -/
def nestLimit : Nat := 250

/-- The tree of a pattern's text. -/
def Tree.read (text : String) : Except Fault Tree := do
  let (tree, _) ← Reader.whole.run { rest := text.toList }
  match tree.tooDeep nestLimit with
  | some span => throw { kind := .nestLimitExceeded nestLimit, span }
  | none => return tree

end RecordRules.Pattern
