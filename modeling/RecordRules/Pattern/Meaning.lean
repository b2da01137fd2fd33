/-
  The expression that a pattern's tree stands for. Flags hold from where they are set to the end of
  the group they are set in. Where a pattern does not speak of Unicode, its classes hold ASCII only
  and whatever could match half of a character is a fault.
-/
import RecordRules.Pattern.Expr
import RecordRules.Pattern.Fault
import RecordRules.Pattern.Tree
import RecordRules.Unicode.CaseClass

namespace RecordRules.Pattern

open RecordRules.Unicode (CharSet PropertyFault charsNamed charsWith digitChars spaceChars wordChars)

/-- The switches that matter for what a pattern means. -/
structure Flags where
  caseInsensitive : Bool := false
  multiLine : Bool := false
  dotMatchesNewLine : Bool := false
  unicode : Bool := true
  crlf : Bool := false
deriving DecidableEq, Repr

/-- Flags after some switches. -/
def Flags.apply (f : Flags) (switches : List (Flag × Bool)) : Flags :=
  { caseInsensitive := (switchOf .caseInsensitive switches).getD f.caseInsensitive
    multiLine := (switchOf .multiLine switches).getD f.multiLine
    dotMatchesNewLine := (switchOf .dotMatchesNewLine switches).getD f.dotMatchesNewLine
    unicode := (switchOf .unicode switches).getD f.unicode
    crlf := (switchOf .crlf switches).getD f.crlf }

/-! ## Classes -/

/-- A set of ASCII characters with the other case of its letters. -/
def foldAscii (s : CharSet) : CharSet :=
  let both := fun (lower upper : Nat) => s.has lower || s.has upper
  s.union (.ofCodes ((List.range 26).flatMap fun i =>
    if both (0x61 + i) (0x41 + i) then [0x61 + i, 0x41 + i] else []))

/-- A set as flags and a negation make it. -/
def finishSet (f : Flags) (span : Span) (negated : Bool) (s : CharSet) : Except Fault CharSet :=
  if f.unicode then
    let s := if f.caseInsensitive then s.foldCase else s
    return if negated then s.compl else s
  else if negated then throw { kind := .invalidUtf8, span }
  else return if f.caseInsensitive then foldAscii s else s

/-- The ASCII characters of a class written in the form `[:name:]`. -/
def asciiChars : String → CharSet
  | "alnum" => .ofHex "30-39 41-5A 61-7A"
  | "alpha" => .ofHex "41-5A 61-7A"
  | "ascii" => .ofHex "0-7F"
  | "blank" => .ofHex "9 20"
  | "cntrl" => .ofHex "0-1F 7F"
  | "digit" => .ofHex "30-39"
  | "graph" => .ofHex "21-7E"
  | "lower" => .ofHex "61-7A"
  | "print" => .ofHex "20-7E"
  | "punct" => .ofHex "21-2F 3A-40 5B-60 7B-7E"
  | "space" => .ofHex "9-D 20"
  | "upper" => .ofHex "41-5A"
  | "word" => .ofHex "30-39 41-5A 5F 61-7A"
  | "xdigit" => .ofHex "30-39 41-46 61-66"
  | _ => .empty

/-- The characters of a class with a one-letter name. -/
def shortChars (f : Flags) (span : Span) (kind : ShortClass) (negated : Bool) :
    Except Fault CharSet :=
  if f.unicode then
    let s := match kind with
      | .digit => digitChars
      | .space => spaceChars
      | .word => wordChars
    return if negated then s.compl else s
  else if negated then throw { kind := .invalidUtf8, span }
  else return asciiChars (match kind with
    | .digit => "digit"
    | .space => "space"
    | .word => "word")

/-- The characters with a property. -/
def propertyChars (f : Flags) (span : Span) (query : PropertyQuery) (negated : Bool) :
    Except Fault CharSet :=
  if !f.unicode then throw { kind := .unicodeNotAllowed, span }
  else
    let found := match query with
      | .named name => charsNamed name
      | .valued name value => charsWith name value
    match found with
    | .ok s => finishSet f span negated s
    | .error .unknownProperty => throw { kind := .propertyNotFound, span }
    | .error .unknownValue => throw { kind := .propertyValueNotFound, span }

/-- The character of a literal. Without Unicode a byte above 127 is half of a character. -/
def literalChar (f : Flags) (l : Literal) : Except Fault Char :=
  if !f.unicode && l.isByte && l.char.toNat > 0x7F then
    throw { kind := .invalidUtf8, span := l.span }
  else return l.char

/-- The character of a literal inside brackets. Without Unicode it is one of ASCII. -/
def memberChar (f : Flags) (l : Literal) : Except Fault Char := do
  let c ← literalChar f l
  if !f.unicode && c.toNat > 0x7F then throw { kind := .unicodeNotAllowed, span := l.span }
  return c

mutual

/-- The characters of a part of a class. -/
def ClassTree.chars (f : Flags) : ClassTree → Except Fault CharSet
  | .empty _ => return .empty
  | .literal l => return .single (← memberChar f l)
  | .range _ first last => do
    let low ← memberChar f first
    let high ← memberChar f last
    return .range low high
  | .ascii span name negated => finishSet f span negated (asciiChars name)
  | .property span query negated => propertyChars f span query negated
  | .short span kind negated => shortChars f span kind negated
  | .bracketed span negated inner => do finishSet f span negated (← inner.chars f)
  | .union _ items => ClassTree.charsOfAll f items
  | .op _ kind left right => do
    let fold := fun (s : CharSet) =>
      if !f.caseInsensitive then s else if f.unicode then s.foldCase else foldAscii s
    let a := fold (← left.chars f)
    let b := fold (← right.chars f)
    return match kind with
      | .intersection => a.inter b
      | .difference => a.diff b
      | .symmetricDifference => a.symmDiff b

/-- The characters of several parts together. -/
def ClassTree.charsOfAll (f : Flags) : List ClassTree → Except Fault CharSet
  | [] => return .empty
  | item :: rest => do
    let s ← item.chars f
    return s.union (← ClassTree.charsOfAll f rest)

end

/-! ## Expressions -/

/-- The set of a literal outside brackets. -/
def literalSet (f : Flags) (l : Literal) : Except Fault CharSet := do
  let s := CharSet.single (← literalChar f l)
  return if !f.caseInsensitive then s else if f.unicode then s.foldCase else foldAscii s

/-- The set of a dot. -/
def dotSet (f : Flags) (span : Span) : Except Fault CharSet :=
  if !f.unicode then throw { kind := .invalidUtf8, span }
  else return if f.dotMatchesNewLine then .all
    else if f.crlf then (CharSet.ofHex "A D").compl
    else (CharSet.ofHex "A").compl

/-- The condition of an anchor. -/
def Anchor.look (f : Flags) : Anchor → Look
  | startLine => if !f.multiLine then .start else if f.crlf then .crlfStart else .lineStart
  | endLine => if !f.multiLine then .stop else if f.crlf then .crlfStop else .lineStop
  | startText => .start
  | endText => .stop
  | wordBoundary => .boundary f.unicode
  | notWordBoundary => .notBoundary f.unicode
  | wordStart => .wordStart f.unicode
  | wordEnd => .wordStop f.unicode
  | wordStartHalf => .wordStartHalf f.unicode
  | wordEndHalf => .wordStopHalf f.unicode

/-- One of two expressions; one of two characters is one character of both sets. -/
def Matcher.orElse : Matcher → Matcher → Matcher
  | .one s, .one t => .one (s.union t)
  | a, b => .alt a b

/-- One of several expressions. -/
def Matcher.choice : List Matcher → Matcher
  | [] => .one .empty
  | [e] => e
  | e :: rest => Matcher.orElse e (Matcher.choice rest)

mutual

/-- The expression of a tree under flags, and the flags for what follows it. -/
def Tree.matcher (f : Flags) : Tree → Except Fault (Matcher × Flags)
  | .empty _ => return (.empty, f)
  | .switches _ flags => return (.empty, f.apply flags)
  | .literal l => return (.one (← literalSet f l), f)
  | .dot span => return (.one (← dotSet f span), f)
  | .anchor _ kind => return (.look (kind.look f), f)
  | .property span query negated => return (.one (← propertyChars f span query negated), f)
  | .short span kind negated => return (.one (← shortChars f span kind negated), f)
  | .bracketed span negated inner => do
    return (.one (← finishSet f span negated (← inner.chars f)), f)
  | .repetition _ least most inner => do
    let (e, f) ← inner.matcher f
    return (.rep least most e, f)
  | .group _ flags captures inner => do
    let (e, _) ← inner.matcher (f.apply flags)
    return (if captures then .capture e else e, f)
  | .alternation _ branches => do
    let (es, f) ← Tree.matchers f branches
    return (Matcher.choice es, f)
  | .concat _ parts => do
    let (es, f) ← Tree.matchers f parts
    return (.concat es, f)

/-- The expressions of several trees, from left to right. -/
def Tree.matchers (f : Flags) : List Tree → Except Fault (List Matcher × Flags)
  | [] => return ([], f)
  | tree :: rest => do
    let (e, f) ← tree.matcher f
    let (es, f) ← Tree.matchers f rest
    return (e :: es, f)

end

end RecordRules.Pattern
