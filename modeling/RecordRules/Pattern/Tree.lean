/-
  The shape of a pattern as it is written, with the place of each part.
-/
import RecordRules.Pattern.Span

namespace RecordRules.Pattern

/-- A character of a pattern. `isByte` marks one written as `\x` and two digits, which stands for
    a byte where the pattern does not speak of Unicode. -/
structure Literal where
  span : Span
  char : Char
  isByte : Bool := false
deriving DecidableEq, Repr

/-- Switches that a pattern can set and clear. -/
inductive Flag
  | caseInsensitive
  | multiLine
  | dotMatchesNewLine
  | swapGreed
  | unicode
  | crlf
  | ignoreWhitespace
deriving DecidableEq, Repr

/-- Places between characters that a pattern can ask for. -/
inductive Anchor
  | startLine
  | endLine
  | startText
  | endText
  | wordBoundary
  | notWordBoundary
  | wordStart
  | wordEnd
  | wordStartHalf
  | wordEndHalf
deriving DecidableEq, Repr

/-- Classes with one-letter names: digits, white space, word characters. -/
inductive ShortClass
  | digit
  | space
  | word
deriving DecidableEq, Repr

/-- How a class of characters with a property is written. -/
inductive PropertyQuery
  | named (name : String)
  | valued (name value : String)
deriving DecidableEq, Repr

/-- Operations between two sets inside brackets. -/
inductive SetOp
  | intersection
  | difference
  | symmetricDifference
deriving DecidableEq, Repr

/-- What stands inside brackets. -/
inductive ClassTree
  | empty (span : Span)
  | literal (l : Literal)
  | range (span : Span) (first last : Literal)
  | ascii (span : Span) (name : String) (negated : Bool)
  | property (span : Span) (query : PropertyQuery) (negated : Bool)
  | short (span : Span) (kind : ShortClass) (negated : Bool)
  | bracketed (span : Span) (negated : Bool) (inner : ClassTree)
  | union (span : Span) (items : List ClassTree)
  | op (span : Span) (kind : SetOp) (left right : ClassTree)

/-- The place of a part of a class. -/
def ClassTree.span : ClassTree → Span
  | empty s | range s _ _ | ascii s _ _ | property s _ _ | short s _ _ | bracketed s _ _
  | union s _ | op s _ _ _ => s
  | literal l => l.span

/-- A pattern. `switches` sets (`true`) and clears (`false`) flags for what follows it, or for the
    inside of a group. -/
inductive Tree
  | empty (span : Span)
  | switches (span : Span) (flags : List (Flag × Bool))
  | literal (l : Literal)
  | dot (span : Span)
  | anchor (span : Span) (kind : Anchor)
  | property (span : Span) (query : PropertyQuery) (negated : Bool)
  | short (span : Span) (kind : ShortClass) (negated : Bool)
  | bracketed (span : Span) (negated : Bool) (inner : ClassTree)
  | repetition (span : Span) (least : Nat) (most : Option Nat) (inner : Tree)
  | group (span : Span) (flags : List (Flag × Bool)) (captures : Bool) (inner : Tree)
  | alternation (span : Span) (branches : List Tree)
  | concat (span : Span) (parts : List Tree)

/-- The place of a part of a pattern. -/
def Tree.span : Tree → Span
  | empty s | switches s _ | dot s | anchor s _ | property s _ _ | short s _ _ | bracketed s _ _
  | repetition s _ _ _ | group s _ _ _ | alternation s _ | concat s _ => s
  | literal l => l.span

/-- What a list of switches says about a flag: its first mention counts. -/
def switchOf (flag : Flag) (flags : List (Flag × Bool)) : Option Bool :=
  (flags.find? fun e => e.1 == flag).map Prod.snd

/-! ## Depth

A pattern nested deeper than a limit is refused at the first part below the limit, from left to
right. Literals, dots, anchors and classes without brackets add no depth. -/

mutual

/-- The first part of a class that lies below `room` more levels. -/
def ClassTree.tooDeep (room : Nat) : ClassTree → Option Span
  | bracketed s _ inner => if room = 0 then some s else inner.tooDeep (room - 1)
  | union s items => if room = 0 then some s else ClassTree.anyTooDeep (room - 1) items
  | op s _ left right =>
    if room = 0 then some s
    else match left.tooDeep (room - 1) with
      | some f => some f
      | none => right.tooDeep (room - 1)
  | _ => none

/-- The first part of several that lies too deep. -/
def ClassTree.anyTooDeep (room : Nat) : List ClassTree → Option Span
  | [] => none
  | item :: rest =>
    match item.tooDeep room with
    | some f => some f
    | none => ClassTree.anyTooDeep room rest

end

mutual

/-- The first part of a pattern that lies below `room` more levels. -/
def Tree.tooDeep (room : Nat) : Tree → Option Span
  | bracketed s _ inner => if room = 0 then some s else inner.tooDeep (room - 1)
  | repetition s _ _ inner | group s _ _ inner =>
    if room = 0 then some s else inner.tooDeep (room - 1)
  | alternation s parts | concat s parts =>
    if room = 0 then some s else Tree.anyTooDeep (room - 1) parts
  | _ => none

/-- The first part of several that lies too deep. -/
def Tree.anyTooDeep (room : Nat) : List Tree → Option Span
  | [] => none
  | part :: rest =>
    match part.tooDeep room with
    | some f => some f
    | none => Tree.anyTooDeep room rest

end

end RecordRules.Pattern
