/-
  Places in the text of a pattern: lines and columns, both counted from one in characters.
-/

namespace RecordRules.Pattern

/-- A place between two characters. -/
structure Position where
  line : Nat
  column : Nat
deriving DecidableEq, Repr, Inhabited

/-- The place before the first character. -/
def Position.start : Position := ⟨1, 1⟩

/-- The place after a character. -/
def Position.next (p : Position) (c : Char) : Position :=
  if c = '\n' then ⟨p.line + 1, 1⟩ else ⟨p.line, p.column + 1⟩

/-- Whether one place lies before another. -/
def Position.before (p q : Position) : Bool :=
  p.line < q.line || (p.line == q.line && p.column < q.column)

/-- The text between two places. -/
structure Span where
  start : Position
  stop : Position
deriving DecidableEq, Repr, Inhabited

/-- The empty span at a place. -/
def Span.point (p : Position) : Span := ⟨p, p⟩

/-- Whether a span ends on the line on which it starts. -/
def Span.isOneLine (s : Span) : Bool := s.start.line == s.stop.line

/-- The order of spans: by their starts, then by their ends. -/
def Span.before (s t : Span) : Bool :=
  s.start.before t.start || (s.start == t.start && s.stop.before t.stop)

end RecordRules.Pattern
