/-
  Patterns: texts that describe sets of texts. A pattern is compiled inside `^(?:` and `)$`, so that
  its branches are held together and have to cover a whole text. The wrapping is of the text: a
  pattern that closes the group itself puts its remaining branches outside.
-/
import RecordRules.Pattern.Meaning
import RecordRules.Pattern.Reader
import RecordRules.Pattern.Size

namespace RecordRules

/-- A compiled pattern. -/
structure Pattern where
  text : String
  matcher : Pattern.Matcher

namespace Pattern

/-- Why a text is no pattern. -/
inductive Defect
  | fault (pattern : String) (f : Fault)
  | tooBig
deriving DecidableEq, Repr

/-- The wording of a defect. -/
def Defect.message : Defect → String
  | fault pattern f => f.report pattern
  | tooBig => "Compiled regex exceeds size limit of " ++ toString sizeLimit ++ " bytes."

/-- The expression of a text as it stands. -/
def Matcher.ofText (text : String) : Except Defect Matcher := do
  let located {α : Type} : Except Fault α → Except Defect α := Except.mapError (.fault text)
  let tree ← located (Tree.read text)
  let (e, _) ← located (tree.matcher {})
  if e.fits then return e else throw .tooBig

/-- The text that is compiled for a pattern. -/
def wrapped (text : String) : String := "^(?:" ++ text ++ ")$"

/-- Compiles a pattern. -/
def compile (text : String) : Except Defect Pattern :=
  (Matcher.ofText (wrapped text)).map fun matcher => { text, matcher }

/-- Whether a text fits a pattern. -/
def accepts (p : Pattern) (text : String) : Bool := p.matcher.findsIn text

end Pattern

end RecordRules
