/-
  Message templates. A listed key in braces is a token; everything else stands for itself, an opening
  brace that starts no token as well. A template is split into its parts before any value is put in,
  so values are never scanned.
-/

namespace RecordRules.Template

/-- A part of a template. -/
inductive Part
  | literal (c : Char)
  | token (key : String)
deriving DecidableEq, Repr

/-- What stands before the first closing brace. -/
def beforeBrace? : List Char → Option (List Char)
  | [] => none
  | c :: cs => if c = '\x7d' then some [] else (beforeBrace? cs).map (c :: ·)

/-- The listed key up to the first closing brace. -/
def key? (keys : List String) (cs : List Char) : Option String :=
  match beforeBrace? cs with
  | some name => if keys.contains (String.ofList name) then some (String.ofList name) else none
  | none => none

/-- The parts of a template. `skip` counts the characters that belong to the last token. -/
def partsFrom (keys : List String) : (skip : Nat) → List Char → List Part
  | _, [] => []
  | skip + 1, _ :: cs => partsFrom keys skip cs
  | 0, c :: cs =>
    match if c = '\x7b' then key? keys cs else none with
    | some key => .token key :: partsFrom keys (key.toList.length + 1) cs
    | none => .literal c :: partsFrom keys 0 cs

/-- The parts of a template with these keys. -/
def parts (keys : List String) (template : String) : List Part :=
  partsFrom keys 0 template.toList

/-- Values under keys; of several under one key the first counts. -/
abbrev Values := List (String × String)

/-- The characters of a part with its value put in. -/
def Part.fill (values : Values) : Part → List Char
  | literal c => [c]
  | token key => ((values.lookup key).getD "").toList

/-- A template with its tokens replaced by values. -/
def render (template : String) (values : Values) : String :=
  String.ofList ((parts (values.map Prod.fst) template).flatMap (Part.fill values))

example : render "\x7ba\x7b\x7d \x7bf\x7d" [("f", "\x7bf\x7d")] = "\x7ba\x7b\x7d \x7bf\x7d" := by
  decide +kernel

end RecordRules.Template
