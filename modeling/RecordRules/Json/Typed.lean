/-
  Values of expected types, read from JSON text or from a JSON value.

  The numbers of a JSON value may be spelled otherwise when the value, or a part of it, is taken as a
  JSON value again.

  From text, most faults have their place right after the value. A fault that concerns an object as
  a whole, or content that is taken for any value first, gets its place when the object ends: after
  the closing bracket, if that comes next, whatever else is wrong there.
-/
import RecordRules.Json.Print
import RecordRules.Json.Respelled
import RecordRules.Json.Skim
import RecordRules.Text.Quote

namespace RecordRules

open JsonText

/-- Why a text does not hold a value of an expected type. -/
inductive TypeFlaw
  | placed (f : Fault)
  | unplaced (message : String) (rest : List Char)

/-- How values of a type are read from text and from JSON values. -/
structure Typed (α : Type) where
  fromText : (depth : Nat) → List Char → Except TypeFlaw (α × List Char)
  fromJson : Json → Except String α

namespace Typed

variable {α β : Type}

/-- The result of a step whose faults have their place. -/
def placed (r : Except Fault α) : Except TypeFlaw α := r.mapError .placed

/-- A fault with its place before what is left. -/
def wrong {α : Type} (message : String) (rest : List Char) : Except TypeFlaw α :=
  .error (.placed (.here (.other message) rest))

/-! ## Words for what is found -/

/-- Whether a numeral is a plain integer that fits 64 bits: negative ones with a sign, the others
    without. -/
def isWord (n : Numeral) : Bool :=
  n.fraction.isNone && n.exponent.isNone &&
    (if n.negative then n.whole.value ≠ 0 && n.whole.value ≤ 0x8000000000000000
      else n.whole.value < 0x10000000000000000)

/-- Words for a value. -/
def found : Json → String
  | .null => "null"
  | .bool b => "boolean `" ++ toString b ++ "`"
  | .number _ => "number"
  | .text s => "string " ++ Text.quoted s
  | .array _ => "sequence"
  | .object _ => "map"

/-- Words for a value in a text. -/
def foundInText : Json → String
  | .number n => if isWord n then "integer `" ++ n.text ++ "`" else "number"
  | json => found json

/-- The complaint about a value of a wrong type. -/
def mismatch (found expected : String) : String :=
  "invalid type: " ++ found ++ ", expected " ++ expected

/-- The fault of a value of a wrong type in a text. Lists and objects are not read. -/
def wrongType {α : Type} (expected : String) (cs : List Char) : Except TypeFlaw α :=
  match skipSpace cs with
  | '[' :: rest => wrong (mismatch (found (.array [])) expected) ('[' :: rest)
  | '\x7b' :: rest => wrong (mismatch (found (.object [])) expected) ('\x7b' :: rest)
  | cs => do
    let (json, rest) ← placed (value 1 depthLimit cs)
    wrong (mismatch (foundInText json) expected) rest

/-! ## Readers -/

/-- A reader whose results are changed. -/
def map (f : α → β) (t : Typed α) : Typed β where
  fromText depth cs := (t.fromText depth cs).map fun (a, rest) => (f a, rest)
  fromJson json := (t.fromJson json).map f

/-- Texts with content of an expected kind. -/
def content (expected : String) (parse : String → Except String α) : Typed α where
  fromText _ cs :=
    match skipSpace cs with
    | '"' :: rest => do
      let (s, rest) ← placed (textAfterQuote rest)
      match parse s with
      | .ok a => return (a, rest)
      | .error message => wrong message rest
    | cs => wrongType expected cs
  fromJson
    | .text s => parse s
    | json => .error (mismatch (found json) expected)

/-- Texts. -/
def text : Typed String := content "a string" .ok

/-- Values that are null or of a type. -/
def optional (t : Typed α) : Typed (Option α) where
  fromText depth cs :=
    match skipSpace cs with
    | 'n' :: rest => do return (none, ← placed (word ['u', 'l', 'l'] rest))
    | cs => (t.fromText depth cs).map fun (a, rest) => (some a, rest)
  fromJson
    | .null => .ok none
    | json => (t.fromJson json).map some

/-- Values that are read as JSON values first. -/
def any (convert : Json → Except String α) : Typed α where
  fromText depth cs := do
    let (json, rest) ← placed (value (fuelFor cs) depth cs)
    match convert json with
    | .ok a => return (a, rest)
    | .error message => throw (.unplaced message rest)
  fromJson json := convert json.respelled

/-- Reads further items of a list. -/
def itemsFromText (t : Typed α) (depth : Nat) : (fuel : Nat) → List Char →
    Except TypeFlaw (List α × List Char)
  | 0, cs => .error (.placed (.next .tooDeep cs))
  | fuel + 1, cs => do
    let (a, rest) ← t.fromText depth cs
    match ← placed (afterItem rest) with
    | (true, rest) =>
      let (more, rest) ← itemsFromText t depth fuel rest
      return (a :: more, rest)
    | (false, rest) => return ([a], rest)

/-- Lists of values of a type. -/
def list (t : Typed α) : Typed (List α) where
  fromText depth cs :=
    match skipSpace cs with
    | '[' :: rest => do
      let depth ← placed (deeper depth ('[' :: rest))
      match skipSpace rest with
      | [] => .error (.placed (.here .endInList []))
      | ']' :: rest => return ([], rest)
      | rest => itemsFromText t depth (fuelFor rest) rest
    | cs => wrongType "a sequence" cs
  fromJson
    | .array items => items.mapM t.fromJson
    | json => .error (mismatch (found json) "a sequence")

/-- Objects as they are. -/
def members : Typed (Entries Json) where
  fromText depth cs :=
    match skipSpace cs with
    | '\x7b' :: rest => do
      match ← placed (value (fuelFor cs) depth ('\x7b' :: rest)) with
      | (.object list, rest) => return (.ofList list, rest)
      | (json, rest) => wrong (mismatch (foundInText json) "a map") rest
    | cs => wrongType "a map" cs
  fromJson
    | .object list => .ok (.ofList (Json.respelledMembers list))
    | json => .error (mismatch (found json) "a map")

end Typed

/-! ## Objects with known fields -/

/-- A field of an object: its name, and how its value changes the result. Where an object is
    written as a list, a field that `mayMiss` need not be there. -/
structure TypedField (σ : Type) where
  name : String
  value : Typed (σ → σ)
  mayMiss : Bool

/-- An object with known fields, or a list of their values in order. -/
structure TypedObject (σ : Type) where
  name : String
  fields : List (TypedField σ)
  initial : σ

namespace TypedObject

variable {σ : Type}

/-- What is expected of an object. -/
def expected (o : TypedObject σ) : String := "struct " ++ o.name

/-- The complaint about a field that comes twice. -/
def twice (name : String) : String := "duplicate field `" ++ name ++ "`"

/-- The complaint about a list with too few values. -/
def tooShort (o : TypedObject σ) (length : Nat) : String :=
  "invalid length " ++ toString length ++ ", expected " ++ o.expected ++ " with " ++
    toString o.fields.length ++ " elements"

/-- The complaint about a list with too many values. -/
def tooLong (length : Nat) : String :=
  "invalid length " ++ toString length ++ ", expected fewer elements in array"

/-- Places a fault at the end of an object, if it has no place. -/
def closeObject : TypeFlaw → Fault
  | .placed f => f
  | .unplaced message rest =>
    match skipSpace rest with
    | '\x7d' :: rest => .here (.other message) rest
    | rest => .here (.other message) rest

/-- Places a fault at the end of a list, if it has no place. -/
def closeList : TypeFlaw → Fault
  | .placed f => f
  | .unplaced message rest =>
    match skipSpace rest with
    | ']' :: rest => .here (.other message) rest
    | ',' :: rest => .here (.other message) (skipSpace rest)
    | rest => .here (.other message) rest

/-- Reads members, the first from inside its key on, up to the end of their object. Fields that are
    not known are read over. -/
def membersFromText (o : TypedObject σ) (depth : Nat) : (fuel : Nat) → (seen : List String) →
    σ → List Char → Except TypeFlaw (σ × List Char)
  | 0, _, _, cs => .error (.placed (.next .tooDeep cs))
  | fuel + 1, seen, state, cs => do
    let (key, rest) ← Typed.placed (textAfterQuote cs)
    let (state, rest) ← match o.fields.find? fun f => f.name == key with
      | some field =>
        if seen.contains key then throw (.unplaced (twice key) rest)
        let rest ← Typed.placed (afterColon rest)
        let (change, rest) ← field.value.fromText depth rest
        pure (change state, rest)
      | none => do
        let rest ← Typed.placed (afterColon rest)
        pure (state, ← Typed.placed (skim rest))
    match ← Typed.placed (afterMember rest) with
    | (true, rest) => membersFromText o depth fuel (key :: seen) state rest
    | (false, rest) => return (state, rest)

/-- Reads the values of fields in a list, from before the first or before the comma of a further one,
    and the list's end. `index` counts the values read. -/
def valuesFromText (o : TypedObject σ) (depth : Nat) : (index : Nat) → List (TypedField σ) → σ →
    List Char → Except TypeFlaw (σ × List Char)
  | _, [], state, cs =>
    match skipSpace cs with
    | [] => .error (.placed (.here .endInList []))
    | ']' :: rest => .ok (state, rest)
    | ',' :: rest =>
      match skipSpace rest with
      | ']' :: rest => .error (.placed (.next .trailingComma (']' :: rest)))
      | rest => .error (.placed (.next .trailingCharacters rest))
    | rest => .error (.placed (.next .trailingCharacters rest))
  | index, field :: fields, state, cs =>
    match skipSpace cs with
    | [] => .error (.placed (.here .endInList []))
    | ']' :: rest =>
      if field.mayMiss then valuesFromText o depth (index + 1) fields state (']' :: rest)
      else .error (.unplaced (o.tooShort index) (']' :: rest))
    | rest => do
      let rest ← if index = 0 then pure rest
        else do let (_, rest) ← Typed.placed (afterItem rest); pure rest
      let (change, rest) ← field.value.fromText depth rest
      valuesFromText o depth (index + 1) fields (change state) rest

/-- Changes the result by the members of an object. -/
def membersFromJson (o : TypedObject σ) : List (String × Json) → σ → Except String σ
  | [], state => .ok state
  | (key, json) :: members, state =>
    match o.fields.find? fun f => f.name == key with
    | some field => do membersFromJson o members ((← field.value.fromJson json) state)
    | none => membersFromJson o members state

/-- Changes the result by the values of a list of `length` values in all. -/
def valuesFromJson (o : TypedObject σ) (length : Nat) : (index : Nat) → List (TypedField σ) →
    List Json → σ → Except String σ
  | _, [], [], state => .ok state
  | _, [], _ :: _, _ => .error (tooLong length)
  | index, field :: fields, [], state =>
    if field.mayMiss then valuesFromJson o length (index + 1) fields [] state
    else .error (o.tooShort index)
  | index, field :: fields, json :: items, state => do
    valuesFromJson o length (index + 1) fields items ((← field.value.fromJson json) state)

/-- Reads an object with known fields from text. -/
def reader (o : TypedObject σ) : Reader σ := fun cs =>
  match skipSpace cs with
  | '\x7b' :: rest =>
    match skipSpace rest with
    | [] => .error (.here .endInObject [])
    | '\x7d' :: rest => .ok (o.initial, rest)
    | '"' :: rest =>
      (o.membersFromText (depthLimit - 1) (fuelFor rest) [] o.initial rest).mapError closeObject
    | rest => .error (.next .noKey rest)
  | '[' :: rest =>
    (o.valuesFromText (depthLimit - 1) 0 o.fields o.initial rest).mapError closeList
  | cs => (Typed.wrongType o.expected cs).mapError closeObject

/-- Reads an object with known fields from a whole text. -/
def ofText (o : TypedObject σ) (text : String) : Except String σ := whole? o.reader text

/-- Reads an object with known fields from a JSON value. -/
def ofJson (o : TypedObject σ) : Json → Except String σ
  | .object members => o.membersFromJson members o.initial
  | .array items => o.valuesFromJson items.length 0 o.fields items o.initial
  | json => .error (Typed.mismatch (Typed.found json) o.expected)

end TypedObject

/-- Reads a value from a whole text. A fault without a place comes before whatever is wrong after the
    value. -/
def Typed.ofText {α : Type} (t : Typed α) (text : String) : Except String α :=
  match t.fromText depthLimit text.toList with
  | .ok result => whole? (fun _ => .ok result) text
  | .error (.placed f) => .error (f.report text.toList)
  | .error (.unplaced message _) => .error message

end RecordRules
