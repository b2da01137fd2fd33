/-
  JSON texts as values. A key that comes twice keeps its place and takes the later value. Brackets
  may be nested only so deep; the depth that is left goes down with every open bracket.
-/
import RecordRules.Entries
import RecordRules.Json.Token
import RecordRules.Json.Value

namespace RecordRules.JsonText

/-- One less than the number of brackets that may be open at once, plus two. -/
def depthLimit : Nat := 128

/-- The depth that is left inside a bracket that opens here. -/
def deeper (depth : Nat) (cs : List Char) : Except Fault Nat :=
  if depth ≤ 1 then .error (.next .tooDeep cs) else .ok (depth - 1)

/-- What is left after the comma before a further item of a list, or after the list's end. -/
def afterItem (cs : List Char) : Except Fault (Bool × List Char) :=
  match skipSpace cs with
  | [] => .error (.here .endInList [])
  | ']' :: rest => .ok (false, rest)
  | ',' :: rest =>
    match skipSpace rest with
    | [] => .error (.here .endInValue [])
    | ']' :: rest => .error (.next .trailingComma (']' :: rest))
    | rest => .ok (true, rest)
  | rest => .error (.next .noListCommaOrEnd rest)

/-- What is left after the comma before a further member and the quote that opens its key, or after
    the object's end. -/
def afterMember (cs : List Char) : Except Fault (Bool × List Char) :=
  match skipSpace cs with
  | [] => .error (.here .endInObject [])
  | '\x7d' :: rest => .ok (false, rest)
  | ',' :: rest =>
    match skipSpace rest with
    | [] => .error (.here .endInValue [])
    | '"' :: rest => .ok (true, rest)
    | '\x7d' :: rest => .error (.next .trailingComma ('\x7d' :: rest))
    | rest => .error (.next .noKey rest)
  | rest => .error (.next .noObjectCommaOrEnd rest)

/-- What is left after the colon between a key and its value. -/
def afterColon (cs : List Char) : Except Fault (List Char) :=
  match skipSpace cs with
  | [] => .error (.here .endInObject [])
  | ':' :: rest => .ok rest
  | rest => .error (.next .noColon rest)

mutual

/-- Reads a value. The fuel bounds the number of steps. -/
def value : (fuel depth : Nat) → Reader Json
  | 0, _, cs => .error (.next .tooDeep cs)
  | fuel + 1, depth, cs =>
    match skipSpace cs with
    | [] => .error (.here .endInValue [])
    | 'n' :: rest => do return (.null, ← word ['u', 'l', 'l'] rest)
    | 't' :: rest => do return (.bool true, ← word ['r', 'u', 'e'] rest)
    | 'f' :: rest => do return (.bool false, ← word ['a', 'l', 's', 'e'] rest)
    | '"' :: rest => do
      let (s, rest) ← textAfterQuote rest
      return (.text s, rest)
    | '[' :: rest => do
      let depth ← deeper depth ('[' :: rest)
      match skipSpace rest with
      | [] => .error (.here .endInList [])
      | ']' :: rest => return (.array [], rest)
      | rest => do
        let (values, rest) ← items fuel depth rest
        return (.array values, rest)
    | '\x7b' :: rest => do
      let depth ← deeper depth ('\x7b' :: rest)
      match skipSpace rest with
      | [] => .error (.here .endInObject [])
      | '\x7d' :: rest => return (.object [], rest)
      | '"' :: rest => do
        let (entries, rest) ← members fuel depth .empty rest
        return (.object entries.list, rest)
      | rest => .error (.next .noKey rest)
    | c :: rest =>
      if c = '-' ∨ (Digit.ofChar? c).isSome then do
        let (n, rest) ← number .endInValue (c :: rest)
        return (.number n, rest)
      else .error (.next .noValue (c :: rest))

/-- Reads items up to the end of their list. -/
def items : (fuel depth : Nat) → Reader (List Json)
  | 0, _, cs => .error (.next .tooDeep cs)
  | fuel + 1, depth, cs => do
    let (item, rest) ← value fuel depth cs
    match ← afterItem rest with
    | (true, rest) =>
      let (more, rest) ← items fuel depth rest
      return (item :: more, rest)
    | (false, rest) => return ([item], rest)

/-- Reads members, the first from inside its key on, up to the end of their object. -/
def members : (fuel depth : Nat) → Entries Json → Reader (Entries Json)
  | 0, _, _, cs => .error (.next .tooDeep cs)
  | fuel + 1, depth, known, cs => do
    let (key, rest) ← textAfterQuote cs
    let rest ← afterColon rest
    let (v, rest) ← value fuel depth rest
    match ← afterMember rest with
    | (true, rest) => members fuel depth (known.insert key v) rest
    | (false, rest) => return (known.insert key v, rest)

end

/-- Enough steps for what is left of a text: every step takes a character of it. -/
def fuelFor (cs : List Char) : Nat := cs.length + 1

/-- Reads a value inside so many brackets as the depth allows. -/
def valueWithin (depth : Nat) : Reader Json := fun cs => value (fuelFor cs) depth cs

/-- The result of a reader on a whole text. -/
def whole? {α : Type} (reader : Reader α) (text : String) : Except String α :=
  let result : Except Fault α := do
    let (a, rest) ← reader text.toList
    match skipSpace rest with
    | [] => return a
    | rest => throw (.next .trailingCharacters rest)
  result.mapError (·.report text.toList)

/-- The value of a JSON text, or what is wrong with it. -/
def read (text : String) : Except String Json := whole? (valueWithin depthLimit) text

end RecordRules.JsonText
