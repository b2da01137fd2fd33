/-
  Values that nobody asks for. They are read over: brackets may be nested at will, surrogate halves
  need no partner, and some faults are named differently than for a value that is kept.
-/
import RecordRules.Json.Read

namespace RecordRules.JsonText

/-- Reads over a text after its opening quote, and over the closing quote. -/
def skimText : List Char → Except Fault (List Char)
  | [] => .error (.here .endInText [])
  | '"' :: rest => .ok rest
  | ['\\'] => .error (.here .endInText [])
  | '\\' :: 'u' :: a :: b :: c :: d :: rest =>
    match hexFour? a b c d with
    | none => .error (hexFault (a :: b :: c :: d :: rest))
    | some _ => skimText rest
  | '\\' :: 'u' :: rest => .error (hexFault rest)
  | '\\' :: c :: rest =>
    match escaped? c with
    | some _ => skimText rest
    | none => .error (.next .badEscape (c :: rest))
  | c :: rest =>
    if c.toNat < 0x20 then .error (.here .controlCharacter (c :: rest)) else skimText rest

/-- Reads over a key and its colon, up to the value. -/
def skimKey (cs : List Char) : Except Fault (List Char) :=
  match skipSpace cs with
  | [] => .error (.here .endInObject [])
  | '"' :: rest => do afterColon (← skimText rest)
  | rest => .error (.next .noKey rest)

/-- The brackets around a value that is read over. -/
inductive Bracket
  | list
  | object
deriving DecidableEq, Repr

/-- The character that closes a bracket. -/
def Bracket.close : Bracket → Char
  | list => ']'
  | object => '\x7d'

/-- The fault if the text ends inside a bracket. -/
def Bracket.atEnd : Bracket → Cause
  | list => .endInList
  | object => .endInObject

/-- The fault if something else than a comma or the end follows a value inside a bracket. -/
def Bracket.noComma : Bracket → Cause
  | list => .noListCommaOrEnd
  | object => .noObjectCommaOrEnd

/-- What is left before the next value inside a bracket. -/
def Bracket.toValue : Bracket → List Char → Except Fault (List Char)
  | list, cs => .ok cs
  | object, cs => skimKey cs

/-- Where a reader stands inside brackets: those that are open, the innermost first, what is left,
    and whether a value is next or a comma or an end. -/
structure Skimming where
  fresh : Bool
  around : List Bracket
  rest : List Char

/-- Goes on after an opening bracket. -/
def Bracket.enter (b : Bracket) (around : List Bracket) (cs : List Char) :
    Except Fault Skimming :=
  match skipSpace cs with
  | [] => .error (.here b.atEnd [])
  | c :: rest =>
    if c = b.close then .ok ⟨false, around, rest⟩
    else do return ⟨true, b :: around, ← b.toValue (c :: rest)⟩

/-- Reads over the start of a value: all of it, or its opening bracket. -/
def skimStart (around : List Bracket) (cs : List Char) : Except Fault Skimming :=
  match skipSpace cs with
  | [] => .error (.here .endInValue [])
  | 'n' :: rest => do return ⟨false, around, ← word ['u', 'l', 'l'] rest⟩
  | 't' :: rest => do return ⟨false, around, ← word ['r', 'u', 'e'] rest⟩
  | 'f' :: rest => do return ⟨false, around, ← word ['a', 'l', 's', 'e'] rest⟩
  | '"' :: rest => do return ⟨false, around, ← skimText rest⟩
  | '[' :: rest => Bracket.list.enter around rest
  | '\x7b' :: rest => Bracket.object.enter around rest
  | c :: rest =>
    if c = '-' ∨ (Digit.ofChar? c).isSome then do
      let (_, rest) ← number .badNumber (c :: rest)
      return ⟨false, around, rest⟩
    else .error (.next .noValue (c :: rest))

/-- Reads over what follows a value inside a bracket: the end, or a comma and a key. -/
def Bracket.goOn (b : Bracket) (around : List Bracket) (cs : List Char) :
    Except Fault Skimming :=
  match skipSpace cs with
  | [] => .error (.here b.atEnd [])
  | c :: rest =>
    if c = ',' then do return ⟨true, b :: around, ← b.toValue rest⟩
    else if c = b.close then .ok ⟨false, around, rest⟩
    else .error (.next b.noComma (c :: rest))

/-- Reads over everything up to the end of the outermost bracket. The fuel bounds the number of
    steps. -/
def skimFrom : (fuel : Nat) → Skimming → Except Fault (List Char)
  | 0, s => .error (.next .tooDeep s.rest)
  | fuel + 1, s =>
    if s.fresh then do skimFrom fuel (← skimStart s.around s.rest)
    else match s.around with
      | [] => .ok s.rest
      | b :: around => do skimFrom fuel (← b.goOn around s.rest)

/-- Reads over a value. Every step but the last takes a character. -/
def skim (cs : List Char) : Except Fault (List Char) :=
  skimFrom (cs.length + 2) ⟨true, [], cs⟩

end RecordRules.JsonText
