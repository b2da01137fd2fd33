/-
  The smallest parts of a JSON text: words, numbers and texts in quotes.
-/
import RecordRules.Json.Fault
import RecordRules.Json.Numeral

namespace RecordRules.JsonText

/-- Reads the characters of a word. -/
def word : (expected : List Char) → List Char → Except Fault (List Char)
  | [], cs => .ok cs
  | _ :: _, [] => .error (.here .endInValue [])
  | e :: es, c :: cs => if c = e then word es cs else .error (.next .noWord (c :: cs))

/-- Reads the digits of an exponent. `atEnd` is the fault if the text ends before them. -/
def exponentDigits (atEnd : Cause) (negative : Bool) : Reader Exponent
  | [] => .error (.here atEnd [])
  | cs@(_ :: _) =>
    match Digits.span cs with
    | ([], _) => .error (.next .badNumber cs)
    | (ds, rest) => .ok (⟨negative, ds⟩, rest)

/-- Reads an exponent, if there is one. -/
def exponent (atEnd : Cause) : Reader (Option Exponent)
  | c :: cs =>
    if c = 'e' ∨ c = 'E' then
      match cs with
      | '+' :: rest => do let (e, rest) ← exponentDigits atEnd false rest; return (some e, rest)
      | '-' :: rest => do let (e, rest) ← exponentDigits atEnd true rest; return (some e, rest)
      | rest => do let (e, rest) ← exponentDigits atEnd false rest; return (some e, rest)
    else .ok (none, c :: cs)
  | [] => .ok (none, [])

/-- Reads a fraction, if there is one. -/
def fraction (atEnd : Cause) : Reader (Option Digits)
  | '.' :: cs =>
    match Digits.span cs with
    | ([], []) => .error (.here atEnd [])
    | ([], rest@(_ :: _)) => .error (.next .badNumber rest)
    | (ds, rest) => .ok (some ds, rest)
  | cs => .ok (none, cs)

/-- Reads a whole number: zero, or digits the first of which is not zero. -/
def whole (atEnd : Cause) : Reader Digits
  | [] => .error (.here atEnd [])
  | cs@(_ :: _) =>
    match Digits.span cs with
    | ([], _) => .error (.next .badNumber cs)
    | ([d], rest) => .ok ([d], rest)
    | (d :: ds, rest) =>
      if d = 0 then .error (.next .badNumber (Digits.chars ds ++ rest))
      else .ok (d :: ds, rest)

/-- Reads a number after its sign. -/
def unsigned (atEnd : Cause) (negative : Bool) : Reader Numeral := fun cs => do
  let (w, cs) ← whole atEnd cs
  let (f, cs) ← fraction atEnd cs
  let (e, cs) ← exponent atEnd cs
  return (⟨negative, w, f, e⟩, cs)

/-- Reads a number. -/
def number (atEnd : Cause) : Reader Numeral
  | '-' :: cs => unsigned atEnd true cs
  | cs => unsigned atEnd false cs

/-- The value of a hexadecimal digit. -/
def hexValue? (c : Char) : Option Nat :=
  let n := c.toNat
  if 48 ≤ n ∧ n < 58 then some (n - 48)
  else if 65 ≤ n ∧ n < 71 then some (n - 55)
  else if 97 ≤ n ∧ n < 103 then some (n - 87)
  else none

/-- The number that four hexadecimal digits write. -/
def hexFour? (a b c d : Char) : Option Nat := do
  return (((← hexValue? a) * 16 + (← hexValue? b)) * 16 + (← hexValue? c)) * 16 + (← hexValue? d)

/-- The fault where four hexadecimal digits are missing: too few bytes are left, or one of the next
    four is none. -/
def hexFault (cs : List Char) : Fault :=
  if Text.utf8Size cs < 4 then .here .endInText [] else .ahead .badEscape 4 cs

/-- The character of a one-letter escape. -/
def escaped? (c : Char) : Option Char :=
  if c = '"' then some '"'
  else if c = '\\' then some '\\'
  else if c = '/' then some '/'
  else if c = 'b' then some '\x08'
  else if c = 'f' then some '\x0c'
  else if c = 'n' then some '\n'
  else if c = 'r' then some '\r'
  else if c = 't' then some '\t'
  else none

/-- The first halves of pairs of escapes. -/
def isHighHalf (n : Nat) : Bool := 0xD800 ≤ n && n ≤ 0xDBFF

/-- The second halves of pairs of escapes. -/
def isLowHalf (n : Nat) : Bool := 0xDC00 ≤ n && n ≤ 0xDFFF

/-- The character of a pair of halves. -/
def joinHalves (high low : Nat) : Char :=
  Char.ofNat ((high - 0xD800) * 0x400 + (low - 0xDC00) + 0x10000)

/-- Puts a character before what a reader of a text gives. -/
def consText (c : Char) : Except Fault (List Char × List Char) →
    Except Fault (List Char × List Char)
  | .ok (cs, rest) => .ok (c :: cs, rest)
  | .error f => .error f

/-- Reads a text after its opening quote, and the closing quote. -/
def textBody : Reader (List Char)
  | [] => .error (.here .endInText [])
  | '"' :: rest => .ok ([], rest)
  | ['\\'] => .error (.here .endInText [])
  | '\\' :: 'u' :: a :: b :: c :: d :: rest =>
    match hexFour? a b c d with
    | none => .error (hexFault (a :: b :: c :: d :: rest))
    | some n =>
      if isLowHalf n then .error (.here .loneSurrogate rest)
      else if isHighHalf n then
        match rest with
        | [] => .error (.here .endInText [])
        | ['\\'] => .error (.here .endInText [])
        | '\\' :: 'u' :: a :: b :: c :: d :: rest =>
          match hexFour? a b c d with
          | none => .error (hexFault (a :: b :: c :: d :: rest))
          | some m =>
            if isLowHalf m then consText (joinHalves n m) (textBody rest)
            else .error (.here .loneSurrogate rest)
        | '\\' :: 'u' :: rest => .error (hexFault rest)
        | '\\' :: rest => .error (.next .brokenSurrogates rest)
        | rest => .error (.next .brokenSurrogates rest)
      else consText (Char.ofNat n) (textBody rest)
  | '\\' :: 'u' :: rest => .error (hexFault rest)
  | '\\' :: c :: rest =>
    match escaped? c with
    | some e => consText e (textBody rest)
    | none => .error (.next .badEscape (c :: rest))
  | c :: rest =>
    if c.toNat < 0x20 then .error (.here .controlCharacter rest)
    else consText c (textBody rest)

/-- Reads a text after its opening quote. -/
def textAfterQuote : Reader String := fun cs => do
  let (body, rest) ← textBody cs
  return (String.ofList body, rest)

end RecordRules.JsonText
