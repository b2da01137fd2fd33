/-
  JSON values as compact text: no blanks, and only quotes, backslashes and control characters
  escaped.
-/
import RecordRules.Json.Value

namespace RecordRules.Json

/-- A hexadecimal digit, in small letters. -/
def hexDigit (n : Nat) : Char := if n < 10 then Char.ofNat (48 + n) else Char.ofNat (87 + n)

/-- The characters that stand for one character between quotes. -/
def escape (c : Char) : List Char :=
  if c = '"' then ['\\', '"']
  else if c = '\\' then ['\\', '\\']
  else if c = '\n' then ['\\', 'n']
  else if c = '\r' then ['\\', 'r']
  else if c = '\t' then ['\\', 't']
  else if c = '\x08' then ['\\', 'b']
  else if c = '\x0c' then ['\\', 'f']
  else if c.toNat < 0x20 then
    ['\\', 'u', '0', '0', hexDigit (c.toNat / 16), hexDigit (c.toNat % 16)]
  else [c]

/-- A text between quotes. -/
def quoted (s : String) : List Char := '"' :: (s.toList.flatMap escape ++ ['"'])

mutual

/-- The characters of a value. -/
def chars : Json → List Char
  | null => ['n', 'u', 'l', 'l']
  | bool true => ['t', 'r', 'u', 'e']
  | bool false => ['f', 'a', 'l', 's', 'e']
  | number n => n.chars
  | text s => quoted s
  | array [] => ['[', ']']
  | array (item :: items) => '[' :: (item.chars ++ itemsChars items ++ [']'])
  | object [] => ['\x7b', '\x7d']
  | object ((key, value) :: members) =>
    '\x7b' :: (quoted key ++ ':' :: value.chars ++ membersChars members ++ ['\x7d'])

/-- The characters of further items, each after a comma. -/
def itemsChars : List Json → List Char
  | [] => []
  | item :: items => ',' :: (item.chars ++ itemsChars items)

/-- The characters of further members, each after a comma. -/
def membersChars : List (String × Json) → List Char
  | [] => []
  | (key, value) :: members =>
    ',' :: (quoted key ++ ':' :: value.chars ++ membersChars members)

end

/-- The text of a value. -/
def print (json : Json) : String := String.ofList json.chars

example : (Json.object [("a", .array [.null, .text "\"\x01"])]).chars =
    ['\x7b', '"', 'a', '"', ':', '[', 'n', 'u', 'l', 'l', ',', '"', '\\', '"', '\\', 'u', '0', '0',
      '0', '1', '"', ']', '\x7d'] := by decide

end RecordRules.Json
