/-
  Texts between quotes for messages to a reader: what cannot be seen is written as a code.
-/
import RecordRules.Unicode.Property

namespace RecordRules.Text

/-- Characters that show nothing of their own or change the one before. -/
def hidden : Unicode.CharSet :=
  .unions [Unicode.assigned.compl, Unicode.graphemeExtend,
    (Unicode.categoriesChars ["cc", "cf", "co", "zl", "zp", "zs"]).diff (.single ' ')]

/-- Hexadecimal digits of a number before digits that are known already. -/
def hexBefore (n : Nat) (known : List Char) : List Char :=
  let digit := fun d => if d < 10 then Char.ofNat (48 + d) else Char.ofNat (87 + d)
  if n < 16 then digit n :: known else hexBefore (n / 16) (digit (n % 16) :: known)
termination_by n
decreasing_by omega

/-- The characters that show one character between quotes. -/
def shown (hidden : Unicode.CharSet) (c : Char) : List Char :=
  if c = '\x00' then ['\\', '0']
  else if c = '\t' then ['\\', 't']
  else if c = '\n' then ['\\', 'n']
  else if c = '\r' then ['\\', 'r']
  else if c = '"' then ['\\', '"']
  else if c = '\\' then ['\\', '\\']
  else if 0x20 ≤ c.toNat ∧ c.toNat < 0x7F then [c]
  else if hidden.mem c then '\\' :: 'u' :: '\x7b' :: hexBefore c.toNat ['\x7d']
  else [c]

/-- A text between quotes. -/
def quoted (s : String) : String :=
  let plain := s.toList.all fun c => 0x20 ≤ c.toNat && c.toNat < 0x7F
  let set := if plain then .empty else hidden
  "\"" ++ String.ofList (s.toList.flatMap (shown set)) ++ "\""

example : quoted "a\"b" = "\"a\\\"b\"" := by decide +kernel

end RecordRules.Text
