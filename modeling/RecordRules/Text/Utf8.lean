/-
  Bytes as text: a strict reading that refuses what is not UTF-8, and a tolerant one that writes a
  replacement character for each part that cannot start or go on.
-/

namespace RecordRules.Text

/-- The text of bytes in UTF-8. -/
def ofUtf8? (bytes : List UInt8) : Option String := String.fromUTF8? ⟨bytes.toArray⟩

/-- The bytes of a text in UTF-8. -/
def utf8 (s : String) : List UInt8 := s.toUTF8.toList

/-- How many bytes a text takes in UTF-8. -/
def utf8Size : List Char → Nat
  | [] => 0
  | c :: cs => c.utf8Size + utf8Size cs

/-- What may follow the first byte of a character: the range of the second byte, and how many bytes
    come after that. -/
def continuation (first : UInt8) : Option (UInt8 × UInt8 × Nat) :=
  if 0xC2 ≤ first ∧ first ≤ 0xDF then some (0x80, 0xBF, 0)
  else if first = 0xE0 then some (0xA0, 0xBF, 1)
  else if 0xE1 ≤ first ∧ first ≤ 0xEC ∨ first = 0xEE ∨ first = 0xEF then some (0x80, 0xBF, 1)
  else if first = 0xED then some (0x80, 0x9F, 1)
  else if first = 0xF0 then some (0x90, 0xBF, 2)
  else if 0xF1 ≤ first ∧ first ≤ 0xF3 then some (0x80, 0xBF, 2)
  else if first = 0xF4 then some (0x80, 0x8F, 2)
  else none

/-- The state inside a character: the bits so far, the range of the next byte, and how many bytes
    come after it. -/
structure Pending where
  bits : Nat
  low : UInt8
  high : UInt8
  more : Nat

/-- The state after a first byte, or the character if it is one already. -/
def firstByte (b : UInt8) : Char ⊕ Pending :=
  if b < 0x80 then .inl (Char.ofNat b.toNat)
  else match continuation b with
    | none => .inl '\ufffd'
    | some (low, high, more) =>
      let mask := if more = 0 then 0x1F else if more = 1 then 0x0F else 0x07
      .inr ⟨b.toNat &&& mask, low, high, more⟩

/-- Reads bytes tolerantly. A character broken off becomes one replacement character, and the byte
    that broke it starts afresh. -/
def readTolerantly : Option Pending → List UInt8 → List Char
  | none, [] => []
  | some _, [] => ['\ufffd']
  | none, b :: bs =>
    match firstByte b with
    | .inl c => c :: readTolerantly none bs
    | .inr p => readTolerantly (some p) bs
  | some p, b :: bs =>
    if p.low ≤ b ∧ b ≤ p.high then
      let bits := p.bits * 64 + (b.toNat &&& 0x3F)
      if p.more = 0 then Char.ofNat bits :: readTolerantly none bs
      else readTolerantly (some ⟨bits, 0x80, 0xBF, p.more - 1⟩) bs
    else
      '\ufffd' :: match firstByte b with
        | .inl c => c :: readTolerantly none bs
        | .inr q => readTolerantly (some q) bs

/-- The text of bytes, with replacement characters for what is not UTF-8. -/
def ofBytes (bytes : List UInt8) : String := String.ofList (readTolerantly none bytes)

example : ofBytes [0x61, 0xFF, 0xE2, 0x82, 0x62] = "a\ufffd\ufffdb" := by decide

end RecordRules.Text
