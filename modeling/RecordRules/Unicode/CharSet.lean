/-
  Sets of code points, as ranges in rising order, and the Boolean operations on them.
  Ranges are read from text such as `41-5A 61-7A AA`, with hexadecimal ends.
-/

namespace RecordRules.Unicode

/-- The value of a hexadecimal digit. -/
def hexValue? (c : Char) : Option Nat :=
  if '0' ≤ c ∧ c ≤ '9' then some (c.toNat - '0'.toNat)
  else if 'a' ≤ c ∧ c ≤ 'f' then some (c.toNat - 'a'.toNat + 10)
  else if 'A' ≤ c ∧ c ≤ 'F' then some (c.toNat - 'A'.toNat + 10)
  else none

/-- Puts a word before others, unless it is empty: its last number, if one has begun, and its numbers
    before that, from the last on. -/
def endWord (number : Option Nat) (parts : List Nat) (words : List (List Nat)) : List (List Nat) :=
  match number.toList ++ parts with
  | [] => words
  | word => word.reverse :: words

/-- Words of hexadecimal numbers: a blank or a line's end ends the word, any other sign ends the
    number. `number` and `parts` hold what is read of the present word. -/
def readCodeWords : List Char → (number : Option Nat) → (parts : List Nat) → List (List Nat)
  | [], number, parts => endWord number parts []
  | c :: cs, number, parts =>
    if c = ' ' ∨ c = '\n' then endWord number parts (readCodeWords cs none [])
    else match hexValue? c with
      | some d => readCodeWords cs (some (16 * number.getD 0 + d)) parts
      | none => readCodeWords cs none (number.toList ++ parts)

/-- The numbers of each word of a table's text. -/
def codeWords (text : String) : List (List Nat) := readCodeWords text.toList none []

/-- The greatest code point. -/
def lastCode : Nat := 0x10FFFF

/-- A set of code points: ranges with both ends in the set, rising and apart. -/
structure CharSet where
  ranges : List (Nat × Nat)
deriving DecidableEq, Repr, Inhabited

namespace CharSet

/-- The set without members. -/
def empty : CharSet := ⟨[]⟩

/-- Joins a range with those of a rising list that touch it. -/
def joinFrom : Nat × Nat → List (Nat × Nat) → List (Nat × Nat)
  | r, [] => [r]
  | (a, b), (c, d) :: rest =>
    if c ≤ b + 1 then joinFrom (a, max b d) rest else (a, b) :: joinFrom (c, d) rest

/-- The set of all code points of some ranges, in any order. -/
def ofRanges (ranges : List (Nat × Nat)) : CharSet :=
  match ranges.mergeSort (fun x y => x.1 ≤ y.1) with
  | [] => empty
  | r :: rest => ⟨joinFrom r rest⟩

/-- The set of some code points. -/
def ofCodes (codes : List Nat) : CharSet := ofRanges (codes.map fun n => (n, n))

/-- The set of one character. -/
def single (c : Char) : CharSet := ⟨[(c.toNat, c.toNat)]⟩

/-- The set of the characters from one to another. -/
def range (first last : Char) : CharSet := ⟨[(first.toNat, last.toNat)]⟩

/-- The set written as ranges with hexadecimal ends. -/
def ofHex (text : String) : CharSet :=
  ofRanges ((codeWords text).filterMap fun
    | [a] => some (a, a)
    | [a, b] => some (a, b)
    | _ => none)

/-- Whether a code point is in the set. -/
def has (s : CharSet) (code : Nat) : Bool := s.ranges.any fun r => r.1 ≤ code && code ≤ r.2

/-- Whether a character is in the set. -/
def mem (s : CharSet) (c : Char) : Bool := s.has c.toNat

/-- Code points of either set. -/
def union (s t : CharSet) : CharSet := ofRanges (s.ranges ++ t.ranges)

/-- Code points of some set of a list. -/
def unions (sets : List CharSet) : CharSet := ofRanges (sets.flatMap ranges)

/-- What a rising list of ranges leaves out, from a code point on. -/
def gaps : Nat → List (Nat × Nat) → List (Nat × Nat)
  | start, [] => if start ≤ lastCode then [(start, lastCode)] else []
  | start, (a, b) :: rest =>
    if start < a then (start, a - 1) :: gaps (b + 1) rest else gaps (b + 1) rest

/-- Code points outside the set. -/
def compl (s : CharSet) : CharSet := ⟨gaps 0 s.ranges⟩

/-- Code points of both sets. -/
def inter (s t : CharSet) : CharSet := (s.compl.union t.compl).compl

/-- Code points of the first set that are not in the second. -/
def diff (s t : CharSet) : CharSet := s.inter t.compl

/-- Code points of exactly one of two sets. -/
def symmDiff (s t : CharSet) : CharSet := (s.union t).diff (s.inter t)

/-- Every code point. -/
def all : CharSet := ⟨[(0, lastCode)]⟩

/-- The first 128 code points. -/
def ascii : CharSet := ⟨[(0, 0x7F)]⟩

/-- Code points that a character can have: all but the surrogates. -/
def scalars : CharSet := ⟨[(0, 0xD7FF), (0xE000, lastCode)]⟩

/-- Whether every code point of the set is below 128. -/
def isAscii (s : CharSet) : Bool := s.ranges.all fun r => r.2 ≤ 0x7F

end CharSet

example : (CharSet.ofHex "61-7A 41-5A 5B").ranges = [(0x41, 0x5B), (0x61, 0x7A)] := by cbv
example : (CharSet.ofHex "0-9").compl.ranges = [(10, lastCode)] := by cbv

end RecordRules.Unicode
