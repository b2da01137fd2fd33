/-
  The size of a pattern's program, which has a limit. The program is a graph of states over bytes,
  made once for reading forwards and once for reading backwards. A state takes 32 bytes; a choice
  takes 4 more for each way on, and a state that tells bytes apart 8 more for each range of bytes.
-/
import RecordRules.Pattern.Expr
import Std.Data.HashMap

namespace RecordRules.Pattern

open RecordRules.Unicode (CharSet)

/-- A range of bytes. -/
abbrev ByteRange := Nat × Nat

/-- The bytes of a code point in UTF-8. -/
def utf8Bytes (code : Nat) : List Nat :=
  if code ≤ 0x7F then [code]
  else if code ≤ 0x7FF then [0xC0 + code / 64, 0x80 + code % 64]
  else if code ≤ 0xFFFF then [0xE0 + code / 4096, 0x80 + code / 64 % 64, 0x80 + code % 64]
  else [0xF0 + code / 262144, 0x80 + code / 4096 % 64, 0x80 + code / 64 % 64, 0x80 + code % 64]

/-- The last code point below `stop` after which a range from `first` must be cut so that both parts
    are products of byte ranges. -/
def cutAfter? (first last : Nat) : Option Nat :=
  let lengths := [0x7F, 0x7FF, 0xFFFF].find? fun m => first ≤ m && m < last
  match lengths with
  | some m => some m
  | none =>
    if last ≤ 0x7F then none
    else [64, 4096, 262144].findSome? fun block =>
      if first / block = last / block then none
      else if first % block ≠ 0 then some (first / block * block + block - 1)
      else if last % block ≠ block - 1 then some (last / block * block - 1)
      else none

/-- The products of byte ranges that make up a range of code points, in rising order. -/
def byteRanges : (fuel : Nat) → (first last : Nat) → List (List ByteRange)
  | 0, _, _ => []
  | fuel + 1, first, last =>
    match cutAfter? first last with
    | some m => byteRanges fuel first m ++ byteRanges fuel (m + 1) last
    | none => [(utf8Bytes first).zip (utf8Bytes last)]

/-- The products of byte ranges of a set. -/
def byteProducts (s : CharSet) : List (List ByteRange) :=
  (s.inter .scalars).ranges.flatMap fun r => byteRanges 32 r.1 r.2

/-- Products grouped by their first range, where equal ones follow each other. -/
def groupByHead : List (List ByteRange) → List (ByteRange × List (List ByteRange))
  | [] => []
  | [] :: rest => groupByHead rest
  | (head :: tail) :: rest =>
    match groupByHead rest with
    | (head', tails) :: groups =>
      if head = head' then (head, tail :: tails) :: groups
      else (head, [tail]) :: (head', tails) :: groups
    | [] => [(head, [tail])]

/-- States already made, by their ways on, and the bytes they take. State 0 is the one after the
    last byte. -/
structure States where
  known : Std.HashMap (List (ByteRange × Nat)) Nat := {}
  bytes : Nat := 0

/-- The state that reads some products, made only if no equal one is known. -/
def stateFor : (depth : Nat) → List (List ByteRange) → States → Nat × States
  | 0, _, s => (0, s)
  | depth + 1, products, s =>
    if products = [[]] then (0, s)
    else
      let (ways, s) := (groupByHead products).foldl
        (fun (ways, s) (range, tails) =>
          let (next, s) := stateFor depth tails s
          ((range, next) :: ways, s))
        (([] : List (ByteRange × Nat)), s)
      match s.known[ways]? with
      | some id => (id, s)
      | none =>
        let id := s.known.size + 1
        (id, { known := s.known.insert ways id, bytes := s.bytes + 32 + 8 * ways.length })

/-- The nonempty beginnings of some products, where those with equal beginnings follow each other:
    how many there are. -/
def beginnings : (depth : Nat) → List (List ByteRange) → Nat
  | 0, _ => 0
  | depth + 1, products =>
    (groupByHead products).foldl (fun n g => n + 1 + beginnings depth g.2) 0

/-- The bytes that reading one character of a set takes. -/
def setBytes (backwards : Bool) (s : CharSet) : Nat :=
  match s.ranges with
  | [] => 32
  | [(a, b)] =>
    if a = b then 32 * (utf8Bytes a).length
    else setBytesOfMany
  | _ => setBytesOfMany
where
  /-- The bytes for a set of several characters. -/
  setBytesOfMany : Nat :=
    if s.isAscii then 64 + 8 * s.ranges.length
    else
      let products := byteProducts s
      if backwards then 64 + 4 * products.length + 32 * beginnings 5 products
      else 32 + (stateFor 5 products {}).2.bytes

namespace Matcher

/-- Whether an expression can cover an empty stretch. -/
def canBeEmpty : Matcher → Bool
  | .empty | .look _ => true
  | .one _ => false
  | .capture e => canBeEmpty e
  | .seq a b => canBeEmpty a && canBeEmpty b
  | .alt a b => canBeEmpty a || canBeEmpty b
  | .rep least _ e => least = 0 || canBeEmpty e

/-- Whether an expression covers empty stretches only. -/
def isAlwaysEmpty : Matcher → Bool
  | .empty | .look _ => true
  | .one _ => false
  | .capture e => isAlwaysEmpty e
  | .seq a b => isAlwaysEmpty a && isAlwaysEmpty b
  | .alt a b => isAlwaysEmpty a && isAlwaysEmpty b
  | .rep _ most e => most = some 0 || isAlwaysEmpty e

/-- The bytes of a repetition, from those of what it repeats. -/
def repBytes (least : Nat) (most : Option Nat) (nullable : Bool) (inner : Nat) : Nat :=
  match least, most with
  | 0, some 0 => 32
  | 1, some 1 => inner
  | 0, some 1 => inner + 72
  | 0, none => if nullable then inner + 112 else inner + 40
  | n, none => n * inner + 40
  | n, some m => if n = m then n * inner else
      (if n = 0 then 32 else n * inner) + 32 + (m - n) * (inner + 40)

mutual

/-- The bytes of an expression's program. -/
def bytes (backwards : Bool) : Matcher → Nat
  | .empty | .look _ => 32
  | .one s => setBytes backwards s
  | .capture e => (if backwards then 0 else 64) + bytes backwards e
  | .seq a b => bytes backwards a + bytes backwards b
  | .alt a b => 64 + branchBytes backwards a + branchBytes backwards b
  | .rep least most e =>
    let inner := bytes backwards e
    if isAlwaysEmpty e then
      repBytes (min least 1) (some ((most.map (min 1)).getD 1)) true inner
    else repBytes least most (canBeEmpty e) inner

/-- The bytes of a branch of a choice; a choice in a branch belongs to the outer one. -/
def branchBytes (backwards : Bool) : Matcher → Nat
  | .alt a b => branchBytes backwards a + branchBytes backwards b
  | e => 4 + bytes backwards e

end

end Matcher

/-- The bytes that a program may take. -/
def sizeLimit : Nat := 10485760

/-- Whether both programs of an expression stay below the limit. -/
def Matcher.fits (e : Matcher) : Bool := e.bytes false ≤ sizeLimit && e.bytes true ≤ sizeLimit

end RecordRules.Pattern
