/-
  What a pattern matches. An expression is built from sets of characters and conditions on places;
  `Expr.Matches` says which stretches of a text it covers, and `Expr.ends` computes all places that
  a stretch from some given places can end at. Sets of places are numbers, read bit by bit.
-/
import RecordRules.Unicode.Property

namespace RecordRules.Pattern

open RecordRules.Unicode (CharSet wordChars)

/-- A pattern's structure over sets of characters `σ` and conditions on places `κ`. -/
inductive Expr (σ κ : Type)
  | empty
  | one (set : σ)
  | look (condition : κ)
  | capture (inner : Expr σ κ)
  | seq (first second : Expr σ κ)
  | alt (first second : Expr σ κ)
  | rep (least : Nat) (most : Option Nat) (inner : Expr σ κ)
deriving DecidableEq, Repr

namespace Expr

variable {σ κ : Type}

/-- The same structure over other sets and conditions. -/
def map {σ' κ' : Type} (f : σ → σ') (g : κ → κ') : Expr σ κ → Expr σ' κ'
  | empty => empty
  | one s => one (f s)
  | look l => look (g l)
  | capture e => capture (e.map f g)
  | seq a b => seq (a.map f g) (b.map f g)
  | alt a b => alt (a.map f g) (b.map f g)
  | rep least most e => rep least most (e.map f g)

/-- One expression after another; an empty one leaves no trace. -/
def andThen : Expr σ κ → Expr σ κ → Expr σ κ
  | empty, b => b
  | a, empty => a
  | a, b => seq a b

/-- Expressions one after another. -/
def concat (parts : List (Expr σ κ)) : Expr σ κ := parts.foldr andThen empty

/-- The relation between the ends of a stretch: `Matches take holds e i j` says that `e` covers the
    text from place `i` to place `j`, where `take s i` says that the character after `i` is in `s`
    and `holds l i` that the condition `l` holds at `i`. -/
inductive Matches (take : σ → Nat → Prop) (holds : κ → Nat → Prop) : Expr σ κ → Nat → Nat → Prop
  | empty {i : Nat} : Matches take holds .empty i i
  | one {s : σ} {i : Nat} : take s i → Matches take holds (.one s) i (i + 1)
  | look {l : κ} {i : Nat} : holds l i → Matches take holds (.look l) i i
  | capture {e : Expr σ κ} {i j : Nat} :
      Matches take holds e i j → Matches take holds (.capture e) i j
  | seq {a b : Expr σ κ} {i j k : Nat} :
      Matches take holds a i j → Matches take holds b j k → Matches take holds (.seq a b) i k
  | first {a b : Expr σ κ} {i j : Nat} : Matches take holds a i j → Matches take holds (.alt a b) i j
  | second {a b : Expr σ κ} {i j : Nat} :
      Matches take holds b i j → Matches take holds (.alt a b) i j
  | done {e : Expr σ κ} {most : Option Nat} {i : Nat} : Matches take holds (.rep 0 most e) i i
  | again {e : Expr σ κ} {least : Nat} {most : Option Nat} {i j k : Nat} :
      most ≠ some 0 → Matches take holds e i j →
      Matches take holds (.rep (least - 1) (most.map (· - 1)) e) j k →
      Matches take holds (.rep least most e) i k

/-! ## Sets of places -/

/-- Applies a step to a set of places a number of times, unless it stops changing earlier. -/
def iterate (step : Nat → Nat) : Nat → Nat → Nat
  | 0, places => places
  | n + 1, places =>
    let next := step places
    if next = places then places else iterate step n next

/-- The places that at most a number of steps reach. -/
def reach (step : Nat → Nat) (n places : Nat) : Nat := iterate (fun p => p ||| step p) n places

/-- The places at which stretches from some places can end, in a text of `size` characters. Sets of
    characters are given as the places before those characters, conditions as the places at which
    they hold. -/
def ends (size : Nat) : Expr Nat Nat → Nat → Nat
  | empty, places => places
  | one s, places => (places &&& s) <<< 1
  | look l, places => places &&& l
  | capture e, places => e.ends size places
  | seq a b, places => b.ends size (a.ends size places)
  | alt a b, places => a.ends size places ||| b.ends size places
  | rep least most e, places =>
    let start := iterate (e.ends size) least places
    match most with
    | none => reach (e.ends size) (size + 1) start
    | some m => reach (e.ends size) (m - least) start

end Expr

/-! ## Conditions on places -/

/-- Conditions on a place of a text. Word characters are those of every script if `unicode` says so,
    and otherwise those of ASCII. -/
inductive Look
  | start
  | stop
  | lineStart
  | lineStop
  | crlfStart
  | crlfStop
  | boundary (unicode : Bool)
  | notBoundary (unicode : Bool)
  | wordStart (unicode : Bool)
  | wordStop (unicode : Bool)
  | wordStartHalf (unicode : Bool)
  | wordStopHalf (unicode : Bool)
deriving DecidableEq, Repr

/-- Word characters of ASCII. -/
def asciiWord : CharSet := .ofHex "30-39 41-5A 5F 61-7A"

/-- Whether there is a character and it belongs to words. -/
def isWord (unicode : Bool) (c : Option Char) : Bool :=
  c.any fun c => if unicode then wordChars.mem c else asciiWord.mem c

/-- Whether a condition holds between two characters, of which there may be none at the ends. -/
def Look.holds (before after : Option Char) : Look → Bool
  | start => before.isNone
  | stop => after.isNone
  | lineStart => before.isNone || before == some '\n'
  | lineStop => after.isNone || after == some '\n'
  | crlfStart => before.isNone || before == some '\n' || (before == some '\r' && after != some '\n')
  | crlfStop => after.isNone || after == some '\r' || (after == some '\n' && before != some '\r')
  | boundary u => isWord u before != isWord u after
  | notBoundary u => isWord u before == isWord u after
  | wordStart u => !isWord u before && isWord u after
  | wordStop u => isWord u before && !isWord u after
  | wordStartHalf u => !isWord u before
  | wordStopHalf u => !isWord u after

/-! ## Matching a text -/

/-- The character before a place. -/
def charBefore (text : List Char) (i : Nat) : Option Char := if i = 0 then none else text[i - 1]?

/-- The places from `i` on before characters of a set. -/
def placesOf (set : CharSet) : (i : Nat) → List Char → Nat
  | _, [] => 0
  | i, c :: cs => (if set.mem c then 1 <<< i else 0) ||| placesOf set (i + 1) cs

/-- The places from `i` on at which a condition holds; `before` is the character before `i`. -/
def placesWhere (l : Look) : (i : Nat) → (before : Option Char) → List Char → Nat
  | i, before, [] => if l.holds before none then 1 <<< i else 0
  | i, before, c :: cs =>
    (if l.holds before (some c) then 1 <<< i else 0) ||| placesWhere l (i + 1) (some c) cs

/-- An expression that matches stretches of texts. -/
abbrev Matcher := Expr CharSet Look

/-- Whether an expression covers some stretch of a text, from any place to any other. -/
def Matcher.findsIn (e : Matcher) (text : String) : Bool :=
  let chars := text.toList
  let size := chars.length
  let placed : Expr Nat Nat := e.map (placesOf · 0 chars) (placesWhere · 0 none chars)
  placed.ends size (Nat.pow 2 (size + 1) - 1) != 0

end RecordRules.Pattern
