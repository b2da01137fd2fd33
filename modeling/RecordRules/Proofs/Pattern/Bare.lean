/-
  Trees without places. The places in a tree are there for faults only: what a tree stands for, and
  whether it is nested too deep, can be told from the tree without them.
-/
import RecordRules.Pattern.Meaning
import RecordRules.Proofs.FirstError
import RecordRules.Proofs.Pattern.Covered

namespace RecordRules.Pattern

/-! ## Trees -/

/-- The span of a part whose place is left out. -/
def Span.unplaced : Span := .point .start

/-- A literal without its place. -/
def Literal.bare (l : Literal) : Literal := { l with span := .unplaced }

mutual

/-- A part of a class without places. -/
def ClassTree.bare : ClassTree → ClassTree
  | .empty _ => .empty .unplaced
  | .literal l => .literal l.bare
  | .range _ first last => .range .unplaced first.bare last.bare
  | .ascii _ name negated => .ascii .unplaced name negated
  | .property _ query negated => .property .unplaced query negated
  | .short _ kind negated => .short .unplaced kind negated
  | .bracketed _ negated inner => .bracketed .unplaced negated inner.bare
  | .union _ items => .union .unplaced (ClassTree.bareAll items)
  | .op _ kind left right => .op .unplaced kind left.bare right.bare

/-- Parts of a class without places. -/
def ClassTree.bareAll : List ClassTree → List ClassTree
  | [] => []
  | item :: rest => item.bare :: ClassTree.bareAll rest

end

mutual

/-- A pattern without places. -/
def Tree.bare : Tree → Tree
  | .empty _ => .empty .unplaced
  | .switches _ flags => .switches .unplaced flags
  | .literal l => .literal l.bare
  | .dot _ => .dot .unplaced
  | .anchor _ kind => .anchor .unplaced kind
  | .property _ query negated => .property .unplaced query negated
  | .short _ kind negated => .short .unplaced kind negated
  | .bracketed _ negated inner => .bracketed .unplaced negated inner.bare
  | .repetition _ least most inner => .repetition .unplaced least most inner.bare
  | .group _ flags captures inner => .group .unplaced flags captures inner.bare
  | .alternation _ branches => .alternation .unplaced (Tree.bareAll branches)
  | .concat _ parts => .concat .unplaced (Tree.bareAll parts)

/-- Parts of a pattern without places. -/
def Tree.bareAll : List Tree → List Tree
  | [] => []
  | part :: rest => part.bare :: Tree.bareAll rest

end

theorem ClassTree.bareAll_eq_map (items : List ClassTree) : bareAll items = items.map bare := by
  induction items with
  | nil => rfl
  | cons item rest ih => rw [bareAll, ih, List.map_cons]

theorem Tree.bareAll_eq_map (parts : List Tree) : bareAll parts = parts.map bare := by
  induction parts with
  | nil => rfl
  | cons part rest ih => rw [bareAll, ih, List.map_cons]

/-! ## Depth -/

mutual

/-- The levels of a part of a class. -/
def ClassTree.levels : ClassTree → Nat
  | .bracketed _ _ inner => inner.levels + 1
  | .union _ items => ClassTree.levelsOfAll items + 1
  | .op _ _ left right => max left.levels right.levels + 1
  | _ => 0

/-- The levels of the deepest of several parts. -/
def ClassTree.levelsOfAll : List ClassTree → Nat
  | [] => 0
  | item :: rest => max item.levels (ClassTree.levelsOfAll rest)

end

mutual

/-- The levels of a pattern. -/
def Tree.levels : Tree → Nat
  | .bracketed _ _ inner => inner.levels + 1
  | .repetition _ _ _ inner | .group _ _ _ inner => inner.levels + 1
  | .alternation _ parts | .concat _ parts => Tree.levelsOfAll parts + 1
  | _ => 0

/-- The levels of the deepest of several patterns. -/
def Tree.levelsOfAll : List Tree → Nat
  | [] => 0
  | part :: rest => max part.levels (Tree.levelsOfAll rest)

end

mutual

theorem ClassTree.levels_bare : ∀ t : ClassTree, t.bare.levels = t.levels
  | .empty _ | .literal _ | .range _ _ _ | .ascii _ _ _ | .property _ _ _ | .short _ _ _ => rfl
  | .bracketed _ _ inner => by rw [bare, levels, levels, inner.levels_bare]
  | .union _ items => by rw [bare, levels, levels, ClassTree.levelsOfAll_bareAll items]
  | .op _ _ left right => by rw [bare, levels, levels, left.levels_bare, right.levels_bare]

theorem ClassTree.levelsOfAll_bareAll :
    ∀ items : List ClassTree, levelsOfAll (bareAll items) = levelsOfAll items
  | [] => rfl
  | item :: rest => by
    rw [bareAll, levelsOfAll, levelsOfAll, item.levels_bare, ClassTree.levelsOfAll_bareAll rest]

end

mutual

theorem Tree.levels_bare : ∀ t : Tree, t.bare.levels = t.levels
  | .empty _ | .switches _ _ | .literal _ | .dot _ | .anchor _ _ | .property _ _ _
  | .short _ _ _ => rfl
  | .bracketed _ _ inner => by rw [bare, levels, levels, inner.levels_bare]
  | .repetition _ _ _ inner | .group _ _ _ inner => by rw [bare, levels, levels, inner.levels_bare]
  | .alternation _ parts | .concat _ parts => by
    rw [bare, levels, levels, Tree.levelsOfAll_bareAll parts]

theorem Tree.levelsOfAll_bareAll :
    ∀ parts : List Tree, levelsOfAll (bareAll parts) = levelsOfAll parts
  | [] => rfl
  | part :: rest => by
    rw [bareAll, levelsOfAll, levelsOfAll, part.levels_bare, Tree.levelsOfAll_bareAll rest]

end

/-- What is found too deep, if anything, is below one level more than there is room for. -/
theorem below_eq_none_iff {room levels : Nat} {span : Span} {below : Option Span}
    (inner : below = none ↔ levels ≤ room - 1) :
    (if room = 0 then some span else below) = none ↔ levels + 1 ≤ room := by
  split
  · simp_all
  · rw [inner]
    omega

mutual

theorem ClassTree.tooDeep_eq_none_iff (room : Nat) :
    ∀ t : ClassTree, t.tooDeep room = none ↔ t.levels ≤ room
  | .empty _ | .literal _ | .range _ _ _ | .ascii _ _ _ | .property _ _ _ | .short _ _ _ => by
    simp [tooDeep, levels]
  | .bracketed _ _ inner => below_eq_none_iff (inner.tooDeep_eq_none_iff (room - 1))
  | .union _ items => below_eq_none_iff (ClassTree.anyTooDeep_eq_none_iff (room - 1) items)
  | .op _ _ left right => by
    have first := left.tooDeep_eq_none_iff (room - 1)
    have second := right.tooDeep_eq_none_iff (room - 1)
    refine below_eq_none_iff ?_
    rw [Nat.max_le, ← first, ← second]
    cases left.tooDeep (room - 1) <;> simp

theorem ClassTree.anyTooDeep_eq_none_iff (room : Nat) :
    ∀ items : List ClassTree, anyTooDeep room items = none ↔ levelsOfAll items ≤ room
  | [] => by simp [anyTooDeep, levelsOfAll]
  | item :: rest => by
    have first := item.tooDeep_eq_none_iff room
    have others := ClassTree.anyTooDeep_eq_none_iff room rest
    rw [anyTooDeep, levelsOfAll, Nat.max_le, ← first, ← others]
    cases item.tooDeep room <;> simp

end

mutual

/-- A pattern is too deep if it has more levels than there is room for. -/
theorem Tree.tooDeep_eq_none_iff (room : Nat) :
    ∀ t : Tree, t.tooDeep room = none ↔ t.levels ≤ room
  | .empty _ | .switches _ _ | .literal _ | .dot _ | .anchor _ _ | .property _ _ _
  | .short _ _ _ => by simp [tooDeep, levels]
  | .bracketed _ _ inner => below_eq_none_iff (inner.tooDeep_eq_none_iff (room - 1))
  | .repetition _ _ _ inner | .group _ _ _ inner =>
    below_eq_none_iff (inner.tooDeep_eq_none_iff (room - 1))
  | .alternation _ parts | .concat _ parts =>
    below_eq_none_iff (Tree.anyTooDeep_eq_none_iff (room - 1) parts)

theorem Tree.anyTooDeep_eq_none_iff (room : Nat) :
    ∀ parts : List Tree, anyTooDeep room parts = none ↔ levelsOfAll parts ≤ room
  | [] => by simp [anyTooDeep, levelsOfAll]
  | part :: rest => by
    have first := part.tooDeep_eq_none_iff room
    have others := Tree.anyTooDeep_eq_none_iff room rest
    rw [anyTooDeep, levelsOfAll, Nat.max_le, ← first, ← others]
    cases part.tooDeep room <;> simp

end

/-! ## Meaning -/

/-- Two attempts that give the same value, or fail both. -/
def SameValue {α : Type} (x y : Except Fault α) : Prop := x.toOption = y.toOption

namespace SameValue

theorem rfl {α : Type} {x : Except Fault α} : SameValue x x := Eq.refl _

theorem bind {α β : Type} {x y : Except Fault α} {f g : α → Except Fault β}
    (first : SameValue x y) (rest : ∀ a, SameValue (f a) (g a)) :
    SameValue (x >>= f) (y >>= g) := by
  cases x <;> cases y <;> simp_all [SameValue, Except.toOption, Bind.bind, Except.bind]

theorem ite {α : Type} {condition : Prop} [Decidable condition] {x x' y y' : Except Fault α}
    (first : SameValue x x') (second : SameValue y y') :
    SameValue (if condition then x else y) (if condition then x' else y') := by
  split
  · exact first
  · exact second

theorem eq_ok {α : Type} {x y : Except Fault α} (same : SameValue x y) {a : α} (there : y = .ok a) :
    x = .ok a := by
  subst there
  cases x with
  | ok b => exact congrArg _ (Option.some_inj.mp same)
  | error f => cases same

end SameValue

theorem sameValue_finishSet (f : Flags) (span span' : Span) (negated : Bool)
    (s : Unicode.CharSet) : SameValue (finishSet f span negated s) (finishSet f span' negated s) :=
  .ite .rfl (.ite (Eq.refl _) .rfl)

theorem sameValue_shortChars (f : Flags) (span span' : Span) (kind : ShortClass) (negated : Bool) :
    SameValue (shortChars f span kind negated) (shortChars f span' kind negated) :=
  .ite .rfl (.ite (Eq.refl _) .rfl)

theorem sameValue_propertyChars (f : Flags) (span span' : Span) (query : PropertyQuery)
    (negated : Bool) :
    SameValue (propertyChars f span query negated) (propertyChars f span' query negated) := by
  refine .ite (Eq.refl _) ?_
  dsimp only
  split
  · exact sameValue_finishSet ..
  · exact Eq.refl _
  · exact Eq.refl _

theorem sameValue_literalChar (f : Flags) (l : Literal) :
    SameValue (literalChar f l.bare) (literalChar f l) :=
  .ite (Eq.refl _) .rfl

theorem sameValue_memberChar (f : Flags) (l : Literal) :
    SameValue (memberChar f l.bare) (memberChar f l) :=
  (sameValue_literalChar f l).bind fun _ => .ite (Eq.refl _) .rfl

mutual

theorem ClassTree.sameValue_chars (f : Flags) :
    ∀ t : ClassTree, SameValue (t.bare.chars f) (t.chars f)
  | .empty _ => .rfl
  | .literal l => (sameValue_memberChar f l).bind fun _ => .rfl
  | .range _ first last =>
    (sameValue_memberChar f first).bind fun _ => (sameValue_memberChar f last).bind fun _ => .rfl
  | .ascii _ _ _ => sameValue_finishSet ..
  | .property _ _ _ => sameValue_propertyChars ..
  | .short _ _ _ => sameValue_shortChars ..
  | .bracketed _ _ inner => (inner.sameValue_chars f).bind fun _ => sameValue_finishSet ..
  | .union _ items => ClassTree.sameValue_charsOfAll f items
  | .op _ _ left right =>
    (left.sameValue_chars f).bind fun _ => (right.sameValue_chars f).bind fun _ => .rfl

theorem ClassTree.sameValue_charsOfAll (f : Flags) :
    ∀ items : List ClassTree, SameValue (charsOfAll f (bareAll items)) (charsOfAll f items)
  | [] => .rfl
  | item :: rest =>
    (item.sameValue_chars f).bind fun _ =>
      (ClassTree.sameValue_charsOfAll f rest).bind fun _ => .rfl

end

mutual

/-- A tree means what it means without places. -/
theorem Tree.sameValue_matcher (f : Flags) :
    ∀ t : Tree, SameValue (t.bare.matcher f) (t.matcher f)
  | .empty _ | .switches _ _ | .anchor _ _ => .rfl
  | .literal l =>
    ((sameValue_literalChar f l).bind fun _ => .rfl).bind fun _ => .rfl
  | .dot _ => SameValue.bind (.ite (Eq.refl _) .rfl) fun _ => .rfl
  | .property _ _ _ => (sameValue_propertyChars ..).bind fun _ => .rfl
  | .short _ _ _ => (sameValue_shortChars ..).bind fun _ => .rfl
  | .bracketed _ _ inner =>
    (inner.sameValue_chars f).bind fun _ => (sameValue_finishSet ..).bind fun _ => .rfl
  | .repetition _ _ _ inner => (inner.sameValue_matcher f).bind fun _ => .rfl
  | .group _ flags _ inner => (inner.sameValue_matcher (f.apply flags)).bind fun _ => .rfl
  | .alternation _ parts | .concat _ parts => (Tree.sameValue_matchers f parts).bind fun _ => .rfl

theorem Tree.sameValue_matchers (f : Flags) :
    ∀ parts : List Tree, SameValue (matchers f (bareAll parts)) (matchers f parts)
  | [] => .rfl
  | part :: rest =>
    (part.sameValue_matcher f).bind fun (_, f) =>
      (Tree.sameValue_matchers f rest).bind fun _ => .rfl

end

/-! ## Repetitions -/

mutual

/-- The condition that no repetition is asked for more than it may take. -/
def Tree.Ordered : Tree → Prop
  | .repetition _ least most inner => (∀ m, most = some m → least ≤ m) ∧ inner.Ordered
  | .group _ _ _ inner => inner.Ordered
  | .alternation _ parts | .concat _ parts => Tree.AllOrdered parts
  | _ => True

/-- The condition for several trees. -/
def Tree.AllOrdered : List Tree → Prop
  | [] => True
  | part :: rest => part.Ordered ∧ Tree.AllOrdered rest

end

theorem Tree.allOrdered_iff {parts : List Tree} : AllOrdered parts ↔ ∀ t ∈ parts, t.Ordered := by
  induction parts with
  | nil => simp [AllOrdered]
  | cons part rest ih => simp [AllOrdered, ih]

theorem Expr.Ordered.concat {es : List Matcher} (all : ∀ e ∈ es, e.Ordered) :
    Expr.Ordered (Expr.concat es) := by
  induction es with
  | nil => trivial
  | cons e es ih =>
    exact (all e (List.mem_cons_self ..)).andThen (ih fun e' there => all e' (.tail _ there))

theorem Expr.Ordered.orElse {a b : Matcher} (first : a.Ordered) (second : b.Ordered) :
    (Matcher.orElse a b).Ordered := by
  unfold Matcher.orElse
  split
  · trivial
  · exact ⟨first, second⟩

theorem Expr.Ordered.choice {es : List Matcher} (all : ∀ e ∈ es, e.Ordered) :
    Expr.Ordered (Matcher.choice es) := by
  induction es with
  | nil => trivial
  | cons e es ih =>
    cases es with
    | nil => exact all e (List.mem_cons_self ..)
    | cons e' es =>
      exact Expr.Ordered.orElse (all e (List.mem_cons_self ..))
        (ih fun e'' there => all e'' (.tail _ there))

mutual

/-- The expression of a tree asks for no more than the tree does. -/
theorem Tree.ordered_matcher {f f' : Flags} {e : Matcher} :
    ∀ {t : Tree}, t.Ordered → t.matcher f = .ok (e, f') → e.Ordered
  | .empty _, _, meant | .switches _ _, _, meant | .anchor _ _, _, meant => by
    cases meant
    trivial
  | .literal _, _, meant | .dot _, _, meant | .property _ _ _, _, meant
  | .short _ _ _, _, meant => by
    obtain ⟨s, _, made⟩ := bind_eq_ok_iff.mp meant
    cases made
    trivial
  | .bracketed _ _ _, _, meant => by
    obtain ⟨inside, _, finished⟩ := bind_eq_ok_iff.mp meant
    obtain ⟨s, _, made⟩ := bind_eq_ok_iff.mp finished
    cases made
    trivial
  | .repetition _ least most inner, ordered, meant => by
    obtain ⟨⟨e, _⟩, inside, made⟩ := bind_eq_ok_iff.mp meant
    cases made
    exact ⟨ordered.1, inner.ordered_matcher ordered.2 inside⟩
  | .group _ _ captures inner, ordered, meant => by
    obtain ⟨⟨e, _⟩, inside, made⟩ := bind_eq_ok_iff.mp meant
    cases made
    have := inner.ordered_matcher ordered inside
    cases captures <;> exact this
  | .alternation _ parts, ordered, meant => by
    obtain ⟨⟨es, _⟩, inside, made⟩ := bind_eq_ok_iff.mp meant
    cases made
    exact .choice (Tree.ordered_matchers ordered inside)
  | .concat _ parts, ordered, meant => by
    obtain ⟨⟨es, _⟩, inside, made⟩ := bind_eq_ok_iff.mp meant
    cases made
    exact .concat (Tree.ordered_matchers ordered inside)

theorem Tree.ordered_matchers {f f' : Flags} {es : List Matcher} :
    ∀ {parts : List Tree}, AllOrdered parts → matchers f parts = .ok (es, f') → ∀ e ∈ es, e.Ordered
  | [], _, meant => by
    cases meant
    nofun
  | part :: rest, ordered, meant => by
    obtain ⟨⟨e, _⟩, first, others⟩ := bind_eq_ok_iff.mp meant
    obtain ⟨⟨es, _⟩, later, made⟩ := bind_eq_ok_iff.mp others
    cases made
    rintro e (_ | ⟨_, there⟩)
    · exact part.ordered_matcher ordered.1 first
    · exact Tree.ordered_matchers ordered.2 later e there

end

end RecordRules.Pattern
