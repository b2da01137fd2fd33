/-
  Brackets inside a wrapping. Brackets end with a sign that the closing does not have, so brackets
  that are read inside a wrapping end in the pattern.
-/
import Mathlib.Data.List.TakeWhile
import RecordRules.Proofs.Pattern.Escapes

namespace RecordRules.Pattern

open RecordRules.Unicode (spaceChars)

/-- A reader is lost where nothing but the closing, or a part of it, is left. -/
def Spent {α : Type} (a : α) (s : Scan) : Prop := Past a s ∨ s.rest = [')', '$']

/-- No blanks are skipped where only the closing is left. -/
theorem Spent.skipped {α β : Type} {a : α} {b : β} {s : Scan} (spent : Spent a s) :
    Spent b s.skipped := by
  obtain (rest | rest) | rest := spent
  · exact .inl (.inl (Scan.rest_skipped_of_end rest))
  · exact .inl (.inr (by rwa [skipped_of_sign rest (by decide)]))
  · exact .inr (by rwa [skipped_of_sign rest (by decide)])

/-- The same members but for places. -/
def Reader.SameMembers (m m' : Members) : Prop :=
  m.items.map ClassTree.bare = m'.items.map ClassTree.bare

namespace Reader

variable {n : Nat} {s s' : Scan}

/-! ## Members -/

theorem SameMembers.push {m m' : Members} (same : SameMembers m m') {item item' : ClassTree}
    (alike : item.bare = item'.bare) : SameMembers (m.push item) (m'.push item') := by
  rw [SameMembers] at same
  simp only [SameMembers, Members.push, List.map_cons, alike, same]

theorem SameMembers.close {m m' : Members} (same : SameMembers m m') :
    m.close.bare = m'.close.bare := by
  obtain ⟨span, items⟩ := m
  obtain ⟨span', items'⟩ := m'
  rw [SameMembers] at same
  match items, items' with
  | [], [] => rfl
  | [item], [item'] => exact (List.cons.inj same).1
  | item :: next :: more, item' :: next' :: more' =>
    simp only [Members.close, ClassTree.bare, ClassTree.bareAll_eq_map, List.map_reverse] at same ⊢
    rw [same]
  | [], _ :: _ | _ :: _, [] | [_], _ :: _ :: _ | _ :: _ :: _, [_] => simp at same

/-! ## The opening -/

theorem openingHyphens_of_other {c : Char} (next : s.rest.head? = some c) (other : c ≠ '-')
    (start : Position) (fuel : Nat) (m : Members) : openingHyphens start fuel m s = .ok (m, s) := by
  cases fuel <;> simp [openingHyphens, next, other]

theorem openingHyphens_follows {fuel fuel' : Nat} (start start' : Position) {m m' : Members}
    (same : SameMembers m m') (inside : Inside n s s') (enough : n ≤ fuel)
    (enough' : n + 2 ≤ fuel') :
    Follows n Spent (fun m m' _ => SameMembers m m') (openingHyphens start fuel m s)
      (openingHyphens start' fuel' m' s') := by
  induction fuel' generalizing n fuel m m' s s' with
  | zero => omega
  | succ fuel' ih =>
    obtain ⟨rest, rest'⟩ | ⟨k, c, cs, rfl, rest, rest', bumped⟩ := inside.next
    · have alone : openingHyphens start fuel m s = .ok (m, s) := by
        cases fuel <;> simp [openingHyphens, rest]
      rw [alone]
      simpa [openingHyphens, rest'] using .same same inside
    · obtain ⟨fuel, rfl⟩ := Nat.exists_eq_add_one.mpr (Nat.lt_of_lt_of_le (Nat.succ_pos k) enough)
      simp only [openingHyphens, bind_peek?, rest, rest', List.head?_cons, run_ite, run_pure,
        bind_charSpan, bind_advance, bind_fail, run_fail]
      refine .ite (fun _ => ?_) fun _ => .same same inside
      obtain swallowed | inside := bumped.skipped
      · simpa [swallowed] using .fault
      obtain ⟨rest, rest'⟩ | ⟨l, d, ds, rfl, rest, rest', _⟩ := inside.next
      · -- a hyphen at the end of the pattern is not its last sign any more
        have ended := openingHyphens_of_other (congrArg List.head? rest') (by decide) start' fuel'
        simpa [rest', ended] using .lost (.inr rest')
      · simp only [rest, rest', List.isEmpty_cons, Bool.not_false, Bool.not_true,
          Bool.false_eq_true, if_false]
        refine (ih (same.push ?_) inside ?_ ?_).mono (Nat.le_succ _)
        · rfl
        · omega
        · omega

/-- Reads what may follow the bracket and the negation that open a set. -/
def openMembers (start : Position) (negated : Bool) : Reader (Span × Bool × Members) := do
  let m ← openingHyphens start (← get).rest.length { span := .point (← place) }
  if m.items.isEmpty && (← peek?) = some ']' then
    let m := m.push (.literal { span := ← charSpan, char := ']' })
    if !(← advance) then fail .classUnclosed ⟨start, ← place⟩
    return (⟨start, ← place⟩, negated, m)
  return (⟨start, ← place⟩, negated, m)

theorem openBrackets_eq :
    openBrackets = (do
      let start ← place
      if !(← advance) then fail .classUnclosed ⟨start, ← place⟩
      let negated := (← peek?) = some '^'
      if negated then
        if !(← advance) then fail .classUnclosed ⟨start, ← place⟩
      openMembers start negated) :=
  rfl

/-- Two openings that negate alike and have the same members but for places. -/
def SameOpening (o o' : Span × Bool × Members) (_ : Scan) : Prop :=
  o.2.1 = o'.2.1 ∧ SameMembers o.2.2 o'.2.2

theorem openMembers_follows (start start' : Position) (negated : Bool) (inside : Inside n s s') :
    Follows n Spent SameOpening (openMembers start negated s) (openMembers start' negated s') := by
  unfold openMembers
  simp only [bind_get, bind_place]
  refine .bind (openingHyphens_follows start start' (Eq.refl _) inside.exact le_rfl
    inside.length.ge) ?_ ?_
  · rintro m m' t t' same inner
    have none_yet : m.items.isEmpty = m'.items.isEmpty := by
      have := congrArg List.isEmpty same
      rwa [List.isEmpty_map, List.isEmpty_map] at this
    have inner := inner.mono inside.short
    simp only [bind_peek?, run_ite, bind_charSpan, bind_advance, bind_place, run_pure, none_yet,
      Bool.not_not, bind_fail, run_fail]
    obtain ⟨rest, rest'⟩ | ⟨k, c, cs, rfl, rest, rest', bumped⟩ := inner.next
    · simpa [rest, rest'] using .same ⟨rfl, same⟩ inner
    simp only [rest, rest', List.head?_cons]
    refine .ite (fun _ => ?_) fun _ => .same ⟨rfl, same⟩ inner
    refine .guard bumped (fun _ inside => ?_) fun ended => .lost (.inr ended)
    exact .same ⟨rfl, same.push (Eq.refl _)⟩ (inside.mono (Nat.le_succ k))
  · rintro m t' spent
    have other : t'.rest.head? ≠ some ']' := by
      obtain (rest | rest) | rest := spent <;> rw [rest] <;> decide
    simp only [bind_peek?, other, decide_false, Bool.and_false, Bool.false_eq_true, if_false,
      bind_place, run_pure]
    exact .lost spent

theorem openMembers_loses (start : Position) (negated : Bool) (rest : s.rest = [')', '$']) :
    Loses Spent (openMembers start negated s) := by
  have no_hyphen := openingHyphens_of_other (congrArg List.head? rest) (by decide) start
    s.rest.length { span := .point s.pos }
  unfold openMembers
  simp only [bind_get, bind_place]
  rw [bind_ok no_hyphen]
  simpa [rest] using .lost (.inr rest)

theorem openBrackets_follows (bumped : Inside n s.bumped s'.bumped) :
    Follows n Spent SameOpening (openBrackets s) (openBrackets s') := by
  rw [openBrackets_eq]
  simp only [bind_place, bind_advance, run_ite, Bool.not_not, bind_fail, run_fail, bind_peek?]
  refine .guard bumped (fun left inside => ?_) fun ended => ?_
  · obtain ⟨none, _⟩ | ⟨m, c, cs, rfl, rest, rest', after⟩ := inside.next
    · exact absurd none left
    simp only [rest, rest', List.head?_cons]
    refine .ite (fun _ => ?_) fun _ => openMembers_follows _ _ _ inside
    refine .guard after (fun _ inside => ?_) fun ended => openMembers_loses _ _ ended
    exact (openMembers_follows _ _ _ inside).mono (Nat.le_succ m)
  · simp only [ended, List.head?_cons, show (some ')' = some '^') = False by decide, if_false]
    exact openMembers_loses _ _ ended

/-! ## Classes by name -/

/-- What follows the opening of a class by name, and whether the class is negated. -/
def classHeader : List Char → Bool × List Char
  | '[' :: ':' :: '^' :: tail => (true, tail)
  | '[' :: ':' :: tail => (false, tail)
  | _ => (false, [])

/-- The known name at the start of a text, if a class ends after it. -/
def className? (tail : List Char) : Option (List Char) :=
  let name := tail.takeWhile (· ≠ ':')
  if (tail.dropWhile (· ≠ ':')).take 2 = [':', ']'] ∧ asciiNames.contains (String.ofList name) then
    some name
  else none

/-- Reading a class by name, with its opening read by itself. -/
theorem asciiClass?_eq (s : Scan) :
    asciiClass? s = (match (classHeader s.rest).2.dropWhile (· ≠ ':') with
    | ':' :: ']' :: _ =>
      let name := (classHeader s.rest).2.takeWhile (· ≠ ':')
      if asciiNames.contains (String.ofList name) then do
        let length := s.rest.length - (classHeader s.rest).2.length + name.length + 2
        (s.rest.take length).forM fun _ => bump
        return some (.ascii ⟨s.pos, ← place⟩ (String.ofList name) (classHeader s.rest).1)
      else return none
    | _ => return none : Reader (Option ClassTree)) s := rfl

theorem run_asciiClass? (s : Scan) :
    asciiClass? s = match className? (classHeader s.rest).2 with
      | some name =>
        let length := s.rest.length - (classHeader s.rest).2.length + name.length + 2
        let t := Scan.bumped^[(s.rest.take length).length] s
        .ok (some (.ascii ⟨s.pos, t.pos⟩ (String.ofList name) (classHeader s.rest).1), t)
      | none => .ok (none, s) := by
  rw [asciiClass?_eq]
  unfold className?
  generalize (classHeader s.rest).2.takeWhile (· ≠ ':') = name
  generalize (classHeader s.rest).2.dropWhile (· ≠ ':') = ending
  obtain _ | ⟨c, _ | ⟨d, more⟩⟩ := ending
  · simp
  · simp
  by_cases closed : c = ':' ∧ d = ']'
  · obtain ⟨rfl, rfl⟩ := closed
    simp only [List.take_succ_cons, List.take_zero, true_and, run_ite]
    split
    · exact bind_ok (run_bumps ..)
    · rfl
  · obtain colon | bracket := not_and_or.mp closed
    · simp [colon]
    · simp [bracket]

theorem takeWhile_append_of_stop {p : Char → Bool} {text : List Char}
    (stop : text.dropWhile p ≠ []) (more : List Char) :
    (text ++ more).takeWhile p = text.takeWhile p ∧
      (text ++ more).dropWhile p = text.dropWhile p ++ more := by
  have whole := congrArg List.length (List.takeWhile_append_dropWhile (p := p) (l := text))
  have some_left := List.length_pos_of_ne_nil stop
  rw [List.length_append] at whole
  rw [List.takeWhile_append, if_neg (by omega), List.dropWhile_append, if_neg (by simpa using stop)]
  exact ⟨rfl, rfl⟩

theorem className?_closing (tail : List Char) : className? (tail ++ closing) = className? tail := by
  cases ends : tail.dropWhile (· ≠ ':') with
  | nil =>
    have drop : (tail ++ closing).dropWhile (· ≠ ':') = [] := by
      rw [List.dropWhile_append, ends]
      rfl
    simp only [className?, drop, ends]
    rfl
  | cons c more =>
    obtain ⟨take, drop⟩ := takeWhile_append_of_stop (ends ▸ List.cons_ne_nil c more) closing
    have two : (c :: (more ++ closing)).take 2 = [':', ']'] ↔ (c :: more).take 2 = [':', ']'] := by
      cases more <;> simp [closing]
    simp only [className?, take, drop, ends, List.cons_append, two]

theorem length_className?_le {tail name : List Char} (named : className? tail = some name) :
    name.length + 2 ≤ tail.length := by
  obtain ⟨⟨ends, _⟩, same⟩ := Option.ite_none_right_eq_some.mp named
  cases same
  have whole := congrArg List.length (List.takeWhile_append_dropWhile (p := (· ≠ ':')) (l := tail))
  have two := congrArg List.length ends
  rw [List.length_append] at whole
  rw [List.length_take] at two
  simp only [List.length_cons, List.length_nil] at two
  omega

theorem classHeader_closing (text : List Char) :
    classHeader (text ++ closing) = ((classHeader text).1, (classHeader text).2 ++ closing) ∨
      (classHeader (text ++ closing)).2 = [] ∧ (classHeader text).2 = [] := by
  obtain _ | ⟨c, _ | ⟨d, tail⟩⟩ := text
  · exact .inr ⟨rfl, rfl⟩
  · exact .inr ⟨by simp [classHeader, closing], by simp [classHeader]⟩
  by_cases opens : c = '[' ∧ d = ':'
  · obtain ⟨rfl, rfl⟩ := opens
    refine .inl ?_
    cases tail with
    | nil => rfl
    | cons e tail =>
      by_cases negated : e = '^'
      · subst negated
        rfl
      · simp [classHeader, negated]
  · have other (more : List Char) : (classHeader (c :: d :: more)).2 = [] := by
      unfold classHeader
      split <;> simp_all
    exact .inr ⟨other _, other _⟩

theorem length_classHeader_le (text : List Char) : (classHeader text).2.length ≤ text.length := by
  unfold classHeader
  split <;> simp <;> omega

/-- A class by name comes next alone and inside a wrapping, or neither. -/
theorem asciiClass?_follows (inside : Inside (n + 1) s s') :
    asciiClass? s = .ok (none, s) ∧ asciiClass? s' = .ok (none, s') ∨
      ∃ item item' t t', asciiClass? s = .ok (some item, t) ∧
        asciiClass? s' = .ok (some item', t') ∧ item.bare = item'.bare ∧ Inside n t t' := by
  rw [run_asciiClass?, run_asciiClass?, inside.rest]
  obtain same | ⟨none, none'⟩ := classHeader_closing s.rest
  · rw [same, className?_closing]
    cases named : className? (classHeader s.rest).2 with
    | none => exact .inl ⟨rfl, rfl⟩
    | some name =>
      have within := length_className?_le named
      have before := length_classHeader_le s.rest
      have length : s.rest.length - (classHeader s.rest).2.length + name.length + 2 ≤
          s.rest.length := by omega
      have length' : (s.rest ++ closing).length - ((classHeader s.rest).2 ++ closing).length =
          s.rest.length - (classHeader s.rest).2.length := by
        rw [List.length_append, List.length_append, Nat.add_sub_add_right]
      refine .inr ⟨_, _, _, _, rfl, rfl, rfl, ?_⟩
      rw [length', List.length_take_of_le length,
        List.length_take_of_le (length.trans (by simp))]
      exact (inside.bumps length).mono (by omega)
  · rw [none, none']
    exact .inl ⟨rfl, rfl⟩

/-! ## Units -/

/-- A unit as a member of a set, if it can be one. -/
def member? : Tree → Option ClassTree
  | .literal l => some (.literal l)
  | .property s q n => some (.property s q n)
  | .short s k n => some (.short s k n)
  | _ => none

theorem run_memberOf (t : Tree) (s : Scan) :
    memberOf t s = match member? t with
      | some item => .ok (item, s)
      | none => .error { kind := .classEscapeInvalid, span := t.span } := by
  cases t <;> rfl

theorem member?_bare (t : Tree) : member? t.bare = (member? t).map ClassTree.bare := by
  cases t <;> rfl

/-- A unit as an end of a range, if it can be one. -/
def bound? : Tree → Option Literal
  | .literal l => some l
  | _ => none

theorem run_boundOf (t : Tree) (s : Scan) :
    boundOf t s = match bound? t with
      | some l => .ok (l, s)
      | none => .error { kind := .classRangeLiteral, span := t.span } := by
  cases t <;> rfl

theorem bound?_bare (t : Tree) : bound? t.bare = (bound? t).map Literal.bare := by
  cases t <;> rfl

theorem memberOf_follows {t t' : Tree} (alike : t.bare = t'.bare) (inside : Inside n s s') :
    Follows n Spent (fun item item' _ => item.bare = item'.bare) (memberOf t s)
      (memberOf t' s') := by
  have same : (member? t).map ClassTree.bare = (member? t').map ClassTree.bare := by
    rw [← member?_bare, ← member?_bare, alike]
  rw [run_memberOf, run_memberOf]
  cases there : member? t <;> cases there' : member? t' <;> rw [there, there'] at same
  · exact .fault
  · cases same
  · cases same
  · exact .same (Option.some_inj.mp same) inside

theorem boundOf_follows {t t' : Tree} (alike : t.bare = t'.bare) (inside : Inside n s s') :
    Follows n Never (fun l l' _ => l.bare = l'.bare) (boundOf t s) (boundOf t' s') := by
  have same : (bound? t).map Literal.bare = (bound? t').map Literal.bare := by
    rw [← bound?_bare, ← bound?_bare, alike]
  rw [run_boundOf, run_boundOf]
  cases there : bound? t <;> cases there' : bound? t' <;> rw [there, there'] at same
  · exact .fault
  · cases same
  · cases same
  · exact .same (Option.some_inj.mp same) inside

/-- Making a member of a unit reads nothing. -/
theorem memberOf_loses (t : Tree) (spent : Spent t s) : Loses Spent (memberOf t s) := by
  rw [run_memberOf]
  cases member? t with
  | none => exact .fault
  | some item => exact .lost spent

theorem classUnit_follows (inside : Inside (n + 1) s s') (left : s.rest ≠ []) :
    Follows n EscapeLost Alike (classUnit s) (classUnit s') := by
  obtain ⟨none, _⟩ | ⟨m, c, cs, same, rest, rest', bumped⟩ := inside.next
  · exact absurd none left
  obtain rfl : n = m := Nat.succ.inj same
  unfold classUnit
  simp only [bind_peek?, rest, rest', List.head?_cons]
  by_cases backslash : c = '\\'
  · subst backslash
    exact escape_follows bumped
  · simp only [bind_charSpan, bind_bump, run_pure]
    exact .same ⟨rfl, trivial⟩ bumped

/-! ## Members of a set -/

theorem signAfter_closing (cs : List Char) (inComment : Bool) :
    signAfter (cs ++ closing) inComment =
      some (((signAfter cs inComment).getD []) ++ closing) := by
  induction cs generalizing inComment with
  | nil =>
    simp [signAfter, closing, not_blank ')']
  | cons c cs ih =>
    simp only [List.cons_append, signAfter]
    split
    · exact ih _
    split
    · exact ih _
    · rfl

theorem signAfter_ne_nil (cs : List Char) (inComment : Bool) :
    signAfter cs inComment ≠ some [] := by
  fun_induction signAfter cs inComment <;> simp_all

/-- The character after the next one, past blanks where those are skipped. -/
def second (s : Scan) : Option Char :=
  if s.skipsBlanks then ((signAfter (s.rest.drop 1) false).getD (s.rest.drop 1)).head?
  else (s.rest.drop 1).head?

theorem bind_secondPastBlanks? {α : Type} (s : Scan) (g : Option Char → Reader α) :
    (secondPastBlanks? >>= g) s = g (second s) s := rfl

/-- The closing does not change whether a sign that is no blank and not its own comes after the next
    character. -/
theorem second_eq_iff (inside : Inside n s s') (left : s.rest ≠ []) {c : Char}
    (sign : spaceChars.mem c = false) (other : c ≠ '#' ∧ c ≠ ')') :
    second s' = some c ↔ second s = some c := by
  unfold second
  have first := List.length_pos_of_ne_nil left
  rw [inside.skipsBlanks, inside.rest, List.drop_append_of_le_length first]
  generalize s.rest.drop 1 = tail
  split
  · rw [signAfter_closing, Option.getD_some]
    cases tail with
    | nil => simp [signAfter, closing, other.2.symm]
    | cons d tail =>
      cases there : signAfter (d :: tail) false with
      | some text =>
        cases text with
        | nil => exact absurd there (signAfter_ne_nil _ _)
        | cons e text => rfl
      | none =>
        have blank : d ≠ c := by
          rintro rfl
          simp [signAfter, sign, other.1] at there
        simp [closing, other.2.symm, blank]
  · cases tail <;> simp [closing, other.2.symm]

/-- The range between two units. -/
def rangeOf (first last : Tree) : Reader ClassTree := do
  let span := Span.mk first.span.start last.span.stop
  let low ← boundOf first
  let high ← boundOf last
  if high.char < low.char then fail .classRangeInvalid span
  return .range span low high

/-- Reads what may follow the first unit of a member, and makes the member. -/
def memberFrom (opening : Span) (first : Tree) : Reader ClassTree := do
  skipBlanks
  if ← atEnd then fail .classUnclosed opening
  let next ← secondPastBlanks?
  if (← peek?) ≠ some '-' || next = some ']' || next = some '-' then memberOf first
  else
    if !(← advance) then fail .classUnclosed opening
    rangeOf first (← classUnit)

theorem classMember_eq (opening : Span) :
    classMember opening = (do memberFrom opening (← classUnit)) :=
  rfl

theorem rangeOf_follows {first first' last last' : Tree} (alike : first.bare = first'.bare)
    (alike' : last.bare = last'.bare) (inside : Inside n s s') :
    Follows n Spent (fun item item' _ => item.bare = item'.bare) (rangeOf first last s)
      (rangeOf first' last' s') := by
  refine .bind (boundOf_follows alike inside) ?_ nofun
  rintro low low' t t' low_alike inside
  refine .bind (boundOf_follows alike' inside) ?_ nofun
  rintro high high' u u' high_alike inside
  have same_low : low.char = low'.char := (congrArg Literal.char low_alike :)
  have same_high : high.char = high'.char := (congrArg Literal.char high_alike :)
  simp only [run_ite, bind_fail, run_fail, run_pure, same_low, same_high]
  refine .ite (fun _ => .fault) fun _ => .same ?_ inside
  rw [ClassTree.bare, ClassTree.bare, low_alike, high_alike]

theorem rangeOf_loses (first : Tree) {last : Tree} (lost : EscapeLost last s) :
    Loses Spent (rangeOf first last s) := by
  have low := run_boundOf first s
  have high := run_boundOf last s
  unfold rangeOf
  cases there : bound? first with
  | none =>
    rw [there] at low
    rw [bind_error low]
    exact .fault
  | some l =>
    rw [there] at low
    rw [bind_ok low]
    cases there : bound? last with
    | none =>
      rw [there] at high
      rw [bind_error high]
      exact .fault
    | some h =>
      rw [there] at high
      rw [bind_ok high]
      obtain past | ⟨⟨_, _, rfl⟩, _⟩ := lost
      · simp only [run_ite, bind_fail, run_fail, run_pure]
        split
        · exact .fault
        · exact .lost (.inl past)
      · cases there

/-- The parenthesis of the closing is a unit. -/
theorem classUnit_closing (rest : s.rest = [')', '$']) :
    ∃ t u, classUnit s = .ok (t, u) ∧ EscapeLost t u :=
  ⟨.literal { span := s.charSpan, char := ')' }, s.bumped,
    by simp [classUnit, rest, Except.map, Prod.map], .inl (.inr (Scan.rest_bumped rest))⟩

theorem memberFrom_follows (opening opening' : Span) {first first' : Tree}
    (alike : first.bare = first'.bare) (inside : Inside n s s') :
    Follows n Spent (fun item item' _ => item.bare = item'.bare) (memberFrom opening first s)
      (memberFrom opening' first' s') := by
  unfold memberFrom
  simp only [bind_skipBlanks, bind_atEnd, run_ite, bind_fail, run_fail, bind_secondPastBlanks?,
    bind_peek?]
  refine .guard inside (fun left inside => ?_) fun ended => ?_
  · have bracket := second_eq_iff inside left (not_blank ']' (by decide)) (by decide)
    have hyphen := second_eq_iff inside left (not_blank '-' (by decide)) (by decide)
    obtain ⟨none, _⟩ | ⟨m, c, cs, rfl, rest, rest', bumped⟩ := inside.next
    · exact absurd none left
    simp only [rest, rest', List.head?_cons, bracket, hyphen]
    refine .ite (fun _ => memberOf_follows alike inside) fun _ => ?_
    simp only [bind_advance, Bool.not_not, run_ite, run_fail]
    refine .guard bumped (fun left inside => ?_) fun ended => ?_
    · have unit := classUnit_follows (inside.mono (Nat.le_succ m)) left
      refine .mono (.bind unit ?_ fun last u lost => rangeOf_loses first' lost) (Nat.le_succ m)
      exact fun last last' u u' alike' inside => rangeOf_follows alike alike'.1 inside
    · obtain ⟨last, u, unit, lost⟩ := classUnit_closing ended
      rw [bind_ok unit]
      exact rangeOf_loses first' lost
  · have single : s'.skipped.rest.head? ≠ some '-' := by
      rw [ended]
      decide
    simp only [single, ne_eq, not_false_eq_true, decide_true, Bool.true_or, if_true]
    exact memberOf_loses first' (.inr ended)

theorem memberFrom_loses (opening : Span) {first : Tree} (lost : EscapeLost first s) :
    Loses Spent (memberFrom opening first s) := by
  unfold memberFrom
  simp only [bind_skipBlanks, bind_atEnd, run_ite, bind_fail, run_fail, bind_secondPastBlanks?,
    bind_peek?]
  obtain (ended | dollar) | ⟨⟨_, _, rfl⟩, brace, _⟩ := lost
  · simpa [Scan.rest_skipped_of_end ended] using .fault
  · rw [skipped_of_sign dollar (by decide)]
    simpa [dollar] using memberOf_loses first (.inl (.inr dollar))
  · obtain ⟨cs, rest⟩ := List.head?_eq_some_iff.mp brace
    rw [skipped_of_sign rest (by decide)]
    simpa [rest, run_memberOf, member?] using .fault

theorem classMember_follows (opening opening' : Span) (inside : Inside (n + 1) s s')
    (left : s.rest ≠ []) :
    Follows n Spent (fun item item' _ => item.bare = item'.bare) (classMember opening s)
      (classMember opening' s') := by
  rw [classMember_eq, classMember_eq]
  refine .bind (classUnit_follows inside left) ?_ ?_
  · exact fun first first' t t' alike inside => memberFrom_follows _ _ alike.1 inside
  · exact fun first t' lost => memberFrom_loses _ lost

/-- A member that starts with a sign of the closing is lost. -/
theorem classMember_loses (opening : Span) {c : Char} {cs : List Char} (rest : s.rest = c :: cs)
    (plain : c ≠ '\\') (dollar : cs = [] ∨ cs = ['$']) : Loses Spent (classMember opening s) := by
  have unit : classUnit s = .ok (.literal { span := s.charSpan, char := c }, s.bumped) := by
    simp [classUnit, rest, Except.map, Prod.map]
  rw [classMember_eq, bind_ok unit]
  rw [← Scan.rest_bumped rest] at dollar
  exact memberFrom_loses _ (.inl dollar)

/-! ## Sets -/

/-- The operation whose sign a text starts with. -/
def opOf : List Char → Option SetOp
  | '&' :: '&' :: _ => some .intersection
  | '-' :: '-' :: _ => some .difference
  | '~' :: '~' :: _ => some .symmetricDifference
  | _ => none

theorem run_setOp? (s : Scan) : setOp? s = .ok (opOf s.rest, s) := rfl

theorem opOf_closing (c : Char) (cs : List Char) :
    opOf (c :: (cs ++ closing)) = opOf (c :: cs) := by
  cases cs with
  | nil => simp [opOf, closing]
  | cons d cs =>
    unfold opOf
    split <;> simp_all

theorem opOf_single (c : Char) : opOf [c] = none := by simp [opOf]

/-- Two operations that wait for their right sides, the same but for places. -/
def SamePending (pending pending' : Option (SetOp × ClassTree)) : Prop :=
  pending.map (Prod.map id ClassTree.bare) = pending'.map (Prod.map id ClassTree.bare)

theorem SamePending.apply {pending pending' : Option (SetOp × ClassTree)}
    (same : SamePending pending pending') {right right' : ClassTree}
    (alike : right.bare = right'.bare) :
    (applyPending pending right).bare = (applyPending pending' right').bare := by
  match pending, pending', same with
  | none, none, _ => exact alike
  | some (kind, left), some (kind', left'), same =>
    obtain ⟨rfl, left_alike⟩ := Prod.mk.inj (Option.some_inj.mp same)
    rw [applyPending, applyPending, ClassTree.bare, ClassTree.bare, left_alike, alike]
    rfl

/-- A sign that neither opens nor closes brackets starts an operation or a member. -/
theorem classBody_other {c : Char} (next : s.skipped.rest.head? = some c)
    (other : c ≠ ']' ∧ c ≠ '[') (fuel : Nat) (opening : Span)
    (pending : Option (SetOp × ClassTree)) (m : Members) :
    classBody (fuel + 1) opening pending m s =
      match opOf s.skipped.rest with
      | some kind =>
        classBody fuel opening (some (kind, applyPending pending m.close))
          { span := .point s.skipped.bumped.bumped.pos } s.skipped.bumped.bumped
      | none =>
        (classMember opening >>= fun item => classBody fuel opening pending (m.push item))
          s.skipped := by
  obtain ⟨no_closing, no_opening⟩ := other
  simp only [classBody, bind_skipBlanks, bind_peek?, next]
  rw [bind_ok (run_setOp? _)]
  cases opOf s.skipped.rest <;> rfl

/-- Brackets that are not closed when the pattern ends are a fault. -/
theorem classBody_loses (fuel : Nat) (opening : Span) (pending : Option (SetOp × ClassTree))
    (m : Members) (spent : Spent m s.skipped) :
    Loses Never (classBody fuel opening pending m s) := by
  induction fuel generalizing s pending m with
  | zero => exact .fault
  | succ fuel ih =>
    obtain (ended | rest) | rest := spent
    · simpa [classBody, ended] using .fault
    · rw [classBody_other (congrArg List.head? rest) (by decide), rest]
      exact .bind (classMember_loses opening rest (by decide) (.inl rfl))
        fun item t spent => ih pending _ spent.skipped
    · rw [classBody_other (congrArg List.head? rest) (by decide), rest]
      exact .bind (classMember_loses opening rest (by decide) (.inr rfl))
        fun item t spent => ih pending _ spent.skipped

theorem classBody_follows {fuel fuel' : Nat} (opening opening' : Span)
    {pending pending' : Option (SetOp × ClassTree)} (waiting : SamePending pending pending')
    {m m' : Members} (same : SameMembers m m') (inside : Inside n s s') (enough : n < fuel) :
    Follows n Never (fun r r' _ => r.2.bare = r'.2.bare) (classBody fuel opening pending m s)
      (classBody fuel' opening' pending' m' s') := by
  induction fuel' generalizing n fuel opening opening' pending pending' m m' s s' with
  | zero => exact .fault
  | succ fuel' ih =>
    obtain ⟨fuel, rfl⟩ := Nat.exists_eq_add_one.mpr (Nat.zero_lt_of_lt enough)
    obtain swallowed | inside := inside.skipped
    · exact .of_loses (classBody_loses _ _ _ m' (.inl (.inl swallowed)))
    obtain ⟨_, rest'⟩ | ⟨k, c, cs, rfl, rest, rest', bumped⟩ := inside.next
    · exact .of_loses (classBody_loses _ _ _ m' (.inr rest'))
    have enough : k < fuel := Nat.lt_of_succ_lt_succ enough
    refine .mono ?_ (Nat.le_succ k)
    by_cases closes : c = ']'
    · subst closes
      simp only [classBody, bind_skipBlanks, bind_peek?, rest, rest', List.head?_cons, bind_bump,
        bind_place, run_pure]
      exact .same (waiting.apply same.close) bumped
    by_cases opens : c = '['
    · subst opens
      simp only [classBody, bind_skipBlanks, bind_peek?, rest, rest', List.head?_cons]
      obtain ⟨none, none'⟩ | ⟨item, item', t, t', some, some', alike, inside⟩ :=
        asciiClass?_follows inside
      · rw [bind_ok none, bind_ok none']
        refine .bind (openBrackets_follows bumped) ?_ ?_
        · rintro ⟨_, negated, members⟩ ⟨_, _, members'⟩ t t' ⟨rfl, same_inner⟩ inside
          refine .bind (ih _ _ rfl same_inner inside enough) ?_ nofun
          rintro ⟨_, inner⟩ ⟨_, inner'⟩ u u' alike inside
          refine ih _ _ waiting (same.push ?_) inside enough
          rw [ClassTree.bare, ClassTree.bare, alike]
        · exact fun _ t' spent => .bind (classBody_loses _ _ _ _ spent.skipped) nofun
      · rw [bind_ok some, bind_ok some']
        exact ih _ _ waiting (same.push alike) inside enough
    rw [classBody_other (congrArg List.head? rest) ⟨closes, opens⟩,
      classBody_other (congrArg List.head? rest') ⟨closes, opens⟩, rest, rest', opOf_closing]
    cases operation : opOf (c :: cs) with
    | some kind =>
      obtain ⟨none, _⟩ | ⟨l, _, _, rfl, _, _, inside⟩ := bumped.next
      · rw [Scan.rest_bumped rest] at none
        rw [none, opOf_single] at operation
        cases operation
      · refine .mono (ih _ _ ?_ rfl inside (Nat.lt_of_succ_lt enough)) (Nat.le_succ l)
        exact congrArg (fun left => some (kind, left)) (waiting.apply same.close)
    | none =>
      refine .bind (classMember_follows _ _ inside (rest ▸ List.cons_ne_nil c cs)) ?_ ?_
      · exact fun item item' t t' alike inside => ih _ _ waiting (same.push alike) inside enough
      · exact fun item t' spent => classBody_loses _ _ _ _ spent.skipped

/-- Brackets are read alike, and what is read inside the wrapping is closed in the pattern. -/
theorem brackets_follows (inside : Inside (n + 1) s s') (left : s.rest ≠ []) :
    Follows n Never Alike (brackets s) (brackets s') := by
  obtain ⟨none, _⟩ | ⟨k, c, cs, same, rest, rest', bumped⟩ := inside.next
  · exact absurd none left
  obtain rfl : n = k := Nat.succ.inj same
  unfold brackets
  refine .bind (openBrackets_follows bumped) ?_ ?_
  · rintro ⟨_, negated, members⟩ ⟨_, _, members'⟩ t t' ⟨rfl, same_inner⟩ inside
    simp only [bind_get]
    refine .bind (classBody_follows _ _ rfl same_inner inside.exact (Nat.lt_succ_self _)) ?_ nofun
    rintro ⟨_, inner⟩ ⟨_, inner'⟩ u u' alike after
    refine .same ⟨?_, trivial⟩ (after.mono inside.short)
    rw [Tree.bare, Tree.bare, alike]
  · rintro ⟨opening, negated, members⟩ t' spent
    simp only [bind_get]
    exact .bind (classBody_loses _ _ _ _ spent.skipped) nofun

end Reader

end RecordRules.Pattern
