/-
  Escapes and counts inside a wrapping. Hexadecimal digits and the names of boundaries end before
  the closing; the name of a property goes on into it, and a backslash at the end of the pattern
  escapes its parenthesis.
-/
import RecordRules.Proofs.Pattern.Inside

namespace RecordRules.Pattern

open RecordRules.Unicode (hexValue?)

namespace Reader

variable {n : Nat} {s s' : Scan}

/-! ## Numbers -/

theorem decimalDigits_of_end (there : s.rest = []) (fuel value count : Nat) :
    decimalDigits fuel value count s = .ok ((value, count), s) := by
  cases fuel <;> simp [decimalDigits, there]

theorem decimalDigits_follows {fuel fuel' : Nat} (value count : Nat) (inside : Inside n s s')
    (enough : n ≤ fuel) (enough' : n + 2 ≤ fuel') :
    Follows n Swallowed Equal (decimalDigits fuel value count s)
      (decimalDigits fuel' value count s') := by
  induction fuel' generalizing n fuel value count s s' with
  | zero => omega
  | succ fuel' ih =>
    obtain ⟨rest, rest'⟩ | ⟨m, c, cs, rfl, rest, rest', bumped⟩ := inside.next
    · rw [decimalDigits_of_end rest]
      simpa [decimalDigits, rest'] using .same rfl inside
    · obtain ⟨fuel, rfl⟩ := Nat.exists_eq_add_one.mpr (Nat.lt_of_lt_of_le (Nat.succ_pos m) enough)
      simp only [decimalDigits, bind_peek?, rest, rest', List.head?_cons, run_ite, run_pure,
        bind_advance]
      refine .ite (fun _ => ?_) fun _ => .same rfl inside
      obtain swallowed | inside := bumped.skipped
      · rw [decimalDigits_of_end swallowed]
        exact .lost swallowed
      · exact (ih _ _ inside (by omega) (by omega)).mono (Nat.le_succ m)

theorem skipSpace_of_end (there : s.rest = []) (fuel : Nat) : skipSpace fuel s = .ok ((), s) := by
  cases fuel <;> simp [skipSpace, there]

theorem skipSpace_follows {fuel fuel' : Nat} (inside : Inside n s s')
    (enough : n ≤ fuel) (enough' : n + 2 ≤ fuel') :
    Follows n Never (fun _ _ _ => True) (skipSpace fuel s) (skipSpace fuel' s') := by
  induction fuel' generalizing n fuel s s' with
  | zero => omega
  | succ fuel' ih =>
    obtain ⟨rest, rest'⟩ | ⟨m, c, cs, rfl, rest, rest', bumped⟩ := inside.next
    · rw [skipSpace_of_end rest]
      simpa [skipSpace, rest', not_blank ')'] using .same trivial inside
    · obtain ⟨fuel, rfl⟩ := Nat.exists_eq_add_one.mpr (Nat.lt_of_lt_of_le (Nat.succ_pos m) enough)
      simp only [skipSpace, bind_peek?, rest, rest', List.head?_cons, run_ite, run_pure, bind_bump]
      refine .ite (fun _ => ?_) fun _ => .same trivial inside
      exact (ih bumped (by omega) (by omega)).mono (Nat.le_succ m)

theorem count_follows (inside : Inside n s s') :
    Follows n Swallowed (fun n n' _ => n.toOption = n'.toOption) (count s) (count s') := by
  have enough := inside.length.ge
  unfold count
  simp only [bind_get]
  refine .bind (skipSpace_follows inside.exact le_rfl enough) (fun _ _ t t' _ inner => ?_) nofun
  simp only [bind_place]
  refine .bind (decimalDigits_follows 0 0 inner le_rfl enough) ?_ ?_
  · rintro ⟨value, digits⟩ _ u u' rfl inner
    simp only [bind_place]
    refine .bind (skipSpace_follows inner le_rfl enough) (fun _ _ v v' _ inner => ?_) nofun
    simp only [bind_skipBlanks, run_pure]
    obtain swallowed | inner := inner.skipped
    · exact .lost swallowed
    · refine .same ?_ (inner.mono inside.short)
      split
      · rfl
      · split <;> rfl
  · rintro ⟨value, digits⟩ t' swallowed
    simp only [bind_place]
    rw [bind_ok (skipSpace_of_end swallowed _)]
    exact .lost (Scan.rest_skipped_of_end swallowed)

/-! ## Escapes by code and property -/

theorem hexDigits_follows (count value : Nat) (inside : Inside n s s') :
    Follows n Swallowed Equal (hexDigits count value s) (hexDigits count value s') := by
  induction count generalizing n value s s' with
  | zero => exact .same rfl inside
  | succ count ih =>
    obtain ⟨rest, rest'⟩ | ⟨m, c, cs, rfl, rest, rest', bumped⟩ := inside.next
    · simpa [hexDigits, rest', show hexValue? ')' = none by decide] using .fault
    · simp only [hexDigits, bind_peek?, rest, rest', List.head?_cons]
      cases hexValue? c with
      | none => exact .fault
      | some d =>
        simp only [bind_advance]
        obtain swallowed | inside := bumped.skipped
        · cases count with
          | zero => exact .lost swallowed
          | succ count => simpa [hexDigits, swallowed] using .fault
        · exact (ih _ inside).mono (Nat.le_succ m)

theorem hexDigitsInBraces_of_end (there : s.rest = []) (fuel value digits : Nat) :
    hexDigitsInBraces fuel value digits s = .ok ((value, digits), s) := by
  cases fuel <;> simp [hexDigitsInBraces, there]

theorem hexDigitsInBraces_follows {fuel fuel' : Nat} (value digits : Nat) (inside : Inside n s s')
    (enough : n ≤ fuel) (enough' : n + 2 ≤ fuel') :
    Follows n Swallowed (fun a a' t => a = a' ∧ t.rest ≠ [])
      (hexDigitsInBraces fuel value digits s) (hexDigitsInBraces fuel' value digits s') := by
  induction fuel' generalizing n fuel value digits s s' with
  | zero => omega
  | succ fuel' ih =>
    obtain ⟨rest, rest'⟩ | ⟨m, c, cs, rfl, rest, rest', bumped⟩ := inside.next
    · simpa [hexDigitsInBraces, rest', show hexValue? ')' = none by decide] using .fault
    · obtain ⟨fuel, rfl⟩ := Nat.exists_eq_add_one.mpr (Nat.lt_of_lt_of_le (Nat.succ_pos m) enough)
      by_cases close : c = '\x7d'
      · subst close
        simpa [hexDigitsInBraces, rest, rest'] using .same ⟨rfl, by simp [rest]⟩ inside
      · simp only [hexDigitsInBraces, bind_peek?, rest, rest', List.head?_cons]
        cases hexValue? c with
        | none => exact .fault
        | some d =>
          simp only [bind_advance]
          obtain swallowed | inside := bumped.skipped
          · rw [hexDigitsInBraces_of_end swallowed]
            exact .lost swallowed
          · exact (ih _ _ inside (by omega) (by omega)).mono (Nat.le_succ m)

theorem hexEscape_follows (start start' : Position) {width : Nat} (some_width : width ≠ 0)
    (bumped : Inside n s.bumped s'.bumped) :
    Follows n Swallowed (fun l l' _ => l.bare = l'.bare) (hexEscape start width s)
      (hexEscape start' width s') := by
  unfold hexEscape
  simp only [bind_advance, Bool.not_not, run_ite, bind_peek?, bind_place, bind_fail, run_fail,
    bind_charSpan, bind_get]
  refine .guard bumped (fun left inside => ?_) fun ended => ?_
  swap
  · -- no hexadecimal digit is left
    obtain ⟨width, rfl⟩ := Nat.exists_eq_succ_of_ne_zero some_width
    simpa [ended, hexDigits, show hexValue? ')' = none by decide] using .fault
  obtain ⟨none, _⟩ | ⟨m, c, cs, rfl, rest, rest', bumped⟩ := inside.next
  · exact absurd none left
  simp only [rest, rest', List.head?_cons]
  refine .ite (fun _ => ?_) fun _ => ?_
  · -- a code in braces
    obtain swallowed | inside := bumped.skipped
    · rw [bind_ok (hexDigitsInBraces_of_end swallowed ..)]
      simpa [swallowed] using .fault
    refine .bind (hexDigitsInBraces_follows 0 0 inside.exact le_rfl inside.length.ge) ?_ ?_
    · rintro ⟨value, digits⟩ _ u u' ⟨rfl, left⟩ inner
      obtain ⟨none, _⟩ | ⟨k, d, ds, few, rest, rest', bumped⟩ := inner.next
      · exact absurd none left
      have few : k ≤ m + 1 := by have := inside.short; omega
      simp only [bind_atEnd, rest, rest', List.isEmpty_cons, Bool.false_eq_true, if_false,
        bind_place, bind_advance, run_ite, run_fail]
      refine .ite (fun _ => .fault) fun _ => ?_
      cases charOf? value with
      | none => exact .fault
      | some char =>
        obtain swallowed | inside := bumped.skipped
        · exact .lost swallowed
        · exact .same rfl (inside.mono few)
    · rintro ⟨value, digits⟩ u' swallowed
      simpa [show u'.rest = [] from swallowed] using .fault
  · refine .bind (hexDigits_follows width 0 inside) ?_ ?_
    · rintro value _ u u' rfl inside
      cases charOf? value with
      | none => exact .fault
      | some char => exact .same rfl inside
    · rintro value u' swallowed
      cases charOf? value with
      | none => exact .fault
      | some char => exact .lost swallowed

theorem propertyText_of_end (there : s.rest = []) (fuel : Nat) (read : List Char) :
    propertyText fuel read s = .ok (read.reverse, s) := by
  cases fuel <;> simp [propertyText, there]

theorem propertyText_follows {fuel fuel' : Nat} (read : List Char) (inside : Inside n s s')
    (enough : n ≤ fuel) (enough' : n + 2 ≤ fuel') :
    Follows n Swallowed (fun a a' t => a = a' ∧ t.rest ≠ []) (propertyText fuel read s)
      (propertyText fuel' read s') := by
  induction fuel' generalizing n fuel read s s' with
  | zero => omega
  | succ fuel' ih =>
    obtain ⟨rest, rest'⟩ | ⟨m, c, cs, rfl, rest, rest', bumped⟩ := inside.next
    · obtain ⟨fuel', rfl⟩ := Nat.exists_eq_add_one.mpr (show 0 < fuel' by omega)
      have dollar := rest_after_parenthesis rest'
      have swallowed := rest_after_dollar dollar
      simpa [propertyText, rest', dollar, propertyText_of_end swallowed] using .lost swallowed
    · obtain ⟨fuel, rfl⟩ := Nat.exists_eq_add_one.mpr (Nat.lt_of_lt_of_le (Nat.succ_pos m) enough)
      by_cases close : c = '\x7d'
      · subst close
        simpa [propertyText, rest, rest'] using .same ⟨rfl, by simp [rest]⟩ inside
      · simp only [propertyText, bind_peek?, rest, rest', List.head?_cons, bind_advance]
        obtain swallowed | inside := bumped.skipped
        · rw [propertyText_of_end swallowed]
          exact .lost swallowed
        · exact (ih _ inside (by omega) (by omega)).mono (Nat.le_succ m)

theorem propertyEscape_follows (bumped : Inside n s.bumped s'.bumped) :
    Follows n Past Equal (propertyEscape s) (propertyEscape s') := by
  unfold propertyEscape
  simp only [bind_advance, Bool.not_not, run_ite, bind_peek?, bind_place, bind_fail, run_fail]
  refine .guard bumped (fun left inside => ?_) fun ended => ?_
  swap
  · simpa [ended] using .lost (.inr (rest_after_parenthesis ended))
  obtain ⟨none, _⟩ | ⟨m, c, cs, rfl, rest, rest', bumped⟩ := inside.next
  · exact absurd none left
  simp only [rest, rest', List.head?_cons]
  by_cases brace : c = '\x7b'
  · subst brace
    simp only [bind_advance, bind_get]
    obtain swallowed | inside := bumped.skipped
    · rw [bind_ok (propertyText_of_end swallowed ..)]
      simpa [swallowed] using .fault
    refine .bind (propertyText_follows [] inside.exact le_rfl inside.length.ge) ?_ ?_
    · rintro text _ u u' ⟨rfl, left⟩ inner
      obtain ⟨none, _⟩ | ⟨k, d, ds, few, rest, rest', bumped⟩ := inner.next
      · exact absurd none left
      have few : k ≤ m + 1 := by have := inside.short; omega
      simpa [rest, rest'] using .same rfl (bumped.mono few)
    · rintro text u' swallowed
      simpa [show u'.rest = [] from swallowed] using .fault
  · simp only [bind_charSpan, run_ite, run_fail, bind_advance, run_pure]
    refine .ite (fun _ => .fault) fun _ => ?_
    obtain swallowed | inside := bumped.skipped
    · exact .lost (.inl swallowed)
    · exact .same rfl (inside.mono (Nat.le_succ m))

/-! ## Escapes by sign -/

theorem boundaryName_of_end (there : s.rest = []) (fuel : Nat) (read : List Char) :
    boundaryName fuel read s = .ok (read.reverse, s) := by
  cases fuel <;> simp [boundaryName, there]

theorem boundaryName_follows {fuel fuel' : Nat} (read : List Char) (inside : Inside n s s')
    (enough : n ≤ fuel) (enough' : n + 2 ≤ fuel') :
    Follows n Swallowed Equal (boundaryName fuel read s) (boundaryName fuel' read s') := by
  induction fuel' generalizing n fuel read s s' with
  | zero => omega
  | succ fuel' ih =>
    obtain ⟨rest, rest'⟩ | ⟨m, c, cs, rfl, rest, rest', bumped⟩ := inside.next
    · rw [boundaryName_of_end rest]
      simpa [boundaryName, rest', show Char.isAlpha ')' = false by decide] using .same rfl inside
    · obtain ⟨fuel, rfl⟩ := Nat.exists_eq_add_one.mpr (Nat.lt_of_lt_of_le (Nat.succ_pos m) enough)
      simp only [boundaryName, bind_peek?, rest, rest', List.head?_cons, run_ite, run_pure,
        bind_advance]
      refine .ite (fun _ => ?_) fun _ => .same rfl inside
      obtain swallowed | inside := bumped.skipped
      · rw [boundaryName_of_end swallowed]
        exact .lost swallowed
      · exact (ih _ inside (by omega) (by omega)).mono (Nat.le_succ m)

/-- The condition that nothing of the pattern but a brace and blanks stands before the closing. -/
def BraceLeft (s : Scan) : Prop := s.rest.head? = some '\x7b' ∧ s.bumped.skipped.rest = [')', '$']

theorem namedBoundary?_follows (start start' : Position) (inside : Inside n s s')
    (brace : s.rest.head? = some '\x7b') :
    Follows n (fun a t => a = none ∧ BraceLeft t) Equal (namedBoundary? start s)
      (namedBoundary? start' s') := by
  obtain ⟨rest, _⟩ | ⟨m, c, cs, rfl, rest, rest', bumped⟩ := inside.next
  · simp [rest] at brace
  have brace' : s'.rest.head? = some '\x7b' := by simpa [rest, rest'] using brace
  unfold namedBoundary?
  simp only [bind_get, bind_place, bind_advance, Bool.not_not, run_ite, bind_fail, run_fail,
    bind_peek?, bind_set, run_pure]
  refine .guard bumped (fun left after => ?_) fun ended => ?_
  swap
  · have lost : BraceLeft s' := ⟨brace', ended⟩
    simpa [ended, show Char.isAlpha ')' = false by decide] using .lost ⟨rfl, lost⟩
  obtain ⟨none, _⟩ | ⟨k', c, cs, rfl, rest, rest', _⟩ := after.next
  · exact absurd none left
  have next : s.bumped.skipped.rest.head? = some c := by rw [rest]; rfl
  have next' : s'.bumped.skipped.rest.head? = some c := by rw [rest']; rfl
  simp only [next, next']
  refine .ite (fun _ => .same rfl inside) fun _ => ?_
  refine .bind (boundaryName_follows [] after.exact le_rfl after.length.ge) ?_ ?_
  · rintro name _ u u' rfl inner
    simp only [bind_peek?]
    obtain ⟨rest, rest'⟩ | ⟨k, d, ds, few, rest, rest', bumped⟩ := inner.next
    · simpa [rest'] using .fault
    simp only [rest, rest', List.head?_cons, run_ite]
    refine .ite (fun _ => .fault) fun _ => ?_
    have few : k ≤ k' + 2 := by have := after.short; omega
    simp only [bind_place, bind_bump]
    generalize String.ofList name = word
    split <;> first | exact .same rfl (bumped.mono few) | exact .fault
  · rintro name u' swallowed
    simpa [show u'.rest = [] from swallowed] using .fault

/-- Two trees are the same but for places, and none of their repetitions asks for more than it may
    take. -/
def Alike (t t' : Tree) (_ : Scan) : Prop := t.bare = t'.bare ∧ t.Ordered

theorem boundaryEscape_follows (start start' : Position) (span span' : Span)
    (inside : Inside n s s') :
    Follows n (fun t s => (∃ span kind, t = .anchor span kind) ∧ BraceLeft s)
      Alike
      (boundaryEscape start span s) (boundaryEscape start' span' s') := by
  unfold boundaryEscape
  simp only [bind_peek?, run_ite]
  obtain ⟨rest, rest'⟩ | ⟨m, c, cs, rfl, rest, rest', bumped⟩ := inside.next
  · simpa [rest, rest'] using .same ⟨rfl, trivial⟩ inside
  simp only [rest, rest', List.head?_cons]
  refine .ite (fun brace => ?_) fun _ => .same ⟨rfl, trivial⟩ inside
  refine .bind (namedBoundary?_follows start start' inside (by simpa [rest] using brace)) ?_ ?_
  · rintro named _ t t' rfl inside
    cases named <;> exact .same ⟨rfl, trivial⟩ inside
  · rintro _ t' ⟨rfl, left⟩
    exact .lost ⟨⟨_, _, rfl⟩, left⟩

/-- A sign stands for the same tree wherever it is. -/
theorem signTree?_alike (span span' : Span) (c : Char) :
    signTree? span c = none ∧ signTree? span' c = none ∨
      ∃ t t', signTree? span c = some t ∧ signTree? span' c = some t' ∧
        t.bare = t'.bare ∧ t.Ordered := by
  unfold signTree?
  split
  · exact .inr ⟨_, _, rfl, rfl, rfl, trivial⟩
  · split <;> first | exact .inl ⟨rfl, rfl⟩ | exact .inr ⟨_, _, rfl, rfl, rfl, trivial⟩

/-- An escape is lost past the parenthesis, and as a place before a brace with nothing in it. -/
def EscapeLost (t : Tree) (s : Scan) : Prop :=
  Past t s ∨ (∃ span kind, t = .anchor span kind) ∧ BraceLeft s

theorem signEscape_follows (start start' : Position) (c : Char)
    (bumped : Inside n s.bumped s'.bumped) :
    Follows n EscapeLost Alike (signEscape start c s) (signEscape start' c s') := by
  unfold signEscape
  simp only [bind_bump, bind_place, run_ite]
  refine .ite (fun _ => ?_) fun _ => ?_
  · exact (boundaryEscape_follows _ _ _ _ bumped).weaken fun _ _ => .inr
  · obtain ⟨none, none'⟩ | ⟨t, t', some, some', alike⟩ :=
      signTree?_alike ⟨start, s.bumped.pos⟩ ⟨start', s'.bumped.pos⟩ c
    · rw [none, none']
      exact .fault
    · rw [some, some']
      exact .same alike bumped

theorem codeEscape_follows (start start' : Position) {width : Nat} (some_width : width ≠ 0)
    (bumped : Inside n s.bumped s'.bumped) :
    Follows n EscapeLost Alike ((hexEscape start width >>= fun l => pure (Tree.literal l)) s)
      ((hexEscape start' width >>= fun l => pure (Tree.literal l)) s') := by
  refine .bind (hexEscape_follows start start' some_width bumped) ?_ ?_
  · rintro l l' t t' alike inside
    refine .same ⟨?_, trivial⟩ inside
    rw [Tree.bare, Tree.bare, alike]
  · exact fun _ _ swallowed => .lost (.inl (.inl swallowed))

theorem classEscape_follows (start start' : Position) (negated : Bool)
    (bumped : Inside n s.bumped s'.bumped) :
    Follows n EscapeLost Alike
      ((propertyEscape >>= fun query =>
        place >>= fun stop => pure (Tree.property ⟨start, stop⟩ query negated)) s)
      ((propertyEscape >>= fun query =>
        place >>= fun stop => pure (Tree.property ⟨start', stop⟩ query negated)) s') := by
  refine .bind (propertyEscape_follows bumped) ?_ ?_
  · rintro query _ t t' rfl inside
    exact .same ⟨rfl, trivial⟩ inside
  · exact fun _ _ past => .lost (.inl past)

theorem escape_follows (bumped : Inside n s.bumped s'.bumped) :
    Follows n EscapeLost Alike (escape s) (escape s') := by
  rw [escape_eq]
  simp only [bind_place, bind_bump, bind_peek?]
  obtain ⟨rest, rest'⟩ | ⟨m, c, cs, rfl, rest, rest', after⟩ := bumped.next
  · -- an escaped parenthesis
    simp only [rest', List.head?_cons, show Char.isDigit ')' = false by decide, Bool.false_eq_true,
      if_false, signEscape, show ')' ≠ 'b' by decide]
    exact .lost (.inl (.inr (Scan.rest_bumped rest')))
  simp only [rest, rest', List.head?_cons, run_ite, bind_charSpan, bind_fail, run_fail]
  refine .ite (fun _ => .fault) fun _ => ?_
  refine .mono ?_ (Nat.le_succ m)
  split
  · exact codeEscape_follows _ _ (by decide) after
  · exact codeEscape_follows _ _ (by decide) after
  · exact codeEscape_follows _ _ (by decide) after
  · exact classEscape_follows _ _ _ after
  · exact classEscape_follows _ _ _ after
  · exact signEscape_follows _ _ c after

end Reader

end RecordRules.Pattern
