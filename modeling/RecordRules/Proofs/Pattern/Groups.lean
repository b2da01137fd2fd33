/-
  The opening of a group inside a wrapping. The name of a group ends with an angle bracket, which
  the closing does not have; a list of switches may end with its parenthesis.
-/
import RecordRules.Proofs.Pattern.Inside

namespace RecordRules.Pattern

namespace Reader

variable {n : Nat} {s s' : Scan}

/-! ## Words -/

theorem run_accept (word : List Char) (s : Scan) :
    accept word s = if word.isPrefixOf s.rest then .ok (true, Scan.bumped^[word.length] s)
      else .ok (false, s) := by
  unfold accept
  simp only [bind_get, run_ite, run_pure]
  split
  · exact bind_ok (run_bumps word s)
  · rfl

theorem accept_of_end {word : List Char} (some_word : word ≠ []) (there : s.rest = []) :
    accept word s = .ok (false, s) := by
  obtain ⟨c, cs, rfl⟩ := List.exists_cons_of_ne_nil some_word
  rw [run_accept, there]
  rfl

/-- The closing continues no word without a parenthesis. -/
theorem isPrefixOf_closing {word : List Char} (inner : ')' ∉ word) (text : List Char) :
    word.isPrefixOf (text ++ closing) = word.isPrefixOf text := by
  induction word generalizing text with
  | nil => simp
  | cons c word ih =>
    obtain ⟨other, inner⟩ := not_or.mp (mt List.mem_cons.mpr inner)
    cases text with
    | nil => simp [closing, List.isPrefixOf, Ne.symm other]
    | cons d text => simp [List.isPrefixOf, ih inner]

theorem accept_follows {word : List Char} (inner : ')' ∉ word) (inside : Inside n s s') :
    Follows n Never Equal (accept word s) (accept word s') := by
  rw [run_accept, run_accept, inside.rest, isPrefixOf_closing inner]
  refine .ite (fun found => ?_) fun _ => .same rfl inside
  have short := (List.isPrefixOf_iff_prefix.mp found).length_le
  exact .same rfl ((inside.bumps short).mono (Nat.sub_le ..))

/-- Refuses some words. -/
def refuse (start : Position) (words : List String) : Reader PUnit := do
  for word in words do
    if ← accept word.toList then fail .unsupportedLookAround ⟨start, ← place⟩

theorem refuse_cons (start : Position) (word : String) (words : List String) :
    refuse start (word :: words) = (do
      if ← accept word.toList then fail .unsupportedLookAround ⟨start, ← place⟩
      refuse start words) := by
  simp only [refuse, List.forIn_cons, bind_assoc]
  refine then_congr fun found => ?_
  cases found <;> simp

theorem refuse_follows (start start' : Position) {words : List String}
    (inner : ∀ word ∈ words, ')' ∉ word.toList) (inside : Inside n s s') :
    Follows n Never (fun _ _ _ => True) (refuse start words s) (refuse start' words s') := by
  induction words generalizing n s s' with
  | nil => exact .same trivial inside
  | cons word words ih =>
    rw [refuse_cons, refuse_cons]
    refine .bind (accept_follows (inner word (List.mem_cons_self ..)) inside) ?_ nofun
    rintro found _ t t' rfl inside
    cases found
    · exact ih (fun word there => inner word (List.mem_cons_of_mem _ there)) inside
    · exact .fault

theorem refuse_of_other (start : Position) {words : List String}
    (other : ∀ word ∈ words, word.toList.isPrefixOf s.rest = false) :
    refuse start words s = .ok (⟨⟩, s) := by
  induction words with
  | nil => rfl
  | cons word words ih =>
    have first : accept word.toList s = .ok (false, s) := by
      rw [run_accept, other word (List.mem_cons_self ..), if_neg Bool.false_ne_true]
    rw [refuse_cons, bind_ok first]
    exact ih fun word there => other word (List.mem_cons_of_mem _ there)

/-! ## Switches -/

/-- Whether a key is found depends on the keys only. -/
theorem find?_eq_none_of_keys {α β : Type} [BEq α] [LawfulBEq α] {l l' : List (α × β)}
    (keys : l.map Prod.fst = l'.map Prod.fst) {a : α}
    (absent : l'.find? (fun e => e.1 == a) = none) : l.find? (fun e => e.1 == a) = none := by
  have absent_key : (l'.map Prod.fst).find? (· == a) = none := by
    rw [List.find?_map]
    exact congrArg (Option.map Prod.fst) absent
  rw [← keys, List.find?_map] at absent_key
  exact Option.map_eq_none_iff.mp absent_key

/-- The same switches but for places. -/
def SameSwitches (flags flags' : List (Flag × Bool × Span)) : Prop :=
  flags.map (fun (flag, on, _) => (flag, on)) = flags'.map (fun (flag, on, _) => (flag, on))

/-- A list of switches is lost where it ends before the parenthesis of the closing. -/
theorem switchList_follows {fuel fuel' : Nat} {flags flags' : List (Flag × Bool × Span)}
    (same : SameSwitches flags flags') {minus minus' : Option Span}
    (negates : Option.Rel (fun _ _ => True) minus minus') (dangling : Bool) (inside : Inside n s s')
    (enough : n < fuel) :
    Follows n (fun _ t => t.rest = [')', '$']) (fun a a' t => a = a' ∧ t.rest ≠ [])
      (switchList fuel flags minus dangling s) (switchList fuel' flags' minus' dangling s') := by
  induction fuel' generalizing n fuel flags flags' minus minus' dangling s s' with
  | zero => exact .fault
  | succ fuel' ih =>
    obtain ⟨fuel, rfl⟩ := Nat.exists_eq_add_one.mpr (Nat.zero_lt_of_lt enough)
    obtain ⟨rest, rest'⟩ | ⟨m, c, cs, rfl, rest, rest', bumped⟩ := inside.next
    · simp only [switchList, bind_peek?, rest', List.head?_cons, or_true, if_true]
      refine .of_loses ?_
      cases minus' with
      | none => exact .lost rest'
      | some span =>
        simp only [run_ite, bind_fail, run_fail, run_pure]
        split
        · exact .fault
        · exact .lost rest'
    · have left : s.rest ≠ [] := rest ▸ List.cons_ne_nil c cs
      have result := congrArg List.reverse same
      simp only [← List.map_reverse] at result
      simp only [switchList, bind_peek?, rest, rest', List.head?_cons, run_ite, bind_charSpan,
        bind_fail, bind_throw]
      refine .ite (fun _ => ?_) fun _ => .ite (fun _ => ?_) fun _ => ?_
      · cases negates with
        | none => exact .same ⟨result, left⟩ inside
        | some _ =>
          simp only [run_ite, run_fail, run_pure]
          exact .ite (fun _ => .fault) fun _ => .same ⟨result, left⟩ inside
      · cases negates with
        | none =>
          exact (ih same (.some trivial) true bumped (Nat.lt_of_succ_lt_succ enough)).mono
            (Nat.le_succ m)
        | some _ => exact .fault
      · cases flagOf? c with
        | none => exact .fault
        | some flag =>
          have keys : flags.map Prod.fst = flags'.map Prod.fst := by
            simpa [List.map_map, Function.comp_def] using congrArg (List.map Prod.fst) same
          cases again : flags'.find? (fun e => e.1 == flag) with
          | some earlier => simpa only [again] using .fault
          | none =>
            have on : minus.isNone = minus'.isNone := by cases negates <;> rfl
            simp only [again, find?_eq_none_of_keys keys again, bind_bump, on]
            have enough := Nat.lt_of_succ_lt_succ enough
            refine .mono (ih ?_ negates false bumped enough) (Nat.le_succ m)
            exact congrArg ((flag, minus'.isNone) :: ·) same

/-! ## Names -/

theorem nameText_of_end (there : s.rest = []) (fuel : Nat) (read : List Char) :
    nameText fuel read s = .ok (read.reverse, s) := by
  cases fuel <;> simp [nameText, there]

/-- A name without an angle bracket after it goes on to the end of the text. -/
theorem nameText_loses {fuel : Nat} (read : List Char) (plain : '>' ∉ s.rest)
    (enough : s.rest.length ≤ fuel) : Loses Swallowed (nameText fuel read s) := by
  induction fuel generalizing s read with
  | zero => exact .lost (List.eq_nil_of_length_eq_zero (Nat.le_zero.mp enough))
  | succ fuel ih =>
    cases rest : s.rest with
    | nil =>
      rw [nameText_of_end rest]
      exact .lost rest
    | cons c cs =>
      rw [rest] at plain enough
      obtain ⟨other, plain⟩ := not_or.mp (mt List.mem_cons.mpr plain)
      have other := Ne.symm other
      have after := Scan.rest_bumped rest
      simp only [nameText, bind_peek?, rest, List.head?_cons, run_ite, bind_charSpan, bind_fail,
        run_fail, bind_bump]
      split
      · exact .fault
      · exact ih _ (after ▸ plain) (after ▸ Nat.le_of_succ_le_succ enough)

theorem nameText_follows {fuel fuel' : Nat} (read : List Char) (inside : Inside n s s')
    (enough : n ≤ fuel) (enough' : n + 2 ≤ fuel') :
    Follows n Swallowed (fun a a' t => a = a' ∧ t.rest ≠ []) (nameText fuel read s)
      (nameText fuel' read s') := by
  induction fuel' generalizing n fuel read s s' with
  | zero => omega
  | succ fuel' ih =>
    obtain ⟨rest, rest'⟩ | ⟨m, c, cs, rfl, rest, rest', bumped⟩ := inside.next
    · refine .of_loses (nameText_loses _ ?_ ?_)
      · rw [rest']
        decide
      · rw [rest']
        exact (Nat.le_add_left 2 n).trans enough'
    · obtain ⟨fuel, rfl⟩ := Nat.exists_eq_add_one.mpr (Nat.lt_of_lt_of_le (Nat.succ_pos m) enough)
      by_cases close : c = '>'
      · subst close
        simpa [nameText, rest, rest'] using .same ⟨rfl, by simp [rest]⟩ inside
      · simp only [nameText, bind_peek?, rest, rest', List.head?_cons, run_ite, bind_charSpan,
          bind_fail, run_fail, bind_bump]
        refine .ite (fun _ => .fault) fun _ => ?_
        exact (ih _ bumped (Nat.le_of_succ_le_succ enough) (by omega)).mono (Nat.le_succ m)

theorem groupName_follows (inside : Inside n s s') :
    Follows n Never (fun _ _ _ => True) (groupName s) (groupName s') := by
  unfold groupName
  simp only [bind_atEnd, run_ite, bind_place, bind_fail, run_fail, bind_get]
  obtain ⟨rest, rest'⟩ | ⟨m, c, cs, rfl, rest, rest', _⟩ := inside.next
  · -- no name is left, and the closing has none
    have no_name : Loses Swallowed (nameText s'.rest.length [] s') :=
      nameText_loses [] (by rw [rest']; decide) le_rfl
    simp only [rest', List.isEmpty_cons, Bool.false_eq_true, if_false] at no_name ⊢
    refine .of_loses (.bind no_name fun name t swallowed => ?_)
    simpa [show t.rest = [] from swallowed] using .fault
  have left : s.rest.isEmpty = false := by rw [rest]; rfl
  have left' : s'.rest.isEmpty = false := by rw [rest']; rfl
  simp only [left, left', Bool.false_eq_true, if_false]
  refine .bind (nameText_follows [] inside.exact le_rfl inside.length.ge) ?_ ?_
  · rintro name _ t t' ⟨rfl, left⟩ inner
    obtain ⟨none, _⟩ | ⟨k, d, ds, few, rest, rest', bumped⟩ := inner.next
    · exact absurd none left
    simp only [bind_atEnd, rest, rest', List.isEmpty_cons, Bool.false_eq_true, if_false, bind_place,
      bind_bump, run_ite, run_fail, bind_get]
    refine .ite (fun _ => .fault) fun _ => ?_
    cases again : t'.bumped.names.find? (fun e => e.1 == String.ofList name) with
    | some earlier => exact .fault
    | none =>
      have few : k ≤ m + 1 := by have := inside.short; omega
      simp only [find?_eq_none_of_keys bumped.names.symm again]
      exact .same trivial ((bumped.mono few).named _ _ _)
  · rintro name t' swallowed
    simpa [show t'.rest = [] from swallowed] using .fault

/-! ## Openings -/

/-- Reads what an opening parenthesis opens, after look-arounds are refused. `start` is the span of
    the parenthesis and `inner` the place of what follows it. -/
def openingOf (start : Span) (inner : Position) : Reader Opening := do
  if ← accept ['?', 'P', '<'] then
    groupName
    return .group [] true
  if ← accept ['?', '<'] then
    groupName
    return .group [] true
  if ← accept ['?'] then
    if ← atEnd then fail .groupUnclosed start
    let flags ← switchList ((← get).rest.length + 1) [] none false
    let last ← peek?
    bump
    if last = some ')' then
      if flags.isEmpty then fail .repetitionMissing (.point inner)
      return .switches flags
    return .group flags false
  return .group [] true

theorem openGroup_eq :
    openGroup = (do
      let start ← charSpan
      bump
      skipBlanks
      refuse start.start ["?=", "?!", "?<=", "?<!"]
      openingOf start (← place)) := by
  unfold openGroup refuse
  simp only [bind_assoc, pure_bind]
  rfl

theorem openingOf_of_end (there : s.rest = []) (start : Span) (inner : Position) :
    openingOf start inner s = .ok (.group [] true, s) := by
  have no_word {word : List Char} (some_word : word ≠ []) := accept_of_end some_word there
  unfold openingOf
  rw [bind_ok (no_word (by decide)), if_neg Bool.false_ne_true, bind_ok (no_word (by decide)),
    if_neg Bool.false_ne_true, bind_ok (no_word (by decide)), if_neg Bool.false_ne_true, run_pure]

theorem openingOf_follows (start start' : Span) (inner inner' : Position) (inside : Inside n s s') :
    Follows n Past Equal (openingOf start inner s) (openingOf start' inner' s') := by
  have named {t t' : Scan} (inside : Inside n t t') :
      Follows n Past Equal ((groupName >>= fun _ => pure (Opening.group [] true)) t)
        ((groupName >>= fun _ => pure (Opening.group [] true)) t') :=
    .bind (groupName_follows inside) (fun _ _ _ _ _ inside => .same rfl inside) nofun
  unfold openingOf
  refine .bind (accept_follows (by decide) inside) ?_ nofun
  rintro found _ t t' rfl inside
  simp only [run_ite]
  refine .ite (fun _ => named inside) fun _ => ?_
  refine .bind (accept_follows (by decide) inside) ?_ nofun
  rintro found _ t t' rfl inside
  simp only [run_ite]
  refine .ite (fun _ => named inside) fun _ => ?_
  refine .bind (accept_follows (by decide) inside) ?_ nofun
  rintro found _ t t' rfl inside
  simp only [run_ite, run_pure, bind_atEnd, bind_fail, run_fail, bind_get]
  refine .ite (fun _ => ?_) fun _ => .same rfl inside
  obtain ⟨rest, rest'⟩ | ⟨m, c, cs, rfl, rest, rest', _⟩ := inside.next
  · -- the parenthesis of the closing is read as the end of an empty list of switches
    simpa [rest', switchList] using .fault
  have left : t.rest.isEmpty = false := by rw [rest]; rfl
  have left' : t'.rest.isEmpty = false := by rw [rest']; rfl
  simp only [left, left', Bool.false_eq_true, if_false]
  refine .bind (switchList_follows rfl .none false inside.exact (Nat.lt_succ_self _)) ?_ ?_
  · rintro flags _ u u' ⟨rfl, left⟩ inner
    obtain ⟨none, _⟩ | ⟨k, d, ds, few, rest, rest', bumped⟩ := inner.next
    · exact absurd none left
    have few : k ≤ m + 1 := by have := inside.short; omega
    simp only [bind_peek?, rest, rest', List.head?_cons, bind_bump, run_ite, run_fail, run_pure]
    refine .ite (fun _ => .ite (fun _ => .fault) fun _ => ?_) fun _ => ?_
    · exact .same rfl (bumped.mono few)
    · exact .same rfl (bumped.mono few)
  · intro flags u' rest'
    simp only [bind_peek?, rest', List.head?_cons, bind_bump, if_true, run_ite, run_fail, run_pure]
    split
    · exact .fault
    · exact .lost (.inr (Scan.rest_bumped rest'))

/-- An opening is lost where the closing ends its switches, and where a comment has swallowed it. -/
theorem openGroup_follows (bumped : Inside n s.bumped s'.bumped) :
    Follows n Past Equal (openGroup s) (openGroup s') := by
  rw [openGroup_eq]
  simp only [bind_charSpan, bind_bump, bind_skipBlanks]
  obtain swallowed | inside := bumped.skipped
  · have no_word : ∀ word ∈ ["?=", "?!", "?<=", "?<!"],
        word.toList.isPrefixOf s'.bumped.skipped.rest = false := by
      rw [swallowed]
      decide
    rw [bind_ok (refuse_of_other _ no_word), bind_place, openingOf_of_end swallowed]
    exact .lost (.inl swallowed)
  · refine .bind (refuse_follows _ _ (by decide) inside) (fun _ _ t t' _ inside => ?_) nofun
    exact openingOf_follows _ _ _ _ inside

end Reader

end RecordRules.Pattern
