/-
  Branches inside a wrapping. The parts of a branch are read alike, and so are the branches of a
  group. A group that is not closed in the pattern is a fault alone; inside the wrapping it takes
  the parenthesis of the closing, so that the wrapping is not closed.
-/
import RecordRules.Proofs.Pattern.Brackets
import RecordRules.Proofs.Pattern.Groups

namespace RecordRules.Pattern

/-- The same parts but for places, none of which asks for more than it may take. -/
def SameParts (parts parts' : List Tree) : Prop :=
  parts.map Tree.bare = parts'.map Tree.bare ∧ ∀ t ∈ parts, t.Ordered

namespace SameParts

theorem nil : SameParts [] [] := ⟨rfl, nofun⟩

theorem cons {t t' : Tree} {parts parts' : List Tree} (alike : t.bare = t'.bare)
    (ordered : t.Ordered) (same : SameParts parts parts') :
    SameParts (t :: parts) (t' :: parts') := by
  refine ⟨?_, List.forall_mem_cons.mpr ⟨ordered, same.2⟩⟩
  rw [List.map_cons, List.map_cons, alike, same.1]

theorem allOrdered_reverse {parts parts' : List Tree} (same : SameParts parts parts') :
    Tree.AllOrdered parts.reverse :=
  Tree.allOrdered_iff.mpr fun t there => same.2 t (List.mem_reverse.mp there)

theorem bareAll_reverse {parts parts' : List Tree} (same : SameParts parts parts') :
    Tree.bareAll parts.reverse = Tree.bareAll parts'.reverse := by
  rw [Tree.bareAll_eq_map, Tree.bareAll_eq_map, List.map_reverse, List.map_reverse, same.1]

/-- Both are no part, one part each, or several. -/
theorem none_or_one_or_more {parts parts' : List Tree} (same : SameParts parts parts') :
    parts = [] ∧ parts' = [] ∨
      (∃ t t', parts = [t] ∧ parts' = [t'] ∧ t.bare = t'.bare ∧ t.Ordered) ∨
      ∃ t u more t' u' more', parts = t :: u :: more ∧ parts' = t' :: u' :: more' := by
  match parts, parts' with
  | [], [] => exact .inl ⟨rfl, rfl⟩
  | [t], [t'] =>
    have alike := (List.cons.inj same.1).1
    exact .inr (.inl ⟨t, t', rfl, rfl, alike, same.2 t (List.mem_singleton_self t)⟩)
  | _ :: _ :: _, _ :: _ :: _ => exact .inr (.inr ⟨_, _, _, _, _, _, rfl, rfl⟩)
  | [], _ :: _ | _ :: _, [] | [_], _ :: _ :: _ | _ :: _ :: _, [_] => simpa using same.1

end SameParts

namespace Reader

variable {n : Nat} {s s' : Scan}

theorem branchTree_alike {parts parts' : List Tree} (same : SameParts parts parts')
    (start start' stop stop' : Position) :
    (branchTree start stop parts).bare = (branchTree start' stop' parts').bare ∧
      (branchTree start stop parts).Ordered := by
  obtain ⟨rfl, rfl⟩ | ⟨t, t', rfl, rfl, alike, ordered⟩ | ⟨_, _, _, _, _, _, rfl, rfl⟩ :=
    same.none_or_one_or_more
  · exact ⟨rfl, trivial⟩
  · exact ⟨alike, ordered⟩
  · exact ⟨congrArg (Tree.concat .unplaced) same.bareAll_reverse, same.allOrdered_reverse⟩

theorem choiceTree_alike {branches branches' : List Tree} (same : SameParts branches branches')
    (start start' stop stop' : Position) :
    (choiceTree start stop branches).bare = (choiceTree start' stop' branches').bare ∧
      (choiceTree start stop branches).Ordered := by
  obtain ⟨rfl, rfl⟩ | ⟨t, t', rfl, rfl, alike, ordered⟩ | ⟨_, _, _, _, _, _, rfl, rfl⟩ :=
    same.none_or_one_or_more
  · exact ⟨rfl, trivial⟩
  · exact ⟨alike, ordered⟩
  · exact ⟨congrArg (Tree.alternation .unplaced) same.bareAll_reverse, same.allOrdered_reverse⟩

/-! ## Repetitions -/

/-- Whether a part takes no text, so that it cannot be repeated. -/
def takesNothing : Tree → Bool
  | .empty _ | .switches _ _ => true
  | _ => false

theorem takesNothing_bare (t : Tree) : takesNothing t.bare = takesNothing t := by
  cases t <;> rfl

theorem run_repeated (part : Tree) (rest : List Tree) (s : Scan) :
    repeated (part :: rest) s =
      if takesNothing part then .error { kind := .repetitionMissing, span := .point s.pos }
      else .ok ((part, rest), s) := by
  cases part <;> rfl

/-- A repetition finds the same part to repeat, or none inside the wrapping. -/
theorem repeated_alike {parts parts' : List Tree} (same : SameParts parts parts') (s s' : Scan) :
    (∃ f, repeated parts' s' = .error f) ∨
      ∃ part part' rest rest', repeated parts s = .ok ((part, rest), s) ∧
        repeated parts' s' = .ok ((part', rest'), s') ∧ part.bare = part'.bare ∧ part.Ordered ∧
        SameParts rest rest' := by
  obtain ⟨bare, ordered⟩ := same
  match parts, parts' with
  | _, [] => exact .inl ⟨_, rfl⟩
  | [], _ :: _ => cases bare
  | part :: rest, part' :: rest' =>
    obtain ⟨alike, others⟩ := List.cons.inj bare
    obtain ⟨first, later⟩ := List.forall_mem_cons.mp ordered
    have both : takesNothing part = takesNothing part' := by
      rw [← takesNothing_bare, alike, takesNothing_bare]
    rw [run_repeated, run_repeated, both]
    split
    · exact .inl ⟨_, rfl⟩
    · exact .inr ⟨part, part', rest, rest', rfl, rfl, alike, first, others, later⟩

theorem reluctance_follows (inside : Inside n s s') :
    Follows n Never (fun _ _ _ => True) (reluctance s) (reluctance s') := by
  unfold reluctance
  obtain ⟨rest, rest'⟩ | ⟨m, c, cs, rfl, rest, rest', bumped⟩ := inside.next
  · simpa [rest, rest'] using .same trivial inside
  · simp only [bind_peek?, rest, rest', List.head?_cons, run_ite, run_bump, run_pure]
    exact .ite (fun _ => .same trivial (bumped.mono (Nat.le_succ m))) fun _ => .same trivial inside

theorem signRepetition_follows {least : Nat} {most : Option Nat}
    (may : ∀ m, most = some m → least ≤ m) {parts parts' : List Tree}
    (same : SameParts parts parts') (bumped : Inside n s.bumped s'.bumped) :
    Follows n Never (fun parts parts' _ => SameParts parts parts')
      (signRepetition least most parts s) (signRepetition least most parts' s') := by
  unfold signRepetition
  obtain ⟨f, none⟩ | ⟨part, part', rest, rest', one, one', alike, ordered, others⟩ :=
    repeated_alike same s s'
  · rw [bind_error none]
    exact .fault
  rw [bind_ok one, bind_ok one']
  simp only [bind_bump]
  refine .bind (reluctance_follows bumped) (fun _ _ t t' _ inside => ?_) nofun
  refine .same (.cons ?_ ⟨may, ordered⟩ others) inside
  rw [Tree.bare, Tree.bare, alike]

/-- Reads the comma and the greater count of a repetition, if there are any, after its count. -/
def repetitionBounds (start : Position) (least : Except Fault Nat) : Reader (Nat × Option Nat) := do
  if (← peek?) ≠ some ',' then
    let n ← least
    return (n, some n)
  if !(← advance) then fail .repetitionCountUnclosed ⟨start, ← place⟩
  let n ← least
  if (← peek?) = some '\x7d' then return (n, none)
  let m ← ← count
  return (n, some m)

/-- Reads the end of a counted repetition of a part. -/
def closeRepetition (start : Position) (part : Tree) (rest : List Tree)
    (bounds : Nat × Option Nat) : Reader (List Tree) := do
  if (← peek?) ≠ some '\x7d' then fail .repetitionCountUnclosed ⟨start, ← place⟩
  let _ ← advance
  reluctance
  if bounds.2.any fun m => m < bounds.1 then fail .repetitionCountInvalid ⟨start, ← place⟩
  return .repetition ⟨part.span.start, ← place⟩ bounds.1 bounds.2 part :: rest

/-- Reads the counts of a repetition of a part, after its brace, and their end. -/
def repetitionCounts (start : Position) (part : Tree) (rest : List Tree) : Reader (List Tree) := do
  let least ← count
  if ← atEnd then fail .repetitionCountUnclosed ⟨start, ← place⟩
  closeRepetition start part rest (← repetitionBounds start least)

theorem countedRepetition_eq (parts : List Tree) :
    countedRepetition parts = (do
      let start ← place
      let (part, rest) ← repeated parts
      if !(← advance) then fail .repetitionCountUnclosed ⟨start, ← place⟩
      repetitionCounts start part rest) := by
  unfold countedRepetition repetitionCounts
  refine then_congr fun start => then_congr fun r => then_congr fun more => ?_
  cases more
  · rfl
  refine then_congr fun least => then_congr fun ended => ?_
  cases ended
  swap
  · rfl
  simp only [repetitionBounds, bind_assoc]
  refine then_congr fun next => ?_
  by_cases single : next ≠ some ','
  · simp only [if_pos single, bind_assoc, pure_bind]
    rfl
  simp only [if_neg single, bind_assoc]
  refine then_congr fun more => ?_
  cases more
  · rfl
  simp only [Bool.not_true, Bool.false_eq_true, if_false, bind_assoc]
  refine then_congr fun n => then_congr fun next => ?_
  by_cases closes : next = some '\x7d'
  · simp only [if_pos closes, pure_bind]
    rfl
  · simp only [if_neg closes, bind_assoc, pure_bind]
    rfl

/-- No count is read before the closing. -/
theorem count_closing (rest : s.rest = [')', '$']) :
    ∃ f t, count s = .ok (.error f, t) ∧ t.rest = [')', '$'] := by
  refine ⟨{ kind := .repetitionCountEmpty, span := ⟨s.pos, s.pos⟩ }, s, ?_, rest⟩
  have no_space (fuel : Nat) : skipSpace fuel s = .ok ((), s) := by
    cases fuel <;> simp [skipSpace, rest, not_blank ')']
  have no_digit (fuel : Nat) : decimalDigits fuel 0 0 s = .ok ((0, 0), s) := by
    cases fuel <;> simp [decimalDigits, rest, show Char.isDigit ')' = false by decide]
  unfold count
  rw [bind_get, bind_ok (no_space _), bind_place, bind_ok (no_digit _)]
  dsimp only
  rw [bind_place, bind_ok (no_space _), bind_skipBlanks, skipped_of_sign rest (by decide)]
  rfl

/-- A count that is none is a fault, with or without another one after it. -/
theorem repetitionBounds_loses {Lost : Nat × Option Nat → Scan → Prop} (start : Position)
    (f : Fault) (s : Scan) : Loses Lost (repetitionBounds start (.error f) s) := by
  unfold repetitionBounds
  simp only [bind_peek?, run_ite, bind_lift, bind_advance, bind_place, bind_fail, run_fail]
  split
  · exact .fault
  · split <;> exact .fault

/-- No second count is read before the closing. -/
theorem repetitionBounds_closing (start : Position) (least : Except Fault Nat)
    (rest : s.rest = [')', '$']) :
    Loses (fun _ t => t.rest = [')', '$']) (repetitionBounds start least s) := by
  cases least with
  | error f => exact repetitionBounds_loses start f s
  | ok n => simpa [repetitionBounds, rest, bind_lift, Except.bind] using .lost rest

theorem repetitionBounds_follows (start start' : Position) {least least' : Except Fault Nat}
    (same : SameValue least least') (inside : Inside n s s') (left : s.rest ≠ []) :
    Follows n Swallowed Equal (repetitionBounds start least s)
      (repetitionBounds start' least' s') := by
  cases there : least' with
  | error f => exact .of_loses (repetitionBounds_loses _ f _)
  | ok n =>
    rw [same.eq_ok there]
    obtain ⟨none, _⟩ | ⟨m, c, cs, rfl, rest, rest', bumped⟩ := inside.next
    · exact absurd none left
    unfold repetitionBounds
    simp only [bind_peek?, rest, rest', List.head?_cons, run_ite, bind_lift, run_pure, bind_advance,
      bind_place, bind_fail, run_fail, Bool.not_not]
    refine .ite (fun _ => .same rfl inside) fun _ => ?_
    refine .guard bumped (fun left inside => ?_) fun ended => ?_
    · obtain ⟨none, _⟩ | ⟨k, d, ds, rfl, rest, rest', _⟩ := inside.next
      · exact absurd none left
      simp only [rest, rest', List.head?_cons, Except.bind]
      refine .mono (.ite (fun _ => .same rfl inside) fun _ => ?_) (Nat.le_succ _)
      refine .bind (count_follows inside) ?_ ?_
      · intro greater greater' t t' same inside
        rw [bind_lift, bind_lift]
        cases there : greater' with
        | error f => exact .fault
        | ok m =>
          rw [SameValue.eq_ok same there]
          exact .same rfl inside
      · intro greater t' swallowed
        rw [bind_lift]
        cases greater with
        | error f => exact .fault
        | ok m => exact .lost swallowed
    · obtain ⟨f, t', no_count, _⟩ := count_closing ended
      have open_still : (some ')' = some '\x7d') = False := by decide
      simp only [ended, List.head?_cons, Except.bind, open_still, if_false]
      rw [bind_ok no_count]
      exact .fault

/-- A repetition is closed by its own sign only. -/
theorem closeRepetition_loses {Lost : List Tree → Scan → Prop} (start : Position) (part : Tree)
    (rest : List Tree) (bounds : Nat × Option Nat) (open_still : s.rest.head? ≠ some '\x7d') :
    Loses Lost (closeRepetition start part rest bounds s) := by
  simpa [closeRepetition, open_still] using .fault

theorem closeRepetition_follows (start start' : Position) {part part' : Tree}
    {rest rest' : List Tree} (alike : part.bare = part'.bare) (ordered : part.Ordered)
    (same : SameParts rest rest') (bounds : Nat × Option Nat) (inside : Inside n s s') :
    Follows n Swallowed (fun parts parts' _ => SameParts parts parts')
      (closeRepetition start part rest bounds s)
      (closeRepetition start' part' rest' bounds s') := by
  unfold closeRepetition
  obtain ⟨rest, rest'⟩ | ⟨m, c, cs, rfl, rest, rest', bumped⟩ := inside.next
  · simpa [rest'] using .fault
  simp only [bind_peek?, rest, rest', List.head?_cons, run_ite, bind_place, bind_fail, run_fail,
    bind_advance]
  refine .ite (fun _ => .fault) fun _ => ?_
  obtain swallowed | inside := bumped.skipped
  · have no_mark : reluctance s'.bumped.skipped = .ok ((), s'.bumped.skipped) := by
      simp [reluctance, swallowed]
    rw [bind_ok no_mark]
    simp only [run_ite, bind_place, run_pure, run_fail]
    split
    · exact .fault
    · exact .lost swallowed
  · have mark := reluctance_follows inside
    refine .mono (.bind mark (fun _ _ t t' _ inside => ?_) nofun) (Nat.le_succ m)
    simp only [run_ite, bind_place, run_pure, run_fail]
    refine .ite (fun _ => .fault) fun may => .same (.cons ?_ ⟨?_, ordered⟩ same) inside
    · rw [Tree.bare, Tree.bare, alike]
    · intro most there
      simpa [there] using may

theorem repetitionCounts_loses {Lost : List Tree → Scan → Prop} (start : Position) (part : Tree)
    (rest : List Tree) (ended : s.rest = [')', '$']) :
    Loses Lost (repetitionCounts start part rest s) := by
  obtain ⟨f, t, no_count, left⟩ := count_closing ended
  unfold repetitionCounts
  rw [bind_ok no_count]
  simp only [bind_atEnd, left, List.isEmpty_cons, Bool.false_eq_true, if_false]
  have no_bounds : Loses Never (repetitionBounds start (.error f) t) :=
    repetitionBounds_loses start f t
  exact no_bounds.bind nofun

theorem repetitionCounts_follows (start start' : Position) {part part' : Tree}
    {rest rest' : List Tree} (alike : part.bare = part'.bare) (ordered : part.Ordered)
    (same : SameParts rest rest') (inside : Inside n s s') :
    Follows n Swallowed (fun parts parts' _ => SameParts parts parts')
      (repetitionCounts start part rest s) (repetitionCounts start' part' rest' s') := by
  unfold repetitionCounts
  refine .bind (count_follows inside) ?_ ?_
  · intro least least' t t' counted inside
    simp only [bind_atEnd, run_ite, bind_place, bind_fail, run_fail]
    obtain ⟨rest, rest'⟩ | ⟨m, c, cs, rfl, rest, rest', _⟩ := inside.next
    · simp only [rest', List.isEmpty_cons, Bool.false_eq_true, if_false]
      refine .of_loses (.bind (repetitionBounds_closing _ _ rest') fun bounds u' rest' => ?_)
      exact closeRepetition_loses _ _ _ _ (by simp [rest'])
    simp only [rest, rest', List.isEmpty_cons, Bool.false_eq_true, if_false]
    refine .bind (repetitionBounds_follows _ _ counted inside (rest ▸ List.cons_ne_nil c cs)) ?_ ?_
    · rintro bounds _ u u' rfl inside
      exact closeRepetition_follows _ _ alike ordered same bounds inside
    · intro bounds u' swallowed
      exact closeRepetition_loses _ _ _ _ (by simp [show u'.rest = [] from swallowed])
  · intro least t' swallowed
    simpa [show t'.rest = [] from swallowed] using .fault

/-- A brace with nothing but blanks before the closing opens no repetition. -/
theorem countedRepetition_loses {Lost : List Tree → Scan → Prop} (parts : List Tree)
    (left : s.bumped.skipped.rest = [')', '$']) : Loses Lost (countedRepetition parts s) := by
  rw [countedRepetition_eq, bind_place]
  cases parts with
  | nil => exact .fault
  | cons part rest =>
    have found := run_repeated part rest s
    split at found
    · rw [bind_error found]
      exact .fault
    · rw [bind_ok found]
      simpa [left] using repetitionCounts_loses s.pos part rest left

theorem countedRepetition_follows {parts parts' : List Tree} (same : SameParts parts parts')
    (bumped : Inside n s.bumped s'.bumped) :
    Follows n Swallowed (fun parts parts' _ => SameParts parts parts')
      (countedRepetition parts s) (countedRepetition parts' s') := by
  rw [countedRepetition_eq, countedRepetition_eq]
  simp only [bind_place]
  obtain ⟨f, none⟩ | ⟨part, part', rest, rest', one, one', alike, ordered, others⟩ :=
    repeated_alike same s s'
  · rw [bind_error none]
    exact .fault
  rw [bind_ok one, bind_ok one']
  simp only [bind_advance, run_ite, Bool.not_not, bind_place, bind_fail, run_fail]
  refine .guard bumped (fun _ inside => ?_) fun ended => repetitionCounts_loses _ _ _ ended
  exact repetitionCounts_follows _ _ alike ordered others inside

/-! ## Parts -/

theorem sign_follows (c : Char) (bumped : Inside n s.bumped s'.bumped) :
    Follows n Never Alike (sign c s) (sign c s') := by
  unfold sign
  simp only [bind_charSpan, bind_bump, run_pure]
  split <;> exact .same ⟨rfl, trivial⟩ bumped

/-- Reads a part that starts with a given sign, or repeats the one before it. -/
def nextParts (c : Char) (parts : List Tree) : Reader (List Tree) :=
  match c with
  | '[' => return (← brackets) :: parts
  | '?' => signRepetition 0 (some 1) parts
  | '*' => signRepetition 0 none parts
  | '+' => signRepetition 1 none parts
  | '\x7b' => countedRepetition parts
  | '\\' => return (← escape) :: parts
  | c => return (← sign c) :: parts

/-- A sign that neither ends nor opens a branch starts a part or repeats one. -/
theorem choice_part {c : Char} (next : s.skipped.rest.head? = some c)
    (other : c ≠ ')' ∧ c ≠ '|' ∧ c ≠ '(') (fuel : Nat) (start : Position) (branches : List Tree)
    (branchStart : Position) (parts : List Tree) :
    choice (fuel + 1) start branches branchStart parts s =
      (nextParts c parts >>= choice fuel start branches branchStart) s.skipped := by
  obtain ⟨no_end, no_branch, no_group⟩ := other
  rw [choice, bind_skipBlanks, bind_peek?, next]
  unfold nextParts
  split <;> simp_all

/-- The parts of a branch are lost past the parenthesis, and before an empty brace. -/
def PartsLost (parts : List Tree) (s : Scan) : Prop := Past parts s ∨ BraceLeft s

theorem nextParts_follows (c : Char) {parts parts' : List Tree} (same : SameParts parts parts')
    (inside : Inside (n + 1) s s') (left : s.rest ≠ []) :
    Follows n PartsLost (fun parts parts' _ => SameParts parts parts')
      (nextParts c parts s) (nextParts c parts' s') := by
  obtain ⟨none, _⟩ | ⟨m, _, _, one_less, _, _, bumped⟩ := inside.next
  · exact absurd none left
  obtain rfl : n = m := Nat.succ.inj one_less
  have repeats {least : Nat} {most : Option Nat} (may : ∀ m, most = some m → least ≤ m) :
      Follows n PartsLost (fun parts parts' _ => SameParts parts parts')
        (signRepetition least most parts s) (signRepetition least most parts' s') :=
    (signRepetition_follows may same bumped).weaken nofun
  unfold nextParts
  split
  · refine .bind (brackets_follows inside left) (fun t t' u u' alike inside => ?_) nofun
    exact .same (.cons alike.1 alike.2 same) inside
  · exact repeats fun _ _ => Nat.zero_le _
  · exact repeats nofun
  · exact repeats nofun
  · exact (countedRepetition_follows same bumped).weaken fun _ _ swallowed => .inl (.inl swallowed)
  · refine .bind (escape_follows bumped) (fun t t' u u' alike inside => ?_) fun t u' lost => ?_
    · exact .same (.cons alike.1 alike.2 same) inside
    · exact .lost (lost.imp id And.right)
  · refine .bind (sign_follows _ bumped) (fun t t' u u' alike inside => ?_) nofun
    exact .same (.cons alike.1 alike.2 same) inside

/-! ## Choices -/

theorem choice_of_end (there : s.rest = []) (fuel : Nat) (start : Position) (branches : List Tree)
    (branchStart : Position) (parts : List Tree) :
    Loses Swallowed (choice fuel start branches branchStart parts s) := by
  cases fuel with
  | zero => exact .fault
  | succ fuel =>
    have ended := Scan.rest_skipped_of_end there
    simpa [choice, ended] using .lost ended

/-- Branches that are lost go on to the end of the text. -/
theorem choice_loses (fuel : Nat) (start : Position) (branches : List Tree) (branchStart : Position)
    (parts : List Tree) (lost : PartsLost parts s) :
    Loses Swallowed (choice fuel start branches branchStart parts s) := by
  obtain (ended | dollar) | ⟨brace, left⟩ := lost
  · exact choice_of_end ended fuel start branches branchStart parts
  · cases fuel with
    | zero => exact .fault
    | succ fuel =>
      have stays := skipped_of_sign dollar (by decide)
      rw [choice_part (stays ▸ congrArg List.head? dollar) (by decide), stays]
      exact choice_of_end (Scan.rest_bumped dollar) fuel start branches branchStart _
  · cases fuel with
    | zero => exact .fault
    | succ fuel =>
      obtain ⟨cs, rest⟩ := List.head?_eq_some_iff.mp brace
      have stays := skipped_of_sign rest (by decide)
      rw [choice_part (stays.symm ▸ brace) (by decide), stays]
      have no_parts : Loses Never (countedRepetition parts s) := countedRepetition_loses parts left
      exact no_parts.bind nofun

theorem choice_ends {fuel : Nat} {start : Position} {branches : List Tree} {branchStart : Position}
    {parts : List Tree} (ends : s.skipped.rest.head? = none ∨ s.skipped.rest.head? = some ')') :
    choice (fuel + 1) start branches branchStart parts s =
      .ok (choiceTree start s.skipped.pos (branchTree branchStart s.skipped.pos parts :: branches),
        s.skipped) := by
  obtain next | next := ends <;> simp only [choice, bind_skipBlanks, bind_peek?, next] <;> rfl

/-- Reads the parenthesis after the inside of a group, and the branches after the group. -/
def closeGroup (fuel : Nat) (start : Position) (branches : List Tree) (branchStart : Position)
    (parts : List Tree) (opening : Span) (outer : Bool) (flags : List (Flag × Bool))
    (captures : Bool) (inner : Tree) : Reader Tree := do
  if ← atEnd then fail .groupUnclosed opening
  modify fun s => { s with skipsBlanks := outer }
  bump
  choice fuel start branches branchStart
    (.group ⟨opening.start, ← place⟩ flags captures inner :: parts)

/-- Reads the branches after some switches, or the inside of a group and the branches after it. -/
def afterOpening (fuel : Nat) (start : Position) (branches : List Tree) (branchStart : Position)
    (parts : List Tree) (opening : Span) (outer : Bool) : Opening → Reader Tree
  | .switches flags => do
    modify fun s =>
      { s with skipsBlanks := (switchOf .ignoreWhitespace flags).getD outer }
    choice fuel start branches branchStart (.switches ⟨opening.start, ← place⟩ flags :: parts)
  | .group flags captures => do
    modify fun s =>
      { s with skipsBlanks := (switchOf .ignoreWhitespace flags).getD outer }
    let innerStart ← place
    let inner ← choice fuel innerStart [] innerStart []
    closeGroup fuel start branches branchStart parts opening outer flags captures inner

theorem choice_group (next : s.skipped.rest.head? = some '(') (fuel : Nat) (start : Position)
    (branches : List Tree) (branchStart : Position) (parts : List Tree) :
    choice (fuel + 1) start branches branchStart parts s =
      (openGroup >>= afterOpening fuel start branches branchStart parts s.skipped.charSpan
        s.skipped.skipsBlanks) s.skipped := by
  simp only [choice, bind_skipBlanks, bind_peek?, next]
  rfl

theorem afterOpening_loses (fuel : Nat) (start : Position) (branches : List Tree)
    (branchStart : Position) (parts : List Tree) (open_at : Span) (outer : Bool) (opening : Opening)
    (past : Past opening s) :
    Loses Swallowed
      (afterOpening fuel start branches branchStart parts open_at outer opening s) := by
  cases opening with
  | switches flags => exact choice_loses _ _ _ _ _ (.inl past)
  | group flags captures =>
    simp only [afterOpening, bind_modify, bind_place]
    refine .bind (choice_loses _ _ _ _ _ (.inl past)) fun inner t swallowed => ?_
    simpa [closeGroup, show t.rest = [] from swallowed] using .fault

/-- Branches are read alike. Those that are read inside the wrapping but not alone are lost: some
    group of the pattern has taken the parenthesis of the closing. -/
theorem choice_follows {fuel fuel' : Nat} (start start' : Position)
    {branches branches' : List Tree} (done : SameParts branches branches')
    (branchStart branchStart' : Position) {parts parts' : List Tree}
    (same : SameParts parts parts') (inside : Inside n s s') (enough : n < fuel) :
    Follows n Swallowed Alike (choice fuel start branches branchStart parts s)
      (choice fuel' start' branches' branchStart' parts' s') := by
  induction fuel' generalizing n fuel start start' branches branches' branchStart branchStart' parts
    parts' s s' with
  | zero => exact .fault
  | succ fuel' ih =>
    obtain ⟨fuel, rfl⟩ := Nat.exists_eq_add_one.mpr (Nat.zero_lt_of_lt enough)
    have branch (stop stop' : Position) :
        SameParts (branchTree branchStart stop parts :: branches)
          (branchTree branchStart' stop' parts' :: branches') := by
      obtain ⟨alike, ordered⟩ := branchTree_alike same branchStart branchStart' stop stop'
      exact .cons alike ordered done
    obtain swallowed | inside := inside.skipped
    · rw [choice_ends (.inl (congrArg List.head? swallowed))]
      exact .lost swallowed
    obtain ⟨rest, rest'⟩ | ⟨k, c, cs, rfl, rest, rest', bumped⟩ := inside.next
    · rw [choice_ends (.inl (congrArg List.head? rest)),
        choice_ends (.inr (congrArg List.head? rest'))]
      exact .same (choiceTree_alike (branch _ _) ..) inside
    by_cases closes : c = ')'
    · subst closes
      rw [choice_ends (.inr (congrArg List.head? rest)),
        choice_ends (.inr (congrArg List.head? rest'))]
      exact .same (choiceTree_alike (branch _ _) ..) inside
    have enough : k < fuel := Nat.lt_of_succ_lt_succ enough
    refine .mono ?_ (Nat.le_succ k)
    by_cases next : c = '|'
    · subst next
      simp only [choice, bind_skipBlanks, bind_peek?, rest, rest', List.head?_cons, bind_place,
        bind_bump]
      exact ih _ _ (branch _ _) _ _ .nil bumped enough
    by_cases opens : c = '('
    · subst opens
      rw [choice_group (congrArg List.head? rest), choice_group (congrArg List.head? rest'),
        inside.skipsBlanks]
      refine .bind (openGroup_follows bumped) ?_ fun opening t' past =>
        afterOpening_loses _ _ _ _ _ _ _ opening past
      rintro (flags | ⟨flags, captures⟩) _ t t' rfl inside
      · simp only [afterOpening, bind_modify, bind_place]
        exact ih _ _ done _ _ (.cons rfl trivial same) (inside.switched _) enough
      simp only [afterOpening, bind_modify, bind_place]
      refine .bind (ih _ _ .nil _ _ .nil (inside.switched _) enough) ?_ ?_
      · rintro inner inner' u u' ⟨alike, ordered⟩ inside
        simp only [closeGroup, bind_atEnd, run_ite, bind_fail, run_fail, bind_modify, bind_bump,
          bind_place]
        obtain ⟨_, rest'⟩ | ⟨l, _, _, rfl, rest, rest', bumped⟩ :=
          (inside.switched s.skipped.skipsBlanks).next
        · -- the group takes the parenthesis of the closing
          have left' : u'.rest.isEmpty = false := by rw [show u'.rest = _ from rest']; rfl
          simp only [left', Bool.false_eq_true, if_false]
          exact .of_loses (choice_loses _ _ _ _ _ (.inl (.inr (Scan.rest_bumped rest'))))
        · have left : u.rest.isEmpty = false := by rw [show u.rest = _ from rest]; rfl
          have left' : u'.rest.isEmpty = false := by rw [show u'.rest = _ from rest']; rfl
          simp only [left, left', Bool.false_eq_true, if_false]
          refine .mono (ih _ _ done _ _ (.cons ?_ ordered same) bumped ?_) (Nat.le_succ l)
          · rw [Tree.bare, Tree.bare, alike]
          · exact Nat.lt_of_succ_lt enough
      · intro inner u' swallowed
        simpa [closeGroup, show u'.rest = [] from swallowed] using .fault
    rw [choice_part (congrArg List.head? rest) ⟨closes, next, opens⟩,
      choice_part (congrArg List.head? rest') ⟨closes, next, opens⟩]
    refine .bind (nextParts_follows c same inside (rest ▸ List.cons_ne_nil c cs)) ?_ ?_
    · exact fun parts parts' t t' same inside => ih _ _ done _ _ same inside enough
    · exact fun parts t' lost => choice_loses fuel' _ _ _ _ lost

end Reader

end RecordRules.Pattern
