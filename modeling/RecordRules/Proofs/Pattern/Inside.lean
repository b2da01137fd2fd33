/-
  Reading inside a wrapping. A pattern is read with a closing parenthesis and a dollar sign after
  it. Each reader is shown to do there what it does with the pattern alone, unless it finds a fault
  or loses its way into the closing.
-/
import Mathlib.Data.List.Permutation
import RecordRules.Proofs.Pattern.Bare
import RecordRules.Proofs.Pattern.Run

namespace RecordRules.Pattern

open RecordRules.Unicode (spaceChars)

/-! ## Standing inside a wrapping -/

/-- The text after a wrapped pattern. -/
def closing : List Char := [')', '$']

/-- Two readers stand at the same place of a pattern, the second one inside a wrapping. At most `n`
    characters of the pattern are unread. -/
structure Inside (n : Nat) (s s' : Scan) : Prop where
  rest : s'.rest = s.rest ++ closing
  skipsBlanks : s'.skipsBlanks = s.skipsBlanks
  names : s'.names.map Prod.fst = s.names.map Prod.fst
  short : s.rest.length ≤ n

/-- What a reader gives inside a wrapping it gives alone too, unless it is lost. `Same` is what both
    values have to do with each other and with the place where the reader alone ends. -/
def Follows {α : Type} (n : Nat) (Lost : α → Scan → Prop) (Same : α → α → Scan → Prop)
    (alone wrapped : Except Fault (α × Scan)) : Prop :=
  ∀ a' t', wrapped = .ok (a', t') →
    Lost a' t' ∨ ∃ a t, alone = .ok (a, t) ∧ Same a a' t ∧ Inside n t t'

/-- What a reader gives inside a wrapping is lost. -/
def Loses {α : Type} (Lost : α → Scan → Prop) (wrapped : Except Fault (α × Scan)) : Prop :=
  ∀ a' t', wrapped = .ok (a', t') → Lost a' t'

/-- Equal values. -/
def Equal {α : Type} (a a' : α) (_ : Scan) : Prop := a = a'

/-- A reader is lost where a comment has swallowed the closing. -/
def Swallowed {α : Type} (_ : α) (s : Scan) : Prop := s.rest = []

/-- A reader is lost where it has gone past the parenthesis of the closing. -/
def Past {α : Type} (_ : α) (s : Scan) : Prop := s.rest = [] ∨ s.rest = ['$']

/-- A reader is never lost. -/
def Never {α : Type} (_ : α) (_ : Scan) : Prop := False

theorem Inside.mono {m n : Nat} {s s' : Scan} (inside : Inside m s s') (le : m ≤ n) :
    Inside n s s' :=
  ⟨inside.rest, inside.skipsBlanks, inside.names, inside.short.trans le⟩

theorem Inside.length {n : Nat} {s s' : Scan} (inside : Inside n s s') :
    s'.rest.length = s.rest.length + 2 := by
  rw [inside.rest, List.length_append]
  rfl

theorem Inside.exact {n : Nat} {s s' : Scan} (inside : Inside n s s') :
    Inside s.rest.length s s' :=
  ⟨inside.rest, inside.skipsBlanks, inside.names, le_rfl⟩

namespace Loses

variable {α β : Type} {Lost : α → Scan → Prop}

theorem fault {f : Fault} : Loses Lost (.error f) := nofun

theorem lost {a' : α} {s' : Scan} (there : Lost a' s') : Loses Lost (.ok (a', s')) := by
  rintro _ _ ⟨⟩
  exact there

theorem bind {Lost' : β → Scan → Prop} {f : Reader α} {g : α → Reader β} {s : Scan}
    (first : Loses Lost (f s)) (rest : ∀ a t, Lost a t → Loses Lost' (g a t)) :
    Loses Lost' ((f >>= g) s) := by
  intro b u run
  obtain ⟨⟨a, t⟩, before, after⟩ := bind_eq_ok_iff.mp (show (f s >>= _) = _ from run)
  exact rest a t (first a t before) b u after

end Loses

namespace Follows

variable {α β : Type} {n : Nat} {Lost : α → Scan → Prop} {Same : α → α → Scan → Prop}
  {alone wrapped : Except Fault (α × Scan)} {s s' : Scan}

theorem of_loses (loses : Loses Lost wrapped) : Follows n Lost Same alone wrapped :=
  fun a' t' run => .inl (loses a' t' run)

theorem fault {f : Fault} : Follows n Lost Same alone (.error f) := .of_loses .fault

theorem lost {a' : α} (there : Lost a' s') : Follows n Lost Same alone (.ok (a', s')) :=
  .of_loses (.lost there)

theorem same {a a' : α} (alike : Same a a' s) (inside : Inside n s s') :
    Follows n Lost Same (.ok (a, s)) (.ok (a', s')) := by
  rintro _ _ ⟨⟩
  exact .inr ⟨a, s, rfl, alike, inside⟩

theorem mono {m : Nat} (follows : Follows m Lost Same alone wrapped) (le : m ≤ n) :
    Follows n Lost Same alone wrapped := by
  intro a' t' run
  obtain there | ⟨a, t, run, alike, inside⟩ := follows a' t' run
  · exact .inl there
  · exact .inr ⟨a, t, run, alike, inside.mono le⟩

theorem weaken {Lost' : α → Scan → Prop} (follows : Follows n Lost Same alone wrapped)
    (lost : ∀ a t, Lost a t → Lost' a t) : Follows n Lost' Same alone wrapped := by
  intro a' t' run
  obtain there | found := follows a' t' run
  · exact .inl (lost a' t' there)
  · exact .inr found

theorem ite {p : Prop} [Decidable p] {alone' wrapped' : Except Fault (α × Scan)}
    (yes : p → Follows n Lost Same alone wrapped) (no : ¬ p → Follows n Lost Same alone' wrapped') :
    Follows n Lost Same (if p then alone else alone') (if p then wrapped else wrapped') := by
  split
  · exact yes ‹_›
  · exact no ‹_›

/-- One reader after another. Where the first one is lost, nothing is asked of the pattern alone. -/
theorem bind {m : Nat} {Lost' : β → Scan → Prop} {Same' : β → β → Scan → Prop} {f f' : Reader α}
    {g g' : α → Reader β} (first : Follows m Lost Same (f s) (f' s'))
    (rest : ∀ a a' t t', Same a a' t → Inside m t t' → Follows n Lost' Same' (g a t) (g' a' t'))
    (lost : ∀ a' t', Lost a' t' → Loses Lost' (g' a' t')) :
    Follows n Lost' Same' ((f >>= g) s) ((f' >>= g') s') := by
  intro b' u' run
  obtain ⟨⟨a', t'⟩, before, after⟩ := bind_eq_ok_iff.mp (show (f' s' >>= _) = _ from run)
  obtain there | ⟨a, t, alone, alike, inside⟩ := first a' t' before
  · exact .inl (lost a' t' there b' u' after)
  · rw [Reader.bind_ok alone]
    exact rest a a' t t' alike inside b' u' after

end Follows

/-! ## Steps -/

theorem ranges_spaceChars :
    spaceChars.ranges =
      [(0x9, 0xD), (0x20, 0x20), (0x85, 0x85), (0xA0, 0xA0), (0x1680, 0x1680), (0x2000, 0x200A),
       (0x2028, 0x2029), (0x202F, 0x202F), (0x205F, 0x205F), (0x3000, 0x3000)] := by cbv

/-- Neither sign of the closing is a blank, nor are the signs that have a meaning in brackets. -/
theorem not_blank : ∀ c ∈ [')', '$', ']', '-', '\x7b'], spaceChars.mem c = false := by
  unfold Unicode.CharSet.mem Unicode.CharSet.has
  rw [ranges_spaceChars]
  simp only [List.forall_mem_cons, List.not_mem_nil, false_implies, implies_true, and_true]
  decide

/-- Where a sign comes next that is no blank, nothing is skipped. -/
theorem skipped_of_sign {s : Scan} {c : Char} {cs : List Char} (rest : s.rest = c :: cs)
    (sign : c ∈ [')', '$', ']', '-', '\x7b']) : s.skipped = s := by
  have other : c ≠ '#' := by
    rintro rfl
    revert sign
    decide
  have stays : Reader.afterBlanks s.rest s.pos false = (s.rest, s.pos) := by
    simp [Reader.afterBlanks, rest, not_blank c sign, other]
  rw [Scan.skipped, stays]
  exact ite_self s

/-- Nothing but the dollar sign is left after the parenthesis. -/
theorem rest_after_parenthesis {s : Scan} (rest : s.rest = [')', '$']) :
    s.bumped.skipped.rest = ['$'] := by
  have dollar := Scan.rest_bumped rest
  rwa [skipped_of_sign dollar (by decide)]

theorem rest_after_dollar {s : Scan} (rest : s.rest = ['$']) : s.bumped.skipped.rest = [] :=
  Scan.rest_skipped_of_end (Scan.rest_bumped rest)

/-- A comment that the pattern ends with swallows the closing. -/
theorem afterBlanks_closing (cs : List Char) (pos pos' : Position) (inComment : Bool) :
    (Reader.afterBlanks (cs ++ closing) pos' inComment).1 = [] ∨
      (Reader.afterBlanks (cs ++ closing) pos' inComment).1 =
        (Reader.afterBlanks cs pos inComment).1 ++ closing := by
  induction cs generalizing pos pos' inComment with
  | nil =>
    cases inComment
    · right
      simp [Reader.afterBlanks, closing, not_blank ')']
    · left
      simp [Reader.afterBlanks, closing]
  | cons c cs ih =>
    cases inComment
    · simp only [List.cons_append, Reader.afterBlanks]
      split
      · exact ih ..
      split
      · exact ih ..
      · exact .inr rfl
    · exact ih ..

theorem length_afterBlanks_le (cs : List Char) (pos : Position) (inComment : Bool) :
    (Reader.afterBlanks cs pos inComment).1.length ≤ cs.length := by
  fun_induction Reader.afterBlanks cs pos inComment <;> simp_all <;> omega

namespace Inside

variable {n : Nat} {s s' : Scan}

theorem skipped (inside : Inside n s s') :
    s'.skipped.rest = [] ∨ Inside n s.skipped s'.skipped := by
  unfold Scan.skipped
  rw [inside.skipsBlanks, inside.rest]
  split
  · obtain swallowed | rest := afterBlanks_closing s.rest s.pos s'.pos false
    · exact .inl swallowed
    · exact .inr ⟨rest, rfl, inside.names, (length_afterBlanks_le ..).trans inside.short⟩
  · exact .inr inside

theorem named (inside : Inside n s s') (name : String) (span span' : Span) :
    Inside n { s with names := (name, span) :: s.names }
      { s' with names := (name, span') :: s'.names } :=
  ⟨inside.rest, inside.skipsBlanks, congrArg (name :: ·) inside.names, inside.short⟩

theorem switched (inside : Inside n s s') (skipsBlanks : Bool) :
    Inside n { s with skipsBlanks } { s' with skipsBlanks } :=
  ⟨inside.rest, rfl, inside.names, inside.short⟩

/-- The pattern is read to its end, or it goes on with the same character alone and inside. -/
theorem next (inside : Inside n s s') :
    s.rest = [] ∧ s'.rest = [')', '$'] ∨
      ∃ m c cs, n = m + 1 ∧ s.rest = c :: cs ∧ s'.rest = c :: (cs ++ closing) ∧
        Inside m s.bumped s'.bumped := by
  have rest' := inside.rest
  cases rest : s.rest with
  | nil => exact .inl ⟨rfl, by rw [rest', rest]; rfl⟩
  | cons c cs =>
    rw [rest] at rest'
    have short := inside.short
    obtain _ | m := n
    · simp [rest] at short
    refine .inr ⟨m, c, cs, rfl, rfl, rest', ?_⟩
    simp only [Scan.bumped, rest, rest', List.cons_append]
    exact ⟨rfl, inside.skipsBlanks, inside.names, by simpa [rest] using short⟩

theorem bumps {count : Nat} (inside : Inside n s s') (few : count ≤ s.rest.length) :
    Inside (n - count) (Scan.bumped^[count] s) (Scan.bumped^[count] s') := by
  induction count generalizing n s s' with
  | zero => exact inside
  | succ count ih =>
    obtain ⟨none, _⟩ | ⟨m, c, cs, rfl, rest, rest', bumped⟩ := inside.next
    · simp [none] at few
    · rw [Nat.add_sub_add_right]
      refine ih bumped ?_
      rw [Scan.rest_bumped rest]
      simpa [rest] using few

end Inside

/-- A step that must leave some text. At the end of the pattern it finds a fault alone, while inside
    the wrapping the closing is left. -/
theorem Follows.guard {α : Type} {m n : Nat} {Lost : α → Scan → Prop} {Same : α → α → Scan → Prop}
    {s s' : Scan} {f f' : Fault} {alone wrapped : Except Fault (α × Scan)} (inside : Inside m s s')
    (more : s.skipped.rest ≠ [] → Inside m s.skipped s'.skipped → Follows n Lost Same alone wrapped)
    (ended : s'.skipped.rest = [')', '$'] → Loses Lost wrapped) :
    Follows n Lost Same (if s.skipped.rest.isEmpty then .error f else alone)
      (if s'.skipped.rest.isEmpty then .error f' else wrapped) := by
  obtain swallowed | inside := inside.skipped
  · rw [swallowed]
    exact fault
  obtain ⟨rest, rest'⟩ | ⟨_, _, _, rfl, rest, rest', _⟩ := inside.next
  · rw [rest, rest']
    exact .of_loses (ended rest')
  · rw [rest, rest']
    exact more (by simp [rest]) inside

end RecordRules.Pattern
