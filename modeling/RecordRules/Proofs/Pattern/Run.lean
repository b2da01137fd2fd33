/-
  What readers do to where they stand, step by step, so that a run of a reader can be worked out
  from the text. The escapes are cut into smaller readers.
-/
import Mathlib.Logic.Function.Iterate
import RecordRules.Pattern.Reader

namespace RecordRules.Pattern

/-! ## Steps -/

/-- Where a reader stands after a character. -/
def Scan.bumped (s : Scan) : Scan :=
  match s.rest with
  | [] => s
  | c :: cs => { s with rest := cs, pos := s.pos.next c }

/-- Where a reader stands after blanks and comments. -/
def Scan.skipped (s : Scan) : Scan :=
  if s.skipsBlanks then
    { s with rest := (Reader.afterBlanks s.rest s.pos false).1
             pos := (Reader.afterBlanks s.rest s.pos false).2 }
  else s

/-- The span of the next character. -/
def Scan.charSpan (s : Scan) : Span :=
  match s.rest with
  | [] => .point s.pos
  | c :: _ => ⟨s.pos, s.pos.next c⟩

theorem Scan.rest_bumped {s : Scan} {c : Char} {cs : List Char} (rest : s.rest = c :: cs) :
    s.bumped.rest = cs := by
  simp [bumped, rest]

theorem Scan.rest_skipped_of_end {s : Scan} (there : s.rest = []) : s.skipped.rest = [] := by
  unfold skipped
  split
  · rw [there]
    rfl
  · exact there

namespace Reader

section

variable {α β : Type} (s : Scan)

@[simp]
theorem run_pure (a : α) : (pure a : Reader α) s = .ok (a, s) := rfl

@[simp]
theorem run_fail (kind : FaultKind) (span : Span) :
    (fail kind span : Reader α) s = .error { kind, span } := rfl

@[simp]
theorem run_map (φ : α → β) (f : Reader α) : (φ <$> f) s = (f s).map (Prod.map φ id) := by
  change (f s >>= fun result => pure (φ result.1, result.2)) = _
  cases f s <;> rfl

@[simp]
theorem run_ite (p : Prop) [Decidable p] (f g : Reader α) :
    (if p then f else g) s = if p then f s else g s := apply_ite (fun h : Reader α => h s) p f g

@[simp]
theorem bind_fail (kind : FaultKind) (span : Span) (g : α → Reader β) :
    (fail kind span >>= g) = fail kind span := rfl

@[simp]
theorem bind_throw (f : Fault) (g : α → Reader β) : (throw f >>= g) = throw f := rfl

@[simp]
theorem bind_place (g : Position → Reader β) : (place >>= g) s = g s.pos s := rfl

@[simp]
theorem bind_charSpan (g : Span → Reader β) : (Reader.charSpan >>= g) s = g s.charSpan s := rfl

@[simp]
theorem bind_peek? (g : Option Char → Reader β) : (peek? >>= g) s = g s.rest.head? s := rfl

@[simp]
theorem bind_atEnd (g : Bool → Reader β) : (atEnd >>= g) s = g s.rest.isEmpty s := rfl

@[simp]
theorem bind_get (g : Scan → Reader β) : (get >>= g) s = g s s := rfl

@[simp]
theorem bind_set (t : Scan) (g : PUnit → Reader β) : (set t >>= g) s = g ⟨⟩ t := rfl

@[simp]
theorem bind_modify (step : Scan → Scan) (g : PUnit → Reader β) :
    (modify step >>= g) s = g ⟨⟩ (step s) := rfl

@[simp]
theorem run_bump : bump s = .ok ((), s.bumped) := rfl

@[simp]
theorem bind_bump (g : Unit → Reader β) : (bump >>= g) s = g () s.bumped := rfl

@[simp]
theorem bind_skipBlanks (g : Unit → Reader β) : (skipBlanks >>= g) s = g () s.skipped := rfl

@[simp]
theorem bind_advance (g : Bool → Reader β) :
    (advance >>= g) s = g (!s.bumped.skipped.rest.isEmpty) s.bumped.skipped := rfl

theorem bind_lift (e : Except Fault α) (g : α → Reader β) :
    ((liftM e : Reader α) >>= g) s = e.bind fun a => g a s := by
  cases e <;> rfl

/-- A reader goes on from what another one gives. -/
theorem bind_ok {f : Reader α} {g : α → Reader β} {s t : Scan} {a : α} (run : f s = .ok (a, t)) :
    (f >>= g) s = g a t := by
  change (f s >>= fun result => g result.1 result.2) = _
  rw [run]
  rfl

/-- A fault of a reader is the fault of all that begins with it. -/
theorem bind_error {f : Reader α} {g : α → Reader β} {s : Scan} {fault : Fault}
    (run : f s = .error fault) : (f >>= g) s = .error fault := by
  change (f s >>= fun result => g result.1 result.2) = _
  rw [run]
  rfl

theorem run_bumps (word : List α) (s : Scan) :
    (word.forM fun _ => bump : Reader PUnit) s = .ok ((), Scan.bumped^[word.length] s) := by
  induction word generalizing s with
  | nil => rfl
  | cons _ word ih => exact ih s.bumped

end

/-! ## Escapes -/

theorem then_congr {α β : Type} {f : Reader α} {g g' : α → Reader β} (same : ∀ a, g a = g' a) :
    (f >>= g) = (f >>= g') :=
  congrArg (f >>= ·) (funext same)

/-- What a sign after a backslash stands for by itself, if it is not the one of a boundary. -/
def signTree? (span : Span) (c : Char) : Option Tree :=
  if isEscapable c then some (.literal { span, char := c })
  else match c with
    | 'd' | 'D' => some (.short span .digit c.isUpper)
    | 's' | 'S' => some (.short span .space c.isUpper)
    | 'w' | 'W' => some (.short span .word c.isUpper)
    | 'a' => some (.literal { span, char := '\x07' })
    | 'f' => some (.literal { span, char := '\x0c' })
    | 't' => some (.literal { span, char := '\t' })
    | 'n' => some (.literal { span, char := '\n' })
    | 'r' => some (.literal { span, char := '\r' })
    | 'v' => some (.literal { span, char := '\x0b' })
    | 'A' => some (.anchor span .startText)
    | 'z' => some (.anchor span .endText)
    | 'B' => some (.anchor span .notWordBoundary)
    | '<' => some (.anchor span .wordStart)
    | '>' => some (.anchor span .wordEnd)
    | _ => none

/-- Reads the name of a boundary after `\b`, if there is one. -/
def boundaryEscape (start : Position) (span : Span) : Reader Tree := do
  if (← peek?) = some '\x7b' then
    match ← namedBoundary? start with
    | some kind => return .anchor ⟨start, ← place⟩ kind
    | none => return .anchor span .wordBoundary
  else return .anchor span .wordBoundary

/-- Reads the sign after a backslash at `start`, if it is not one that more text has to follow. -/
def signEscape (start : Position) (c : Char) : Reader Tree := do
  bump
  let span := Span.mk start (← place)
  if c = 'b' then boundaryEscape start span
  else match signTree? span c with
    | some tree => return tree
    | none => fail .escapeUnrecognized span

theorem escape_eq :
    escape = (do
      let start ← place
      bump
      match ← peek? with
      | none => fail .escapeUnexpectedEnd ⟨start, ← place⟩
      | some c =>
        if c.isDigit then fail .unsupportedBackreference ⟨start, (← charSpan).stop⟩
        match c with
        | 'x' => return .literal (← hexEscape start 2)
        | 'u' => return .literal (← hexEscape start 4)
        | 'U' => return .literal (← hexEscape start 8)
        | 'p' | 'P' =>
          let query ← propertyEscape
          return .property ⟨start, ← place⟩ query (c = 'P')
        | _ => signEscape start c) := by
  unfold escape
  refine then_congr fun start => ?_
  refine then_congr fun _ => ?_
  refine then_congr fun next => ?_
  cases next with
  | none => rfl
  | some c =>
    dsimp only
    split
    · exact then_congr fun _ => rfl
    split <;> try rfl
    simp only [signEscape]
    refine then_congr fun _ => ?_
    refine then_congr fun stop => ?_
    by_cases escapable : isEscapable c = true
    · have other : c ≠ 'b' := by
        rintro rfl
        revert escapable
        decide
      simp only [if_neg other, signTree?, if_pos escapable]
    · simp only [signTree?, if_neg escapable]
      split <;> try rfl
      simp only [if_neg ‹c = 'b' → False›]

end Reader

end RecordRules.Pattern
