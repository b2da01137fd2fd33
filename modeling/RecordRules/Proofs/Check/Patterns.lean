/-
  Patterns of fields for texts. The pattern of a rule has to fit the whole of a text, from its first
  to its last character. The one exception is a pattern that cannot be read by itself, because it
  has a parenthesis too many, and still compiles: that parenthesis closes the group the pattern is
  wrapped in, and the branches around it are tied to one end of the text only.

  1. `pattern_eq_some_iff`: the pattern of a rule is compiled from its text.
  2. `accepts_of_string`: a text that passes is one that the pattern accepts.
  3. `fits_whole_or_unopened`: what the pattern of a rule accepts.
-/
import RecordRules.Proofs.Check.Limit
import RecordRules.Proofs.Pattern.Whole

namespace RecordRules

theorem pattern_eq_some_iff {rules : Node} {field : String} {p : Pattern} :
    rules.pattern field = .ok (some p) ↔
      ∃ text, rules.find? "pattern" = some (.text text) ∧ Pattern.compile text = .ok p := by
  rw [pattern_eq_declared, Node.declared]
  cases rules.find? "pattern" with
  | none => simp
  | some json => simp [map_eq_ok_iff, readPattern_eq_ok_iff]

/-- A text without violations is accepted by the pattern of its rule. -/
theorem accepts_of_string {rules : Node} {field shown text : String} {p : Pattern}
    (declared : rules.pattern field = .ok (some p))
    (passes : Check.Subject.string ⟨field, shown, rules⟩ (.text text) = .ok []) :
    p.accepts text = true := by
  obtain ⟨least, _, after_least⟩ := bind_eq_ok_iff.mp passes
  obtain ⟨greatest, _, after_greatest⟩ := bind_eq_ok_iff.mp after_least
  obtain ⟨pattern, found, after_pattern⟩ := bind_eq_ok_iff.mp after_greatest
  obtain ⟨allowed, _, none⟩ := bind_eq_ok_iff.mp after_pattern
  obtain rfl : pattern = some p := Except.ok.inj (found.symm.trans declared)
  have no_violation : Check.Subject.pattern ⟨field, shown, rules⟩ text (some p) = [] := by
    have none := Except.ok.inj none
    simp only [List.append_eq_nil_iff] at none
    exact none.1.2
  by_contra refused
  simp [Check.Subject.pattern, refused] at no_violation

/-- The pattern of a rule is an expression by itself, and accepts the texts that its expression
    covers from the first to the last character; no text passes because a part of it fits. Otherwise
    the pattern is none by itself, as it has a parenthesis too many. -/
theorem fits_whole_or_unopened {rules : Node} {field : String} {p : Pattern}
    (declared : rules.pattern field = .ok (some p)) :
    rules.find? "pattern" = some (.text p.text) ∧
    ((∃ e, Pattern.Matcher.ofText p.text = .ok e ∧ ∀ text : String,
        (p.accepts text = true ↔ e.Covers text.toList 0 text.toList.length) ∧
        ∀ shown, Check.Subject.string ⟨field, shown, rules⟩ (.text text) = .ok [] →
          e.Covers text.toList 0 text.toList.length) ∨
      ∃ span, Pattern.Matcher.ofText p.text =
        .error (.fault p.text { kind := .groupUnopened, span })) := by
  obtain ⟨text, there, compiled⟩ := pattern_eq_some_iff.mp declared
  obtain rfl : p.text = text := by
    obtain ⟨_, _, rfl⟩ := map_eq_ok_iff.mp compiled
    rfl
  refine ⟨there, (Pattern.compile_whole_or_unopened compiled).imp ?_ id⟩
  rintro ⟨e, alone, covers⟩
  refine ⟨e, alone, fun text => ⟨covers text, fun shown passes => ?_⟩⟩
  exact (covers text).mp (accepts_of_string declared passes)

theorem exists_pattern_of_any {found : Except Defect (Option Pattern)} {fits : Pattern → Bool}
    (any : found.toOption.join.any fits = true) :
    ∃ p, found = .ok (some p) ∧ fits p = true := by
  match found with
  | .ok (some p) => exact ⟨p, rfl, any⟩
  | .ok none | .error _ => cases any

/-- A region: a code of two letters, or a number. -/
def regionNode : Node := ⟨.ofList [("pattern", .text "[A-Z][A-Z]|[0-9]+")]⟩

theorem fits_whole_or_unopened_regionNode :
    ∃ p, regionNode.pattern "region" = .ok (some p) ∧
      p.accepts "7" = true ∧ p.accepts "EU7" = false ∧
      ∃ e, Pattern.Matcher.ofText "[A-Z][A-Z]|[0-9]+" = .ok e ∧
        ∀ text : String, p.accepts text = true ↔ e.Covers text.toList 0 text.toList.length := by
  obtain ⟨p, declared, fits⟩ := exists_pattern_of_any
    (show (regionNode.pattern "region").toOption.join.any
      (fun p => p.accepts "7" && !p.accepts "EU7") = true by cbv)
  simp only [Bool.and_eq_true, Bool.not_eq_true'] at fits
  have readable : (Pattern.Matcher.ofText "[A-Z][A-Z]|[0-9]+").toOption.isSome = true := by cbv
  obtain ⟨same, whole⟩ := fits_whole_or_unopened declared
  have written : p.text = "[A-Z][A-Z]|[0-9]+" :=
    Json.text.inj (Option.some.inj (same.symm.trans (by rfl)))
  rw [written] at whole
  obtain ⟨e, alone, covers⟩ | ⟨span, unopened⟩ := whole
  · exact ⟨p, declared, fits.1, fits.2, e, alone, fun text => (covers text).1⟩
  · rw [unopened] at readable
    cases readable

/-- A pattern with a parenthesis too many is refused by itself and accepted as that of a rule. Then
    a text passes because of its first character. -/
theorem strayParenthesis_fits_part :
    ∃ p, Node.pattern ⟨.ofList [("pattern", .text "a)|(b")]⟩ "code" = .ok (some p) ∧
      p.accepts "ax" = true ∧ p.accepts "xa" = false ∧
      Pattern.Matcher.ofText "a)|(b" =
        .error (.fault "a)|(b" { kind := .groupUnopened, span := ⟨⟨1, 2⟩, ⟨1, 3⟩⟩ }) := by
  obtain ⟨p, declared, fits⟩ := exists_pattern_of_any
    (show (Node.pattern ⟨.ofList [("pattern", .text "a)|(b")]⟩ "code").toOption.join.any
      (fun p => p.accepts "ax" && !p.accepts "xa") = true by cbv)
  simp only [Bool.and_eq_true, Bool.not_eq_true'] at fits
  exact ⟨p, declared, fits.1, fits.2, by cbv⟩

end RecordRules
