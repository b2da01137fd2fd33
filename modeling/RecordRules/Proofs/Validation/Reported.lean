/-
  Defects of references, as the check of a store and the validation of records report them. The check
  of a store goes through a document once, resolving a node and using its constraints before it comes
  to the next; validation resolves all nodes of a document first. What the check of a store finds
  first may thus be a constraint that no validation gets to. But if it is a reference, then all nodes
  of its document before it do resolve, and validation stops at the same reference.

  1. `ofConstraint_of_use`: a constraint that cannot be used is a defect of a constraint, and names
     the field.
  2. `firstError_resolve_of_check`: a defect of a reference comes first in its document also where
     nodes are only resolved.
  3. `reference_defect_reported`: all records of that document's type fail with the defect.
-/
import RecordRules.Proofs.Check.Limit
import RecordRules.Proofs.Entries

namespace RecordRules

/-! ## Two kinds of defects -/

/-- A reference leads to no definition, or back to where it came from. -/
inductive Defect.OfReference : Defect → Prop
  | noDefinition (pointer : String) : OfReference (.noDefinition pointer)
  | cycle (keys : List String) : OfReference (.cycle keys)

/-- A constraint of a field cannot be used. -/
inductive Defect.OfConstraint (field : String) : Defect → Prop
  | badPattern (pattern reason : String) : OfConstraint field (.badPattern field pattern reason)
  | badRule (property reason : String) : OfConstraint field (.badRule field property reason)

theorem Defect.OfReference.not_ofConstraint {defect : Defect} (reference : defect.OfReference)
    (field : String) : ¬ defect.OfConstraint field := by
  intro constraint
  cases reference <;> cases constraint

theorem Faulty.ofConstraint {field : String} {c : Constraint} {json : Json} {defect : Defect}
    (faulty : Faulty field c json defect) : defect.OfConstraint field := by
  cases faulty with
  | pattern => exact .badPattern ..
  | length | noText | noArray | decimal => exact .badRule ..

theorem ofConstraint_of_use {n : Node} {field : String} {c : Constraint} {defect : Defect}
    (refused : n.use field c = .error defect) : defect.OfConstraint field := by
  rw [use_eq_limit, map_eq_error_iff, limit_eq_error_iff] at refused
  obtain ⟨_, _, faulty⟩ := refused
  exact faulty.ofConstraint

/-! ## The first defect of a document -/

theorem FieldDefect.resolve_eq_error {definitions : Definitions} {field : String × Node}
    {defect : Defect} (wrong : FieldDefect definitions field defect)
    (reference : defect.OfReference) : field.2.resolve definitions = .error defect := by
  cases wrong with
  | unresolved refused => exact refused
  | unusable _ unusable =>
    obtain ⟨_, _, _, _, _, refused⟩ := unusable
    exact absurd (ofConstraint_of_use refused) (reference.not_ofConstraint _)

theorem FirstDefect.firstError_resolve {definitions : Definitions} {document : Document}
    {defect : Defect} (first : FirstDefect definitions document defect)
    (reference : defect.OfReference) :
    FirstError (fun field => field.2.resolve definitions) document.fields defect := by
  obtain ⟨before, field, after, split, sound, wrong⟩ := first
  refine ⟨before, field, after, split, ?_, wrong.resolve_eq_error reference⟩
  intro earlier listed
  obtain ⟨rules, resolves, _⟩ := sound earlier listed
  exact ⟨rules, resolves⟩

theorem firstError_resolve_of_check {store : Store} {defect : Defect}
    (found : store.check = .error defect) (reference : defect.OfReference) :
    ∃ key document, (key, document) ∈ store.documents ∧
      FirstError (fun field => field.2.resolve store.definitions) document.fields defect := by
  cases store_check_eq_iff_finding.mp found with
  | @defective key document _ listed _ first =>
    exact ⟨key, document, listed, first.firstError_resolve reference⟩

/-! ## Validation -/

theorem validate_of_unresolved {store : Store} {key : String} {document : Document}
    {defect : Defect} (found : store.find? key = some document)
    (first : FirstError (fun field => field.2.resolve store.definitions) document.fields defect)
    (dates : Dates) (record : Record) :
    Validation.validate store dates record key =
      ⟨[Validation.outcomeEntry key (.error (.defect defect))], .error (.defect defect)⟩ := by
  rw [Validation.validate, collect_of_unresolved found first]
  rfl

/-- If the check of a store finds a defect of a reference, there is a record type of which every
    record fails for this defect, with nothing else reported, on whatever day and with whatever
    holidays. The record is not looked at. -/
theorem reference_defect_reported (store : Store) (defect : Defect)
    (found : store.check = .error defect) (reference : defect.OfReference) :
    ∃ key ∈ store.keys, ∀ dates record,
      Validation.validate store dates record key =
        ⟨[Validation.outcomeEntry key (.error (.defect defect))], .error (.defect defect)⟩ := by
  obtain ⟨key, document, listed, unresolved⟩ := firstError_resolve_of_check found reference
  refine ⟨key, List.mem_map_of_mem listed, ?_⟩
  exact validate_of_unresolved (store_find?_eq_some_iff.mpr listed) unresolved

/-- Payments, and refunds with a reference that leads back to itself before a pattern that is no
    text. -/
def cyclicRefunds : Store where
  definitions := selfReferring
  documents := [("payment", ⟨[("currency", ⟨.ofList [("minLength", .nat 3)]⟩)]⟩),
    ("refund", ⟨[("amount", ⟨.ofList [("type", .text "number")]⟩),
      ("memo", ⟨.ofList [("$ref", .text "#/definitions/memo")]⟩),
      ("currency", ⟨.ofList [("pattern", .nat 7)]⟩)]⟩)]
  ascending := by decide

theorem reference_defect_reported_cyclicRefunds :
    cyclicRefunds.check = .error (.cycle ["memo", "memo"]) ∧
      (Defect.cycle ["memo", "memo"]).OfReference ∧
      ∃ key ∈ cyclicRefunds.keys, ∀ dates record,
        Validation.validate cyclicRefunds dates record key =
          ⟨[Validation.outcomeEntry key (.error (.defect (.cycle ["memo", "memo"])))],
            .error (.defect (.cycle ["memo", "memo"]))⟩ := by
  have found : cyclicRefunds.check = .error (.cycle ["memo", "memo"]) := by cbv
  have reference : (Defect.cycle ["memo", "memo"]).OfReference := .cycle _
  exact ⟨found, reference, reference_defect_reported cyclicRefunds _ found reference⟩

end RecordRules
