/-
  What the check of a store finds: how many fields there are if all of them are sound, and otherwise
  the first defect of the document with the least key that has one. The documents only count as a
  set here, and not by the order in which the store holds them.

  1. `Node.check_eq_error_iff`: a node fails its check with the defect of its first constraint that
     cannot be used.
  2. `checkField_eq_error_iff`: a field fails for its node's resolution, or for a constraint.
  3. `store_check_eq_iff_finding`: the check of a store in terms of its documents.
-/
import RecordRules.Proofs.Store.Documents
import RecordRules.Proofs.Validation.Checked

namespace RecordRules

open Loading (registerAll)

/-! ## Constraints of a node -/

/-- The constraints that a node can declare. -/
inductive Constraint
  | minLength
  | maxLength
  | pattern
  | allowedValues
  | minValue
  | maxValue
deriving DecidableEq, Repr

/-- All constraints, those of texts before those of numbers. -/
def Constraint.all : List Constraint :=
  [minLength, maxLength, pattern, allowedValues, minValue, maxValue]

/-- Uses a constraint of a node, if it is declared. -/
def Node.use (n : Node) (field : String) : Constraint → Except Defect Unit
  | .minLength => (n.length field "minLength").map fun _ => ()
  | .maxLength => (n.length field "maxLength").map fun _ => ()
  | .pattern => (n.pattern field).map fun _ => ()
  | .allowedValues => (n.allowed field).map fun _ => ()
  | .minValue => (n.decimal field "minValue").map fun _ => ()
  | .maxValue => (n.decimal field "maxValue").map fun _ => ()

theorem map_bind_unit {α β ε : Type} (x : Except ε α) (next : Except ε β) :
    ((x.map fun _ => ()) >>= fun _ => next) = x >>= fun _ => next := by
  cases x <;> rfl

theorem Node.check_eq_forM (n : Node) (field : String) :
    n.check field = Constraint.all.forM (n.use field) := by
  simp only [Constraint.all, List.forM_eq_forM, List.forM_cons, List.forM_nil, Node.use,
    map_bind_unit]
  rfl

theorem Node.check_eq_error_iff {n : Node} {field : String} {defect : Defect} :
    n.check field = .error defect ↔ FirstError (n.use field) Constraint.all defect := by
  rw [Node.check_eq_forM, forM_eq_error_iff]

/-! ## Fields -/

/-- What is wrong with a field: that its node does not resolve, or else the first of the constraints
    that cannot be used. -/
inductive FieldDefect (definitions : Definitions) (field : String × Node) : Defect → Prop
  | unresolved {defect : Defect} :
      field.2.resolve definitions = .error defect →
      FieldDefect definitions field defect
  | unusable {rules : Node} {defect : Defect} :
      field.2.resolve definitions = .ok rules →
      FirstError (rules.use field.1) Constraint.all defect →
      FieldDefect definitions field defect

theorem checkField_eq_error_iff {definitions : Definitions} {field : String × Node}
    {defect : Defect} :
    Store.checkField definitions field = .error defect ↔ FieldDefect definitions field defect := by
  unfold Store.checkField
  simp only [bind_eq_error_iff, Node.check_eq_error_iff]
  constructor
  · rintro (unresolved | ⟨rules, resolves, unusable⟩)
    · exact .unresolved unresolved
    · exact .unusable resolves unusable
  · rintro (unresolved | ⟨resolves, unusable⟩)
    · exact .inl unresolved
    · exact .inr ⟨_, resolves, unusable⟩

theorem exists_checkField_eq_ok_iff {definitions : Definitions} {field : String × Node} :
    (∃ u, Store.checkField definitions field = .ok u) ↔ Sound definitions field := by
  rw [exists_ok_unit_iff, checkField_eq_ok_iff]

/-! ## Documents -/

/-- A document with sound fields only. -/
def SoundDocument (definitions : Definitions) (document : Document) : Prop :=
  ∀ field ∈ document.fields, Sound definitions field

/-- The first defect of a document. -/
def FirstDefect (definitions : Definitions) (document : Document) (defect : Defect) : Prop :=
  ∃ before field after, document.fields = before ++ field :: after ∧
    (∀ earlier ∈ before, Sound definitions earlier) ∧ FieldDefect definitions field defect

theorem forM_checkField_eq_error_iff {definitions : Definitions} {document : Document}
    {defect : Defect} :
    document.fields.forM (Store.checkField definitions) = .error defect ↔
      FirstDefect definitions document defect := by
  rw [forM_eq_error_iff]
  simp only [FirstError, FirstDefect, exists_checkField_eq_ok_iff, checkField_eq_error_iff]

theorem exists_forM_checkField_eq_ok_iff {definitions : Definitions} {document : Document} :
    (∃ u, document.fields.forM (Store.checkField definitions) = .ok u) ↔
      SoundDocument definitions document := by
  rw [exists_ok_unit_iff, forM_eq_ok_iff]
  simp only [SoundDocument, checkField_eq_ok_iff]

/-! ## Stores -/

/-- What is found in documents: the number of their fields, if all of them are sound, and otherwise
    the first defect of the document with the least key that has one. -/
inductive Finding (definitions : Definitions) (documents : List (String × Document)) :
    Except Defect Nat → Prop
  | sound :
      (∀ entry ∈ documents, SoundDocument definitions entry.2) →
      Finding definitions documents (.ok (documents.map fun entry => entry.2.size).sum)
  | defective {key : String} {document : Document} {defect : Defect} :
      (key, document) ∈ documents →
      (∀ entry ∈ documents, entry.1 < key → SoundDocument definitions entry.2) →
      FirstDefect definitions document defect →
      Finding definitions documents (.error defect)

theorem length_fields (store : Store) :
    store.fields.length = (store.documents.map fun entry => entry.2.size).sum :=
  List.length_flatMap

theorem store_check_eq_error_iff {store : Store} {defect : Defect} :
    store.check = .error defect ↔
      FirstError (fun entry => entry.2.fields.forM (Store.checkField store.definitions))
        store.documents defect := by
  rw [← forM_eq_error_iff, ← forM_flatMap, Store.check, bind_eq_error_iff]
  constructor
  · rintro (refused | ⟨_, _, impossible⟩)
    · exact refused
    · cases impossible
  · exact .inl

theorem firstError_documents_iff {definitions : Definitions}
    {documents : List (String × Document)} {defect : Defect}
    (ascending : documents.Pairwise fun a b => a.1 < b.1) :
    FirstError (fun entry => entry.2.fields.forM (Store.checkField definitions)) documents defect ↔
      Finding definitions documents (.error defect) := by
  simp only [FirstError, exists_forM_checkField_eq_ok_iff, forM_checkField_eq_error_iff]
  constructor
  · rintro ⟨before, ⟨key, document⟩, after, rfl, sound, first⟩
    refine .defective List.mem_append_cons_self ?_ first
    intro entry listed less
    exact sound entry ((mem_before_iff_lt ascending listed).mpr less)
  · rintro (_ | @⟨key, document, _, listed, sound, first⟩)
    obtain ⟨before, after, rfl⟩ := List.append_of_mem listed
    refine ⟨before, (key, document), after, rfl, ?_, first⟩
    intro entry earlier
    have listed' : entry ∈ before ++ (key, document) :: after := List.mem_append_left _ earlier
    exact sound entry listed' ((mem_before_iff_lt ascending listed').mp earlier)

theorem store_check_eq_iff_finding {store : Store} {result : Except Defect Nat} :
    store.check = result ↔ Finding store.definitions store.documents result := by
  cases result with
  | error defect => rw [store_check_eq_error_iff, firstError_documents_iff store.ascending]
  | ok count =>
    have all : (∀ field ∈ store.fields, Sound store.definitions field) ↔
        ∀ entry ∈ store.documents, SoundDocument store.definitions entry.2 := by
      unfold Store.fields
      exact List.forall_mem_flatMap
    rw [store_check_eq_ok_iff]
    constructor
    · rintro ⟨rfl, sound⟩
      rw [length_fields]
      exact .sound (all.mp sound)
    · rintro (sound | _)
      exact ⟨(length_fields store).symm, all.mpr sound⟩

/-! ## Documents in any order -/

theorem Finding.perm {definitions : Definitions} {documents others : List (String × Document)}
    {result : Except Defect Nat} (same : documents.Perm others)
    (found : Finding definitions documents result) : Finding definitions others result := by
  cases found with
  | sound each =>
    rw [(same.map fun entry => entry.2.size).sum_nat]
    refine .sound fun entry listed => ?_
    exact each entry (same.mem_iff.mpr listed)
  | defective listed least first =>
    refine .defective (same.mem_iff.mp listed) (fun entry there => ?_) first
    exact least entry (same.mem_iff.mpr there)

/-- Documents under distinct keys are all taken, in whatever order they are registered, and the check
    of the store always has the same result: the one that is found in the documents. -/
theorem check_registered_in_any_order (definitions : Definitions) (documents : Entries Document) :
    ∃ result, (∀ found, Finding definitions documents.list found ↔ found = result) ∧
      ∀ order : List (String × Document), order.Perm documents.list →
        ∃ store, registerAll (.new definitions) order = .ok store ∧ store.check = result := by
  have registered (order : List (String × Document)) (same : order.Perm documents.list) :
      ∃ store, registerAll (.new definitions) order = .ok store ∧
        ∀ found, store.check = found ↔ Finding definitions documents.list found := by
    have distinct : (order.map Prod.fst).Nodup :=
      (same.map Prod.fst).nodup_iff.mpr documents.distinct
    obtain ⟨store, all, rfl, holds⟩ := registerAll_new distinct definitions
    refine ⟨store, all, fun found => ?_⟩
    rw [store_check_eq_iff_finding]
    exact ⟨.perm (holds.trans same), .perm (holds.trans same).symm⟩
  obtain ⟨store, _, finds⟩ := registered documents.list (.refl _)
  refine ⟨store.check, fun found => ?_, fun order same => ?_⟩
  · rw [← finds, eq_comm]
  · obtain ⟨other, all, finds'⟩ := registered order same
    exact ⟨other, all, (finds' _).mpr ((finds _).mp rfl)⟩

/-- A definition that refers to itself. -/
def selfReferring : Definitions where
  nodes := .ofList [("memo", ⟨.ofList [("$ref", .text "memo")]⟩)]

/-- Rules for payments, with a length that is negative and a pattern that is no text. -/
def faultyPayment : Document where
  fields := [("currency", ⟨.ofList [("minLength", .nat 3)]⟩),
    ("reference", ⟨.ofList [("pattern", .nat 7), ("maxLength", .number ⟨true, .ofNat 1, none, none⟩)]⟩)]

/-- Rules for refunds, with a reference that leads back to itself. -/
def cyclicRefund : Document where
  fields := [("memo", ⟨.ofList [("$ref", .text "#/definitions/memo")]⟩)]

/-- Rules for refunds and payments, with defects of different kinds. -/
def faultyRules : Entries Document where
  list := [("refund", cyclicRefund), ("payment", faultyPayment)]
  distinct := by decide

/-- The store that holds them. -/
def faultyStore : Store where
  definitions := selfReferring
  documents := [("payment", faultyPayment), ("refund", cyclicRefund)]
  ascending := by decide

theorem check_registered_in_any_order_faultyRules :
    [("payment", faultyPayment), ("refund", cyclicRefund)].Perm faultyRules.list ∧
      (∃ store, registerAll (.new selfReferring) faultyRules.list = .ok store ∧
        store.check = .error (.badRule "reference" "maxLength" "not a length: -1")) ∧
      ∃ store, registerAll (.new selfReferring)
          [("payment", faultyPayment), ("refund", cyclicRefund)] = .ok store ∧
        store.check = .error (.badRule "reference" "maxLength" "not a length: -1") := by
  have swapped : [("payment", faultyPayment), ("refund", cyclicRefund)].Perm faultyRules.list :=
    .swap ("refund", cyclicRefund) ("payment", faultyPayment) []
  have checked : faultyStore.check =
      .error (.badRule "reference" "maxLength" "not a length: -1") := by cbv
  obtain ⟨result, found, any⟩ := check_registered_in_any_order selfReferring faultyRules
  obtain rfl : _ = result := (found _).mp ((store_check_eq_iff_finding.mp checked).perm swapped)
  exact ⟨swapped, any faultyRules.list (.refl _), any _ swapped⟩

end RecordRules
