/-
  Stores without definitions. Where all nodes resolve, each can be replaced by its resolved form, and
  the definitions left out. Nothing is lost: a resolved node refers to nothing, so that it resolves to
  itself, and both the check of a store and validation look at resolved nodes only.

  1. `exists_inlined`: a store in which all nodes resolve can be inlined.
  2. `Inlined.check_eq`: the check of a store finds the same.
  3. `Inlined.collect_eq`: validation collects and logs the same.
  4. `inlining_preserves`: the three together.
-/
import RecordRules.Proofs.Resolution.Inheritance
import RecordRules.Proofs.Store.Findings

namespace RecordRules

/-- `inlined` has the documents of `store`, with each node in its resolved form, and no
    definitions. -/
structure Inlined (store inlined : Store) : Prop where
  definitions : inlined.definitions = .empty
  documents : List.Forall₂
    (fun entry entry' => entry'.1 = entry.1 ∧
      Resolved store.definitions entry.2.fields entry'.2.fields)
    store.documents inlined.documents

/-! ## Stores -/

theorem exists_inlined {store : Store}
    (resolves : ∀ field ∈ store.fields, ∃ rules, field.2.resolve store.definitions = .ok rules) :
    ∃ inlined, Inlined store inlined := by
  have each : ∀ entry ∈ store.documents, ∃ entry' : String × Document, entry'.1 = entry.1 ∧
      Resolved store.definitions entry.2.fields entry'.2.fields := by
    intro entry listed
    obtain ⟨rules, resolved⟩ := exists_resolved fun field there =>
      resolves field (List.mem_flatMap.mpr ⟨entry, listed, there⟩)
    exact ⟨(entry.1, ⟨rules⟩), rfl, resolved⟩
  obtain ⟨documents, same⟩ := exists_forall₂ each
  have keys : store.documents.map Prod.fst = documents.map Prod.fst := by
    rw [← List.forall₂_eq_eq_eq, List.forall₂_map_left_iff, List.forall₂_map_right_iff]
    exact same.imp fun _ _ here => here.1.symm
  have ascending : documents.Pairwise fun a b => a.1 < b.1 := by
    have before := List.pairwise_map.mpr store.ascending
    rw [keys] at before
    exact List.pairwise_map.mp before
  exact ⟨⟨.empty, documents, ascending⟩, rfl, same⟩

/-- A resolved node resolves to itself, also without definitions. -/
theorem resolve_resolved {definitions others : Definitions} {node rules : Node}
    (resolves : node.resolve definitions = .ok rules) : rules.resolve others = .ok rules :=
  resolve_of_no_reference (reference?_of_resolve resolves) others

theorem resolved_again {definitions others : Definitions} {fields rules : List (String × Node)}
    (resolved : Resolved definitions fields rules) : Resolved others rules rules := by
  induction resolved with
  | nil => exact .nil
  | cons here _ ih => exact .cons ⟨rfl, resolve_resolved here.2⟩ ih

namespace Inlined

variable {store inlined : Store}

theorem fields (same : Inlined store inlined) :
    Resolved store.definitions store.fields inlined.fields :=
  List.rel_flatMap same.documents fun _ _ here => here.2

theorem check_eq (same : Inlined store inlined) : inlined.check = store.check := by
  have each : List.Forall₂ (fun field rule => Store.checkField store.definitions field =
      Store.checkField inlined.definitions rule) store.fields inlined.fields := by
    refine same.fields.imp fun field rule ⟨name, resolves⟩ => ?_
    rw [Store.checkField, Store.checkField, name, resolves, resolve_resolved resolves]
  rw [Store.check, Store.check, forM_eq_of_forall₂ each, same.fields.length_eq]

theorem find? (same : Inlined store inlined) (key : String) :
    Option.Rel (fun document document' =>
        Resolved store.definitions document.fields document'.fields)
      (store.find? key) (inlined.find? key) :=
  lookup_forall₂ same.documents key

theorem collect_eq (same : Inlined store inlined) (dates : Dates) (record : Record) (key : String) :
    Validation.collect inlined dates record key = Validation.collect store dates record key := by
  have found := same.find? key
  cases here : store.find? key <;> cases there : inlined.find? key <;> rw [here, there] at found
  case none.none => rw [collect_of_none here, collect_of_none there]
  case some.some document document' =>
    -- both documents come to the same resolved nodes, and these are all that is looked at
    have resolved := Option.rel_some_some.mp found
    rw [collect_of_resolved here resolved, collect_of_resolved there (resolved_again resolved)]
  all_goals cases found

end Inlined

/-- A store in which all nodes resolve can be inlined, and then passes or fails its check as before.
    For every record and record type, on whatever day and with whatever holidays, validation
    collects the same, logs the same, and fails for the same defects. -/
theorem inlining_preserves (store : Store)
    (resolves : ∀ field ∈ store.fields, ∃ rules, field.2.resolve store.definitions = .ok rules) :
    (∃ inlined, Inlined store inlined) ∧
    ∀ inlined, Inlined store inlined →
      inlined.check = store.check ∧
      ∀ dates record recordType,
        Validation.collect inlined dates record recordType =
          Validation.collect store dates record recordType :=
  ⟨exists_inlined resolves, fun _ same => ⟨same.check_eq, same.collect_eq⟩⟩

/-- Loans, whose amount is defined over two references, with a pattern that cannot be used. -/
def loans : Store where
  definitions := amounts
  documents := [("loan", ⟨[("amount", loanAmount), ("purpose", ⟨.ofList [("pattern", .null)]⟩)]⟩)]
  ascending := by decide

/-- Loans without definitions. -/
def plainLoans : Store where
  definitions := .empty
  documents :=
    [("loan", ⟨[("amount", resolvedLoanAmount), ("purpose", ⟨.ofList [("pattern", .null)]⟩)]⟩)]
  ascending := by decide

theorem inlining_preserves_loans :
    (∀ field ∈ loans.fields, ∃ rules, field.2.resolve loans.definitions = .ok rules) ∧
      Inlined loans plainLoans ∧ plainLoans.check = loans.check ∧
      ∀ dates record recordType,
        Validation.collect plainLoans dates record recordType =
          Validation.collect loans dates record recordType := by
  have amount : loanAmount.resolve amounts = .ok resolvedLoanAmount := by cbv
  have purpose : Node.resolve ⟨.ofList [("pattern", .null)]⟩ amounts =
      .ok ⟨.ofList [("pattern", .null)]⟩ := by cbv
  have resolves : ∀ field ∈ loans.fields, ∃ rules,
      field.2.resolve loans.definitions = .ok rules := by
    intro field listed
    rcases List.mem_cons.mp listed with rfl | listed
    · exact ⟨_, amount⟩
    · obtain rfl := List.mem_singleton.mp listed
      exact ⟨_, purpose⟩
  have same : Inlined loans plainLoans :=
    ⟨rfl, .cons ⟨rfl, .cons ⟨rfl, amount⟩ (.cons ⟨rfl, purpose⟩ .nil)⟩ .nil⟩
  exact ⟨resolves, same, (inlining_preserves loans resolves).2 plainLoans same⟩

end RecordRules
