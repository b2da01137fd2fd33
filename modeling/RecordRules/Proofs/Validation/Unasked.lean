/-
  Definitions that nobody asks for. Validation resolves the nodes of one document and looks at the
  definitions for nothing else. So it comes out the same for every record, log included, whatever is
  defined under keys that no node of the document asks for.

  1. `collect_of_same_resolution`: validation depends on what the document's nodes resolve to.
  2. `only_asked_definitions_matter`: resolution and validation after changes that nobody asks for,
     and after definitions are added.
-/
import RecordRules.Proofs.Resolution.Reach
import RecordRules.Proofs.Validation.Inlined

namespace RecordRules

section

variable {store changed : Store} {recordType : String} {document : Document}

theorem resolved_congr (same : ∀ field ∈ document.fields,
      field.2.resolve changed.definitions = field.2.resolve store.definitions) :
    Validation.resolved changed document = Validation.resolved store document := by
  rw [resolved_eq, resolved_eq]
  refine mapM_congr fun field listed => ?_
  rw [same field listed]

theorem collect_of_same_resolution (found : store.find? recordType = some document)
    (found' : changed.find? recordType = some document)
    (same : ∀ field ∈ document.fields,
      field.2.resolve changed.definitions = field.2.resolve store.definitions)
    (dates : Dates) (record : Record) :
    Validation.collect changed dates record recordType =
      Validation.collect store dates record recordType := by
  have resolved := resolved_congr same
  simp only [Validation.collect, Store.document, found, found', bind, Except.bind, resolved]

end

/-- What is not asked for does not matter. Collections of definitions that agree on the keys asked for
    from a node resolve it alike, to the same node or for the same defect. Setting a definition that
    no node of a document asks for leaves validation against the document as it is, for every record.
    And definitions under new keys never undo what resolves. -/
theorem only_asked_definitions_matter :
    (∀ (definitions others : Definitions) (node : Node),
      (∀ key, AsksFor definitions node key → others.find? key = definitions.find? key) →
        node.resolve others = node.resolve definitions) ∧
    (∀ (store : Store) recordType document key base,
      store.find? recordType = some document →
      (∀ field ∈ document.fields, ¬ AsksFor store.definitions field.2 key) →
      ∀ dates record,
        Validation.validate { store with definitions := store.definitions.insert key base }
            dates record recordType =
          Validation.validate store dates record recordType) ∧
    ∀ (definitions others : Definitions) (node resolved : Node), others.Extends definitions →
      node.resolve definitions = .ok resolved → node.resolve others = .ok resolved := by
  refine ⟨fun _ _ _ agree => resolve_eq_of_agree agree, ?_,
    fun _ _ _ _ more succeeds => resolve_of_extends more succeeds⟩
  intro store recordType document key base found unasked dates record
  have same : ∀ field ∈ document.fields, field.2.resolve (store.definitions.insert key base) =
      field.2.resolve store.definitions := fun field listed =>
    resolve_insert_of_unasked (unasked field listed) base
  let changed : Store := { store with definitions := store.definitions.insert key base }
  have found' : changed.find? recordType = some document := found
  have collected : Validation.collect changed dates record recordType =
      Validation.collect store dates record recordType :=
    collect_of_same_resolution found found' same dates record
  rw [Validation.validate, Validation.validate, collected]

/-- A rate, which no node of `loans` asks for. -/
def rate : Node := ⟨.ofList [("type", .text "number"), ("maxValue", .nat 1)]⟩

theorem not_asksFor_rate : ¬ AsksFor amounts loanAmount "rate" := by
  intro asks
  have first : loanAmount.target? = some "largeAmount" := by cbv
  have large : amounts.find? "largeAmount" = some ⟨.ofList
      [("maxValue", .nat 90), ("$ref", .text "amount"), ("minValue", .nat 7)]⟩ := by cbv
  have second : Node.target? ⟨.ofList [("maxValue", .nat 90), ("$ref", .text "amount"),
      ("minValue", .nat 7)]⟩ = some "amount" := by cbv
  have plain : amounts.find? "amount" =
      some ⟨.ofList [("type", .text "number"), ("minValue", .nat 1)]⟩ := by cbv
  have final : Node.target? ⟨.ofList [("type", .text "number"), ("minValue", .nat 1)]⟩ = none := by
    cbv
  rcases asks.eq_or_later first large with same | further
  · exact absurd same (by decide)
  · rcases further.eq_or_later second plain with same | further
    · exact absurd same (by decide)
    · exact absurd further (not_asksFor_of_final final)

theorem only_asked_definitions_matter_loans :
    (∀ key, AsksFor amounts loanAmount key →
      (amounts.insert "rate" rate).find? key = amounts.find? key) ∧
    loanAmount.resolve (amounts.insert "rate" rate) = loanAmount.resolve amounts ∧
    (∃ document, loans.find? "loan" = some document ∧
      ∀ field ∈ document.fields, ¬ AsksFor loans.definitions field.2 "rate") ∧
    (∀ dates record,
      Validation.validate { loans with definitions := amounts.insert "rate" rate }
          dates record "loan" =
        Validation.validate loans dates record "loan") ∧
    (amounts.insert "rate" rate).Extends amounts ∧
    loanAmount.resolve amounts = .ok resolvedLoanAmount ∧
    loanAmount.resolve (amounts.insert "rate" rate) = .ok resolvedLoanAmount := by
  have absent : amounts.find? "rate" = none := by decide
  have agree : ∀ key, AsksFor amounts loanAmount key →
      (amounts.insert "rate" rate).find? key = amounts.find? key := by
    intro key asks
    have other : key ≠ "rate" := fun same => not_asksFor_rate (same ▸ asks)
    rw [Definitions.find?_insert, if_neg other]
  have found : loans.find? "loan" =
      some ⟨[("amount", loanAmount), ("purpose", ⟨.ofList [("pattern", .null)]⟩)]⟩ := by rfl
  have unasked : ∀ field ∈ [("amount", loanAmount), ("purpose", ⟨.ofList [("pattern", .null)]⟩)],
      ¬ AsksFor loans.definitions field.2 "rate" := by
    intro field listed asks
    rcases List.mem_cons.mp listed with rfl | listed
    · exact not_asksFor_rate asks
    · obtain rfl := List.mem_singleton.mp listed
      exact not_asksFor_of_final (by cbv) asks
  have more := extends_insert absent rate
  have succeeds : loanAmount.resolve amounts = .ok resolvedLoanAmount := by cbv
  obtain ⟨resolution, validation, extension⟩ := only_asked_definitions_matter
  exact ⟨agree, resolution _ _ _ agree, ⟨_, found, unasked⟩,
    validation loans "loan" _ "rate" rate found unasked, more, succeeds,
    extension _ _ _ _ more succeeds⟩

end RecordRules
