/-
  What a check tells about the validations over the same files. If a check cannot begin, no
  validation can, and all of them fail alike. If a check passes, it lists the record types for which
  there are rules, and no validation can fail for a defect of the rules, but for a record type that
  is not listed.

  1. `catalogue_of_load`: the files whose documents are in a store.
  2. `collected_of_listed`, `collected_of_other`: what is collected over a store that passes its
     check.
  3. `foretold_of_check`: how validations over such a store end.
  4. `check_foretells_validation`: what a check tells about validations.
-/
import RecordRules.Proofs.Command.Begun
import RecordRules.Proofs.Loading.Loaded
import RecordRules.Proofs.Store.History

namespace RecordRules.Command

open Loading (isDocument readDocument registerAll)

/-- The documents of a directory in ascending order of their keys, which are the stems of their
    files. -/
structure Catalogue (disk : Disk) (directory : Path) (documents : List (String × Document)) :
    Prop where
  ascending : (documents.map Prod.fst).Pairwise (· < ·)
  held : ∃ names files, Listed disk directory names ∧ files.Perm (names.filter isDocument) ∧
    List.Forall₂ (HoldsDocument disk directory) files documents

/-- How a validation can end if rules that passed a check have these record types. -/
structure Foretold (types : List String) (recordType : String) (r : Run) : Prop where
  listed : recordType ∈ types →
    r.result = .ok () ∨ FailsWith r "CLI_VALIDATION_FAILED" ∨ FailsWith r "CLI_IO_ERROR"
  other : recordType ∉ types →
    FailsWith r "CLI_IO_ERROR" ∨ r.result = .error (.rules (.noDocument recordType))

/-! ## Files -/

/-- Lists that match item by item still match if one is reordered and the other along with it. -/
theorem exists_perm_forall₂ {α β : Type} {R : α → β → Prop} {as : List α} {bs reordered : List β}
    (related : List.Forall₂ R as bs) (same : reordered.Perm bs) :
    ∃ as' : List α, as'.Perm as ∧ List.Forall₂ R as' reordered := by
  obtain ⟨as', related', same'⟩ := List.perm_comp_forall₂ same related.flip
  exact ⟨as', same', related'.flip⟩

/-- What is in a store that is loaded are the definitions and the documents of the files. -/
theorem catalogue_of_load {disk : Disk} {layout : Layout} {store : Store}
    (loaded : (Loading.load disk layout).result = .ok store) :
    HoldsDefinitions disk layout.definitions store.definitions ∧
      Catalogue disk layout.documents store.documents := by
  rw [load_result] at loaded
  obtain ⟨definitions, defined, loaded⟩ := bind_eq_ok_iff.mp loaded
  obtain ⟨_, named, loaded⟩ := bind_eq_ok_iff.mp loaded
  obtain ⟨entries, read, all⟩ := bind_eq_ok_iff.mp loaded
  obtain ⟨names, listed, rfl⟩ := documentNames_eq_ok_iff.mp named
  obtain ⟨same, holds⟩ := registerAll_perm all
  have held : List.Forall₂ (HoldsDocument disk layout.documents)
      ((names.filter isDocument).mergeSort Path.le) entries := by
    simpa only [mapM_eq_ok_iff, readDocument_eq_ok_iff] using read
  have taken : store.documents.Perm entries := holds.trans (.of_eq (List.append_nil entries))
  obtain ⟨files, reordered, held'⟩ := exists_perm_forall₂ held taken
  refine ⟨?_, ascending_keys store, names, files, listed, ?_, held'⟩
  · rw [same]
    exact definitions_eq_ok_iff.mp defined
  · exact reordered.trans (List.mergeSort_perm _ Path.le)

/-! ## Checks -/

section

variable {disk : Disk} {config recordType : String} {b : Boot} {store : Store}

theorem check_result (stored : b.store = .ok store) :
    (check b).result = (store.check.map fun _ => ()).mapError .rules := by
  cases checked : store.check <;> simp only [check, Boot.run, stored, checked] <;> rfl

theorem check_response {count : Nat} (stored : b.store = .ok store)
    (checked : store.check = .ok count) :
    (check b).response = some (okResponse (checkData store count)) := by
  simp only [check, Boot.run, stored, checked]

theorem readable_checkData {depth : Nat} (store : Store) (count : Nat) :
    Readable (depth + 3) (checkData store count) := by
  have types : Readable (depth + 2) (.array (store.keys.map .text)) := by
    refine .array fun item listed => ?_
    obtain ⟨key, _, rfl⟩ := List.mem_map.mp listed
    exact .text key
  refine .object (by simp) ?_
  simpa using ⟨types, .number (Numeral.wellFormed_ofNat _), .number (Numeral.wellFormed_ofNat _)⟩

/-! ## Validations after a check -/

variable {dates : Dates} {record : Record} {result : Except Defect (List Violation)}

theorem collected_of_listed {count : Nat} (checked : store.check = .ok count)
    (listed : recordType ∈ store.keys)
    (collected : Collected store dates record recordType result) :
    ∃ violations, result = .ok violations := by
  have registered : store.contains recordType = true :=
    Option.isSome_iff_ne_none.mpr (mem_keys_iff.mp listed)
  rw [← collected.collect_eq]
  exact collect_of_check checked dates record registered

theorem collected_of_other (other : recordType ∉ store.keys)
    (collected : Collected store dates record recordType result) :
    result = .error (.noDocument recordType) := by
  rw [← collected.collect_eq, collect_of_none (store_find?_eq_none_iff.mpr other)]

/-- Over a store that passes its check, a validation ends as is foretold. -/
theorem foretold_of_check {count : Nat} (booted : boot disk config = .ok b)
    (stored : b.store = .ok store) (checked : store.check = .ok count) (today : Date)
    (input : List UInt8) (recordType : String) (shape : Shape) :
    Foretold store.keys recordType (run disk today input (.validate config recordType shape)) := by
  have ended := ended_run disk today input config recordType shape
  generalize run disk today input (.validate config recordType shape) = r at ended
  generalize r.response = response at ended
  generalize reached : r.result = result at ended
  have same {b' : Boot} {store' : Store} {record : Record}
      (prepared : Prepared disk input config recordType shape b' store' record) :
      store' = store := by
    cases booted.symm.trans prepared.booted
    cases stored.symm.trans prepared.stored
    rfl
  cases ended with
  | noConfig failed => cases booted.symm.trans failed
  | noRules booted' failed =>
    cases booted.symm.trans booted'
    cases stored.symm.trans failed
  | noRecord =>
    have unread : FailsWith r "CLI_IO_ERROR" := ⟨_, reached, rfl⟩
    exact ⟨fun _ => .inr (.inr unread), fun _ => .inl unread⟩
  | passed prepared collected =>
    cases same prepared
    refine ⟨fun _ => .inl reached, fun other => ?_⟩
    cases collected_of_other other collected
  | failed prepared collected =>
    cases same prepared
    refine ⟨fun _ => .inr (.inl ⟨_, reached, rfl⟩), fun other => ?_⟩
    cases collected_of_other other collected
  | defect prepared collected =>
    cases same prepared
    refine ⟨fun listed => ?_, fun other => ?_⟩
    · obtain ⟨violations, none⟩ := collected_of_listed checked listed collected
      cases none
    · cases collected_of_other other collected
      exact .inr reached

end

/-- If a check cannot begin, for its configuration or its files of rules, every validation over the
    same files fails with the same fault. If a check passes, its line lists the documents of the
    directory and counts their fields, and every validation ends as this foretells. -/
theorem check_foretells_validation (disk : Disk) (config : String) (today : Date)
    (input : List UInt8) :
    (∀ fault, Begun disk config (.error fault) →
      (run disk today input (.check config)).result = .error fault ∧
      ∀ day text recordType shape,
        (run disk day text (.validate config recordType shape)).result = .error fault) ∧
    ((run disk today input (.check config)).result = .ok () →
      ∃ c definitions documents,
        Config.load disk (.ofText config) = .ok c ∧
        HoldsDefinitions disk c.layout.definitions definitions ∧
        Catalogue disk c.layout.documents documents ∧
        Line (run disk today input (.check config)).output
          (.object [("status", .text "ok"), ("data", .object
            [("record_types", .array (documents.map fun entry => .text entry.1)),
              ("definitions", .nat definitions.size),
              ("fields_checked", .nat (documents.map fun entry => entry.2.size).sum)])]) ∧
        ∀ day text recordType shape, Foretold (documents.map Prod.fst) recordType
          (run disk day text (.validate config recordType shape))) := by
  constructor
  · intro fault failed
    obtain ⟨r, result, _, same⟩ := run_of_begun_error failed
    refine ⟨?_, fun day text recordType shape => ?_⟩
    · rw [same today input _ rfl, result]
    · rw [same day text _ rfl, result]
  · intro passed
    cases begun : rules? disk config with
    | error fault =>
      obtain ⟨r, result, _, same⟩ := run_of_begun_error (begun_iff.mpr begun)
      rw [same today input _ rfl, result] at passed
      cases passed
    | ok store =>
      have begun := begun_iff.mpr begun
      obtain ⟨b, booted, stored⟩ := begun_ok_iff.mp begun
      rw [run_check_of_boot booted, check_result stored] at passed
      cases checked : store.check with
      | error defect =>
        rw [checked] at passed
        cases passed
      | ok count =>
        cases begun with
        | loaded configured loaded =>
          obtain ⟨defined, catalogue⟩ := catalogue_of_load loaded
          refine ⟨_, _, _, configured, defined, catalogue, ?_,
            foretold_of_check booted stored checked⟩
          have counted := (store_check_eq_ok_iff.mp checked).1.trans (length_fields store)
          rw [run_check_of_boot booted, line_of_response (check_response stored checked)
            (readable_okResponse (readable_checkData store count)), counted, okResponse, checkData,
            Store.keys, List.map_map]
          rfl

theorem check_foretells_validation_payments :
    let tree := paymentTree "\x7b\"amount\": \x7b\"required\": true\x7d\x7d"
    (∀ day text recordType shape,
      (run (paymentTree "\x7b").disk day text (.validate usualConfig recordType shape)).result =
        .error (.rules unfinishedRules)) ∧
    (run tree.disk Date.first [] (.check usualConfig)).result = .ok () ∧
    ∀ day text recordType shape, Foretold ["payment"] recordType
      (run tree.disk day text (.validate usualConfig recordType shape)) := by
  intro tree
  have passed : (run tree.disk Date.first [] (.check usualConfig)).result = .ok () := by
    decide +kernel
  have output : (run tree.disk Date.first [] (.check usualConfig)).output =
      (okResponse (checkData loadedPayments 1)).print ++ "\n" := by
    decide +kernel
  have unbegun := (check_foretells_validation (paymentTree "\x7b").disk usualConfig Date.first
    []).1 _ begun_unfinishedRules
  obtain ⟨_, _, documents, _, _, _, line, foretold⟩ :=
    (check_foretells_validation tree.disk usualConfig Date.first []).2 passed
  -- the line is read as one value only, which tells the record types
  have answer := (line_print_iff (readable_okResponse (readable_checkData loadedPayments 1))).mp
    (output ▸ line)
  have types : documents.map Prod.fst = ["payment"] := by
    have listed : documents.map (fun entry => Json.text entry.1) = [.text "payment"] := by
      simp only [Json.object.injEq, okResponse, checkData, List.cons.injEq, Prod.mk.injEq,
        Json.array.injEq] at answer
      exact answer.2.1.2.1.2
    obtain ⟨entry, rfl, same⟩ := List.map_eq_singleton_iff.mp listed
    exact congrArg (fun key => [key]) (Json.text.inj same)
  exact ⟨unbegun.2, passed, types ▸ foretold⟩

end RecordRules.Command
