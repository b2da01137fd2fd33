/-
  Stores and the calls of registration that made them. The first call under a key counts: it puts its
  document into the store, and any later call under that key is refused and leaves no trace.

  1. `find?_after`: what one call does to what is found under a key.
  2. `find?_afterAll`: what any number of calls, refused ones among them, do to it.
  3. `registration_history`: all that a store answers, in terms of the calls.
-/
import RecordRules.Proofs.Store.Findings

namespace RecordRules

/-- The store that a call of registration leaves: the one with the document, or the same as before if
    the call is refused. -/
def Store.after (store : Store) (call : String × Document) : Store :=
  match store.register call.1 call.2 with
  | .ok registered => registered
  | .error _ => store

/-- The store that calls of registration leave, made one after the other. -/
def Store.afterAll (store : Store) (calls : List (String × Document)) : Store :=
  calls.foldl Store.after store

/-- What a store answers that was made over `definitions` by `calls`. -/
structure Records (definitions : Definitions) (calls : List (String × Document)) (store : Store) :
    Prop where
  first : ∀ key document, calls.lookup key = some document → store.document key = .ok document
  absent : ∀ key, key ∉ calls.map Prod.fst → store.document key = .error (.noDocument key)
  contains : ∀ key, store.contains key = true ↔ ∃ document, store.document key = .ok document
  ascending : store.keys.Pairwise (· < ·)
  keys : ∀ key, key ∈ store.keys ↔ key ∈ calls.map Prod.fst
  size : store.size = store.keys.length
  definitions : store.definitions = definitions

section

variable {store : Store} {key : String} {document taken : Document}

/-! ## What is found -/

theorem document_eq_ok_iff :
    store.document key = .ok document ↔ store.find? key = some document := by
  unfold Store.document
  cases store.find? key <;> simp

theorem document_eq_error_of_none (missing : store.find? key = none) :
    store.document key = .error (.noDocument key) := by
  rw [Store.document, missing]

theorem contains_iff :
    store.contains key = true ↔ ∃ document, store.document key = .ok document := by
  simp only [document_eq_ok_iff]
  exact Option.isSome_iff_exists

theorem mem_keys_iff : key ∈ store.keys ↔ store.find? key ≠ none := by
  rw [ne_eq, store_find?_eq_none_iff, not_not]

theorem ascending_keys (store : Store) : store.keys.Pairwise (· < ·) :=
  List.pairwise_map.mpr store.ascending

/-! ## One call -/

theorem register_of_taken (found : store.find? key = some taken) (document : Document) :
    store.register key document = .error (Store.taken key) := by
  unfold Store.register
  split
  · rfl
  · next missing =>
    rw [found] at missing
    cases missing

theorem after_of_taken (found : store.find? key = some taken) (document : Document) :
    store.after (key, document) = store := by
  rw [Store.after, register_of_taken found]

theorem after_of_new (missing : store.find? key = none) (document : Document) :
    (store.after (key, document)).definitions = store.definitions ∧
      (store.after (key, document)).documents = insertSorted key document store.documents := by
  obtain ⟨registered, accepted, same, holds⟩ := register_of_new missing document
  rw [Store.after, accepted]
  exact ⟨same, holds⟩

theorem definitions_after (store : Store) (call : String × Document) :
    (store.after call).definitions = store.definitions := by
  obtain ⟨key, document⟩ := call
  cases found : store.find? key with
  | some taken => rw [after_of_taken found]
  | none => exact (after_of_new found document).1

/-- A call adds its document under its key, unless there is one. -/
theorem find?_after (store : Store) (key : String) (document : Document) (k : String) :
    (store.after (key, document)).find? k =
      (store.find? k).or (if k = key then some document else none) := by
  cases found : store.find? key with
  | some taken =>
    rw [after_of_taken found]
    by_cases same : k = key
    · rw [same, found, Option.some_or]
    · rw [if_neg same, Option.or_none]
  | none =>
    have holds := (after_of_new found document).2
    by_cases same : k = key
    · subst same
      rw [found, Option.none_or, if_pos rfl, store_find?_eq_some_iff, holds, mem_insertSorted]
      exact .inl rfl
    · refine Option.ext fun d => ?_
      rw [if_neg same, Option.or_none, store_find?_eq_some_iff, store_find?_eq_some_iff, holds,
        mem_insertSorted]
      simp [same]

/-! ## Calls one after the other -/

theorem afterAll_cons (store : Store) (call : String × Document)
    (calls : List (String × Document)) :
    store.afterAll (call :: calls) = (store.after call).afterAll calls := rfl

theorem afterAll_append (store : Store) (calls later : List (String × Document)) :
    store.afterAll (calls ++ later) = (store.afterAll calls).afterAll later :=
  List.foldl_append

theorem definitions_afterAll (store : Store) (calls : List (String × Document)) :
    (store.afterAll calls).definitions = store.definitions := by
  induction calls generalizing store with
  | nil => rfl
  | cons call calls ih => rw [afterAll_cons, ih, definitions_after]

/-- The first of several calls under a key counts, and none if there was a document before. -/
theorem find?_afterAll (store : Store) (calls : List (String × Document)) (key : String) :
    (store.afterAll calls).find? key = (store.find? key).or (calls.lookup key) := by
  induction calls generalizing store with
  | nil => exact Option.or_none.symm
  | cons call calls ih =>
    obtain ⟨k, document⟩ := call
    rw [afterAll_cons, ih, find?_after, Option.or_assoc]
    congr 1
    by_cases same : key = k
    · subst same
      simp
    · rw [if_neg same, Option.none_or, lookup_cons_of_ne same]

theorem find?_afterAll_new (definitions : Definitions) (calls : List (String × Document))
    (key : String) : ((Store.new definitions).afterAll calls).find? key = calls.lookup key :=
  find?_afterAll (.new definitions) calls key

theorem records_afterAll (definitions : Definitions) (calls : List (String × Document)) :
    Records definitions calls ((Store.new definitions).afterAll calls) where
  first key document called := by
    rw [document_eq_ok_iff, find?_afterAll_new, called]
  absent key never := by
    refine document_eq_error_of_none ?_
    rw [find?_afterAll_new, lookup_eq_none_iff_not_mem.mpr never]
  contains _ := contains_iff
  ascending := ascending_keys _
  keys key := by
    rw [mem_keys_iff, find?_afterAll_new, ne_eq, lookup_eq_none_iff_not_mem, not_not]
  size := (List.length_map ..).symm
  definitions := definitions_afterAll (.new definitions) calls

end

/-- After any calls of registration a store answers as `Records` says: each key has the document of
    its first call. A further call under a key that is taken is refused with a defect that names it,
    and leaves the store as it was, so that whatever calls follow, the check of the store and all
    validations come out as if it had not been made. -/
theorem registration_history (definitions : Definitions) (calls : List (String × Document)) :
    Records definitions calls ((Store.new definitions).afterAll calls) ∧
    ∀ key document, key ∈ calls.map Prod.fst →
      ((Store.new definitions).afterAll calls).register key document =
        .error (.malformed "<in-memory>" ("rule document '" ++ key ++ "' is already registered")) ∧
      (Store.new definitions).afterAll (calls ++ [(key, document)]) =
        (Store.new definitions).afterAll calls ∧
      ∀ later,
        ((Store.new definitions).afterAll (calls ++ (key, document) :: later)).check =
          ((Store.new definitions).afterAll (calls ++ later)).check ∧
        ∀ dates record recordType,
          Validation.validate ((Store.new definitions).afterAll (calls ++ (key, document) :: later))
              dates record recordType =
            Validation.validate ((Store.new definitions).afterAll (calls ++ later))
              dates record recordType := by
  refine ⟨records_afterAll definitions calls, fun key document called => ?_⟩
  obtain ⟨taken, found⟩ :
      ∃ taken, ((Store.new definitions).afterAll calls).find? key = some taken := by
    refine Option.ne_none_iff_exists'.mp ?_
    rw [find?_afterAll_new, ne_eq, lookup_eq_none_iff_not_mem, not_not]
    exact called
  have unchanged (later : List (String × Document)) :
      (Store.new definitions).afterAll (calls ++ (key, document) :: later) =
        (Store.new definitions).afterAll (calls ++ later) := by
    rw [afterAll_append, afterAll_append, afterAll_cons, after_of_taken found]
  refine ⟨register_of_taken found document, ?_, fun later => ?_⟩
  · rw [unchanged [], List.append_nil]
  · rw [unchanged later]
    exact ⟨rfl, fun _ _ _ => rfl⟩

/-- Refunds, payments, and refunds once more, with other rules. -/
def calledTwice : List (String × Document) :=
  [("refund", cyclicRefund), ("payment", faultyPayment), ("refund", faultyPayment)]

theorem registration_history_calledTwice :
    Records selfReferring calledTwice ((Store.new selfReferring).afterAll calledTwice) ∧
    "refund" ∈ calledTwice.map Prod.fst ∧
    ((Store.new selfReferring).afterAll calledTwice).document "refund" = .ok cyclicRefund ∧
    ((Store.new selfReferring).afterAll calledTwice).register "refund" ⟨[]⟩ =
      .error (.malformed "<in-memory>" "rule document 'refund' is already registered") ∧
    (Store.new selfReferring).afterAll (calledTwice ++ [("refund", ⟨[]⟩)]) =
      (Store.new selfReferring).afterAll calledTwice := by
  have called : "refund" ∈ calledTwice.map Prod.fst := by decide
  obtain ⟨records, refused⟩ := registration_history selfReferring calledTwice
  obtain ⟨answer, unchanged, _⟩ := refused "refund" ⟨[]⟩ called
  exact ⟨records, called, records.first "refund" cyclicRefund rfl, answer, unchanged⟩

end RecordRules
