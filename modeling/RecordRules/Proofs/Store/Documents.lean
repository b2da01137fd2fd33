/-
  The documents of a store, in the order of their keys: what is found under a key, and what is there
  after further documents are registered.

  1. `mem_before_iff_lt`: where keys ascend, the lesser ones come first.
  2. `store_find?_eq_some_iff`, `store_find?_eq_none_iff`: every document is found under its key, and
     nothing under any other.
  3. `store_ext`: nothing else makes a difference between stores.
  4. `register_of_new`, `registerAll_new`: documents under new keys are all taken.
  5. `registerAll_perm`: what is taken is there, and nothing else is added.
-/
import RecordRules.Loading
import RecordRules.Proofs.Entries
import RecordRules.Proofs.FirstError

namespace RecordRules

open Loading (registerAll)

/-! ## Lookups -/

/-- Where keys ascend, the lesser ones are those that come before. -/
theorem mem_before_iff_lt {α : Type} {before after : List (String × α)} {entry other : String × α}
    (ascending : (before ++ entry :: after).Pairwise fun a b => a.1 < b.1)
    (listed : other ∈ before ++ entry :: after) : other ∈ before ↔ other.1 < entry.1 := by
  obtain ⟨_, fromEntry, across⟩ := List.pairwise_append.mp ascending
  constructor
  · intro earlier
    exact across other earlier entry (List.mem_cons_self ..)
  · intro less
    rcases List.mem_append.mp listed with earlier | later
    · exact earlier
    · rcases List.mem_cons.mp later with rfl | later
      · exact absurd less (String.lt_irrefl _)
      · have greater := (List.pairwise_cons.mp fromEntry).1 other later
        exact absurd (String.lt_trans less greater) (String.lt_irrefl _)

theorem store_find?_eq_none_iff {store : Store} {key : String} :
    store.find? key = none ↔ key ∉ store.keys :=
  lookup_eq_none_iff_not_mem

theorem store_find?_eq_some_iff {store : Store} {key : String} {document : Document} :
    store.find? key = some document ↔ (key, document) ∈ store.documents := by
  constructor
  · intro found
    obtain ⟨before, after, split, _⟩ := List.lookup_eq_some_iff.mp found
    rw [split]
    exact List.mem_append_cons_self
  · intro listed
    obtain ⟨before, after, split⟩ := List.append_of_mem listed
    refine List.lookup_eq_some_iff.mpr ⟨before, after, split, fun entry earlier => ?_⟩
    have ascending := split ▸ store.ascending
    have listed' : entry ∈ before ++ (key, document) :: after := List.mem_append_left _ earlier
    have less : entry.1 < key := (mem_before_iff_lt ascending listed').mp earlier
    exact bne_iff_ne.mpr (String.ne_of_lt less).symm

/-- A store is known from its definitions and from what is found under each key. -/
theorem store_ext {a b : Store} (definitions : a.definitions = b.definitions)
    (found : ∀ key document, a.find? key = some document ↔ b.find? key = some document) : a = b := by
  have nodup (store : Store) : store.documents.Nodup := by
    refine store.ascending.imp fun less same => ?_
    rw [same] at less
    exact String.lt_irrefl _ less
  have same : a.documents.Perm b.documents := by
    refine (List.perm_ext_iff_of_nodup (nodup a) (nodup b)).mpr fun ⟨key, document⟩ => ?_
    rw [← store_find?_eq_some_iff, ← store_find?_eq_some_iff, found]
  have equal : a.documents = b.documents := by
    refine List.Perm.eq_of_pairwise (fun x y _ _ less greater => ?_) a.ascending b.ascending same
    exact absurd (String.lt_trans less greater) (String.lt_irrefl _)
  cases a
  cases b
  cases definitions
  cases equal
  rfl

/-! ## Registration -/

theorem insertSorted_perm {α : Type} (key : String) (value : α) (list : List (String × α)) :
    (insertSorted key value list).Perm ((key, value) :: list) := by
  induction list with
  | nil => exact .refl _
  | cons head rest ih =>
    obtain ⟨k, v⟩ := head
    rw [insertSorted]
    split
    · exact .refl _
    · exact (ih.cons (k, v)).trans (.swap (key, value) (k, v) rest)

theorem register_of_new {store : Store} {key : String} (new : store.find? key = none)
    (document : Document) :
    ∃ registered, store.register key document = .ok registered ∧
      registered.definitions = store.definitions ∧
      registered.documents = insertSorted key document store.documents := by
  unfold Store.register
  split
  · next _ taken =>
    rw [new] at taken
    cases taken
  · exact ⟨_, rfl, rfl, rfl⟩

theorem registerAll_cons (store : Store) (key : String) (document : Document)
    (rest : List (String × Document)) :
    registerAll store ((key, document) :: rest) =
      store.register key document >>= fun next => registerAll next rest := rfl

/-- Documents under distinct new keys are taken in any order. -/
theorem registerAll_of_new {store : Store} {documents : List (String × Document)}
    (distinct : (documents.map Prod.fst).Nodup)
    (new : ∀ entry ∈ documents, store.find? entry.1 = none) :
    ∃ registered, registerAll store documents = .ok registered ∧
      registered.definitions = store.definitions ∧
      registered.documents.Perm (documents ++ store.documents) := by
  induction documents generalizing store with
  | nil => exact ⟨store, rfl, rfl, .refl _⟩
  | cons entry rest ih =>
    obtain ⟨key, document⟩ := entry
    rw [List.map_cons, List.nodup_cons] at distinct
    rw [List.forall_mem_cons] at new
    obtain ⟨next, taken, same, holds⟩ := register_of_new new.1 document
    have holds' : next.documents.Perm ((key, document) :: store.documents) :=
      holds ▸ insertSorted_perm key document store.documents
    -- the key that was just taken is not among those that are left
    have new' : ∀ entry ∈ rest, next.find? entry.1 = none := by
      intro entry listed
      have other : entry.1 ≠ key := by
        intro equal
        exact distinct.1 (List.mem_map.mpr ⟨entry, listed, equal⟩)
      have before : entry.1 ∉ store.keys := store_find?_eq_none_iff.mp (new.2 entry listed)
      rw [store_find?_eq_none_iff, Store.keys, (holds'.map Prod.fst).mem_iff, List.map_cons,
        List.mem_cons]
      exact not_or.mpr ⟨other, before⟩
    obtain ⟨registered, all, same', holdsAll⟩ := ih distinct.2 new'
    refine ⟨registered, ?_, same'.trans same, ?_⟩
    · rw [registerAll_cons]
      exact bind_eq_ok_iff.mpr ⟨next, taken, all⟩
    · calc
        registered.documents.Perm (rest ++ next.documents) := holdsAll
        _ |>.Perm (rest ++ (key, document) :: store.documents) := holds'.append_left rest
        _ |>.Perm ((key, document) :: rest ++ store.documents) := List.perm_middle

theorem registerAll_new {documents : List (String × Document)}
    (distinct : (documents.map Prod.fst).Nodup) (definitions : Definitions) :
    ∃ registered, registerAll (.new definitions) documents = .ok registered ∧
      registered.definitions = definitions ∧ registered.documents.Perm documents := by
  have new : ∀ entry ∈ documents, (Store.new definitions).find? entry.1 = none := fun _ _ => rfl
  obtain ⟨registered, all, same, holds⟩ := registerAll_of_new distinct new
  exact ⟨registered, all, same, holds.trans (.of_eq (List.append_nil documents))⟩

theorem register_eq_ok {store registered : Store} {key : String} {document : Document}
    (taken : store.register key document = .ok registered) :
    registered.definitions = store.definitions ∧
      registered.documents = insertSorted key document store.documents := by
  unfold Store.register at taken
  split at taken
  · cases taken
  · cases taken
    exact ⟨rfl, rfl⟩

/-- If documents are all taken, they are there besides those that were there before. -/
theorem registerAll_perm {store registered : Store} {documents : List (String × Document)}
    (all : registerAll store documents = .ok registered) :
    registered.definitions = store.definitions ∧
      registered.documents.Perm (documents ++ store.documents) := by
  induction documents generalizing store with
  | nil =>
    cases all
    exact ⟨rfl, .refl _⟩
  | cons entry rest ih =>
    obtain ⟨key, document⟩ := entry
    obtain ⟨next, taken, all⟩ := bind_eq_ok_iff.mp all
    obtain ⟨same, holds⟩ := register_eq_ok taken
    obtain ⟨same', holdsAll⟩ := ih all
    refine ⟨same'.trans same, ?_⟩
    calc
      registered.documents.Perm (rest ++ next.documents) := holdsAll
      _ |>.Perm (rest ++ (key, document) :: store.documents) :=
        (holds ▸ insertSorted_perm key document store.documents).append_left rest
      _ |>.Perm ((key, document) :: rest ++ store.documents) := List.perm_middle

end RecordRules
