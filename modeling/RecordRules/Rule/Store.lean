/-
  The rule store: the definitions, and one document for each record type, in the order of the keys.
  A document stays as it is registered first.
-/
import RecordRules.Rule.Resolve

namespace RecordRules

/-- Adds a value under a new key to a list in the order of its keys. -/
def insertSorted {α : Type} (key : String) (value : α) : List (String × α) → List (String × α)
  | [] => [(key, value)]
  | (k, v) :: rest =>
    if key < k then (key, value) :: (k, v) :: rest else (k, v) :: insertSorted key value rest

/-- The keys of a list with one more. -/
theorem mem_insertSorted {α : Type} {key : String} {value : α} {list : List (String × α)}
    {e : String × α} : e ∈ insertSorted key value list ↔ e = (key, value) ∨ e ∈ list := by
  induction list with
  | nil => simp [insertSorted]
  | cons head rest ih =>
    obtain ⟨k, v⟩ := head
    simp only [insertSorted]
    split
    · simp
    · simp only [List.mem_cons, ih]
      exact or_left_comm

/-- A new key keeps the keys strictly ascending. -/
theorem ascending_insertSorted {α : Type} {key : String} {value : α} {list : List (String × α)}
    (asc : list.Pairwise fun a b => a.1 < b.1) (new : ∀ e ∈ list, e.1 ≠ key) :
    (insertSorted key value list).Pairwise fun a b => a.1 < b.1 := by
  induction list with
  | nil => simp [insertSorted]
  | cons head rest ih =>
    obtain ⟨k, v⟩ := head
    rw [List.pairwise_cons] at asc
    simp only [insertSorted]
    split
    · next below =>
      refine List.pairwise_cons.mpr ⟨?_, List.pairwise_cons.mpr asc⟩
      rintro e he
      rcases List.mem_cons.mp he with rfl | he
      · exact below
      · exact String.lt_trans below (asc.1 e he)
    · next notBelow =>
      have above : k < key := by
        rcases Std.lt_trichotomy key k with h | h | h
        · exact absurd h notBelow
        · exact absurd h.symm (new (k, v) (List.mem_cons_self ..))
        · exact h
      refine List.pairwise_cons.mpr ⟨?_, ih asc.2 fun e he => new e (List.mem_cons_of_mem _ he)⟩
      rintro e he
      rcases mem_insertSorted.mp he with rfl | he
      · exact above
      · exact asc.1 e he

/-- Definitions, and documents under strictly ascending keys. -/
structure Store where
  definitions : Definitions
  documents : List (String × Document)
  ascending : documents.Pairwise fun a b => a.1 < b.1

namespace Store

/-- A store without documents. -/
def new (definitions : Definitions) : Store := ⟨definitions, [], by simp⟩

/-- The document under a key. -/
def find? (s : Store) (key : String) : Option Document := s.documents.lookup key

/-- The document under a key, or the defect that there is none. -/
def document (s : Store) (key : String) : Except Defect Document :=
  match s.find? key with
  | some d => .ok d
  | none => .error (.noDocument key)

/-- Whether there is a document under a key. -/
def contains (s : Store) (key : String) : Bool := (s.find? key).isSome

/-- The keys of the documents, ascending. -/
def keys (s : Store) : List String := s.documents.map Prod.fst

/-- How many documents there are. -/
def size (s : Store) : Nat := s.documents.length

/-- The defect of a document whose key is taken. -/
def taken (key : String) : Defect :=
  .malformed "<in-memory>" ("rule document '" ++ key ++ "' is already registered")

/-- A key that is not found is nobody's. -/
theorem ne_of_find?_eq_none {s : Store} {key : String} (h : s.find? key = none) :
    ∀ e ∈ s.documents, e.1 ≠ key := by
  intro e he eq
  have := List.lookup_eq_none_iff.mp h e he
  simp [eq] at this

/-- The store with a document registered under a key that is not taken. -/
def register (s : Store) (key : String) (document : Document) : Except Defect Store :=
  match h : s.find? key with
  | some _ => .error (taken key)
  | none =>
    .ok ⟨s.definitions, insertSorted key document s.documents,
      ascending_insertSorted s.ascending (ne_of_find?_eq_none h)⟩

/-- Checks a field: its node has to resolve, and the resolved node's constraints have to be usable. -/
def checkField (definitions : Definitions) (field : String × Node) : Except Defect Unit := do
  (← field.2.resolve definitions).check field.1

/-- The fields of all documents, in the order of the keys and of the documents. -/
def fields (s : Store) : List (String × Node) := s.documents.flatMap fun d => d.2.fields

/-- Checks every field, and counts them. -/
def check (s : Store) : Except Defect Nat := do
  s.fields.forM (checkField s.definitions)
  return s.fields.length

end Store

end RecordRules
