/-
  Entries under distinct keys, in the order in which the keys came first. A key that is set again
  keeps its place and takes the new value.
-/

namespace RecordRules

/-- A list of entries with a key set: in place if the key is there, else at the end. -/
def put {α : Type} (key : String) (value : α) : List (String × α) → List (String × α)
  | [] => [(key, value)]
  | (k, v) :: rest => if k = key then (k, value) :: rest else (k, v) :: put key value rest

/-- Setting a key adds it to the keys, unless it is there already. -/
theorem keys_put {α : Type} (key : String) (value : α) (entries : List (String × α)) :
    (put key value entries).map Prod.fst =
      if key ∈ entries.map Prod.fst then entries.map Prod.fst
      else entries.map Prod.fst ++ [key] := by
  induction entries with
  | nil => simp [put]
  | cons e rest ih =>
    obtain ⟨k, v⟩ := e
    by_cases hk : k = key
    · simp [put, hk]
    · have hk' : ¬ key = k := fun h => hk h.symm
      simp only [put, hk, if_false, List.map_cons, ih, List.mem_cons, hk', false_or]
      split <;> simp

/-- Setting a key keeps the keys distinct. -/
theorem nodup_put {α : Type} {key : String} {value : α} {entries : List (String × α)}
    (h : (entries.map Prod.fst).Nodup) : ((put key value entries).map Prod.fst).Nodup := by
  rw [keys_put]
  split
  · exact h
  · next hk =>
    rw [List.nodup_append]
    refine ⟨h, by simp, ?_⟩
    rintro a ha b hb rfl
    simp only [List.mem_singleton] at hb
    exact hk (hb ▸ ha)

/-- Entries under distinct keys. -/
structure Entries (α : Type) where
  list : List (String × α)
  distinct : (list.map Prod.fst).Nodup

namespace Entries

variable {α : Type}

/-- No entries. -/
def empty : Entries α := ⟨[], by simp⟩

instance : Inhabited (Entries α) := ⟨empty⟩

/-- The keys, in order. -/
def keys (es : Entries α) : List String := es.list.map Prod.fst

/-- The value under a key. -/
def find? (es : Entries α) (key : String) : Option α := es.list.lookup key

/-- Whether there is an entry under a key. -/
def contains (es : Entries α) (key : String) : Bool := (es.find? key).isSome

/-- How many entries there are. -/
def size (es : Entries α) : Nat := es.list.length

/-- The entries with a key set. -/
def insert (es : Entries α) (key : String) (value : α) : Entries α :=
  ⟨put key value es.list, nodup_put es.distinct⟩

/-- The entries with each key of a list set, in the list's order. -/
def insertAll (es : Entries α) (entries : List (String × α)) : Entries α :=
  entries.foldl (fun es (key, value) => es.insert key value) es

/-- The entries of a list: of several values under one key the last counts. -/
def ofList (entries : List (String × α)) : Entries α := empty.insertAll entries

end Entries

example : (put "b" 3 [("a", 1), ("b", 2)]) = [("a", 1), ("b", 3)] := by decide
example : (put "c" 3 [("a", 1)]) = [("a", 1), ("c", 3)] := by decide

end RecordRules
