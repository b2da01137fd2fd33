/-
  What can be read from entries after keys are set. Setting keys one after the other lays a list
  over the entries: a key of the list has the list's value, any other keeps its own; the keys that
  were there stay in their places, and the new ones follow in the list's order.
-/
import Mathlib.Data.List.Forall2
import RecordRules.Entries

namespace RecordRules

variable {α β : Type}

theorem lookup_cons_of_ne {key k : String} (other : k ≠ key) (value : α)
    (rest : List (String × α)) : ((key, value) :: rest).lookup k = rest.lookup k := by
  rw [List.lookup_cons, beq_eq_false_iff_ne.mpr other]

theorem lookup_eq_none_iff_not_mem {entries : List (String × α)} {key : String} :
    entries.lookup key = none ↔ key ∉ entries.map Prod.fst := by
  induction entries with
  | nil => simp
  | cons e rest ih =>
    obtain ⟨k, v⟩ := e
    by_cases hk : key = k
    · simp [hk]
    · rw [lookup_cons_of_ne hk, ih, List.map_cons, List.mem_cons]
      simp [hk]

theorem lookup_put (key : String) (value : α) (entries : List (String × α)) (k : String) :
    (put key value entries).lookup k = if k = key then some value else entries.lookup k := by
  induction entries with
  | nil =>
    by_cases hk : k = key
    · simp [put, hk]
    · simp [put, hk, lookup_cons_of_ne]
  | cons e rest ih =>
    obtain ⟨k', v⟩ := e
    by_cases here : k' = key
    · subst here
      by_cases hk : k = k'
      · simp [put, hk]
      · simp [put, hk, lookup_cons_of_ne]
    · by_cases hk : k = k'
      · subst hk
        simp [put, here]
      · rw [put, if_neg here, lookup_cons_of_ne hk, lookup_cons_of_ne hk, ih]

theorem put_of_not_mem {key : String} {entries : List (String × α)}
    (new : key ∉ entries.map Prod.fst) (value : α) :
    put key value entries = entries ++ [(key, value)] := by
  induction entries with
  | nil => rfl
  | cons e rest ih =>
    obtain ⟨k, v⟩ := e
    rw [List.map_cons, List.mem_cons, not_or] at new
    have other : ¬ k = key := fun same => new.1 same.symm
    rw [put, if_neg other, ih new.2, List.cons_append]

theorem mem_put {key : String} {value : α} {entries : List (String × α)} {e : String × α}
    (there : e ∈ put key value entries) : e = (key, value) ∨ e ∈ entries := by
  induction entries with
  | nil => exact .inl (List.mem_singleton.mp there)
  | cons first rest ih =>
    obtain ⟨k, v⟩ := first
    rw [put] at there
    split at there
    · next here =>
      subst here
      exact (List.mem_cons.mp there).imp_right (List.mem_cons_of_mem _)
    · rcases List.mem_cons.mp there with rfl | later
      · exact .inr (List.mem_cons_self ..)
      · exact (ih later).imp_right (List.mem_cons_of_mem _)

theorem lookup_filter_ne (entries : List (String × α)) (key k : String) :
    (entries.filter fun e => e.1 ≠ key).lookup k = if k = key then none else entries.lookup k := by
  induction entries with
  | nil => simp
  | cons e rest ih =>
    obtain ⟨k', v⟩ := e
    by_cases gone : k' = key
    · subst gone
      rw [List.filter_cons_of_neg (by simp), ih]
      by_cases hk : k = k'
      · simp [hk]
      · rw [if_neg hk, if_neg hk, lookup_cons_of_ne hk]
    · rw [List.filter_cons_of_pos (by simp [gone])]
      by_cases hk : k = k'
      · subst hk
        simp [gone]
      · rw [lookup_cons_of_ne hk, lookup_cons_of_ne hk, ih]

theorem filter_put_ne (key : String) (value : α) (entries : List (String × α)) :
    (put key value entries).filter (fun e => e.1 ≠ key) = entries.filter fun e => e.1 ≠ key := by
  induction entries with
  | nil => simp [put]
  | cons e rest ih =>
    obtain ⟨k, v⟩ := e
    by_cases here : k = key
    · simp [put, here]
    · rw [put, if_neg here, List.filter_cons_of_pos (by simp [here]),
        List.filter_cons_of_pos (by simp [here]), ih]

theorem keys_filter_ne (entries : List (String × α)) (key : String) :
    (entries.filter fun e => e.1 ≠ key).map Prod.fst =
      (entries.map Prod.fst).filter fun k => k ≠ key := by
  rw [List.filter_map]
  rfl

/-- Lists with the same keys and related values answer every lookup alike. -/
theorem lookup_forall₂ {R : α → β → Prop} {entries : List (String × α)}
    {others : List (String × β)}
    (same : List.Forall₂ (fun entry other => other.1 = entry.1 ∧ R entry.2 other.2) entries others)
    (key : String) : Option.Rel R (entries.lookup key) (others.lookup key) := by
  induction same with
  | nil => exact .none
  | @cons entry other _ _ here _ ih =>
    obtain ⟨k, a⟩ := entry
    obtain ⟨k', b⟩ := other
    obtain ⟨rfl, related⟩ := here
    by_cases hk : key = k'
    · subst hk
      simpa using related
    · rwa [lookup_cons_of_ne hk, lookup_cons_of_ne hk]

theorem lookup_filter_eq (entries : List (String × α)) (key : String) :
    (entries.filter fun e => e.1 = key).lookup key = entries.lookup key := by
  induction entries with
  | nil => rfl
  | cons e rest ih =>
    obtain ⟨k, v⟩ := e
    by_cases here : k = key
    · simp [here]
    · have other : key ≠ k := fun same => here same.symm
      rw [List.filter_cons_of_neg (by simpa using here), ih, lookup_cons_of_ne other]

theorem lookup_map_value (f : α → β) (entries : List (String × α)) (key : String) :
    (entries.map fun e => (e.1, f e.2)).lookup key = (entries.lookup key).map f := by
  induction entries with
  | nil => rfl
  | cons e rest ih =>
    obtain ⟨k, v⟩ := e
    by_cases here : key = k
    · simp [here]
    · rw [List.map_cons, lookup_cons_of_ne here, lookup_cons_of_ne here, ih]

/-- From the end of a list, a key's value is the one after which the key does not come again. -/
theorem lookup_reverse_of_last {before after : List (String × α)} {key : String} {value : α}
    (last : key ∉ after.map Prod.fst) :
    (before ++ (key, value) :: after).reverse.lookup key = some value := by
  have later : after.reverse.lookup key = none := by
    rwa [lookup_eq_none_iff_not_mem, List.map_reverse, List.mem_reverse]
  rw [List.reverse_append, List.reverse_cons, List.append_assoc, List.lookup_append, later,
    List.singleton_append, List.lookup_cons_self]
  rfl

namespace Entries

theorem find?_eq_none_iff {es : Entries α} {key : String} :
    es.find? key = none ↔ key ∉ es.keys :=
  lookup_eq_none_iff_not_mem

theorem mem_keys_of_find? {es : Entries α} {key : String} {value : α}
    (found : es.find? key = some value) : key ∈ es.keys := by
  by_cases there : key ∈ es.keys
  · exact there
  · rw [find?_eq_none_iff.mpr there] at found
    cases found

theorem length_keys (es : Entries α) : es.keys.length = es.size := List.length_map ..

@[simp] theorem find?_insert (es : Entries α) (key : String) (value : α) (k : String) :
    (es.insert key value).find? k = if k = key then some value else es.find? k :=
  lookup_put key value es.list k

@[simp] theorem keys_insert (es : Entries α) (key : String) (value : α) :
    (es.insert key value).keys = if key ∈ es.keys then es.keys else es.keys ++ [key] :=
  keys_put key value es.list

@[simp] theorem insertAll_nil (es : Entries α) : es.insertAll [] = es := rfl

@[simp] theorem insertAll_cons (es : Entries α) (key : String) (value : α)
    (rest : List (String × α)) :
    es.insertAll ((key, value) :: rest) = (es.insert key value).insertAll rest := rfl

/-- Of the values that a list has under a key the last counts, whatever was there before. -/
theorem find?_insertAll_reverse (entries : List (String × α)) (es : Entries α) (k : String) :
    (es.insertAll entries).find? k = (entries.reverse.lookup k).or (es.find? k) := by
  induction entries generalizing es with
  | nil => simp
  | cons e rest ih =>
    obtain ⟨key, value⟩ := e
    rw [insertAll_cons, ih, find?_insert, List.reverse_cons, List.lookup_append, Option.or_assoc]
    by_cases here : k = key
    · simp [here]
    · rw [if_neg here, lookup_cons_of_ne here]
      rfl

theorem mem_list_insertAll {entries : List (String × α)} {es : Entries α} {e : String × α}
    (there : e ∈ (es.insertAll entries).list) : e ∈ es.list ∨ e ∈ entries := by
  induction entries generalizing es with
  | nil => exact .inl there
  | cons first rest ih =>
    obtain ⟨key, value⟩ := first
    rcases ih there with before | later
    · rcases mem_put before with rfl | earlier
      · exact .inr (List.mem_cons_self ..)
      · exact .inl earlier
    · exact .inr (List.mem_cons_of_mem _ later)

theorem mem_keys_insertAll {entries : List (String × α)} {es : Entries α} {k : String} :
    k ∈ (es.insertAll entries).keys ↔ k ∈ es.keys ∨ k ∈ entries.map Prod.fst := by
  induction entries generalizing es with
  | nil => simp
  | cons e rest ih =>
    obtain ⟨key, value⟩ := e
    have added : k ∈ (es.insert key value).keys ↔ k = key ∨ k ∈ es.keys := by
      rw [keys_insert]
      split
      · next there => exact ⟨.inr, fun h => h.elim (fun same => same ▸ there) id⟩
      · rw [List.mem_append, List.mem_singleton, or_comm]
    rw [insertAll_cons, ih, added, List.map_cons, List.mem_cons, or_assoc, or_left_comm]

/-- A list with ascending keys adds new ones in strictly ascending order, each once, if those that
    were added before are not above any of them. -/
theorem keys_insertAll_of_ascending {entries : List (String × α)} {es : Entries α}
    {fixed added : List String} (ascending : (entries.map Prod.fst).Pairwise (· ≤ ·))
    (split : es.keys = fixed ++ added) (sorted : added.Pairwise (· < ·))
    (below : ∀ k ∈ added, ∀ key ∈ entries.map Prod.fst, k ≤ key) :
    ∃ others, (es.insertAll entries).keys = fixed ++ others ∧ others.Pairwise (· < ·) := by
  induction entries generalizing es added with
  | nil => exact ⟨added, split, sorted⟩
  | cons e rest ih =>
    obtain ⟨key, value⟩ := e
    rw [List.map_cons, List.pairwise_cons] at ascending
    have keys := keys_insert es key value
    by_cases there : key ∈ es.keys
    · rw [if_pos there] at keys
      exact ih ascending.2 (keys.trans split) sorted fun k hk key' later =>
        below k hk key' (List.mem_cons_of_mem _ later)
    · rw [if_neg there, split, List.append_assoc] at keys
      -- the key is not below any that was added, and it is none of them
      have sorted' : (added ++ [key]).Pairwise (· < ·) := by
        refine List.pairwise_append.mpr ⟨sorted, List.pairwise_singleton .., fun k hk k' last => ?_⟩
        rw [List.mem_singleton] at last
        subst last
        have least : k ≤ k' := below k hk k' (List.mem_cons_self ..)
        have other : k ≠ k' := by
          rintro rfl
          exact there (split ▸ List.mem_append_right _ hk)
        exact String.not_le.mp fun above => other (String.le_antisymm least above)
      refine ih ascending.2 keys sorted' fun k hk key' later => ?_
      rcases List.mem_append.mp hk with earlier | last
      · exact below k earlier key' (List.mem_cons_of_mem _ later)
      · exact List.mem_singleton.mp last ▸ ascending.1 key' later

/-- A list laid over entries decides about its own keys and leaves the others. -/
theorem find?_insertAll {entries : List (String × α)} (distinct : (entries.map Prod.fst).Nodup)
    (es : Entries α) (k : String) :
    (es.insertAll entries).find? k = (entries.lookup k).or (es.find? k) := by
  induction entries generalizing es with
  | nil => simp
  | cons e rest ih =>
    obtain ⟨key, value⟩ := e
    rw [List.map_cons, List.nodup_cons] at distinct
    rw [insertAll_cons, ih distinct.2, find?_insert]
    by_cases hk : k = key
    · subst hk
      -- no later entry sets the key again
      have once : rest.lookup k = none := lookup_eq_none_iff_not_mem.mpr distinct.1
      simp [once]
    · rw [lookup_cons_of_ne hk, if_neg hk]

/-- Entries under new keys are added at the end, as they are. -/
theorem list_insertAll {es : Entries α} {entries : List (String × α)}
    (distinct : (es.keys ++ entries.map Prod.fst).Nodup) :
    (es.insertAll entries).list = es.list ++ entries := by
  induction entries generalizing es with
  | nil => simp
  | cons e rest ih =>
    obtain ⟨key, value⟩ := e
    have new : key ∉ es.keys := by
      intro there
      exact (List.nodup_append.mp distinct).2.2 key there key (List.mem_cons_self ..) rfl
    have added : (es.insert key value).list = es.list ++ [(key, value)] := put_of_not_mem new value
    have distinct' : ((es.insert key value).keys ++ rest.map Prod.fst).Nodup := by
      rwa [keys, added, List.map_append, List.append_assoc]
    rw [insertAll_cons, ih distinct', added, List.append_assoc, List.singleton_append]

theorem list_ofList {entries : List (String × α)} (distinct : (entries.map Prod.fst).Nodup) :
    (ofList entries).list = entries :=
  list_insertAll distinct

/-- The keys stay in their places, and those that only the list has follow in its order. -/
theorem keys_insertAll {entries : List (String × α)} (distinct : (entries.map Prod.fst).Nodup)
    (es : Entries α) :
    (es.insertAll entries).keys =
      es.keys ++ (entries.map Prod.fst).filter fun key => key ∉ es.keys := by
  induction entries generalizing es with
  | nil => simp
  | cons e rest ih =>
    obtain ⟨key, value⟩ := e
    rw [List.map_cons, List.nodup_cons] at distinct
    rw [insertAll_cons, ih distinct.2, keys_insert, List.map_cons, List.filter_cons]
    by_cases there : key ∈ es.keys
    · simp [there]
    · have others : (rest.map Prod.fst).filter (fun k => k ∉ es.keys ++ [key]) =
          (rest.map Prod.fst).filter fun k => k ∉ es.keys := by
        refine List.filter_congr fun k hk => ?_
        have : k ≠ key := fun same => distinct.1 (same ▸ hk)
        simp [this]
      rw [if_neg there, others]
      simp [there]

/-- The entries with a function applied to their values, without those for which it has no result. -/
def filterMap (es : Entries α) (f : α → Option β) : Entries β where
  list := es.list.filterMap fun (key, value) => (f value).map (key, ·)
  distinct := by
    refine es.distinct.sublist ?_
    induction es.list with
    | nil => exact .slnil
    | cons e rest ih =>
      cases h : f e.2 with
      | none => simpa [h] using ih.cons e.1
      | some => simpa [h] using ih

theorem find?_filterMap (es : Entries α) (f : α → Option β) (key : String) :
    (es.filterMap f).find? key = (es.find? key).bind f := by
  obtain ⟨list, distinct⟩ := es
  simp only [filterMap, find?]
  induction list with
  | nil => rfl
  | cons e rest ih =>
    obtain ⟨k, v⟩ := e
    rw [List.map_cons, List.nodup_cons] at distinct
    by_cases here : key = k
    · subst here
      cases result : f v with
      | some => simp [result]
      | none =>
        -- no later entry has the key either
        have once : rest.lookup key = none := lookup_eq_none_iff_not_mem.mpr distinct.1
        simpa [result, once] using ih distinct.2
    · rw [lookup_cons_of_ne here, ← ih distinct.2]
      cases result : f v with
      | some => simp [result, lookup_cons_of_ne here]
      | none => simp [result]

end Entries

end RecordRules
