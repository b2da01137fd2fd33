/-
  Names of files, as bytes. A name with an ending is its stem, a dot and the ending, so that names
  with one ending differ in their stems, and their stems in the texts that they write. The order in
  which names are listed is lost when they are sorted.

  1. `eq_of_splitDot`: a name is put together again from its parts.
  2. `name_of_key`: the name of a document file is known from the key that its stem writes.
  3. `sorted_eq_of_perm`: names in any order are sorted alike.
-/
import RecordRules.Loading

namespace RecordRules

/-! ## Parts of a name -/

theorem takeWhile_eq_or_exists_dot (name : Path) :
    name.takeWhile (· ≠ 46) = name ∨ ∃ rest, name = name.takeWhile (· ≠ 46) ++ 46 :: rest := by
  induction name with
  | nil => exact .inl rfl
  | cons b rest ih =>
    by_cases dot : b = 46
    · exact .inr ⟨rest, by simp [dot]⟩
    · rw [List.takeWhile_cons_of_pos (by simpa using dot)]
      rcases ih with all | ⟨more, split⟩
      · exact .inl (congrArg (b :: ·) all)
      · exact .inr ⟨more, congrArg (b :: ·) split⟩

/-- The part before the last dot, the dot and the part after it make up the name. -/
theorem eq_of_splitDot {name before after : Path} (split : name.splitDot = (before, some after)) :
    name = before ++ 46 :: after := by
  unfold Path.splitDot at split
  dsimp only at split
  split at split
  · cases split
  · next ending =>
    rw [not_or, not_or] at ending
    obtain ⟨_, dotted, _⟩ := ending
    rcases takeWhile_eq_or_exists_dot name.reverse with all | ⟨rest, found⟩
    · rw [all] at dotted
      exact absurd (by simp) dotted
    · generalize name.reverse.takeWhile (· ≠ 46) = last at found split
      have whole : name = rest.reverse ++ 46 :: last.reverse := by
        rw [← List.reverse_reverse name, found]
        simp
      have stem : name.take (name.length - last.reverse.length - 1) = rest.reverse := by
        have count : name.length - last.reverse.length - 1 = rest.reverse.length := by
          rw [whole, List.length_append, List.length_cons]
          omega
        rw [count, whole, List.take_left]
      rw [stem] at split
      cases split
      exact whole

/-- Bytes are known from the text that they write. -/
theorem bytes_of_ofUtf8? {bytes : List UInt8} {s : String} (reads : Text.ofUtf8? bytes = some s) :
    s.toUTF8.data.toList = bytes := by
  unfold Text.ofUtf8? String.fromUTF8? at reads
  split at reads
  · cases reads
    rfl
  · cases reads

/-- The key of a document file and the ending make up its name. -/
theorem name_of_key {name : Path} {key : String} (document : Loading.isDocument name = true)
    (reads : Text.ofUtf8? name.splitDot.1 = some key) :
    name = key.toUTF8.data.toList ++ 46 :: Loading.ending := by
  have ends : name.splitDot.2 = some Loading.ending := of_decide_eq_true document
  have whole := eq_of_splitDot (Prod.ext rfl ends)
  rw [bytes_of_ofUtf8? reads]
  exact whole

/-! ## Order of names -/

theorem pairwise_sorted (names : List Path) :
    (names.mergeSort Path.le).Pairwise (· ≤ ·) := by
  have sorted : (names.mergeSort Path.le).Pairwise fun a b => Path.le a b = true := by
    refine List.pairwise_mergeSort ?_ ?_ names
    · intro a b c ab bc
      exact decide_eq_true (Std.le_trans (of_decide_eq_true ab) (of_decide_eq_true bc))
    · intro a b
      rw [Bool.or_eq_true, Path.le, Path.le, decide_eq_true_eq, decide_eq_true_eq]
      exact Std.le_total
  exact sorted.imp of_decide_eq_true

theorem sorted_eq_of_perm {names others : List Path} (same : names.Perm others) :
    names.mergeSort Path.le = others.mergeSort Path.le := by
  refine List.Perm.eq_of_pairwise (fun a b _ _ ab ba => Std.le_antisymm ab ba)
    (pairwise_sorted names) (pairwise_sorted others) ?_
  calc
    (names.mergeSort Path.le).Perm names := List.mergeSort_perm ..
    _ |>.Perm others := same
    _ |>.Perm (others.mergeSort Path.le) := (List.mergeSort_perm ..).symm

end RecordRules
