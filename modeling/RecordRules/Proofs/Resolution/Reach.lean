/-
  The definitions that a resolution depends on. Following references from a node asks for some keys,
  and whatever is defined under others does not matter: collections that agree on the keys asked for
  give the same result, a node or a defect, since the walks in both go in step to the same end.

  1. `Walk.of_agree`, `Walk.of_extends`: walks that another collection has as well.
  2. `resolve_eq_of_agree`: agreement on the keys asked for is enough for the same result.
  3. `resolve_of_extends`: what resolves stays as it is when definitions are added.
-/
import RecordRules.Proofs.Resolution.Outcome

namespace RecordRules

/-- `AsksFor definitions node key`: following references from `node` asks for `key`, be it at once or
    after other keys. -/
inductive AsksFor (definitions : Definitions) : Node → String → Prop
  | here {node : Node} {key : String} :
      node.target? = some key → AsksFor definitions node key
  | later {node base : Node} {next key : String} :
      node.target? = some next → definitions.find? next = some base →
      AsksFor definitions base key → AsksFor definitions node key

/-- `others` has every definition that `definitions` has, and may have more. -/
def Definitions.Extends (others definitions : Definitions) : Prop :=
  ∀ key base, definitions.find? key = some base → others.find? key = some base

variable {definitions others : Definitions} {node last resolved : Node} {steps : List Step}
  {key : String}

theorem Definitions.find?_insert (definitions : Definitions) (key : String) (base : Node)
    (k : String) :
    (definitions.insert key base).find? k = if k = key then some base else definitions.find? k :=
  Entries.find?_insert definitions.nodes key base k

theorem extends_insert (absent : definitions.find? key = none) (base : Node) :
    (definitions.insert key base).Extends definitions := by
  intro k found defined
  have other : k ≠ key := by
    rintro rfl
    rw [absent] at defined
    cases defined
  rw [Definitions.find?_insert, if_neg other, defined]

theorem not_asksFor_of_final (final : node.target? = none) : ¬ AsksFor definitions node key := by
  intro asks
  cases asks with
  | here target | later target =>
    rw [final] at target
    cases target

/-- A node asks for its own key first, and then for what the definition under it asks for. -/
theorem AsksFor.eq_or_later {next : String} {base : Node} (asks : AsksFor definitions node key)
    (target : node.target? = some next) (found : definitions.find? next = some base) :
    key = next ∨ AsksFor definitions base key := by
  cases asks with
  | here target' =>
    rw [target] at target'
    cases target'
    exact .inl rfl
  | later target' found' further =>
    rw [target] at target'
    cases target'
    rw [found] at found'
    cases found'
    exact .inr further

/-! ## Walks in two collections -/

/-- What the last node of a walk asks for is asked for from its first node on. -/
theorem Walk.asksFor (walk : Walk definitions node steps last)
    (asks : last.target? = some key) : AsksFor definitions node key := by
  induction walk with
  | stay => exact .here asks
  | follow refers found _ ih =>
    exact .later (target?_eq_some_iff.mpr ⟨_, refers, rfl⟩) found (ih asks)

theorem Walk.of_agree (walk : Walk definitions node steps last)
    (agree : ∀ key, AsksFor definitions node key → others.find? key = definitions.find? key) :
    Walk others node steps last := by
  induction walk with
  | stay node => exact .stay node
  | @follow node base last pointer steps refers found _ ih =>
    have asks : node.target? = some (definitionKey pointer) :=
      target?_eq_some_iff.mpr ⟨pointer, refers, rfl⟩
    have found' : others.find? (definitionKey pointer) = some base :=
      (agree _ (.here asks)).trans found
    exact .follow refers found' (ih fun key further => agree key (.later asks found further))

theorem Walk.of_extends (walk : Walk definitions node steps last)
    (more : others.Extends definitions) : Walk others node steps last := by
  induction walk with
  | stay node => exact .stay node
  | follow refers found _ ih => exact .follow refers (more _ _ found) ih

/-! ## Resolution in two collections -/

/-- The walk from the node to its end is the same in both collections, and so is the end: nothing is
    left to follow, or nothing is found under the next key, or the next key has been asked for. -/
theorem resolve_eq_of_agree
    (agree : ∀ key, AsksFor definitions node key → others.find? key = definitions.find? key) :
    node.resolve others = node.resolve definitions := by
  obtain ⟨steps, last, walk, distinct, final | ⟨pointer, refers, missing | again⟩⟩ :=
    Walk.exists_end definitions node
  · have walk' := walk.of_agree agree
    rw [resolve_of_final walk distinct final, resolve_of_final walk' distinct final]
  · have walk' := walk.of_agree agree
    have asks : AsksFor definitions node (definitionKey pointer) :=
      walk.asksFor (target?_eq_some_iff.mpr ⟨pointer, refers, rfl⟩)
    have missing' : others.find? (definitionKey pointer) = none := (agree _ asks).trans missing
    rw [resolve_of_missing walk distinct refers missing,
      resolve_of_missing walk' distinct refers missing']
  · have walk' := walk.of_agree agree
    rw [resolve_of_repeated walk distinct refers again,
      resolve_of_repeated walk' distinct refers again]

theorem resolve_insert_of_unasked (unasked : ¬ AsksFor definitions node key) (base : Node) :
    node.resolve (definitions.insert key base) = node.resolve definitions := by
  refine resolve_eq_of_agree fun k asks => ?_
  have other : k ≠ key := fun same => unasked (same ▸ asks)
  rw [Definitions.find?_insert, if_neg other]

theorem resolve_of_extends (more : others.Extends definitions)
    (succeeds : node.resolve definitions = .ok resolved) : node.resolve others = .ok resolved := by
  obtain ⟨steps, last, walk, distinct, final, rfl⟩ := layered_of_resolve succeeds
  exact resolve_of_final (walk.of_extends more) distinct final

end RecordRules
