/-
  Walks along references. From a node that refers to a definition the walk goes on to the
  definition, and the node stays behind as a layer that is laid over what is found at the end.

  1. `resolveFrom_walk`: resolution follows a walk as long as no key is asked for twice.
  2. `Walk.length_le_size`: such a walk has at most as many steps as there are definitions.
  3. `Walk.unique_of_final`: there is no other walk to a node that refers to nothing.
  4. `Walk.exists_end`: from every node one such walk goes on until nothing is left to follow, or
     nothing is found, or the next key has been asked for.
-/
import Mathlib.Data.List.Nodup
import Mathlib.Data.List.Perm.Subperm
import RecordRules.Proofs.Entries
import RecordRules.Rule.Resolve

namespace RecordRules

/-- A step of a walk: the node that is left behind, and the key that it asks for. -/
structure Step where
  node : Node
  key : String

/-- `Walk definitions node steps last`: following references from `node` leads over `steps` to
    `last`. A walk may stop anywhere. -/
inductive Walk (definitions : Definitions) : Node → List Step → Node → Prop
  | stay (node : Node) : Walk definitions node [] node
  | follow {node base last : Node} {pointer : String} {steps : List Step} :
      node.reference? = some pointer →
      definitions.find? (definitionKey pointer) = some base →
      Walk definitions base steps last →
      Walk definitions node (⟨node, definitionKey pointer⟩ :: steps) last

/-- The keys that the steps of a walk ask for, in order. -/
def asked (steps : List Step) : List String := steps.map Step.key

/-- The nodes that the steps of a walk leave behind, in order. -/
def passed (steps : List Step) : List Node := steps.map Step.node

@[simp] theorem asked_nil : asked [] = [] := rfl

@[simp] theorem asked_cons (step : Step) (steps : List Step) :
    asked (step :: steps) = step.key :: asked steps := rfl

@[simp] theorem asked_append (steps more : List Step) :
    asked (steps ++ more) = asked steps ++ asked more := List.map_append

@[simp] theorem passed_nil : passed [] = [] := rfl

@[simp] theorem passed_cons (step : Step) (steps : List Step) :
    passed (step :: steps) = step.node :: passed steps := rfl

/-- Nodes laid over a base, the first of them on top. -/
def layered (base : Node) (nodes : List Node) : Node :=
  nodes.foldr (fun node base => base.overlay node) base

@[simp] theorem layered_nil (base : Node) : layered base [] = base := rfl

@[simp] theorem layered_cons (base node : Node) (nodes : List Node) :
    layered base (node :: nodes) = (layered base nodes).overlay node := rfl

/-- Distinct keys that are all defined are at most as many as there are definitions. -/
theorem length_le_size_of_subset {definitions : Definitions} {keys : List String}
    (distinct : keys.Nodup) (defined : keys ⊆ definitions.nodes.keys) :
    keys.length ≤ definitions.size := by
  calc
    keys.length ≤ definitions.nodes.keys.length := (distinct.subperm defined).length_le
    _ = definitions.size := Entries.length_keys definitions.nodes

/-! ## One step of a resolution -/

section Steps

variable {definitions : Definitions} {unasked : Nat} {chain : List String} {node base : Node}
  {pointer : String}

theorem resolveFrom_of_none (final : node.reference? = none) :
    node.resolveFrom definitions unasked chain = .ok node := by
  unfold Node.resolveFrom
  rw [final]

theorem resolveFrom_of_mem (refers : node.reference? = some pointer)
    (again : definitionKey pointer ∈ chain) :
    node.resolveFrom definitions unasked chain =
      .error (.cycle (chain ++ [definitionKey pointer])) := by
  unfold Node.resolveFrom
  rw [refers]
  simp [again]

theorem resolveFrom_of_missing (refers : node.reference? = some pointer)
    (first : definitionKey pointer ∉ chain)
    (missing : definitions.find? (definitionKey pointer) = none) :
    node.resolveFrom definitions unasked chain = .error (.noDefinition pointer) := by
  unfold Node.resolveFrom
  rw [refers]
  simp [first, missing]

theorem resolveFrom_of_found (refers : node.reference? = some pointer)
    (first : definitionKey pointer ∉ chain)
    (found : definitions.find? (definitionKey pointer) = some base) :
    node.resolveFrom definitions (unasked + 1) chain =
      (base.resolveFrom definitions unasked (chain ++ [definitionKey pointer])).map
        fun base => base.overlay node := by
  conv_lhs => unfold Node.resolveFrom
  rw [refers]
  simp [first, found]

end Steps

/-! ## Resolution along a walk -/

/-- Resolution follows a walk whose keys are new, and lays the nodes that are left behind over what
    it finds where the walk stops. -/
theorem resolveFrom_walk {definitions : Definitions} {node last : Node} {steps : List Step}
    (walk : Walk definitions node steps last) (unasked : Nat) {chain : List String}
    (distinct : (chain ++ asked steps).Nodup) :
    node.resolveFrom definitions (unasked + steps.length) chain =
      (last.resolveFrom definitions unasked (chain ++ asked steps)).map
        fun base => layered base (passed steps) := by
  induction walk generalizing chain with
  | stay node =>
    cases h : node.resolveFrom definitions unasked chain <;> simp [h, Except.map]
  | @follow node base last pointer steps refers found _ ih =>
    -- the key moves from the steps that are left to the chain
    have split : (chain ++ [definitionKey pointer]) ++ asked steps =
        chain ++ asked (⟨node, definitionKey pointer⟩ :: steps) := by simp
    have first : definitionKey pointer ∉ chain := by
      intro again
      exact (List.nodup_append.mp distinct).2.2 _ again _ (List.mem_cons_self ..) rfl
    rw [List.length_cons, ← Nat.add_assoc, resolveFrom_of_found refers first found,
      ih (split ▸ distinct), split]
    cases last.resolveFrom definitions unasked
      (chain ++ asked (⟨node, definitionKey pointer⟩ :: steps)) <;> rfl

namespace Walk

variable {definitions : Definitions} {node last base : Node} {steps : List Step} {pointer : String}

theorem snoc (walk : Walk definitions node steps last) (refers : last.reference? = some pointer)
    (found : definitions.find? (definitionKey pointer) = some base) :
    Walk definitions node (steps ++ [⟨last, definitionKey pointer⟩]) base := by
  induction walk with
  | stay node => exact .follow refers found (.stay base)
  | follow refers' found' _ ih => exact .follow refers' found' (ih refers)

/-- There is one way to follow references until nothing is left to follow. -/
theorem unique_of_final {last' : Node} {steps' : List Step}
    (walk : Walk definitions node steps last) (final : last.reference? = none)
    (walk' : Walk definitions node steps' last') (final' : last'.reference? = none) :
    steps = steps' ∧ last = last' := by
  induction walk generalizing steps' with
  | stay node =>
    cases walk' with
    | stay => exact ⟨rfl, rfl⟩
    | follow refers _ _ =>
      rw [final] at refers
      cases refers
  | follow refers found _ ih =>
    cases walk' with
    | stay =>
      rw [final'] at refers
      cases refers
    | follow refers' found' more =>
      -- a node has one pointer, and a key one definition
      rw [refers] at refers'
      cases refers'
      rw [found] at found'
      cases found'
      obtain ⟨rfl, rfl⟩ := ih final more
      exact ⟨rfl, rfl⟩

/-- Every key that a step asks for is defined. -/
theorem asked_subset (walk : Walk definitions node steps last) :
    asked steps ⊆ definitions.nodes.keys := by
  induction walk with
  | stay => simp
  | follow _ found _ ih => exact List.cons_subset.mpr ⟨Entries.mem_keys_of_find? found, ih⟩

theorem length_le_size (walk : Walk definitions node steps last)
    (distinct : (asked steps).Nodup) : steps.length ≤ definitions.size := by
  have few := length_le_size_of_subset distinct walk.asked_subset
  rwa [asked, List.length_map] at few

/-- Where a walk ends that has asked for keys: nothing is left to follow, or nothing is found, or
    the next key has been asked for. -/
def Ended (definitions : Definitions) (keys : List String) (last : Node) : Prop :=
  last.reference? = none ∨
  ∃ pointer, last.reference? = some pointer ∧
    (definitions.find? (definitionKey pointer) = none ∨ definitionKey pointer ∈ keys)

/-- A walk that has not ended goes on by a key that is new. -/
theorem ended_or_follow (walk : Walk definitions node steps last)
    (distinct : (asked steps).Nodup) :
    Ended definitions (asked steps) last ∨
      ∃ step base, Walk definitions node (steps ++ [step]) base ∧
        (asked (steps ++ [step])).Nodup := by
  cases refers : last.reference? with
  | none => exact .inl (.inl refers)
  | some pointer =>
    cases found : definitions.find? (definitionKey pointer) with
    | none => exact .inl (.inr ⟨pointer, refers, .inl found⟩)
    | some base =>
      by_cases again : definitionKey pointer ∈ asked steps
      · exact .inl (.inr ⟨pointer, refers, .inr again⟩)
      · refine .inr ⟨_, base, walk.snoc refers found, ?_⟩
        rw [asked_append]
        exact distinct.append (List.nodup_singleton _) (List.disjoint_singleton.mpr again)

/-- Any walk without a repeated key can be prolonged until it ends, since it cannot have more steps
    than there are definitions. -/
theorem exists_end_of_walk {left : Nat} (walk : Walk definitions node steps last)
    (distinct : (asked steps).Nodup) (bound : definitions.size = steps.length + left) :
    ∃ steps last, Walk definitions node steps last ∧ (asked steps).Nodup ∧
      Ended definitions (asked steps) last := by
  induction left generalizing steps last with
  | zero =>
    rcases walk.ended_or_follow distinct with ended | ⟨step, base, longer, distinct'⟩
    · exact ⟨steps, last, walk, distinct, ended⟩
    · have tooLong := longer.length_le_size distinct'
      rw [List.length_append, List.length_singleton] at tooLong
      omega
  | succ left ih =>
    rcases walk.ended_or_follow distinct with ended | ⟨step, base, longer, distinct'⟩
    · exact ⟨steps, last, walk, distinct, ended⟩
    · refine ih longer distinct' ?_
      rw [List.length_append, List.length_singleton]
      omega

theorem exists_end (definitions : Definitions) (node : Node) :
    ∃ steps last, Walk definitions node steps last ∧ (asked steps).Nodup ∧
      Ended definitions (asked steps) last :=
  exists_end_of_walk (.stay node) List.nodup_nil (Nat.zero_add _).symm

end Walk

/-! ## What resolution gives at the end of a walk -/

section Ends

variable {definitions : Definitions} {node last : Node} {steps : List Step} {pointer : String}

/-- A walk bounds its own length, so that resolution reaches its end. -/
theorem resolve_eq_of_walk (walk : Walk definitions node steps last)
    (distinct : (asked steps).Nodup) :
    ∃ unasked, node.resolve definitions =
      (last.resolveFrom definitions unasked (asked steps)).map
        fun base => layered base (passed steps) := by
  obtain ⟨unasked, bound⟩ := Nat.exists_eq_add_of_le' (walk.length_le_size distinct)
  refine ⟨unasked, ?_⟩
  rw [Node.resolve, bound, resolveFrom_walk walk unasked (by simpa using distinct),
    List.nil_append]

theorem resolve_of_final (walk : Walk definitions node steps last)
    (distinct : (asked steps).Nodup) (final : last.reference? = none) :
    node.resolve definitions = .ok (layered last (passed steps)) := by
  obtain ⟨unasked, along⟩ := resolve_eq_of_walk walk distinct
  rw [along, resolveFrom_of_none final]
  rfl

theorem resolve_of_missing (walk : Walk definitions node steps last)
    (distinct : (asked steps).Nodup) (refers : last.reference? = some pointer)
    (missing : definitions.find? (definitionKey pointer) = none) :
    node.resolve definitions = .error (.noDefinition pointer) := by
  obtain ⟨unasked, along⟩ := resolve_eq_of_walk walk distinct
  have first : definitionKey pointer ∉ asked steps := fun again =>
    Entries.find?_eq_none_iff.mp missing (walk.asked_subset again)
  rw [along, resolveFrom_of_missing refers first missing]
  rfl

theorem resolve_of_repeated (walk : Walk definitions node steps last)
    (distinct : (asked steps).Nodup) (refers : last.reference? = some pointer)
    (again : definitionKey pointer ∈ asked steps) :
    node.resolve definitions = .error (.cycle (asked steps ++ [definitionKey pointer])) := by
  obtain ⟨unasked, along⟩ := resolve_eq_of_walk walk distinct
  rw [along, resolveFrom_of_mem refers again]
  rfl

end Ends

end RecordRules
