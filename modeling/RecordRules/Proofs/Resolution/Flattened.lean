/-
  Definitions in their resolved forms. A definition that resolves can be replaced by what it resolves
  to, and one that does not resolve can be left out: every node then resolves to the same as before,
  or fails as before. The keys that were asked for on the way to a definition serve to find cycles
  only, and a way that has an end never comes back to a definition that it has left.

  1. `Walk.not_mem_asked`: a walk that ends does not come back to the definition it starts from.
  2. `resolve_eq_ok_iff_of_reference`: a node resolves as the definition that it refers to does.
  3. `find?_flatten`: the definitions that resolve, in their resolved forms.
  4. `flattening_preserves`: resolution under the definitions in their resolved forms.
-/
import RecordRules.Proofs.FirstError
import RecordRules.Proofs.Resolution.Inheritance

namespace RecordRules

section

variable {definitions flat : Definitions} {node base last resolved : Node} {steps : List Step}
  {key pointer : String}

/-! ## Walks that end -/

/-- From the definition of a key that a walk asks for, a part of the walk is left. -/
theorem Walk.exists_rest (walk : Walk definitions node steps last) (asks : key ∈ asked steps)
    (found : definitions.find? key = some base) :
    ∃ rest, Walk definitions base rest last ∧ rest.length < steps.length := by
  induction walk with
  | stay => cases asks
  | follow refers found' more ih =>
    rcases List.mem_cons.mp asks with rfl | later
    · cases found.symm.trans found'
      exact ⟨_, more, Nat.lt_succ_self _⟩
    · obtain ⟨rest, walk, shorter⟩ := ih later
      exact ⟨rest, walk, Nat.lt_succ_of_lt shorter⟩

/-- A walk that ends does not ask for the definition that it starts from. -/
theorem Walk.not_mem_asked (walk : Walk definitions base steps last)
    (final : last.reference? = none) (found : definitions.find? key = some base) :
    key ∉ asked steps := by
  intro again
  obtain ⟨rest, walk', shorter⟩ := walk.exists_rest again found
  -- the walk would go on from the same node by fewer steps to the same end
  obtain ⟨rfl, _⟩ := walk.unique_of_final final walk' final
  exact Nat.lt_irrefl _ shorter

/-! ## One reference -/

/-- A node that refers to a definition resolves if the definition resolves by itself, and then it is
    laid over the definition's resolved form. -/
theorem resolve_eq_ok_iff_of_reference (refers : node.reference? = some pointer) :
    node.resolve definitions = .ok resolved ↔
      ∃ base rules, definitions.find? (definitionKey pointer) = some base ∧
        base.resolve definitions = .ok rules ∧ rules.overlay node = resolved := by
  constructor
  · intro succeeds
    obtain ⟨steps, last, walk, distinct, final, rfl⟩ := layered_of_resolve succeeds
    cases walk with
    | stay =>
      rw [final] at refers
      cases refers
    | follow refers' found more =>
      cases refers.symm.trans refers'
      exact ⟨_, _, found, resolve_of_final more (List.nodup_cons.mp distinct).2 final, rfl⟩
  · rintro ⟨base, rules, found, succeeds, rfl⟩
    obtain ⟨steps, last, walk, distinct, final, rfl⟩ := layered_of_resolve succeeds
    have first : definitionKey pointer ∉ asked steps := walk.not_mem_asked final found
    exact resolve_of_final (.follow refers found walk) (List.nodup_cons.mpr ⟨first, distinct⟩) final

/-! ## Definitions in their resolved forms -/

/-- `flat` has the resolved form of each definition that resolves, and nothing else. -/
def Flattened (definitions flat : Definitions) : Prop :=
  ∀ key rules, flat.find? key = some rules ↔
    ∃ base, definitions.find? key = some base ∧ base.resolve definitions = .ok rules

/-- The definitions that resolve, in their resolved forms. -/
def Definitions.flatten (definitions : Definitions) : Definitions where
  nodes := definitions.nodes.filterMap fun base => (base.resolve definitions).toOption

theorem find?_flatten (definitions : Definitions) (key : String) :
    definitions.flatten.find? key =
      (definitions.find? key).bind fun base => (base.resolve definitions).toOption :=
  Entries.find?_filterMap definitions.nodes _ key

theorem flattened_flatten (definitions : Definitions) :
    Flattened definitions definitions.flatten := by
  intro key rules
  rw [find?_flatten, Option.bind_eq_some_iff]
  simp only [toOption_eq_some_iff]

/-- What a resolved form is laid under does not change when all definitions are resolved. -/
theorem Flattened.resolve_iff (same : Flattened definitions flat) :
    node.resolve flat = .ok resolved ↔ node.resolve definitions = .ok resolved := by
  cases refers : node.reference? with
  | none =>
    rw [resolve_of_no_reference refers, resolve_of_no_reference refers]
  | some pointer =>
    rw [resolve_eq_ok_iff_of_reference refers, resolve_eq_ok_iff_of_reference refers]
    constructor
    · rintro ⟨base, rules, found, succeeds, rfl⟩
      obtain ⟨raw, found', succeeds'⟩ := (same _ base).mp found
      -- a definition of `flat` refers to nothing, so that it is its own resolved form
      rw [resolve_of_no_reference (reference?_of_resolve succeeds')] at succeeds
      cases succeeds
      exact ⟨raw, base, found', succeeds', rfl⟩
    · rintro ⟨base, rules, found, succeeds, rfl⟩
      have plain : rules.reference? = none := reference?_of_resolve succeeds
      exact ⟨rules, rules, (same _ rules).mpr ⟨base, found, succeeds⟩,
        resolve_of_no_reference plain flat, rfl⟩

end

/-- Every collection of definitions can be flattened: each definition that resolves is replaced by
    its resolved form, and the others, which are broken or lead into a cycle, are left out. A node
    then resolves exactly if it did before, and to the same node with its properties in the same
    order. -/
theorem flattening_preserves (definitions : Definitions) :
    (∃ flat, Flattened definitions flat) ∧
    ∀ flat, Flattened definitions flat → ∀ node resolved : Node,
      node.resolve flat = .ok resolved ↔ node.resolve definitions = .ok resolved :=
  ⟨⟨definitions.flatten, flattened_flatten definitions⟩, fun _ same _ _ => same.resolve_iff⟩

/-- A rate, a high rate, an old rate whose base is lost, and two rates that refer to each other. -/
def rates : Definitions where
  nodes := .ofList
    [("rate", ⟨.ofList [("type", .text "number"), ("minValue", .nat 0)]⟩),
     ("highRate", ⟨.ofList [("minValue", .nat 5), ("$ref", .text "#/definitions/rate")]⟩),
     ("oldRate", ⟨.ofList [("$ref", .text "lostRate")]⟩),
     ("buyRate", ⟨.ofList [("$ref", .text "sellRate")]⟩),
     ("sellRate", ⟨.ofList [("$ref", .text "buyRate")]⟩)]

/-- The rates that resolve, without references. -/
def flatRates : Definitions where
  nodes := .ofList
    [("rate", ⟨.ofList [("type", .text "number"), ("minValue", .nat 0)]⟩),
     ("highRate", ⟨.ofList [("type", .text "number"), ("minValue", .nat 5)]⟩)]

/-- A limited rate resolves over two references as over one. A rate that is bought resolves in
    neither way. -/
theorem flattening_preserves_rates :
    Flattened rates flatRates ∧
      Node.resolve ⟨.ofList [("maxValue", .nat 9), ("$ref", .text "highRate")]⟩ flatRates =
        .ok ⟨.ofList [("type", .text "number"), ("minValue", .nat 5), ("maxValue", .nat 9)]⟩ ∧
      ∀ resolved,
        Node.resolve ⟨.ofList [("$ref", .text "buyRate")]⟩ flatRates ≠ .ok resolved := by
  have same : flatRates = rates.flatten := by cbv
  have flattened : Flattened rates flatRates := same ▸ flattened_flatten rates
  have limited : Node.resolve ⟨.ofList [("maxValue", .nat 9), ("$ref", .text "highRate")]⟩ rates =
      .ok ⟨.ofList [("type", .text "number"), ("minValue", .nat 5), ("maxValue", .nat 9)]⟩ := by cbv
  have bought : Node.resolve ⟨.ofList [("$ref", .text "buyRate")]⟩ rates =
      .error (.cycle ["buyRate", "sellRate", "buyRate"]) := by cbv
  have preserves := (flattening_preserves rates).2 flatRates flattened
  refine ⟨flattened, (preserves _ _).mpr limited, fun resolved succeeds => ?_⟩
  cases bought.symm.trans ((preserves _ resolved).mp succeeds)

end RecordRules
