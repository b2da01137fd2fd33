/-
  What a resolved node inherits. The nodes that a walk leaves behind are laid over its last node,
  so of several nodes with one property the nearest decides. The last node's properties come first,
  then from the farthest node to the nearest those that each adds.

  1. `find?_layered`, `keys_layered`: values and order of properties in nodes laid over each other,
     together in `inherited_layered`.
  2. `resolve_refer_of_found`, `resolve_refer_of_missing`: a pointer may be written with the start
     of pointers or without it.
  3. `resolve_nearest_wins`: the resolved node in full.
-/
import Mathlib
import RecordRules.Proofs.Resolution.Outcome

namespace RecordRules

/-! ## Properties of nodes laid over each other -/

/-- The properties of nodes laid over a last one, in order: those of the last node, then from the
    farthest node to the nearest those that no farther one has. -/
def declared (last : Node) : List Node → List String
  | [] => last.properties.keys
  | node :: farther =>
    declared last farther ++ node.properties.keys.filter fun property =>
      property ≠ Node.referenceKey ∧ ∀ n ∈ farther ++ [last], n.find? property = none

/-- `resolved` is what is left of nodes laid over a last one: it refers to nothing, has each other
    property from the first node that has it, and declares what `declared` lists. -/
structure Inherited (nodes : List Node) (last resolved : Node) : Prop where
  free : resolved.find? Node.referenceKey = none
  nearest : ∀ property, property ≠ Node.referenceKey →
    resolved.find? property = (nodes ++ [last]).findSome? fun node => node.find? property
  order : resolved.properties.keys = declared last nodes

theorem reference?_eq_none_iff {node : Node} :
    node.reference? = none ↔ node.find? Node.referenceKey = none :=
  Option.map_eq_none_iff

namespace Node

variable (base node : Node) (property : String)

theorem distinct_own : ((node.properties.list.filter fun e => e.1 ≠ referenceKey).map
    Prod.fst).Nodup := by
  rw [keys_filter_ne]
  exact node.properties.distinct.filter _

/-- A node laid over a base decides about its own properties, but not about the reference. -/
theorem find?_overlay : (base.overlay node).find? property =
    if property = referenceKey then base.find? property
    else (node.find? property).or (base.find? property) := by
  have laid := Entries.find?_insertAll node.distinct_own base.properties property
  rw [lookup_filter_ne] at laid
  by_cases h : property = referenceKey
  · simpa [h, overlay, find?, Entries.find?] using laid
  · simpa [h, overlay, find?, Entries.find?] using laid

theorem keys_overlay : (base.overlay node).properties.keys =
    base.properties.keys ++ node.properties.keys.filter fun property =>
      property ≠ referenceKey ∧ property ∉ base.properties.keys := by
  have laid := Entries.keys_insertAll node.distinct_own base.properties
  rw [keys_filter_ne, List.filter_filter] at laid
  rw [overlay, laid]
  congr 1
  refine List.filter_congr fun k _ => ?_
  simp [Bool.and_comm]

theorem find?_eq_none_iff {node : Node} {property : String} :
    node.find? property = none ↔ property ∉ node.properties.keys :=
  Entries.find?_eq_none_iff

/-- The reference of a node does not matter where the node is laid over a base. -/
theorem overlay_insert_reference (value : Json) :
    base.overlay (node.insert referenceKey value) = base.overlay node := by
  rw [overlay, overlay]
  exact congrArg (fun entries => Node.mk (base.properties.insertAll entries))
    (filter_put_ne referenceKey value node.properties.list)

end Node

theorem find?_layered_reference (base : Node) (nodes : List Node) :
    (layered base nodes).find? Node.referenceKey = base.find? Node.referenceKey := by
  induction nodes with
  | nil => rfl
  | cons node farther ih => rw [layered_cons, Node.find?_overlay, if_pos rfl, ih]

/-- Of the nodes that have a property the nearest decides. -/
theorem find?_layered (base : Node) (nodes : List Node) {property : String}
    (other : property ≠ Node.referenceKey) :
    (layered base nodes).find? property =
      (nodes ++ [base]).findSome? fun node => node.find? property := by
  induction nodes with
  | nil =>
    rw [layered_nil, List.nil_append, List.findSome?_singleton]
  | cons node farther ih =>
    rw [layered_cons, Node.find?_overlay, if_neg other, ih, List.cons_append, List.findSome?_cons]
    cases node.find? property <;> rfl

theorem keys_layered (base : Node) (nodes : List Node) :
    (layered base nodes).properties.keys = declared base nodes := by
  induction nodes with
  | nil => rfl
  | cons node farther ih =>
    rw [layered_cons, Node.keys_overlay, declared, ih]
    congr 1
    refine List.filter_congr fun property _ => ?_
    -- a property is new to the nodes laid over each other if it is new to each of them
    by_cases other : property = Node.referenceKey
    · simp [other]
    · have new : property ∉ declared base farther ↔
          ∀ n ∈ farther ++ [base], n.find? property = none := by
        rw [← ih, ← Node.find?_eq_none_iff, find?_layered base farther other,
          List.findSome?_eq_none_iff]
      simp only [new]

theorem inherited_layered {last : Node} (final : last.reference? = none) (nodes : List Node) :
    Inherited nodes last (layered last nodes) where
  free := (find?_layered_reference last nodes).trans (reference?_eq_none_iff.mp final)
  nearest _ other := find?_layered last nodes other
  order := keys_layered last nodes

/-! ## The two ways to write a pointer -/

theorem dropStart?_append (start cs : List Char) : dropStart? start (start ++ cs) = some cs := by
  induction start with
  | nil => rfl
  | cons c start ih =>
    rw [List.cons_append, dropStart?, if_pos rfl, ih]

theorem dropStart?_of_not_prefix {start cs : List Char} (other : ¬ start <+: cs) :
    dropStart? start cs = none := by
  induction start generalizing cs with
  | nil => exact absurd (List.nil_prefix) other
  | cons s start ih =>
    cases cs with
    | nil => rfl
    | cons c cs =>
      rw [dropStart?]
      split
      · next same =>
        subst same
        exact ih fun h => other (List.cons_prefix_cons.mpr ⟨rfl, h⟩)
      · rfl

theorem definitionKey_pointer (key : String) : definitionKey (definitionsPointer ++ key) = key := by
  rw [definitionKey, String.toList_append, dropStart?_append]
  exact String.ofList_toList

theorem definitionKey_bare {key : String}
    (bare : ¬ definitionsPointer.toList <+: key.toList) : definitionKey key = key := by
  rw [definitionKey, dropStart?_of_not_prefix bare]

/-- A node with its reference set to a pointer. -/
def Node.refer (node : Node) (pointer : String) : Node :=
  node.insert Node.referenceKey (.text pointer)

theorem reference?_refer (node : Node) (pointer : String) :
    (node.refer pointer).reference? = some pointer := by
  unfold Node.refer Node.reference? Node.insert Node.find?
  rw [Entries.find?_insert, if_pos rfl]
  rfl

/-- Pointers to one definition are as good as each other. -/
theorem resolve_refer_of_found {definitions : Definitions} {p q key : String} {base : Node}
    (hp : definitionKey p = key) (hq : definitionKey q = key)
    (found : definitions.find? key = some base) (node : Node) :
    (node.refer p).resolve definitions = (node.refer q).resolve definitions := by
  have nonempty : definitions.size ≠ 0 := by
    intro empty
    have there : key ∈ definitions.nodes.keys := Entries.mem_keys_of_find? found
    have nothing : definitions.nodes.keys = [] :=
      List.eq_nil_of_length_eq_zero ((Entries.length_keys definitions.nodes).trans empty)
    rw [nothing] at there
    cases there
  obtain ⟨unasked, bound⟩ := Nat.exists_eq_succ_of_ne_zero nonempty
  have through (pointer : String) (target : definitionKey pointer = key) :
      (node.refer pointer).resolve definitions =
        (base.resolveFrom definitions unasked [key]).map fun base => base.overlay node := by
    subst target
    rw [Node.resolve, bound, resolveFrom_of_found (reference?_refer node pointer) (by simp) found]
    simp only [Node.refer, Node.overlay_insert_reference, List.nil_append]
  rw [through p hp, through q hq]

theorem resolve_refer_of_missing {definitions : Definitions} {pointer : String}
    (missing : definitions.find? (definitionKey pointer) = none) (node : Node) :
    (node.refer pointer).resolve definitions = .error (.noDefinition pointer) :=
  resolve_of_missing (.stay _) List.nodup_nil (reference?_refer node pointer) missing

/-! ## The resolved node -/

theorem resolve_of_no_reference {node : Node} (final : node.reference? = none)
    (definitions : Definitions) : node.resolve definitions = .ok node :=
  resolve_of_final (.stay node) List.nodup_nil final

theorem inherited_of_resolve {definitions : Definitions} {node last resolved : Node}
    {steps : List Step} (succeeds : node.resolve definitions = .ok resolved)
    (walk : Walk definitions node steps last) (final : last.reference? = none) :
    Inherited (passed steps) last resolved := by
  obtain ⟨steps', last', walk', _, final', rfl⟩ := layered_of_resolve succeeds
  obtain ⟨rfl, rfl⟩ := walk.unique_of_final final walk' final'
  exact inherited_layered final (passed steps)

theorem reference?_of_resolve {definitions : Definitions} {node resolved : Node}
    (succeeds : node.resolve definitions = .ok resolved) : resolved.reference? = none := by
  obtain ⟨steps, last, walk, _, final, _⟩ := layered_of_resolve succeeds
  exact reference?_eq_none_iff.mpr (inherited_of_resolve succeeds walk final).free

/-- A resolved node inherits from the nodes of the walk to a node that refers to nothing: the
    nearest node decides about a property, and the farthest come first in order. So resolution
    leaves alone a node without a reference, its own results among them, and the two ways to write
    a pointer differ only in the pointer that is named when there is no definition. -/
theorem resolve_nearest_wins (definitions : Definitions) (node : Node) :
    (∀ resolved, node.resolve definitions = .ok resolved →
      Arrives definitions node ∧
      (∀ steps last, Walk definitions node steps last → last.reference? = none →
        Inherited (passed steps) last resolved) ∧
      ∀ others, resolved.resolve others = .ok resolved) ∧
    (node.reference? = none → node.resolve definitions = .ok node) ∧
    ∀ key, ¬ definitionsPointer.toList <+: key.toList →
      (definitions.find? key ≠ none →
        (node.refer (definitionsPointer ++ key)).resolve definitions =
          (node.refer key).resolve definitions) ∧
      (definitions.find? key = none →
        (node.refer (definitionsPointer ++ key)).resolve definitions =
          .error (.noDefinition (definitionsPointer ++ key)) ∧
        (node.refer key).resolve definitions = .error (.noDefinition key)) := by
  refine ⟨?_, fun final => resolve_of_no_reference final definitions, fun key bare => ⟨?_, ?_⟩⟩
  · intro resolved succeeds
    refine ⟨arrives_of_resolve succeeds, ?_, ?_⟩
    · intro steps last walk final
      exact inherited_of_resolve succeeds walk final
    · intro others
      exact resolve_of_no_reference (reference?_of_resolve succeeds) others
  · intro defined
    obtain ⟨base, found⟩ := Option.ne_none_iff_exists'.mp defined
    exact resolve_refer_of_found (definitionKey_pointer key) (definitionKey_bare bare) found node
  · intro missing
    exact ⟨resolve_refer_of_missing ((definitionKey_pointer key).symm ▸ missing) node,
      resolve_refer_of_missing ((definitionKey_bare bare).symm ▸ missing) node⟩

/-- Amounts, and large amounts, which are amounts with another least value and a greatest one. -/
def amounts : Definitions where
  nodes := .ofList
    [("amount", ⟨.ofList [("type", .text "number"), ("minValue", .nat 1)]⟩),
     ("largeAmount", ⟨.ofList [("maxValue", .nat 90), ("$ref", .text "amount"),
       ("minValue", .nat 7)]⟩)]

/-- A large amount that is required and has a greatest value of its own. -/
def loanAmount : Node :=
  ⟨.ofList [("required", .bool true), ("$ref", .text "#/definitions/largeAmount"),
    ("maxValue", .nat 50)]⟩

/-- What is left of a loan's amount when its references are followed. -/
def resolvedLoanAmount : Node :=
  ⟨.ofList [("type", .text "number"), ("minValue", .nat 7), ("maxValue", .nat 50),
    ("required", .bool true)]⟩

theorem resolve_nearest_wins_loanAmount :
    loanAmount.resolve amounts = .ok resolvedLoanAmount ∧
      Arrives amounts loanAmount ∧
      (∀ steps last, Walk amounts loanAmount steps last → last.reference? = none →
        Inherited (passed steps) last resolvedLoanAmount) ∧
      (∀ others, resolvedLoanAmount.resolve others = .ok resolvedLoanAmount) ∧
      resolvedLoanAmount.resolve amounts = .ok resolvedLoanAmount ∧
      (loanAmount.refer (definitionsPointer ++ "amount")).resolve amounts =
        (loanAmount.refer "amount").resolve amounts ∧
      (loanAmount.refer (definitionsPointer ++ "rate")).resolve amounts =
        .error (.noDefinition (definitionsPointer ++ "rate")) ∧
      (loanAmount.refer "rate").resolve amounts = .error (.noDefinition "rate") := by
  have succeeds : loanAmount.resolve amounts = .ok resolvedLoanAmount := by cbv
  have free : resolvedLoanAmount.reference? = none := by decide
  have defined : amounts.find? "amount" ≠ none := Option.isSome_iff_ne_none.mp (by decide)
  have missing : amounts.find? "rate" = none := by decide
  obtain ⟨arrives, inherited, again⟩ :=
    (resolve_nearest_wins amounts loanAmount).1 resolvedLoanAmount succeeds
  refine ⟨succeeds, arrives, inherited, again, ?_, ?_, ?_⟩
  · exact (resolve_nearest_wins amounts resolvedLoanAmount).2.1 free
  · exact ((resolve_nearest_wins amounts loanAmount).2.2 "amount" (by decide)).1 defined
  · exact ((resolve_nearest_wins amounts loanAmount).2.2 "rate" (by decide)).2 missing

end RecordRules
