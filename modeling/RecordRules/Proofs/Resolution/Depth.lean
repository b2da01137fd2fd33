/-
  The recursion of resolution. A call that finds a definition goes on with it, and that node may be
  larger than the one that refers to it, or the same. So it is not the nodes that make the recursion
  end but the keys: those that are asked for are distinct and defined, and each call leaves one
  definition less to ask for.

  1. `Followed.snoc`: a call that goes on keeps the keys distinct and defined.
  2. `Recursion.followed_chain`: so they are in every call.
  3. `Recursion.followed_found`: so are the keys of the definitions that are found.
  4. `recursion_resolveFrom`: the recursion ends, and resolution gives its result.
  5. `Recursion.unique`: it cannot end in another way.
-/
import RecordRules.Proofs.Resolution.Walk

namespace RecordRules

/-- A call of the recursion: the keys that have been asked for, and the node to resolve. -/
structure Call where
  chain : List String
  node : Node

/-- `Recursion definitions chain node calls result`: resolving `node` after asking for the keys of
    `chain` makes `calls` and gives `result`. The first call is the one for `node`, and every other is
    made by the call before it. Nothing bounds the calls; there is no result without an end to them. -/
inductive Recursion (definitions : Definitions) :
    List String → Node → List Call → Except Defect Node → Prop
  | final {chain : List String} {node : Node} :
      node.reference? = none →
      Recursion definitions chain node [⟨chain, node⟩] (.ok node)
  | again {chain : List String} {node : Node} {pointer : String} :
      node.reference? = some pointer → definitionKey pointer ∈ chain →
      Recursion definitions chain node [⟨chain, node⟩]
        (.error (.cycle (chain ++ [definitionKey pointer])))
  | missing {chain : List String} {node : Node} {pointer : String} :
      node.reference? = some pointer → definitionKey pointer ∉ chain →
      definitions.find? (definitionKey pointer) = none →
      Recursion definitions chain node [⟨chain, node⟩] (.error (.noDefinition pointer))
  | found {chain : List String} {node base : Node} {pointer : String} {calls : List Call}
      {result : Except Defect Node} :
      node.reference? = some pointer → definitionKey pointer ∉ chain →
      definitions.find? (definitionKey pointer) = some base →
      Recursion definitions (chain ++ [definitionKey pointer]) base calls result →
      Recursion definitions chain node (⟨chain, node⟩ :: calls)
        (result.map fun base => base.overlay node)

/-- The key under which a call finds a definition. A key that has been asked for is not looked up. -/
def Call.found? (definitions : Definitions) (call : Call) : Option String :=
  match call.node.reference? with
  | none => none
  | some pointer =>
    if definitionKey pointer ∈ call.chain then none
    else (definitions.find? (definitionKey pointer)).map fun _ => definitionKey pointer

/-- Keys that have been followed to definitions, none of them twice. -/
structure Followed (definitions : Definitions) (keys : List String) : Prop where
  distinct : keys.Nodup
  defined : ∀ key ∈ keys, ∃ base, definitions.find? key = some base

/-! ## The keys that are followed -/

namespace Followed

variable {definitions : Definitions} {keys : List String}

theorem nil (definitions : Definitions) : Followed definitions [] :=
  ⟨List.nodup_nil, fun _ there => nomatch there⟩

theorem snoc {key : String} {base : Node} (followed : Followed definitions keys)
    (first : key ∉ keys) (found : definitions.find? key = some base) :
    Followed definitions (keys ++ [key]) where
  distinct := followed.distinct.append (List.nodup_singleton key)
    (List.disjoint_singleton.mpr first)
  defined := by
    intro k there
    rcases List.mem_append.mp there with before | last
    · exact followed.defined k before
    · rw [List.mem_singleton.mp last]
      exact ⟨base, found⟩

theorem length_le_size (followed : Followed definitions keys) :
    keys.length ≤ definitions.size := by
  refine length_le_size_of_subset followed.distinct fun key there => ?_
  obtain ⟨base, found⟩ := followed.defined key there
  exact Entries.mem_keys_of_find? found

end Followed

/-! ## The calls of a recursion -/

namespace Recursion

variable {definitions : Definitions} {chain : List String} {node : Node} {calls : List Call}
  {result : Except Defect Node}

theorem followed_chain (recursion : Recursion definitions chain node calls result)
    (followed : Followed definitions chain) :
    ∀ call ∈ calls, Followed definitions call.chain := by
  induction recursion with
  | final | again | missing =>
    intro call there
    rwa [List.mem_singleton.mp there]
  | found refers first found _ ih =>
    intro call there
    rcases List.mem_cons.mp there with rfl | later
    · exact followed
    · exact ih (followed.snoc first found) call later

/-- The keys under which definitions are found go on from those of the chain. -/
theorem followed_found (recursion : Recursion definitions chain node calls result)
    (followed : Followed definitions chain) :
    Followed definitions (chain ++ calls.filterMap (Call.found? definitions)) := by
  induction recursion with
  | final refers => simpa [Call.found?, refers] using followed
  | again refers again => simpa [Call.found?, refers, again] using followed
  | missing refers first missing => simpa [Call.found?, refers, first, missing] using followed
  | found refers first found _ ih =>
    simpa [Call.found?, refers, first, found] using ih (followed.snoc first found)

/-- Every call but the last one finds a definition. -/
theorem length_calls (recursion : Recursion definitions chain node calls result) :
    calls.length = (calls.filterMap (Call.found? definitions)).length + 1 := by
  induction recursion with
  | final refers => simp [Call.found?, refers]
  | again refers again => simp [Call.found?, refers, again]
  | missing refers first missing => simp [Call.found?, refers, first, missing]
  | found refers first found _ ih => simp [Call.found?, refers, first, found, ih]

theorem length_found_le_size (recursion : Recursion definitions [] node calls result) :
    (calls.filterMap (Call.found? definitions)).length ≤ definitions.size := by
  have followed := recursion.followed_found (.nil definitions)
  rw [List.nil_append] at followed
  exact followed.length_le_size

/-- What a call does is determined by its node, its keys and the definitions. -/
theorem unique {calls' : List Call} {result' : Except Defect Node}
    (recursion : Recursion definitions chain node calls result)
    (other : Recursion definitions chain node calls' result') :
    calls = calls' ∧ result = result' := by
  induction recursion generalizing calls' result' with
  | final | again | missing => cases other <;> simp_all
  | found refers first found _ ih =>
    cases other with
    | final | again | missing => simp_all
    | found refers' first' found' more =>
      rw [refers] at refers'
      cases refers'
      rw [found] at found'
      cases found'
      obtain ⟨rfl, rfl⟩ := ih more
      exact ⟨rfl, rfl⟩

end Recursion

/-! ## The end of a recursion -/

section

variable {definitions : Definitions} {chain : List String}

/-- A call ends the recursion, whatever the bound of resolution is, or it finds a definition. -/
theorem ends_or_finds (definitions : Definitions) (chain : List String) (node : Node) :
    (∃ result, Recursion definitions chain node [⟨chain, node⟩] result ∧
      ∀ left, node.resolveFrom definitions left chain = result) ∨
    ∃ pointer base, node.reference? = some pointer ∧ definitionKey pointer ∉ chain ∧
      definitions.find? (definitionKey pointer) = some base := by
  cases refers : node.reference? with
  | none => exact .inl ⟨_, .final refers, fun _ => resolveFrom_of_none refers⟩
  | some pointer =>
    by_cases first : definitionKey pointer ∈ chain
    · exact .inl ⟨_, .again refers first, fun _ => resolveFrom_of_mem refers first⟩
    cases found : definitions.find? (definitionKey pointer) with
    | none =>
      exact .inl ⟨_, .missing refers first found, fun _ => resolveFrom_of_missing refers first found⟩
    | some base => exact .inr ⟨pointer, base, rfl, first, found⟩

/-- The recursion ends when it may still ask for as many keys as there are definitions left, and
    with this bound resolution gives the same result. -/
theorem recursion_resolveFrom {left : Nat} (node : Node) (followed : Followed definitions chain)
    (bound : definitions.size = chain.length + left) :
    ∃ calls, Recursion definitions chain node calls (node.resolveFrom definitions left chain) := by
  induction left generalizing chain node with
  | zero =>
    rcases ends_or_finds definitions chain node with
      ⟨result, ends, same⟩ | ⟨pointer, base, refers, first, found⟩
    · exact ⟨_, same 0 ▸ ends⟩
    · -- one more key would make more keys than definitions
      have tooLong := (followed.snoc first found).length_le_size
      rw [List.length_append, List.length_singleton] at tooLong
      omega
  | succ left ih =>
    rcases ends_or_finds definitions chain node with
      ⟨result, ends, same⟩ | ⟨pointer, base, refers, first, found⟩
    · exact ⟨_, same (left + 1) ▸ ends⟩
    · have bound' : definitions.size = (chain ++ [definitionKey pointer]).length + left := by
        rw [List.length_append, List.length_singleton]
        omega
      obtain ⟨calls, more⟩ := ih base (followed.snoc first found) bound'
      rw [resolveFrom_of_found refers first found]
      exact ⟨_, .found refers first found more⟩

end

/-- Resolution ends, whatever refers to what. In each of its calls the keys that have been asked for
    are distinct and defined; it is at most one call deeper than there are definitions, and finds at
    most as many. -/
theorem resolution_ends (definitions : Definitions) (node : Node) :
    ∃ calls, Recursion definitions [] node calls (node.resolve definitions) ∧
      (∀ others result, Recursion definitions [] node others result →
        others = calls ∧ result = node.resolve definitions) ∧
      (∀ call ∈ calls, call.chain.Nodup ∧
        ∀ key ∈ call.chain, ∃ base, definitions.find? key = some base) ∧
      calls.length ≤ definitions.size + 1 ∧
      (calls.filterMap (Call.found? definitions)).length ≤ definitions.size := by
  obtain ⟨calls, recursion⟩ :=
    recursion_resolveFrom node (.nil definitions) (Nat.zero_add definitions.size).symm
  have few := recursion.length_found_le_size
  refine ⟨calls, recursion, fun _ _ other => other.unique recursion, ?_, ?_, few⟩
  · intro call there
    have followed := recursion.followed_chain (.nil definitions) call there
    exact ⟨followed.distinct, followed.defined⟩
  · rw [recursion.length_calls]
    exact Nat.succ_le_succ few

/-- A node that refers to the definition `net`. -/
def ofNet : Node := ⟨.ofList [("$ref", .text "#/definitions/net")]⟩

/-- A node that refers to the definition `gross`. -/
def ofGross : Node := ⟨.ofList [("$ref", .text "#/definitions/gross")]⟩

/-- Two definitions that refer to each other. -/
def mutualAmounts : Definitions where
  nodes := .ofList [("net", ofGross), ("gross", ofNet)]

/-- Definitions that refer to each other are both found, each of them once. -/
theorem resolution_ends_mutualAmounts :
    ofNet.resolve mutualAmounts = .error (.cycle ["net", "gross", "net"]) ∧
      Recursion mutualAmounts [] ofNet
        [⟨[], ofNet⟩, ⟨["net"], ofGross⟩, ⟨["net", "gross"], ofNet⟩]
        (ofNet.resolve mutualAmounts) ∧
      (∀ key ∈ ["net", "gross"], ∃ base, mutualAmounts.find? key = some base) ∧
      3 ≤ mutualAmounts.size + 1 := by
  have toNet : ofNet.reference? = some "#/definitions/net" := rfl
  have toGross : ofGross.reference? = some "#/definitions/gross" := rfl
  have newGross : definitionKey "#/definitions/gross" ∉ ["net"] := by decide
  have third : Recursion mutualAmounts ["net", "gross"] ofNet [⟨["net", "gross"], ofNet⟩]
      (.error (.cycle ["net", "gross", "net"])) := .again toNet (by decide)
  have second : Recursion mutualAmounts ["net"] ofGross
      [⟨["net"], ofGross⟩, ⟨["net", "gross"], ofNet⟩]
      (.error (.cycle ["net", "gross", "net"])) := .found toGross newGross rfl third
  have first : Recursion mutualAmounts [] ofNet
      [⟨[], ofNet⟩, ⟨["net"], ofGross⟩, ⟨["net", "gross"], ofNet⟩]
      (.error (.cycle ["net", "gross", "net"])) :=
    .found toNet List.not_mem_nil rfl second
  obtain ⟨calls, recursion, only, each, depth, _⟩ := resolution_ends mutualAmounts ofNet
  obtain ⟨rfl, result⟩ := only _ _ first
  exact ⟨result.symm, recursion, (each ⟨["net", "gross"], ofNet⟩ (by simp)).2, depth⟩

end RecordRules
