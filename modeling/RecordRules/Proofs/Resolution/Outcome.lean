/-
  The three outcomes of resolution. Following references from a node comes to a node that refers to
  nothing, or to one whose definition is missing, or to a key that has been asked for. Resolution
  succeeds in the first case; in the second it names the pointer, in the third the keys that were
  asked for.

  1. `resolve_cases`: one of the three occurs, with its result.
  2. `loops_iff_walk`: a loop said in terms of its keys is a walk that comes back to one of them.
  3. `resolve_outcomes`: each result is given exactly in its case.
-/
import Mathlib.Data.List.Chain
import RecordRules.Proofs.Resolution.Walk

namespace RecordRules

/-- The key that a node asks for, if it refers to a definition. -/
def Node.target? (node : Node) : Option String := node.reference?.map definitionKey

/-- The definition under `key` asks for `next`. -/
def Leads (definitions : Definitions) (key next : String) : Prop :=
  ∃ node, definitions.find? key = some node ∧ node.target? = some next

/-- Following references comes to a node that refers to nothing, and asks for no key twice. -/
def Arrives (definitions : Definitions) (node : Node) : Prop :=
  ∃ steps last, Walk definitions node steps last ∧ (asked steps).Nodup ∧ last.reference? = none

/-- Following references comes to a node whose pointer leads to no definition, before any key is
    asked for twice. -/
def Dangles (definitions : Definitions) (node : Node) (pointer : String) : Prop :=
  ∃ steps last, Walk definitions node steps last ∧ (asked steps).Nodup ∧
    last.reference? = some pointer ∧ definitions.find? (definitionKey pointer) = none

/-- Following references asks for `keys`, one after the other, and the last of them is the first
    that has been asked for before. -/
structure Loops (definitions : Definitions) (node : Node) (keys : List String) : Prop where
  starts : keys.head? = node.target?
  leads : keys.IsChain (Leads definitions)
  distinct : keys.dropLast.Nodup
  again : ∃ key, keys.getLast? = some key ∧ key ∈ keys.dropLast

section

variable {definitions : Definitions} {node last : Node} {steps : List Step} {key : String}

theorem target?_eq_some_iff :
    node.target? = some key ↔
      ∃ pointer, node.reference? = some pointer ∧ definitionKey pointer = key :=
  Option.map_eq_some_iff

/-- The keys of a walk, together with the one that its last node asks for, lead from one to the
    next. -/
theorem leads_of_walk (walk : Walk definitions node steps last) (asks : last.target? = some key) :
    (asked steps ++ [key]).head? = node.target? ∧
      (asked steps ++ [key]).IsChain (Leads definitions) := by
  induction walk with
  | stay node => exact ⟨asks.symm, .singleton key⟩
  | @follow node base last pointer steps refers found _ ih =>
    obtain ⟨starts, leads⟩ := ih asks
    refine ⟨(target?_eq_some_iff.mpr ⟨pointer, refers, rfl⟩).symm, ?_⟩
    refine List.isChain_cons.mpr ⟨fun next hnext => ?_, leads⟩
    exact ⟨base, found, starts ▸ hnext⟩

/-- Keys that lead from one to the next are those of a walk. -/
theorem walk_of_leads {keys : List String} (starts : (keys ++ [key]).head? = node.target?)
    (leads : (keys ++ [key]).IsChain (Leads definitions)) :
    ∃ steps last, Walk definitions node steps last ∧ asked steps = keys ∧
      last.target? = some key := by
  induction keys generalizing node with
  | nil => exact ⟨[], node, .stay node, rfl, starts.symm⟩
  | cons k rest ih =>
    rw [List.cons_append, List.isChain_cons] at leads
    obtain ⟨next, hnext⟩ : ∃ next, (rest ++ [key]).head? = some next := by
      cases rest <;> simp
    obtain ⟨base, found, asks⟩ := leads.1 next hnext
    obtain ⟨steps, last, walk, rfl, ends⟩ := ih (hnext.trans asks.symm) leads.2
    obtain ⟨pointer, refers, rfl⟩ := target?_eq_some_iff.mp starts.symm
    exact ⟨_, last, .follow refers found walk, rfl, ends⟩

theorem loops_iff_walk {keys : List String} :
    Loops definitions node keys ↔
      ∃ steps last pointer, Walk definitions node steps last ∧ (asked steps).Nodup ∧
        last.reference? = some pointer ∧ definitionKey pointer ∈ asked steps ∧
        keys = asked steps ++ [definitionKey pointer] := by
  constructor
  · rintro ⟨starts, leads, distinct, key, hlast, again⟩
    -- the last key is asked for at the end of the walk, where no step is taken any more
    have split := List.dropLast_append_getLast? key hlast
    generalize keys.dropLast = before at split distinct again
    subst split
    obtain ⟨steps, last, walk, rfl, asks⟩ := walk_of_leads starts leads
    obtain ⟨pointer, refers, rfl⟩ := target?_eq_some_iff.mp asks
    exact ⟨steps, last, pointer, walk, distinct, refers, again, rfl⟩
  · rintro ⟨steps, last, pointer, walk, distinct, refers, again, rfl⟩
    obtain ⟨starts, leads⟩ := leads_of_walk walk (target?_eq_some_iff.mpr ⟨pointer, refers, rfl⟩)
    refine ⟨starts, leads, ?_, definitionKey pointer, ?_, ?_⟩
    · rwa [List.dropLast_concat]
    · exact List.getLast?_concat
    · rwa [List.dropLast_concat]

end

/-- One of the three cases occurs, and resolution gives its result. -/
theorem resolve_cases (definitions : Definitions) (node : Node) :
    (∃ steps last, Walk definitions node steps last ∧ (asked steps).Nodup ∧
      last.reference? = none ∧ node.resolve definitions = .ok (layered last (passed steps))) ∨
    (∃ pointer, Dangles definitions node pointer ∧
      node.resolve definitions = .error (.noDefinition pointer)) ∨
    (∃ keys, Loops definitions node keys ∧ node.resolve definitions = .error (.cycle keys)) := by
  obtain ⟨steps, last, walk, distinct, final | ⟨pointer, refers, missing | again⟩⟩ :=
    Walk.exists_end definitions node
  · exact .inl ⟨steps, last, walk, distinct, final, resolve_of_final walk distinct final⟩
  · have dangles : Dangles definitions node pointer :=
      ⟨steps, last, walk, distinct, refers, missing⟩
    exact .inr (.inl ⟨pointer, dangles, resolve_of_missing walk distinct refers missing⟩)
  · have loops : Loops definitions node (asked steps ++ [definitionKey pointer]) :=
      loops_iff_walk.mpr ⟨steps, last, pointer, walk, distinct, refers, again, rfl⟩
    exact .inr (.inr ⟨_, loops, resolve_of_repeated walk distinct refers again⟩)

theorem resolve_of_dangles {definitions : Definitions} {node : Node} {pointer : String}
    (dangles : Dangles definitions node pointer) :
    node.resolve definitions = .error (.noDefinition pointer) := by
  obtain ⟨steps, last, walk, distinct, refers, missing⟩ := dangles
  exact resolve_of_missing walk distinct refers missing

theorem resolve_of_loops {definitions : Definitions} {node : Node} {keys : List String}
    (loops : Loops definitions node keys) :
    node.resolve definitions = .error (.cycle keys) := by
  obtain ⟨steps, last, pointer, walk, distinct, refers, again, rfl⟩ := loops_iff_walk.mp loops
  exact resolve_of_repeated walk distinct refers again

theorem resolve_of_arrives {definitions : Definitions} {node : Node}
    (arrives : Arrives definitions node) : ∃ resolved, node.resolve definitions = .ok resolved := by
  obtain ⟨steps, last, walk, distinct, final⟩ := arrives
  exact ⟨_, resolve_of_final walk distinct final⟩

/-- A resolution that succeeds has walked to a node that refers to nothing. -/
theorem layered_of_resolve {definitions : Definitions} {node resolved : Node}
    (succeeds : node.resolve definitions = .ok resolved) :
    ∃ steps last, Walk definitions node steps last ∧ (asked steps).Nodup ∧
      last.reference? = none ∧ resolved = layered last (passed steps) := by
  rcases resolve_cases definitions node with
    ⟨steps, last, walk, distinct, final, along⟩ | ⟨_, _, fails⟩ | ⟨_, _, fails⟩
  · rw [along] at succeeds
    cases succeeds
    exact ⟨steps, last, walk, distinct, final, rfl⟩
  · rw [fails] at succeeds
    cases succeeds
  · rw [fails] at succeeds
    cases succeeds

theorem arrives_of_resolve {definitions : Definitions} {node resolved : Node}
    (succeeds : node.resolve definitions = .ok resolved) : Arrives definitions node := by
  obtain ⟨steps, last, walk, distinct, final, _⟩ := layered_of_resolve succeeds
  exact ⟨steps, last, walk, distinct, final⟩

/-- A resolution that fails has met a pointer that dangles, or keys that loop. -/
theorem dangles_or_loops_of_resolve {definitions : Definitions} {node : Node} {defect : Defect}
    (fails : node.resolve definitions = .error defect) :
    (∃ pointer, defect = .noDefinition pointer ∧ Dangles definitions node pointer) ∨
      ∃ keys, defect = .cycle keys ∧ Loops definitions node keys := by
  rcases resolve_cases definitions node with
    ⟨_, _, _, _, _, succeeds⟩ | ⟨pointer, dangles, found⟩ | ⟨keys, loops, found⟩
  · rw [succeeds] at fails
    cases fails
  · rw [found] at fails
    cases fails
    exact .inl ⟨pointer, rfl, dangles⟩
  · rw [found] at fails
    cases fails
    exact .inr ⟨keys, rfl, loops⟩

/-- Resolution succeeds exactly when following references arrives; it misses a definition exactly
    when a pointer dangles, and names that pointer; it finds a cycle exactly when the keys loop, and
    names those keys. Nothing else can happen. -/
theorem resolve_outcomes (definitions : Definitions) (node : Node) :
    ((∃ resolved, node.resolve definitions = .ok resolved) ↔ Arrives definitions node) ∧
    (∀ defect, node.resolve definitions = .error defect ↔
      (∃ pointer, defect = .noDefinition pointer ∧ Dangles definitions node pointer) ∨
      (∃ keys, defect = .cycle keys ∧ Loops definitions node keys)) ∧
    (Arrives definitions node ∨ (∃ pointer, Dangles definitions node pointer) ∨
      ∃ keys, Loops definitions node keys) := by
  refine ⟨⟨?_, resolve_of_arrives⟩, fun defect => ⟨dangles_or_loops_of_resolve, ?_⟩, ?_⟩
  · rintro ⟨resolved, succeeds⟩
    exact arrives_of_resolve succeeds
  · rintro (⟨pointer, rfl, dangles⟩ | ⟨keys, rfl, loops⟩)
    · exact resolve_of_dangles dangles
    · exact resolve_of_loops loops
  · cases result : node.resolve definitions with
    | ok resolved => exact .inl (arrives_of_resolve result)
    | error defect =>
      rcases dangles_or_loops_of_resolve result with
        ⟨pointer, _, dangles⟩ | ⟨keys, _, loops⟩
      · exact .inr (.inl ⟨pointer, dangles⟩)
      · exact .inr (.inr ⟨keys, loops⟩)

end RecordRules
