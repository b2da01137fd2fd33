/-
  Resolution of references. A node that refers to a definition stands for the definition's resolved
  node with the node's own properties laid over it. The keys asked for on the way are kept in order;
  one that would be asked for again closes a cycle.
-/
import RecordRules.Rule.Document

namespace RecordRules

/-- The text before a definition's key in a pointer. -/
def definitionsPointer : String := "#/definitions/"

/-- What is left of a list after its first part. -/
def dropStart? : (start : List Char) → List Char → Option (List Char)
  | [], cs => some cs
  | _ :: _, [] => none
  | s :: start, c :: cs => if c = s then dropStart? start cs else none

/-- The key of a pointer: what follows the start of pointers, or all of it. -/
def definitionKey (pointer : String) : String :=
  match dropStart? definitionsPointer.toList pointer.toList with
  | some key => String.ofList key
  | none => pointer

namespace Node

/-- A base with the properties of a node laid over it, all but its reference. -/
def overlay (base node : Node) : Node :=
  ⟨base.properties.insertAll
    (node.properties.list.filter fun property => property.1 ≠ referenceKey)⟩

/-- Resolves a node that is met after asking for the keys of a chain. `unasked` bounds how many
    definitions have not been asked for. The chain has distinct keys of definitions only, so it
    cannot become longer than there are definitions, and the bound is never what ends the walk. -/
def resolveFrom (definitions : Definitions) : (unasked : Nat) → (chain : List String) → Node →
    Except Defect Node
  | unasked, chain, node =>
    match node.reference? with
    | none => .ok node
    | some pointer =>
      let key := definitionKey pointer
      if chain.contains key then .error (.cycle (chain ++ [key]))
      else match definitions.find? key with
        | none => .error (.noDefinition pointer)
        | some base =>
          match unasked with
          | 0 => .error (.cycle (chain ++ [key]))
          | unasked + 1 =>
            (resolveFrom definitions unasked (chain ++ [key]) base).map fun base =>
              base.overlay node

/-- Resolves a node. -/
def resolve (node : Node) (definitions : Definitions) : Except Defect Node :=
  node.resolveFrom definitions definitions.size []

end Node

end RecordRules
