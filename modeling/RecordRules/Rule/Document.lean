/-
  Rule documents, which hold a node for each field of a record type, and the definitions that nodes
  share.
-/
import RecordRules.Json.Typed
import RecordRules.Rule.Node

namespace RecordRules

/-- The nodes of named members. -/
def nodesOf (members : List (String × Json)) : Except Defect (List (String × Node)) :=
  members.mapM fun (name, json) => do return (name, ← Node.ofJson name json)

/-- The rules of a record type: fields and their nodes, in order. -/
structure Document where
  fields : List (String × Node)

namespace Document

/-- The document of a JSON object of objects. -/
def ofJson : Json → Except Defect Document
  | .object members => do return ⟨← nodesOf members⟩
  | json => .error (.badRule "<document>" "<root>" (Node.notAnObject json))

/-- The document of a JSON text. A defect is told without a place. -/
def ofText (text : String) : Except String Document :=
  (Typed.any fun json => (ofJson json).mapError Defect.message).ofText text

/-- The node of a field: the first, if a field is listed twice. -/
def find? (d : Document) (field : String) : Option Node := d.fields.lookup field

/-- How many fields are listed. -/
def size (d : Document) : Nat := d.fields.length

end Document

/-- Nodes under keys that other nodes may refer to. -/
structure Definitions where
  nodes : Entries Node

namespace Definitions

/-- No definitions. -/
def empty : Definitions := ⟨.empty⟩

/-- The definitions of a JSON object of objects. -/
def ofJson : Json → Except Defect Definitions
  | .object members => do return ⟨.ofList (← nodesOf members)⟩
  | json => .error (.badRule "<definitions>" "definitions" (Node.notAnObject json))

/-- The definitions of a file: those under its member `definitions`, or none without it. -/
def ofRoot : Json → Except Defect Definitions
  | .object members =>
    match members.lookup "definitions" with
    | some json => ofJson json
    | none => .ok empty
  | json => .error (.badRule "<definitions>" "<root>" (Node.notAnObject json))

/-- The definitions with one more, or with one replaced. -/
def insert (d : Definitions) (key : String) (node : Node) : Definitions :=
  ⟨d.nodes.insert key node⟩

/-- The definition under a key. -/
def find? (d : Definitions) (key : String) : Option Node := d.nodes.find? key

/-- How many definitions there are. -/
def size (d : Definitions) : Nat := d.nodes.size

end Definitions

end RecordRules
