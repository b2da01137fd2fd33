/-
  Log lines: one JSON object for an event, with the event and its severity first and the other fields
  in the order of their keys. A field that comes twice has its last value; a field named like the
  event or the severity replaces it in its place.
-/
import RecordRules.Entries
import RecordRules.Json.Print
import RecordRules.Log.Event

namespace RecordRules.Log

/-- Texts under keys. -/
abbrev Fields := List (String × String)

/-- An event with its severity and its fields. -/
structure Entry where
  severity : Severity
  event : String
  fields : Fields
deriving DecidableEq, Repr

/-- An entry at the severity of its event. -/
def Event.entry (e : Event) (fields : Fields) : Entry := ⟨e.severity, e.name, fields⟩

/-- Fields in the order of their keys; those of one key stay in their order. -/
def sortFields (fields : Fields) : Fields := fields.mergeSort fun a b => a.1 ≤ b.1

/-- The members of an entry's line. -/
def Entry.members (e : Entry) : Entries Json :=
  Entries.ofList ([("event", .text e.event), ("severity", .text e.severity.name)] ++
    (sortFields e.fields).map fun (key, text) => (key, .text text))

/-- The line of an entry. -/
def Entry.line (e : Entry) : String := (Json.object e.members.list).print

/-- The lines that are written of some entries when a least severity is set. -/
def lines (least : Severity) (entries : List Entry) : List String :=
  (entries.filter fun e => least.enabled e.severity).map Entry.line

/-- A result together with the entries logged on the way to it. -/
structure Logged (α : Type) where
  log : List Entry
  result : α
deriving Repr

end RecordRules.Log
