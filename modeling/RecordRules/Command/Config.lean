/-
  The configuration: where the rules are, which days are holidays, and what is logged. Every setting
  has a default.
-/
import RecordRules.Date.Calendar
import RecordRules.Date.Loose
import RecordRules.Json.Typed
import RecordRules.Loading
import RecordRules.Text.Blank

namespace RecordRules

/-- A configuration. -/
structure Config where
  rulesDirectory : String := "./validation"
  definitionsFile : String := Layout.definitionsFile
  documentsDirectory : String := Layout.documentsDirectory
  holidays : Option (List Date) := none
  logLevel : String := "info"
deriving DecidableEq, Repr

namespace Config

/-- How configurations are read. -/
def shape : TypedObject Config where
  name := "Config"
  initial := {}
  fields :=
    [⟨"rules_dir", Typed.text.map fun v c => { c with rulesDirectory := v }, true⟩,
      ⟨"definitions_file", Typed.text.map fun v c => { c with definitionsFile := v }, true⟩,
      ⟨"specifics_dir", Typed.text.map fun v c => { c with documentsDirectory := v }, true⟩,
      ⟨"holidays", (Typed.content "a formatted date string" Date.ofLoose).list.optional.map
        fun v c => { c with holidays := v }, true⟩,
      ⟨"log_level", Typed.text.map fun v c => { c with logLevel := v }, true⟩]

/-- The JSON value of a configuration. Holidays are left out if none are set. -/
def toJson (c : Config) : Json :=
  .object ([("rules_dir", .text c.rulesDirectory), ("definitions_file", .text c.definitionsFile),
    ("specifics_dir", .text c.documentsDirectory)] ++
    (match c.holidays with
      | some days => [("holidays", .array (days.map fun d => .text d.text))]
      | none => []) ++
    [("log_level", .text c.logLevel)])

/-- The least severity that is logged. -/
def severity (c : Config) : Except String Log.Severity :=
  match Log.Severity.ofName? c.logLevel with
  | some s => .ok s
  | none =>
    .error ("Invalid log_level: '" ++ c.logLevel ++
      "'. Must be one of trace, info, warn, error.")

/-- Checks that a setting is not blank. -/
def notBlank (name value : String) : Except String Unit :=
  if Text.isBlankText value then .error (name ++ " must not be empty") else .ok ()

/-- Checks the settings. -/
def check (c : Config) : Except String Unit := do
  notBlank "rules_dir" c.rulesDirectory
  notBlank "definitions_file" c.definitionsFile
  notBlank "specifics_dir" c.documentsDirectory
  let _ ← c.severity

/-- The configuration of a text. -/
def ofText (text : String) : Except String Config := do
  let c ← (shape.ofText text).mapError ("Invalid config JSON: " ++ ·)
  c.check
  return c

/-- Loads the configuration in a file. -/
def load (disk : Disk) (p : Path) : Except String Config := do
  ofText (← (disk.readText p).mapError ("Failed to read config: " ++ ·))

/-- The directory of the rules. -/
def rules (c : Config) : Path := .ofText c.rulesDirectory

/-- Where the files of the rules are. -/
def layout (c : Config) : Layout :=
  ⟨c.rules.join (.ofText c.definitionsFile), c.rules.join (.ofText c.documentsDirectory)⟩

/-- The holidays: those that are set, or the built-in ones. -/
def calendar (c : Config) : Calendar :=
  match c.holidays with
  | some days => .ofDays days
  | none => .builtIn

end Config

end RecordRules
