/-
  The commands. Both load the configuration and the rules first. One validates a record from the
  input, the other checks the rules. A run writes at most one line, which is JSON.
-/
import RecordRules.Command.Arguments
import RecordRules.Command.Config
import RecordRules.Record.WireTransfer
import RecordRules.Validation

namespace RecordRules.Command

/-- Why a run fails. -/
inductive Fault
  | config (message : String)
  | io (message : String)
  | rules (d : Defect)
  | violations (count : Nat)
deriving DecidableEq, Repr

namespace Fault

/-- The code of a fault. -/
def code : Fault → String
  | config _ => "CLI_CONFIG_ERROR"
  | io _ => "CLI_IO_ERROR"
  | rules _ => "CLI_RULES_ERROR"
  | violations _ => "CLI_VALIDATION_FAILED"

/-- The wording of a fault. -/
def message : Fault → String
  | config message => message
  | io message => message
  | rules d => d.code ++ ": " ++ d.message
  | violations count => violationCount count

/-- A fault with its code. -/
def shown (f : Fault) : String := f.code ++ ": " ++ f.message

end Fault

/-- The record in the input. -/
def parseRecord (input : String) : Except Fault Json :=
  if Text.isBlankText input then .error (.io "Empty input")
  else match JsonText.read input with
    | .error message => .error (.io ("JSON error: " ++ message))
    | .ok (.object members) => .ok (.object members)
    | .ok _ => .error (.io "Record must be a JSON object")

/-- The record in the input's bytes. -/
def readRecord (input : List UInt8) : Except Fault Json :=
  match Text.ofUtf8? input with
  | some text => parseRecord text
  | none => .error (.io Disk.notText)

/-- The record of a shape that a JSON value gives. -/
def shapeRecord (shape : Shape) (recordType : String) (json : Json) : Except Fault Record :=
  match shape with
  | .json =>
    match Record.ofJson? recordType json with
    | some record => .ok record
    | none => .error (.io "Record must be a JSON object")
  | .wireTransfer =>
    match WireTransfer.ofJson json with
    | .ok w => .ok w.record
    | .error message => .error (.io ("JSON error: " ++ message))

/-! ## Responses -/

/-- The response to success. -/
def okResponse (data : Json) : Json := .object [("status", .text "ok"), ("data", data)]

/-- The JSON value of a violation. -/
def violationJson (v : Violation) : Json :=
  .object [("field", .text v.field), ("message", .text v.message)]

/-- The JSON value of violations. -/
def violationsJson (list : List Violation) : Json := .array (list.map violationJson)

/-- The response to violations. -/
def invalidResponse (list : List Violation) : Json :=
  .object [("status", .text "invalid"), ("errors", violationsJson list)]

/-- The response to a defect of the rules. -/
def errorResponse (d : Defect) : Json :=
  .object [("status", .text "error"), ("code", .text d.code), ("message", .text d.message)]

/-! ## Runs -/

/-- What a run does: what it logs from which severity on, its response, and its result. -/
structure Run where
  least : Log.Severity
  log : List Log.Entry
  response : Option Json
  result : Except Fault Unit

/-- The run that fails for its configuration. -/
def Run.noConfig (message : String) : Run := ⟨.info, [], none, .error (.config message)⟩

/-- What is loaded before a command starts. -/
structure Boot where
  config : Config
  least : Log.Severity
  log : List Log.Entry
  store : Except Defect Store

/-- Loads the configuration and the rules. -/
def boot (disk : Disk) (config : String) : Except String Boot := do
  let c ← Config.load disk (.ofText config)
  let least ← c.severity
  let loaded := Loading.load disk c.layout
  let entry := Log.Event.configLoaded.entry [("path", config), ("rules_dir", c.rulesDirectory)]
  return ⟨c, least, entry :: loaded.log, loaded.result⟩

/-- The run after a boot, given what the command does with the store. -/
def Boot.run (b : Boot) (command : Store → List Log.Entry × Option Json × Except Fault Unit) :
    Run :=
  match b.store with
  | .error d => ⟨b.least, b.log, none, .error (.rules d)⟩
  | .ok store =>
    let (log, response, result) := command store
    ⟨b.least, b.log ++ log, response, result⟩

/-- What comes of a validation: the response and the result. -/
def answer (recordType : String) : Except Failure Unit → Json × Except Fault Unit
  | .ok () => (okResponse (.object [("record_type", .text recordType)]), .ok ())
  | .error (.violations list) => (invalidResponse list, .error (.violations list.length))
  | .error (.defect d) => (errorResponse d, .error (.rules d))

/-- Validates the record in the input. -/
def validate (b : Boot) (today : Date) (recordType : String) (shape : Shape)
    (input : List UInt8) : Run :=
  b.run fun store =>
    match do shapeRecord shape recordType (← readRecord input) with
    | .error fault => ([], none, .error fault)
    | .ok record =>
      let validated := Validation.validate store ⟨today, b.config.calendar.isHoliday⟩ record recordType
      let (response, result) := answer recordType validated.result
      (validated.log, some response, result)

/-- The data of a successful check. -/
def checkData (store : Store) (fields : Nat) : Json :=
  .object [("record_types", .array (store.keys.map .text)),
    ("definitions", .nat store.definitions.size), ("fields_checked", .nat fields)]

/-- Checks the rules. -/
def check (b : Boot) : Run :=
  b.run fun store =>
    match store.check with
    | .error d => ([], none, .error (.rules d))
    | .ok fields =>
      ([Log.Event.rulesChecked.entry
          [("documents", toString store.size), ("fields", toString fields)]],
        some (okResponse (checkData store fields)), .ok ())

/-- Carries out a task. -/
def run (disk : Disk) (today : Date) (input : List UInt8) : Task → Run
  | .validate config recordType shape =>
    match boot disk config with
    | .error message => .noConfig message
    | .ok b => validate b today recordType shape input
  | .check config =>
    match boot disk config with
    | .error message => .noConfig message
    | .ok b => check b

/-- Whether a task comes to read the input: only a validation does, when everything is loaded. -/
def Task.readsInput (disk : Disk) : Task → Bool
  | .validate config _ _ =>
    match boot disk config with
    | .ok b => b.store.isOk
    | .error _ => false
  | .check _ => false

/-- What a run writes to the standard output. -/
def Run.output (r : Run) : String :=
  match r.response with
  | some json => json.print ++ "\n"
  | none => ""

/-- The lines that a run logs. -/
def Run.logLines (r : Run) : List String := Log.lines r.least r.log

/-! ## Program -/

/-- What the program leaves behind: an exit code, and what it writes to the standard output and to
    the standard error output. -/
structure Outcome where
  exitCode : Nat
  output : String
  errors : String
deriving DecidableEq, Repr

/-- Texts as lines, each with its end. -/
def asLines (texts : List String) : String := String.join (texts.map (· ++ "\n"))

/-- The outcome of a run: its log lines, and its fault if it fails. -/
def Run.outcome (r : Run) : Outcome :=
  match r.result with
  | .ok () => ⟨0, r.output, asLines r.logLines⟩
  | .error fault => ⟨1, r.output, asLines (r.logLines ++ [fault.shown])⟩

/-- The outcome of a command line. -/
def perform (disk : Disk) (today : Date) (input : List UInt8) (arguments : List String) : Outcome :=
  match parse arguments with
  | .error fault => ⟨fault.exitCode, fault.text, ""⟩
  | .ok task => (run disk today input task).outcome

end RecordRules.Command
