/-
  The command line. A command comes first, then options, each with a value after it or after an equals
  sign. The value of an option is looked at when the next option comes or the line ends, so a word
  that is no option of the command is complained about before it.
-/

namespace RecordRules.Command

/-- How a record is given. -/
inductive Shape
  | json
  | wireTransfer
deriving DecidableEq, Repr

/-- The name of a shape. -/
def Shape.name : Shape → String
  | json => "json"
  | wireTransfer => "wire-transfer"

/-- The shape of a name. -/
def Shape.ofName? (name : String) : Option Shape :=
  [json, wireTransfer].find? fun s => s.name == name

/-- The configuration file that is used if none is named. -/
def usualConfig : String := "./rulecheck.json"

/-- What is to be done. -/
inductive Task
  | validate (config recordType : String) (shape : Shape)
  | check (config : String)
deriving DecidableEq, Repr

/-- The configuration file of a task. -/
def Task.config : Task → String
  | validate config _ _ => config
  | check config => config

/-- Why a command line is not carried out: it is wrong, or it asks for help only. -/
inductive UsageFault
  | help
  | helpForNothing
  | version
  | unknownArgument
  | unknownCommand
  | badValue
  | conflict
  | missingArgument
  | unwantedValue
deriving DecidableEq, Repr

/-- The name of a fault. -/
def UsageFault.name : UsageFault → String
  | help => "DisplayHelp"
  | helpForNothing => "DisplayHelpOnMissingArgumentOrSubcommand"
  | version => "DisplayVersion"
  | unknownArgument => "UnknownArgument"
  | unknownCommand => "InvalidSubcommand"
  | badValue => "InvalidValue"
  | conflict => "ArgumentConflict"
  | missingArgument => "MissingRequiredArgument"
  | unwantedValue => "TooManyValues"

/-- The exit code of a fault: asking for help is none. -/
def UsageFault.exitCode : UsageFault → Nat
  | help | version => 0
  | _ => 2

/-- What is shown to who asks for help or for the version. -/
def UsageFault.text : UsageFault → String
  | help =>
    "A data-driven, JSON-rule record validation engine\n\n" ++
      "Usage: rulecheck <COMMAND>\n\n" ++
      "Commands:\n" ++
      "  validate  Validate one JSON record read from stdin\n" ++
      "  check     Load every rule file and check all references and constraint values\n" ++
      "  help      Print this message or the help of the given subcommand(s)\n\n" ++
      "Options:\n" ++
      "  -h, --help     Print help\n" ++
      "  -V, --version  Print version\n"
  | version => "rulecheck 0.1.0\n"
  | _ => ""

/-- The options. -/
inductive Opt
  | config
  | recordType
  | shape
deriving DecidableEq, Repr

/-- The name of an option, as written after two hyphens. -/
def Opt.name : Opt → String
  | config => "config"
  | recordType => "record-type"
  | shape => "shape"

/-- A word of a command line, by its hyphens. -/
inductive Word
  | plain (text : String)
  | dashes
  | long (name : String) (value : Option String)
  | short (letters : List Char)
deriving DecidableEq, Repr

/-- The characters before the first equals sign and those after it. -/
def splitEquals : List Char → List Char × Option (List Char)
  | [] => ([], none)
  | '=' :: cs => ([], some cs)
  | c :: cs => let (name, value) := splitEquals cs; (c :: name, value)

/-- The kind of a word. A single hyphen is plain. -/
def Word.of (text : String) : Word :=
  match text.toList with
  | ['-', '-'] => dashes
  | '-' :: '-' :: cs =>
    let (name, value) := splitEquals cs
    long (String.ofList name) (value.map String.ofList)
  | '-' :: c :: cs => short (c :: cs)
  | _ => plain text

/-- The values that options have so far. -/
structure Values where
  config : Option String := none
  recordType : Option String := none
  shape : Option Shape := none
deriving DecidableEq, Repr

/-- Gives an option its value. -/
def Values.set (v : Values) (o : Opt) (value : String) : Except UsageFault Values :=
  match o with
  | .config =>
    if v.config.isSome then .error .conflict
    else if value = "" then .error .badValue
    else .ok { v with config := some value }
  | .recordType =>
    if v.recordType.isSome then .error .conflict else .ok { v with recordType := some value }
  | .shape =>
    if v.shape.isSome then .error .conflict
    else match Shape.ofName? value with
      | some s => .ok { v with shape := some s }
      | none => .error .badValue

/-- An option whose value is still to be looked at, and the value if it has come. -/
structure Pending where
  opt : Opt
  value : Option String
deriving DecidableEq, Repr

/-- Looks at the value of the option before. -/
def settle (v : Values) : Option Pending → Except UsageFault Values
  | none => .ok v
  | some ⟨_, none⟩ => .error .badValue
  | some ⟨o, some value⟩ => v.set o value

/-- Reads the options of a command, which has some of all options. -/
def options (known : List Opt) : Values → Option Pending → List String → Except UsageFault Values
  | v, pending, [] => settle v pending
  | v, pending, text :: rest =>
    match Word.of text with
    | .dashes => if rest.isEmpty then settle v pending else .error .unknownArgument
    | .long name value =>
      if name = "help" then do
        if value.isSome then throw .unwantedValue
        let _ ← settle v pending
        throw .help
      else match known.find? fun o => o.name == name with
        | none => .error .unknownArgument
        | some o =>
          match value with
          | none => do options known (← settle v pending) (some ⟨o, none⟩) rest
          | some value => do options known (← (← settle v pending).set o value) none rest
    | .short letters =>
      if letters.head? = some 'h' then do
        let _ ← settle v pending
        throw .help
      else .error .unknownArgument
    | .plain text =>
      match pending with
      | some ⟨o, none⟩ => options known v (some ⟨o, some text⟩) rest
      | _ => .error .unknownArgument

/-- The names of the commands. -/
def validateName : String := "validate"
def checkName : String := "check"
def helpName : String := "help"

/-- Reads what follows the command for help: the name of a command at most. -/
def helpArguments : List String → UsageFault
  | [] => .help
  | [name] => if [validateName, checkName, helpName].contains name then .help else .unknownCommand
  | _ => .unknownCommand

/-- The task of a command and the words after it. -/
def command (name : String) (rest : List String) : Except UsageFault Task :=
  if name = validateName then do
    let v ← options [.config, .recordType, .shape] {} none rest
    match v.recordType with
    | some recordType =>
      return .validate (v.config.getD usualConfig) recordType (v.shape.getD .json)
    | none => throw .missingArgument
  else if name = checkName then do
    let v ← options [.config] {} none rest
    return .check (v.config.getD usualConfig)
  else if name = helpName then .error (helpArguments rest)
  else .error .unknownCommand

/-- Reads a command line without the program's name. -/
def parse : List String → Except UsageFault Task
  | [] => .error .helpForNothing
  | text :: rest =>
    match Word.of text with
    | .plain name => command name rest
    | .dashes =>
      match rest with
      | [] => .error .helpForNothing
      | name :: _ =>
        .error (if [validateName, checkName, helpName].contains name then .unknownArgument
          else .unknownCommand)
    | .long name value =>
      if name = "help" then .error (if value.isSome then .unwantedValue else .help)
      else if name = "version" then .error (if value.isSome then .unwantedValue else .version)
      else .error .unknownArgument
    | .short letters =>
      match letters.head? with
      | some 'h' => .error .help
      | some 'V' => .error .version
      | _ => .error .unknownArgument

end RecordRules.Command
