/-
  The program. The files that a command line needs are read first; what the program does with them is
  decided by `Command.perform`.
-/
import RecordRules.Command.Run
import Std.Time.Format

namespace RecordRules

/-- The number of an error of the system. It may be given negated. -/
def errorNumber (code : UInt32) : Nat :=
  if code.toNat < 0x80000000 then code.toNat else 0x100000000 - code.toNat

/-- The fault of an error with a number and a wording. -/
def numberedFault (number : Nat) (details : String) : DiskFault :=
  if number = 2 then .noEntry
  else if number = 20 then .notDirectory
  else if number = 21 then .isDirectory
  else if number = 36 then .nameTooLong
  else .other (details.capitalize ++ " (os error " ++ toString number ++ ")")

/-- The fault that an error of the system tells of. -/
def faultOf (e : IO.Error) : DiskFault :=
  let coded := fun (code : UInt32) (details : String) => numberedFault (errorNumber code) details
  match e with
  | .noFileOrDirectory _ code details => coded code details
  | .inappropriateType _ code details => coded code details
  | .invalidArgument _ code details => coded code details
  | .permissionDenied _ code details => coded code details
  | .resourceExhausted _ code details => coded code details
  | .hardwareFault code details => coded code details
  | .otherError code details => coded code details
  | e => .other (toString e)

/-- The answer to a question to the system. -/
def answer {α : Type} (question : IO α) : IO (Except DiskFault α) := do
  try
    return .ok (← question)
  catch e =>
    return .error (faultOf e)

/-- Asks which of some paths there is something at. -/
def askPresent (paths : List Path) : IO (List Path) :=
  paths.filterM fun p => do
    if p.contains 0 then return false
    (System.mkFilePath [p.shown]).pathExists

/-- Asks for the bytes of a file. -/
def askFile (p : Path) : IO (Path × Except DiskFault (List UInt8)) := do
  if p.contains 0 then return (p, .error .nulInName)
  let bytes ← answer (IO.FS.readBinFile p.shown)
  return (p, bytes.map fun b => b.toList)

/-- Asks for the names in a directory. -/
def askDirectory (p : Path) : IO (Path × Except DiskFault (List (Except DiskFault Path))) := do
  if p.contains 0 then return (p, .error .nulInName)
  let entries ← answer (System.mkFilePath [p.shown]).readDir
  return (p, entries.map fun es => es.toList.map fun e => .ok (Path.ofText e.fileName))

/-- Asks for everything that a task needs. -/
def askDisk (task : Command.Task) : IO Disk := do
  let configPath := Path.ofText task.config
  let configFile ← askFile configPath
  match Config.load (.ofAnswers [] [configFile] []) configPath with
  | .error _ => return .ofAnswers [] [configFile] []
  | .ok config =>
    let present ← askPresent [config.layout.definitions, config.layout.documents]
    let definitions ← askFile config.layout.definitions
    let names ← askDirectory config.layout.documents
    let entries := names.2.toOption.getD []
    let documents := (entries.filterMap Except.toOption).filter Loading.isDocument
    let documentFiles ← documents.mapM fun name => askFile (config.layout.documents.join name)
    return .ofAnswers present (configFile :: definitions :: documentFiles) [names]

/-- The day on which the program runs. -/
def askToday : IO Date := do
  let today ← Std.Time.PlainDate.now
  let day? := Date.of? today.year today.month.val.toNat today.day.val.toNat
  return day?.getD .first

/-- Carries out a command line. The input is read only if the task gets so far. -/
def runProgram (arguments : List String) : IO UInt32 := do
  let task? := Command.parse arguments
  let disk ← match task? with
    | .ok task => askDisk task
    | .error _ => pure (.ofAnswers [] [] [])
  let readsInput := match task? with
    | .ok task => task.readsInput disk
    | .error _ => false
  let input ← if readsInput then (← IO.getStdin).readBinToEnd else pure .empty
  let outcome := Command.perform disk (← askToday) input.toList arguments
  let out ← IO.getStdout
  out.putStr outcome.output
  out.flush
  let err ← IO.getStderr
  err.putStr outcome.errors
  return outcome.exitCode.toUInt32

end RecordRules

/-- The program. -/
def main (arguments : List String) : IO UInt32 := RecordRules.runProgram arguments
