/-
  Loading of a rule set from files: one file of definitions, which may be missing, and a directory
  with one document for each record type. Documents are read in the order of their file names; the
  name without its ending is the key.
-/
import RecordRules.Disk
import RecordRules.Json.Read
import RecordRules.Log.Line
import RecordRules.Rule.Store

namespace RecordRules

open Log (Logged)

/-- Where the files of a rule set are. -/
structure Layout where
  definitions : Path
  documents : Path
deriving DecidableEq, Repr

namespace Layout

/-- The file of definitions in a directory of rules. -/
def definitionsFile : String := "common/validationDefinitions.json"

/-- The directory of documents in a directory of rules. -/
def documentsDirectory : String := "specifics"

/-- The usual layout in a directory of rules. -/
def usual (rules : Path) : Layout :=
  ⟨rules.join (.ofText definitionsFile), rules.join (.ofText documentsDirectory)⟩

end Layout

namespace Loading

/-- The ending of document files. -/
def ending : Path := .ofText "json"

/-- A defect found in a file, as a defect of the file. -/
def inFile {α : Type} (p : Path) (r : Except Defect α) : Except Defect α :=
  r.mapError fun d => .malformed p.shown d.message

/-- The JSON value in a file. -/
def readJson (disk : Disk) (p : Path) : Except Defect Json :=
  match disk.readText p with
  | .error message => .error (.malformed p.shown ("Failed to read file: " ++ message))
  | .ok text =>
    match JsonText.read text with
    | .ok json => .ok json
    | .error message => .error (.malformed p.shown ("Invalid JSON: " ++ message))

/-- The definitions in a file. -/
def readDefinitions (disk : Disk) (p : Path) : Except Defect Definitions := do
  inFile p (Definitions.ofRoot (← readJson disk p))

/-- Loads the definitions. A missing file counts as one without definitions. -/
def definitions (disk : Disk) (p : Path) : Logged (Except Defect Definitions) :=
  if disk.has p then
    match readDefinitions disk p with
    | .ok d =>
      ⟨[Log.Event.definitionsLoaded.entry [("count", toString d.size), ("path", p.shown)]], .ok d⟩
    | .error d => ⟨[], .error d⟩
  else ⟨[Log.Event.definitionsMissing.entry [("path", p.shown)]], .ok .empty⟩

/-- Whether a name is that of a document file. -/
def isDocument (name : Path) : Bool := name.splitDot.2 = some ending

/-- The names of the document files in a directory, in order. A missing directory has none. -/
def documentNames (disk : Disk) (directory : Path) : Except Defect (List Path) :=
  if disk.has directory then
    match disk.list directory with
    | .error fault =>
      .error (.malformed directory.shown ("Failed to read rules directory: " ++ fault.message))
    | .ok entries =>
      match entries.mapM id with
      | .error fault =>
        .error (.malformed directory.shown ("Failed to read directory entry: " ++ fault.message))
      | .ok names => .ok ((names.filter isDocument).mergeSort Path.le)
  else .ok []

/-- The key and the document of a file. -/
def readDocument (disk : Disk) (directory name : Path) : Except Defect (String × Document) := do
  let p := directory.join name
  match Text.ofUtf8? name.splitDot.1 with
  | none => throw (.malformed p.shown "File name is not valid UTF-8")
  | some key => return (key, ← inFile p (Document.ofJson (← readJson disk p)))

/-- Loads the documents of files, up to the first defect. -/
def documents (disk : Disk) (directory : Path) :
    List Path → Logged (Except Defect (List (String × Document)))
  | [] => ⟨[], .ok []⟩
  | name :: names =>
    match readDocument disk directory name with
    | .error d => ⟨[], .error d⟩
    | .ok (key, document) =>
      let more := documents disk directory names
      ⟨Log.Event.ruleDocumentLoaded.entry
          [("fields", toString document.size), ("key", key)] :: more.log,
        more.result.map ((key, document) :: ·)⟩

/-- Registers documents one after the other. -/
def registerAll (store : Store) (documents : List (String × Document)) : Except Defect Store :=
  documents.foldlM (fun store (key, document) => store.register key document) store

/-- What is logged of a loaded store: that it has no documents. -/
def emptyEntry (directory : Path) (store : Store) : List Log.Entry :=
  if store.size = 0 then [Log.Event.noRuleDocuments.entry [("dir", directory.shown)]] else []

/-- Loads the documents of a directory into a store. -/
def intoStore (disk : Disk) (directory : Path) (store : Store) : Logged (Except Defect Store) :=
  match documentNames disk directory with
  | .error d => ⟨[], .error d⟩
  | .ok names =>
    let loaded := documents disk directory names
    match do registerAll store (← loaded.result) with
    | .error d => ⟨loaded.log, .error d⟩
    | .ok store => ⟨loaded.log ++ emptyEntry directory store, .ok store⟩

/-- Loads a rule set. -/
def load (disk : Disk) (layout : Layout) : Logged (Except Defect Store) :=
  let loaded := definitions disk layout.definitions
  match loaded.result with
  | .error d => ⟨loaded.log, .error d⟩
  | .ok d =>
    let stored := intoStore disk layout.documents (.new d)
    ⟨loaded.log ++ stored.log, stored.result⟩

end Loading

end RecordRules
