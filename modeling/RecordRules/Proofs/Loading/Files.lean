/-
  What files of rules hold. A file holds a JSON value if its bytes are a text in UTF-8 and the text is
  JSON. A file of definitions and a document are made of such a value if it is an object of the right
  form; in every other case there is one reason for which the file is refused.

  1. `document_ofJson_iff`, `definitions_ofRoot_iff`: which values give documents and definitions.
  2. `file_eq_ok_iff`, `file_eq_error_iff`: what a file gives, and for which reason it is refused.
  3. `readDocument_eq_ok_iff`, `readDocument_eq_error_iff`: the same of a document file with its name.
-/
import RecordRules.Loading
import RecordRules.Proofs.FirstError

namespace RecordRules

open Loading (inFile readJson readDocument)

/-! ## Objects of objects -/

/-- Two lists with the same names in the same order, objects in the one and their nodes in the
    other. -/
def NodesOf (members : List (String × Json)) (nodes : List (String × Node)) : Prop :=
  List.Forall₂ (fun member node => node.1 = member.1 ∧
    ∃ properties, member.2 = .object properties ∧ node.2 = ⟨.ofList properties⟩) members nodes

/-- The document has the members of an object as its fields, in their order. -/
def FieldsOf (json : Json) (document : Document) : Prop :=
  ∃ members, json = .object members ∧ NodesOf members document.fields

/-- An object whose members are objects. -/
def ObjectOfObjects (json : Json) : Prop :=
  ∃ members, json = .object members ∧
    ∀ member ∈ members, ∃ properties, member.2 = .object properties

/-- The definitions are those under the member `definitions` of an object, or none without it. -/
def DefinitionsOf (json : Json) (definitions : Definitions) : Prop :=
  ∃ members, json = .object members ∧
    (members.lookup "definitions" = none ∧ definitions = .empty ∨
      ∃ inner nodes, members.lookup "definitions" = some (.object inner) ∧ NodesOf inner nodes ∧
        definitions = ⟨.ofList nodes⟩)

/-- An object whose member `definitions`, if there is one, is an object of objects. -/
def DefinitionsRoot (json : Json) : Prop :=
  ∃ members, json = .object members ∧
    ∀ inner, members.lookup "definitions" = some inner → ObjectOfObjects inner

theorem node_ofJson_eq_ok_iff {name : String} {json : Json} {node : Node} :
    Node.ofJson name json = .ok node ↔
      ∃ properties, json = .object properties ∧ node = ⟨.ofList properties⟩ := by
  cases json <;> simp [Node.ofJson, eq_comm]

theorem nodesOf_eq_ok_iff {members : List (String × Json)} {nodes : List (String × Node)} :
    nodesOf members = .ok nodes ↔ NodesOf members nodes := by
  have pair (member : String × Json) (node : String × Node) :
      (do return (member.1, ← Node.ofJson member.1 member.2) : Except Defect _) = .ok node ↔
        node.1 = member.1 ∧
          ∃ properties, member.2 = .object properties ∧ node.2 = ⟨.ofList properties⟩ := by
    obtain ⟨name, rules⟩ := node
    rw [bind_eq_ok_iff]
    constructor
    · rintro ⟨_, made, same⟩
      cases same
      exact ⟨rfl, node_ofJson_eq_ok_iff.mp made⟩
    · rintro ⟨rfl, made⟩
      exact ⟨rules, node_ofJson_eq_ok_iff.mpr made, rfl⟩
  simp only [nodesOf, mapM_eq_ok_iff, pair, NodesOf]

theorem exists_nodesOf_iff {members : List (String × Json)} :
    (∃ nodes, NodesOf members nodes) ↔
      ∀ member ∈ members, ∃ properties, member.2 = .object properties := by
  constructor
  · rintro ⟨nodes, same⟩
    induction same with
    | nil => exact nofun
    | cons here _ ih =>
      obtain ⟨_, properties, made, _⟩ := here
      exact List.forall_mem_cons.mpr ⟨⟨properties, made⟩, ih⟩
  · intro objects
    refine exists_forall₂ fun member listed => ?_
    obtain ⟨properties, made⟩ := objects member listed
    exact ⟨(member.1, ⟨.ofList properties⟩), rfl, properties, made, rfl⟩

/-! ## Documents and definitions of values -/

theorem document_ofJson_iff {json : Json} {document : Document} :
    Document.ofJson json = .ok document ↔ FieldsOf json document := by
  cases json with
  | object members =>
    obtain ⟨fields⟩ := document
    simp only [Document.ofJson, bind_eq_ok_iff, nodesOf_eq_ok_iff, FieldsOf]
    constructor
    · rintro ⟨nodes, made, same⟩
      cases same
      exact ⟨members, rfl, made⟩
    · rintro ⟨_, same, made⟩
      cases same
      exact ⟨fields, made, rfl⟩
  | null | bool | number | text | array => simp [Document.ofJson, FieldsOf]

theorem exists_fieldsOf_iff {json : Json} :
    (∃ document, FieldsOf json document) ↔ ObjectOfObjects json := by
  constructor
  · rintro ⟨document, members, rfl, made⟩
    exact ⟨members, rfl, exists_nodesOf_iff.mp ⟨_, made⟩⟩
  · rintro ⟨members, rfl, objects⟩
    obtain ⟨nodes, made⟩ := exists_nodesOf_iff.mpr objects
    exact ⟨⟨nodes⟩, members, rfl, made⟩

theorem definitions_ofJson_iff {json : Json} {definitions : Definitions} :
    Definitions.ofJson json = .ok definitions ↔
      ∃ inner nodes, json = .object inner ∧ NodesOf inner nodes ∧ definitions = ⟨.ofList nodes⟩ := by
  cases json with
  | object members =>
    simp only [Definitions.ofJson, bind_eq_ok_iff, nodesOf_eq_ok_iff]
    constructor
    · rintro ⟨nodes, made, same⟩
      cases same
      exact ⟨members, nodes, rfl, made, rfl⟩
    · rintro ⟨_, nodes, same, made, rfl⟩
      cases same
      exact ⟨nodes, made, rfl⟩
  | null | bool | number | text | array => simp [Definitions.ofJson]

theorem definitions_ofRoot_iff {json : Json} {definitions : Definitions} :
    Definitions.ofRoot json = .ok definitions ↔ DefinitionsOf json definitions := by
  cases json with
  | object members =>
    simp only [Definitions.ofRoot, DefinitionsOf, Json.object.injEq, exists_eq_left']
    cases found : members.lookup "definitions" with
    | none => simp [eq_comm]
    | some inner => simp [definitions_ofJson_iff]
  | null | bool | number | text | array => simp [Definitions.ofRoot, DefinitionsOf]

theorem exists_definitionsOf_iff {json : Json} :
    (∃ definitions, DefinitionsOf json definitions) ↔ DefinitionsRoot json := by
  constructor
  · rintro ⟨definitions, members, rfl, ⟨without, _⟩ | ⟨inner, nodes, found, made, _⟩⟩
    · exact ⟨members, rfl, fun inner found => by rw [without] at found; cases found⟩
    · refine ⟨members, rfl, fun inner' found' => ?_⟩
      rw [found] at found'
      cases found'
      exact ⟨inner, rfl, exists_nodesOf_iff.mp ⟨nodes, made⟩⟩
  · rintro ⟨members, rfl, objects⟩
    cases found : members.lookup "definitions" with
    | none => exact ⟨.empty, members, rfl, .inl ⟨found, rfl⟩⟩
    | some json =>
      obtain ⟨inner, rfl, objects⟩ := objects json found
      obtain ⟨nodes, made⟩ := exists_nodesOf_iff.mpr objects
      exact ⟨⟨.ofList nodes⟩, members, rfl, .inr ⟨inner, nodes, found, made, rfl⟩⟩

/-! ## Files -/

/-- The bytes of a file are the UTF-8 of a JSON text, and this is its value. -/
def Holds (disk : Disk) (p : Path) (json : Json) : Prop :=
  ∃ bytes text, disk.read p = .ok bytes ∧ Text.ofUtf8? bytes = some text ∧
    JsonText.read text = .ok json

/-- Why a file holds no JSON value: it cannot be read, or its bytes are no text, or the text is no
    JSON. -/
inductive Unreadable (disk : Disk) (p : Path) : String → Prop
  | noBytes {fault : DiskFault} :
      disk.read p = .error fault →
      Unreadable disk p ("Failed to read file: " ++ fault.message)
  | noText {bytes : List UInt8} :
      disk.read p = .ok bytes → Text.ofUtf8? bytes = none →
      Unreadable disk p ("Failed to read file: " ++ Disk.notText)
  | noJson {bytes : List UInt8} {text message : String} :
      disk.read p = .ok bytes → Text.ofUtf8? bytes = some text →
      JsonText.read text = .error message →
      Unreadable disk p ("Invalid JSON: " ++ message)

/-- Why nothing can be made of a file: it holds no JSON value, or one that does not do. -/
inductive Refused {α : Type} (disk : Disk) (p : Path) (make : Json → Except Defect α) :
    String → Prop
  | unreadable {reason : String} : Unreadable disk p reason → Refused disk p make reason
  | unfit {json : Json} {defect : Defect} :
      Holds disk p json → make json = .error defect → Refused disk p make defect.message

section

variable {α : Type} {disk : Disk} {p : Path} {make : Json → Except Defect α}

theorem readText_eq_ok_iff {text : String} :
    disk.readText p = .ok text ↔
      ∃ bytes, disk.read p = .ok bytes ∧ Text.ofUtf8? bytes = some text := by
  unfold Disk.readText
  cases disk.read p with
  | error fault => simp
  | ok bytes => cases h : Text.ofUtf8? bytes <;> simp [h]

theorem readText_eq_error_iff {message : String} :
    disk.readText p = .error message ↔
      (∃ fault, disk.read p = .error fault ∧ message = fault.message) ∨
      ∃ bytes, disk.read p = .ok bytes ∧ Text.ofUtf8? bytes = none ∧ message = Disk.notText := by
  unfold Disk.readText
  cases disk.read p with
  | error fault => simp [eq_comm]
  | ok bytes => cases h : Text.ofUtf8? bytes <;> simp [h, eq_comm]

theorem readJson_eq_ok_iff {json : Json} : readJson disk p = .ok json ↔ Holds disk p json := by
  unfold readJson Holds
  cases read : disk.readText p with
  | error message =>
    refine ⟨nofun, ?_⟩
    rintro ⟨bytes, text, there, reads, _⟩
    rw [readText_eq_ok_iff.mpr ⟨bytes, there, reads⟩] at read
    cases read
  | ok text =>
    obtain ⟨bytes, there, reads⟩ := readText_eq_ok_iff.mp read
    cases parsed : JsonText.read text <;> simp [there, reads, parsed]

theorem readJson_eq_error_iff {defect : Defect} :
    readJson disk p = .error defect ↔
      ∃ reason, Unreadable disk p reason ∧ defect = .malformed p.shown reason := by
  constructor
  · intro refused
    unfold readJson at refused
    split at refused
    · next message failed =>
      cases refused
      rcases readText_eq_error_iff.mp failed with ⟨fault, there, rfl⟩ | ⟨bytes, there, none, rfl⟩
      · exact ⟨_, .noBytes there, rfl⟩
      · exact ⟨_, .noText there none, rfl⟩
    · next text read =>
      split at refused
      · cases refused
      · next message parsed =>
        cases refused
        obtain ⟨bytes, there, reads⟩ := readText_eq_ok_iff.mp read
        exact ⟨_, .noJson there reads parsed, rfl⟩
  · rintro ⟨_, @⟨fault, there⟩ | @⟨bytes, there, none⟩ | ⟨there, reads, parsed⟩, rfl⟩
    · rw [readJson, readText_eq_error_iff.mpr (.inl ⟨fault, there, rfl⟩)]
    · rw [readJson, readText_eq_error_iff.mpr (.inr ⟨bytes, there, none, rfl⟩)]
    · simp only [readJson, readText_eq_ok_iff.mpr ⟨_, there, reads⟩, parsed]

theorem inFile_eq_ok_iff {r : Except Defect α} {a : α} : inFile p r = .ok a ↔ r = .ok a := by
  cases r <;> simp [inFile, Except.mapError]

theorem inFile_eq_error_iff {r : Except Defect α} {defect : Defect} :
    inFile p r = .error defect ↔
      ∃ found, r = .error found ∧ defect = .malformed p.shown found.message := by
  cases r <;> simp [inFile, Except.mapError, eq_comm]

/-- A file gives what is made of the JSON value that it holds. -/
theorem file_eq_ok_iff {a : α} :
    (readJson disk p >>= fun json => inFile p (make json)) = .ok a ↔
      ∃ json, Holds disk p json ∧ make json = .ok a := by
  simp only [bind_eq_ok_iff, readJson_eq_ok_iff, inFile_eq_ok_iff]

theorem file_eq_error_iff {defect : Defect} :
    (readJson disk p >>= fun json => inFile p (make json)) = .error defect ↔
      ∃ reason, Refused disk p make reason ∧ defect = .malformed p.shown reason := by
  simp only [bind_eq_error_iff, readJson_eq_error_iff, readJson_eq_ok_iff, inFile_eq_error_iff]
  constructor
  · rintro (⟨reason, unreadable, rfl⟩ | ⟨json, holds, found, unfit, rfl⟩)
    · exact ⟨reason, .unreadable unreadable, rfl⟩
    · exact ⟨found.message, .unfit holds unfit, rfl⟩
  · rintro ⟨_, unreadable | ⟨holds, unfit⟩, rfl⟩
    · exact .inl ⟨_, unreadable, rfl⟩
    · exact .inr ⟨_, holds, _, unfit, rfl⟩

end

/-! ## Document files -/

/-- A file of a directory holds a document, and its stem writes the document's key. -/
def HoldsDocument (disk : Disk) (directory name : Path) (entry : String × Document) : Prop :=
  Text.ofUtf8? name.splitDot.1 = some entry.1 ∧
    ∃ json, Holds disk (directory.join name) json ∧ FieldsOf json entry.2

/-- Why a file of a directory gives no document: its stem is no text, or nothing can be made of what
    it holds. -/
inductive RefusedDocument (disk : Disk) (directory name : Path) : String → Prop
  | noKey :
      Text.ofUtf8? name.splitDot.1 = none →
      RefusedDocument disk directory name "File name is not valid UTF-8"
  | noDocument {key reason : String} :
      Text.ofUtf8? name.splitDot.1 = some key →
      Refused disk (directory.join name) Document.ofJson reason →
      RefusedDocument disk directory name reason

section

variable {disk : Disk} {directory name : Path}

theorem readDocument_of_key {key : String} (reads : Text.ofUtf8? name.splitDot.1 = some key) :
    readDocument disk directory name =
      (readJson disk (directory.join name) >>= fun json =>
        inFile (directory.join name) (Document.ofJson json)).map
          fun document => (key, document) := by
  rw [readDocument, reads]
  cases readJson disk (directory.join name) with
  | error => rfl
  | ok json => cases h : inFile (directory.join name) (Document.ofJson json) <;>
      simp [bind, Except.bind, Except.map, h, pure, Except.pure]

theorem readDocument_of_no_key (unread : Text.ofUtf8? name.splitDot.1 = none) :
    readDocument disk directory name =
      .error (.malformed (directory.join name).shown "File name is not valid UTF-8") := by
  rw [readDocument, unread]
  rfl

theorem readDocument_eq_ok_iff {entry : String × Document} :
    readDocument disk directory name = .ok entry ↔ HoldsDocument disk directory name entry := by
  unfold HoldsDocument
  cases stem : Text.ofUtf8? name.splitDot.1 with
  | none => simp [readDocument_of_no_key stem]
  | some key =>
    simp only [readDocument_of_key stem, map_eq_ok_iff, file_eq_ok_iff, document_ofJson_iff,
      Option.some.injEq]
    constructor
    · rintro ⟨document, held, rfl⟩
      exact ⟨rfl, held⟩
    · rintro ⟨rfl, held⟩
      exact ⟨entry.2, held, rfl⟩

theorem readDocument_eq_error_iff {defect : Defect} :
    readDocument disk directory name = .error defect ↔
      ∃ reason, RefusedDocument disk directory name reason ∧
        defect = .malformed (directory.join name).shown reason := by
  cases stem : Text.ofUtf8? name.splitDot.1 with
  | none =>
    rw [readDocument_of_no_key stem]
    constructor
    · rintro ⟨⟩
      exact ⟨_, .noKey stem, rfl⟩
    · rintro ⟨_, _ | ⟨reads, _⟩, rfl⟩
      · rfl
      · rw [stem] at reads
        cases reads
  | some key =>
    rw [readDocument_of_key stem, map_eq_error_iff, file_eq_error_iff]
    constructor
    · rintro ⟨reason, refused, rfl⟩
      exact ⟨reason, .noDocument stem refused, rfl⟩
    · rintro ⟨_, unread | ⟨_, refused⟩, rfl⟩
      · rw [stem] at unread
        cases unread
      · exact ⟨_, refused, rfl⟩

end

end RecordRules
