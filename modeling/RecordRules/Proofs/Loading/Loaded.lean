/-
  What loading gives. The definitions come first, then the directory, then its document files in the
  order of their names; the first defect ends it. If there is none, the store has one document for
  each document file, under the key that the file's stem writes. Files of other names are not looked
  at, and the order in which the directory lists its entries does not matter.

  1. `load_result`: loading as a chain of steps that may refuse.
  2. `nodup_keys`: document files of different names have different keys.
  3. `loaded_of_load`, `Loaded.load_eq`: what loading gives is what `Loaded` says.
  4. `exists_store_iff`: there is a store exactly if the files have the form that they must have.
  5. `load_congr`: loading depends on the files of rules only.
  6. `load_faithful`: the same as one statement.
-/
import Mathlib
import RecordRules.Disk.Tree
import RecordRules.Proofs.Loading.Files
import RecordRules.Proofs.Loading.Names
import RecordRules.Proofs.Store.Documents

namespace RecordRules

open Loading (isDocument readDefinitions readDocument documentNames registerAll intoStore load)

/-- The definitions are those of a file, or none if the file is missing. -/
def HoldsDefinitions (disk : Disk) (p : Path) (definitions : Definitions) : Prop :=
  disk.has p = false ∧ definitions = .empty ∨
    disk.has p = true ∧ ∃ json, Holds disk p json ∧ DefinitionsOf json definitions

/-- A directory has entries of these names, in the order in which they are listed, and no other. -/
def Disk.Lists (disk : Disk) (directory : Path) (names : List Path) : Prop :=
  disk.list directory = .ok (names.map .ok)

/-- The names of all entries of a directory, in the order in which they are listed, or none if the
    directory is missing. -/
def Listed (disk : Disk) (directory : Path) (names : List Path) : Prop :=
  disk.has directory = false ∧ names = [] ∨
    disk.has directory = true ∧ disk.Lists directory names

/-- What loading the files of a layout gives. -/
inductive Loaded (disk : Disk) (layout : Layout) : Except Defect Store → Prop
  | badDefinitions {reason : String} :
      disk.has layout.definitions = true →
      Refused disk layout.definitions Definitions.ofRoot reason →
      Loaded disk layout (.error (.malformed layout.definitions.shown reason))
  | badDirectory {definitions : Definitions} {fault : DiskFault} :
      HoldsDefinitions disk layout.definitions definitions →
      disk.has layout.documents = true → disk.list layout.documents = .error fault →
      Loaded disk layout (.error (.malformed layout.documents.shown
        ("Failed to read rules directory: " ++ fault.message)))
  | badEntry {definitions : Definitions} {entries : List (Except DiskFault Path)}
      {fault : DiskFault} :
      HoldsDefinitions disk layout.definitions definitions →
      disk.has layout.documents = true → disk.list layout.documents = .ok entries →
      FirstError id entries fault →
      Loaded disk layout (.error (.malformed layout.documents.shown
        ("Failed to read directory entry: " ++ fault.message)))
  | badDocument {definitions : Definitions} {names : List Path} {name : Path} {reason : String} :
      HoldsDefinitions disk layout.definitions definitions →
      Listed disk layout.documents names →
      name ∈ names → isDocument name = true →
      (∀ other ∈ names, isDocument other = true → other < name →
        ∃ entry, HoldsDocument disk layout.documents other entry) →
      RefusedDocument disk layout.documents name reason →
      Loaded disk layout (.error (.malformed (layout.documents.join name).shown reason))
  | store {names : List Path} {store : Store} :
      HoldsDefinitions disk layout.definitions store.definitions →
      Listed disk layout.documents names →
      (∀ name ∈ names, isDocument name = true →
        ∃ entry, HoldsDocument disk layout.documents name entry) →
      (∀ key document, store.find? key = some document ↔
        ∃ name ∈ names, isDocument name = true ∧
          HoldsDocument disk layout.documents name (key, document)) →
      store.size = (names.filter isDocument).length →
      Loaded disk layout (.ok store)

variable {disk : Disk} {layout : Layout}

/-! ## The steps of loading -/

theorem definitions_eq_ok_iff {p : Path} {definitions : Definitions} :
    (Loading.definitions disk p).result = .ok definitions ↔
      HoldsDefinitions disk p definitions := by
  have read : readDefinitions disk p = .ok definitions ↔
      ∃ json, Holds disk p json ∧ DefinitionsOf json definitions := by
    rw [readDefinitions, file_eq_ok_iff]
    simp only [definitions_ofRoot_iff]
  rw [HoldsDefinitions, ← read, Loading.definitions]
  cases disk.has p with
  | false => simp [eq_comm]
  | true => cases readDefinitions disk p <;> simp

theorem definitions_eq_error_iff {p : Path} {defect : Defect} :
    (Loading.definitions disk p).result = .error defect ↔
      disk.has p = true ∧
        ∃ reason, Refused disk p Definitions.ofRoot reason ∧ defect = .malformed p.shown reason := by
  rw [← file_eq_error_iff, ← readDefinitions, Loading.definitions]
  cases disk.has p with
  | false => simp
  | true => cases readDefinitions disk p <;> simp

theorem documents_result (directory : Path) (names : List Path) :
    (Loading.documents disk directory names).result = names.mapM (readDocument disk directory) := by
  induction names with
  | nil => rfl
  | cons name names ih =>
    rw [Loading.documents, List.mapM_cons]
    cases readDocument disk directory name with
    | error defect => rfl
    | ok entry =>
      simp only [ih]
      cases names.mapM (readDocument disk directory) <;> rfl

theorem intoStore_result (directory : Path) (store : Store) :
    (intoStore disk directory store).result =
      (documentNames disk directory >>= fun names =>
        names.mapM (readDocument disk directory) >>= registerAll store) := by
  cases named : documentNames disk directory with
  | error defect => simp only [intoStore, named, bind, Except.bind]
  | ok names =>
    simp only [intoStore, named, documents_result, bind, Except.bind]
    cases names.mapM (readDocument disk directory) with
    | error defect => rfl
    | ok documents => cases h : registerAll store documents <;> simp only [h]

theorem load_result (disk : Disk) (layout : Layout) :
    (load disk layout).result =
      ((Loading.definitions disk layout.definitions).result >>= fun definitions =>
        documentNames disk layout.documents >>= fun names =>
        names.mapM (readDocument disk layout.documents) >>= registerAll (.new definitions)) := by
  cases defined : (Loading.definitions disk layout.definitions).result with
  | error defect => simp only [load, defined, bind, Except.bind]
  | ok definitions =>
    simp only [load, defined]
    exact intoStore_result layout.documents (.new definitions)

/-- The entries of a directory that are all readable. -/
theorem mapM_id_eq_ok_iff {entries : List (Except DiskFault Path)} {names : List Path} :
    entries.mapM id = .ok names ↔ entries = names.map .ok := by
  rw [mapM_eq_ok_iff]
  simp only [id_eq]
  rw [← List.forall₂_map_right_iff (f := Except.ok), List.forall₂_eq_eq_eq]

theorem documentNames_eq_ok_iff {directory : Path} {sorted : List Path} :
    documentNames disk directory = .ok sorted ↔
      ∃ names, Listed disk directory names ∧
        (names.filter isDocument).mergeSort Path.le = sorted := by
  unfold documentNames Listed Disk.Lists
  cases disk.has directory with
  | false => simp [eq_comm]
  | true =>
    cases disk.list directory with
    | error fault => simp
    | ok entries =>
      simp only [Except.ok.injEq, ← mapM_id_eq_ok_iff]
      cases entries.mapM id <;> simp

/-- A directory is refused if it cannot be listed, or for its first entry that cannot be read. -/
theorem documentNames_eq_error_iff {directory : Path} {defect : Defect} :
    documentNames disk directory = .error defect ↔
      disk.has directory = true ∧
        ((∃ fault, disk.list directory = .error fault ∧
          defect = .malformed directory.shown
            ("Failed to read rules directory: " ++ fault.message)) ∨
        ∃ entries fault, disk.list directory = .ok entries ∧ FirstError id entries fault ∧
          defect = .malformed directory.shown
            ("Failed to read directory entry: " ++ fault.message)) := by
  unfold documentNames
  simp only [← mapM_eq_error_iff]
  cases disk.has directory with
  | false => simp
  | true =>
    cases disk.list directory with
    | error fault => simp [eq_comm]
    | ok entries => cases read : entries.mapM id <;> simp [read, eq_comm]

/-! ## Document files -/

/-- A key that is written by the stem of one document file is written by no other. -/
theorem nodup_keys {directory : Path} {names : List Path} {entries : List (String × Document)}
    (distinct : names.Nodup) (documents : ∀ name ∈ names, isDocument name = true)
    (held : List.Forall₂ (HoldsDocument disk directory) names entries) :
    (entries.map Prod.fst).Nodup := by
  have named : names =
      (entries.map Prod.fst).map fun key => key.toUTF8.data.toList ++ 46 :: Loading.ending := by
    clear distinct
    induction held with
    | nil => rfl
    | cons here _ ih =>
      rw [List.forall_mem_cons] at documents
      rw [List.map_cons, List.map_cons, ← ih documents.2, ← name_of_key documents.1 here.1]
  rw [named] at distinct
  exact List.Nodup.of_map _ distinct

theorem mem_sorted_iff {names : List Path} {name : Path} :
    name ∈ (names.filter isDocument).mergeSort Path.le ↔ name ∈ names ∧ isDocument name = true := by
  rw [List.mem_mergeSort, List.mem_filter]

/-- The first file of the sorted ones that is refused is the least one. -/
theorem firstError_sorted_iff {directory : Path} {names : List Path} {defect : Defect} :
    FirstError (readDocument disk directory) ((names.filter isDocument).mergeSort Path.le) defect ↔
      ∃ name ∈ names, isDocument name = true ∧
        (∀ other ∈ names, isDocument other = true → other < name →
          ∃ entry, HoldsDocument disk directory other entry) ∧
        ∃ reason, RefusedDocument disk directory name reason ∧
          defect = .malformed (directory.join name).shown reason := by
  have listed (name : Path) : name ∈ (names.filter isDocument).mergeSort Path.le ↔
      name ∈ names ∧ isDocument name = true := mem_sorted_iff
  have ascending := pairwise_sorted (names.filter isDocument)
  simp only [FirstError, readDocument_eq_ok_iff, readDocument_eq_error_iff]
  constructor
  · rintro ⟨before, name, after, split, accepted, refused⟩
    rw [split] at listed ascending
    obtain ⟨there, document⟩ := (listed name).mp List.mem_append_cons_self
    refine ⟨name, there, document, fun other there' document' less => ?_, refused⟩
    rcases List.mem_append.mp ((listed other).mpr ⟨there', document'⟩) with earlier | later
    · exact accepted other earlier
    · -- what comes after the name is not less
      have notLess : name ≤ other := by
        rcases List.mem_cons.mp later with rfl | later
        · exact Std.le_refl _
        · exact (List.pairwise_cons.mp (List.pairwise_append.mp ascending).2.1).1 other later
      exact absurd less (Std.not_lt.mpr notLess)
  · rintro ⟨name, there, document, least, refused⟩
    obtain ⟨before, after, split, new⟩ :=
      List.eq_append_cons_of_mem ((listed name).mpr ⟨there, document⟩)
    rw [split] at listed ascending
    refine ⟨before, name, after, split, fun other earlier => ?_, refused⟩
    obtain ⟨there', document'⟩ := (listed other).mp (List.mem_append_left _ earlier)
    have le : other ≤ name := (List.pairwise_append.mp ascending).2.2 other earlier name
      (List.mem_cons_self ..)
    have ne : other ≠ name := fun same => new (same ▸ earlier)
    exact least other there' document' (Std.lt_of_le_of_ne le ne)

/-- The document files are read without a defect if each of them is. -/
theorem exists_read_iff {directory : Path} {names : List Path} :
    (∃ entries, ((names.filter isDocument).mergeSort Path.le).mapM (readDocument disk directory) =
      .ok entries) ↔
      ∀ name ∈ names, isDocument name = true → ∃ entry, HoldsDocument disk directory name entry := by
  simp only [mapM_eq_ok_iff, readDocument_eq_ok_iff]
  constructor
  · rintro ⟨entries, held⟩ name there document
    obtain ⟨entry, _, here⟩ := exists_of_forall₂ held (mem_sorted_iff.mpr ⟨there, document⟩)
    exact ⟨entry, here⟩
  · intro each
    refine exists_forall₂ fun name sorted => ?_
    obtain ⟨there, document⟩ := mem_sorted_iff.mp sorted
    exact each name there document

/-! ## All files -/

/-- Documents of document files are all taken, and the store has no others. -/
theorem registerAll_held {directory : Path} {names : List Path}
    {entries : List (String × Document)} (distinct : names.Nodup)
    (held : ((names.filter isDocument).mergeSort Path.le).mapM (readDocument disk directory) =
      .ok entries) (definitions : Definitions) :
    ∃ store, registerAll (.new definitions) entries = .ok store ∧
      store.definitions = definitions ∧
      (∀ key document, store.find? key = some document ↔
        ∃ name ∈ names, isDocument name = true ∧
          HoldsDocument disk directory name (key, document)) ∧
      store.size = (names.filter isDocument).length := by
  have each : List.Forall₂ (HoldsDocument disk directory)
      ((names.filter isDocument).mergeSort Path.le) entries := by
    simpa only [mapM_eq_ok_iff, readDocument_eq_ok_iff] using held
  have sorted := List.mergeSort_perm (names.filter isDocument) Path.le
  -- distinct names have distinct keys, so that no document is refused
  have keys := nodup_keys (sorted.nodup_iff.mpr (distinct.filter _))
    (fun _ listed => (mem_sorted_iff.mp listed).2) each
  obtain ⟨store, taken, same, holds⟩ := registerAll_new keys definitions
  refine ⟨store, taken, same, fun key document => ?_, ?_⟩
  · rw [store_find?_eq_some_iff, holds.mem_iff, mem_mapM_iff held]
    simp only [mem_sorted_iff, readDocument_eq_ok_iff, and_assoc]
  · calc
      store.size = entries.length := holds.length_eq
      _ = ((names.filter isDocument).mergeSort Path.le).length := each.length_eq.symm
      _ = (names.filter isDocument).length := sorted.length_eq

theorem Listed.nodup {directory : Path} {names : List Path}
    (distinct : ∀ names, disk.Lists directory names → names.Nodup)
    (listed : Listed disk directory names) : names.Nodup := by
  rcases listed with ⟨_, rfl⟩ | ⟨_, there⟩
  · exact List.nodup_nil
  · exact distinct names there

/-- If nothing is refused, there is a store. -/
theorem load_of_each {definitions : Definitions} {names : List Path}
    (distinct : ∀ names, disk.Lists layout.documents names → names.Nodup)
    (defined : HoldsDefinitions disk layout.definitions definitions)
    (listed : Listed disk layout.documents names)
    (each : ∀ name ∈ names, isDocument name = true →
      ∃ entry, HoldsDocument disk layout.documents name entry) :
    ∃ store, (load disk layout).result = .ok store ∧ store.definitions = definitions ∧
      (∀ key document, store.find? key = some document ↔
        ∃ name ∈ names, isDocument name = true ∧
          HoldsDocument disk layout.documents name (key, document)) ∧
      store.size = (names.filter isDocument).length := by
  obtain ⟨entries, held⟩ := exists_read_iff.mpr each
  obtain ⟨store, taken, holds⟩ := registerAll_held (listed.nodup distinct) held definitions
  refine ⟨store, ?_, holds⟩
  rw [load_result, definitions_eq_ok_iff.mpr defined, documentNames_eq_ok_iff.mpr ⟨_, listed, rfl⟩]
  simp only [bind, Except.bind, held, taken]

theorem loaded_of_load
    (distinct : ∀ names, disk.Lists layout.documents names → names.Nodup) :
    Loaded disk layout (load disk layout).result := by
  cases defined : (Loading.definitions disk layout.definitions).result with
  | error defect =>
    obtain ⟨there, reason, refused, rfl⟩ := definitions_eq_error_iff.mp defined
    rw [load_result, defined]
    exact .badDefinitions there refused
  | ok definitions =>
    have defined' := definitions_eq_ok_iff.mp defined
    cases named : documentNames disk layout.documents with
    | error defect =>
      rw [load_result, defined, named]
      obtain ⟨there, ⟨fault, failed, rfl⟩ | ⟨entries, fault, listed, first, rfl⟩⟩ :=
        documentNames_eq_error_iff.mp named
      · exact .badDirectory defined' there failed
      · exact .badEntry defined' there listed first
    | ok sorted =>
      obtain ⟨names, listed, rfl⟩ := documentNames_eq_ok_iff.mp named
      cases held : ((names.filter isDocument).mergeSort Path.le).mapM
          (readDocument disk layout.documents) with
      | error defect =>
        obtain ⟨name, there, document, least, reason, refused, rfl⟩ :=
          firstError_sorted_iff.mp (mapM_eq_error_iff.mp held)
        rw [load_result, defined, named]
        simp only [bind, Except.bind, held]
        exact .badDocument defined' listed there document least refused
      | ok entries =>
        have each := exists_read_iff.mp ⟨entries, held⟩
        obtain ⟨store, loaded, same, found, count⟩ := load_of_each distinct defined' listed each
        rw [loaded]
        exact .store (same ▸ defined') listed each found count

/-- `Loaded` leaves no choice. -/
theorem Loaded.load_eq
    (distinct : ∀ names, disk.Lists layout.documents names → names.Nodup)
    {result : Except Defect Store} (loaded : Loaded disk layout result) :
    (load disk layout).result = result := by
  cases loaded with
  | badDefinitions there refused =>
    rw [load_result, definitions_eq_error_iff.mpr ⟨there, _, refused, rfl⟩]
    rfl
  | badDirectory defined there failed =>
    rw [load_result, definitions_eq_ok_iff.mpr defined,
      documentNames_eq_error_iff.mpr ⟨there, .inl ⟨_, failed, rfl⟩⟩]
    rfl
  | badEntry defined there listed first =>
    rw [load_result, definitions_eq_ok_iff.mpr defined,
      documentNames_eq_error_iff.mpr ⟨there, .inr ⟨_, _, listed, first, rfl⟩⟩]
    rfl
  | badDocument defined listed there document least refused =>
    have held := mapM_eq_error_iff.mpr
      (firstError_sorted_iff.mpr ⟨_, there, document, least, _, refused, rfl⟩)
    rw [load_result, definitions_eq_ok_iff.mpr defined,
      documentNames_eq_ok_iff.mpr ⟨_, listed, rfl⟩]
    simp only [bind, Except.bind, held]
  | store defined listed each found _ =>
    -- what loading gives has the same documents, and a store with these is unique
    obtain ⟨other, loaded, same, found', _⟩ := load_of_each distinct defined listed each
    have equal := store_ext same fun key document =>
      (found' key document).trans (found key document).symm
    rw [loaded, equal]

/-! ## Files that can be loaded -/

/-- The form that the files of a layout must have: what is there is a file of definitions, and a
    directory in which every document file holds an object of objects under a name that is text. -/
structure Loadable (disk : Disk) (layout : Layout) : Prop where
  definitions : disk.has layout.definitions = true →
    ∃ json, Holds disk layout.definitions json ∧ DefinitionsRoot json
  documents : disk.has layout.documents = true →
    ∃ names, disk.Lists layout.documents names ∧
      ∀ name ∈ names, isDocument name = true →
        ∃ key json, Text.ofUtf8? name.splitDot.1 = some key ∧
          Holds disk (layout.documents.join name) json ∧ ObjectOfObjects json

theorem exists_holdsDefinitions_iff {p : Path} :
    (∃ definitions, HoldsDefinitions disk p definitions) ↔
      (disk.has p = true → ∃ json, Holds disk p json ∧ DefinitionsRoot json) := by
  simp only [← exists_definitionsOf_iff, HoldsDefinitions]
  cases disk.has p with
  | false => simp
  | true =>
    constructor
    · rintro ⟨definitions, ⟨⟨⟩, _⟩ | ⟨_, json, holds, made⟩⟩ _
      exact ⟨json, holds, definitions, made⟩
    · intro held
      obtain ⟨json, holds, definitions, made⟩ := held rfl
      exact ⟨definitions, .inr ⟨rfl, json, holds, made⟩⟩

theorem exists_holdsDocument_iff {directory name : Path} :
    (∃ entry, HoldsDocument disk directory name entry) ↔
      ∃ key json, Text.ofUtf8? name.splitDot.1 = some key ∧
        Holds disk (directory.join name) json ∧ ObjectOfObjects json := by
  simp only [← exists_fieldsOf_iff]
  constructor
  · rintro ⟨⟨key, document⟩, reads, json, holds, made⟩
    exact ⟨key, json, reads, holds, document, made⟩
  · rintro ⟨key, json, reads, holds, document, made⟩
    exact ⟨(key, document), reads, json, holds, made⟩

theorem exists_store_iff
    (distinct : ∀ names, disk.Lists layout.documents names → names.Nodup) :
    (∃ store, (load disk layout).result = .ok store) ↔ Loadable disk layout := by
  constructor
  · rintro ⟨store, loaded⟩
    have given := loaded_of_load distinct
    rw [loaded] at given
    cases given with
    | @store names _ defined listed each =>
      refine ⟨exists_holdsDefinitions_iff.mp ⟨_, defined⟩, fun there => ?_⟩
      rcases listed with ⟨missing, _⟩ | ⟨_, listed⟩
      · rw [missing] at there
        cases there
      · exact ⟨names, listed, fun name listed document =>
          exists_holdsDocument_iff.mp (each name listed document)⟩
  · rintro ⟨definitions, documents⟩
    obtain ⟨definitions, defined⟩ := exists_holdsDefinitions_iff.mpr definitions
    cases there : disk.has layout.documents with
    | false =>
      obtain ⟨store, loaded, _⟩ := load_of_each distinct defined (.inl ⟨there, rfl⟩) nofun
      exact ⟨store, loaded⟩
    | true =>
      obtain ⟨names, listed, each⟩ := documents there
      obtain ⟨store, loaded, _⟩ := load_of_each distinct defined (.inr ⟨there, listed⟩)
        fun name listed document => exists_holdsDocument_iff.mpr (each name listed document)
      exact ⟨store, loaded⟩

/-! ## What loading depends on -/

/-- Two disks have the same document files in a directory, whatever else there is and in whatever
    order it is listed. -/
inductive SameDocuments (disk other : Disk) (directory : Path) : Prop
  | missing :
      disk.has directory = false → other.has directory = false →
      SameDocuments disk other directory
  | unlisted {fault : DiskFault} :
      disk.has directory = true → other.has directory = true →
      disk.list directory = .error fault → other.list directory = .error fault →
      SameDocuments disk other directory
  | unread {entries entries' : List (Except DiskFault Path)} {fault : DiskFault} :
      disk.has directory = true → other.has directory = true →
      disk.list directory = .ok entries → other.list directory = .ok entries' →
      FirstError id entries fault → FirstError id entries' fault →
      SameDocuments disk other directory
  | listed {names names' : List Path} :
      disk.has directory = true → other.has directory = true →
      disk.Lists directory names → other.Lists directory names' →
      (names'.filter isDocument).Perm (names.filter isDocument) →
      (∀ name ∈ names, isDocument name = true →
        other.read (directory.join name) = disk.read (directory.join name)) →
      SameDocuments disk other directory

/-- Two disks have the same files of rules. -/
structure SameRules (disk other : Disk) (layout : Layout) : Prop where
  present : other.has layout.definitions = disk.has layout.definitions
  definitions : disk.has layout.definitions = true →
    other.read layout.definitions = disk.read layout.definitions
  documents : SameDocuments disk other layout.documents

variable {other : Disk}

theorem readJson_congr {p : Path} (same : other.read p = disk.read p) :
    Loading.readJson other p = Loading.readJson disk p := by
  simp only [Loading.readJson, Disk.readText, same]

theorem definitions_congr {p : Path} (present : other.has p = disk.has p)
    (same : disk.has p = true → other.read p = disk.read p) :
    Loading.definitions other p = Loading.definitions disk p := by
  rw [Loading.definitions, Loading.definitions, present]
  cases there : disk.has p with
  | false => rfl
  | true => rw [readDefinitions, readDefinitions, readJson_congr (same there)]

theorem documents_congr {directory : Path} {names : List Path}
    (same : ∀ name ∈ names,
      other.read (directory.join name) = disk.read (directory.join name)) :
    Loading.documents other directory names = Loading.documents disk directory names := by
  induction names with
  | nil => rfl
  | cons name names ih =>
    rw [List.forall_mem_cons] at same
    simp only [Loading.documents, readDocument, readJson_congr same.1, ih same.2]

theorem intoStore_congr {directory : Path} (same : SameDocuments disk other directory)
    (store : Store) : intoStore other directory store = intoStore disk directory store := by
  cases same with
  | missing missing missing' => simp [intoStore, documentNames, missing, missing', Loading.documents]
  | unlisted there there' failed failed' =>
    simp [intoStore, documentNames, there, there', failed, failed']
  | unread there there' listed listed' first first' =>
    have read := mapM_eq_error_iff.mpr first
    have read' := mapM_eq_error_iff.mpr first'
    simp [intoStore, documentNames, there, there', listed, listed', read, read']
  | @listed names names' there there' listed listed' same files =>
    have documents := documents_congr fun name sorted =>
      have ⟨listed, document⟩ := mem_sorted_iff.mp sorted
      files name listed document
    have read := mapM_id_eq_ok_iff.mpr (rfl : names.map Except.ok = _)
    have read' := mapM_id_eq_ok_iff.mpr (rfl : names'.map Except.ok = _)
    rw [Disk.Lists] at listed listed'
    simp only [intoStore, documentNames, there, there', listed, listed', read, read',
      sorted_eq_of_perm same, if_true, documents]

/-- Loading gives the same, and logs the same, for the same files of rules. -/
theorem load_congr (same : SameRules disk other layout) : load other layout = load disk layout := by
  simp only [load, definitions_congr same.present same.definitions, intoStore_congr same.documents]

/-! ## Loading in full -/

/-- Loading is faithful to the files. What it gives is what `Loaded` says; there is a store exactly
    if the files have the form that they must have, and otherwise the defect is that of a file; and
    it depends on nothing but the file of definitions and the document files. -/
theorem load_faithful (disk : Disk) (layout : Layout)
    (distinct : ∀ names, disk.Lists layout.documents names → names.Nodup) :
    (∀ result, (load disk layout).result = result ↔ Loaded disk layout result) ∧
      ((∃ store, (load disk layout).result = .ok store) ↔ Loadable disk layout) ∧
      (∀ defect, (load disk layout).result = .error defect →
        ∃ file reason, defect = .malformed file reason) ∧
      ∀ other, SameRules disk other layout → load other layout = load disk layout := by
  refine ⟨fun result => ⟨?_, Loaded.load_eq distinct⟩, exists_store_iff distinct, ?_,
    fun _ => load_congr⟩
  · rintro rfl
    exact loaded_of_load distinct
  · intro defect failed
    have given := loaded_of_load distinct
    rw [failed] at given
    cases given with
    | badDefinitions | badDirectory | badEntry | badDocument => exact ⟨_, _, rfl⟩

/-- A directory that can be listed is there. -/
theorem tree_has_of_list {tree : Tree} {p : Path} {entries : List (Except DiskFault Path)}
    (listed : tree.disk.list p = .ok entries) : tree.disk.has p = true := by
  obtain ⟨found, there, _⟩ := bind_eq_ok_iff.mp listed
  exact congrArg Except.isOk there

/-- A tree of rules without definitions, with given entries among the documents. -/
def rulesTree (entries : List (Path × Tree)) : Tree :=
  .directory [(.ofText "specifics", .directory entries)]

/-- Where the rules of a tree are. -/
def rulesLayout : Layout := ⟨.ofText "common", .ofText "specifics"⟩

/-- A document with one field. -/
def paymentFile : Path × Tree :=
  (.ofText "payment.json", .file (Text.utf8 "\x7b\"amount\": \x7b\"required\": true\x7d\x7d"))

/-- A file that is no document. -/
def notesFile : Path × Tree := (.ofText "notes.txt", .file (Text.utf8 "to do"))

/-- The rules of payments as they are loaded. -/
def loadedPayments : Store where
  definitions := .empty
  documents := [("payment", ⟨[("amount", ⟨.ofList [("required", .bool true)]⟩)]⟩)]
  ascending := by decide

theorem load_faithful_payments :
    (∀ names, (rulesTree [notesFile, paymentFile]).disk.Lists rulesLayout.documents names →
      names.Nodup) ∧
    Loadable (rulesTree [notesFile, paymentFile]).disk rulesLayout ∧
    Loaded (rulesTree [notesFile, paymentFile]).disk rulesLayout (.ok loadedPayments) ∧
    (load (rulesTree [paymentFile, notesFile]).disk rulesLayout).result = .ok loadedPayments := by
  have listed : (rulesTree [notesFile, paymentFile]).disk.Lists rulesLayout.documents
      [notesFile.1, paymentFile.1] := by
    rw [Disk.Lists]
    cbv
  have relisted : (rulesTree [paymentFile, notesFile]).disk.Lists rulesLayout.documents
      [paymentFile.1, notesFile.1] := by
    rw [Disk.Lists]
    cbv
  have distinct : ∀ names,
      (rulesTree [notesFile, paymentFile]).disk.Lists rulesLayout.documents names →
        names.Nodup := by
    intro names there
    rw [Disk.Lists, listed, Except.ok.injEq] at there
    have same : [notesFile.1, paymentFile.1] = names :=
      List.map_injective_iff.mpr (fun _ _ => Except.ok.inj) there
    rw [← same]
    decide +kernel
  have loaded : (load (rulesTree [notesFile, paymentFile]).disk rulesLayout).result =
      .ok loadedPayments := by cbv
  have same : SameRules (rulesTree [notesFile, paymentFile]).disk
      (rulesTree [paymentFile, notesFile]).disk rulesLayout := by
    refine ⟨by cbv, fun _ => by cbv, .listed (tree_has_of_list listed) (tree_has_of_list relisted) listed relisted
      ?_ ?_⟩
    · exact (List.Perm.swap notesFile.1 paymentFile.1 []).filter isDocument
    · rintro name there document
      rcases List.mem_pair.mp there with rfl | rfl
      · cbv
      · cbv
  obtain ⟨faithful, loadable, _, congr⟩ :=
    load_faithful (rulesTree [notesFile, paymentFile]).disk rulesLayout distinct
  exact ⟨distinct, loadable.mp ⟨_, loaded⟩, (faithful _).mp loaded, congr _ same ▸ loaded⟩

end RecordRules
