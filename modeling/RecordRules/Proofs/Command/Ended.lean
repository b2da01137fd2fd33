/-
  How a validation run ends. Without a configuration, without rules or without a record there is no
  response. With all of them, the response and the result tell what is collected of the record.

  1. `exists_io_of_record_error`: a record that cannot be read is a fault of the input.
  2. `ended_run`: every run of a validation ends in one of these ways.
-/
import RecordRules.Command.Run
import RecordRules.Proofs.Validation.Collected

namespace RecordRules.Command

/-- The record in the input, in a shape. -/
def record? (input : List UInt8) (recordType : String) (shape : Shape) : Except Fault Record := do
  shapeRecord shape recordType (← readRecord input)

/-- What the checks of a validation depend on besides the rules: the day of the run, and the
    holidays of the configuration. -/
def Boot.dates (b : Boot) (today : Date) : Dates := ⟨today, b.config.calendar.isHoliday⟩

/-- Everything is there that a validation needs: the configuration, the rules and the record. -/
structure Prepared (disk : Disk) (input : List UInt8) (config recordType : String) (shape : Shape)
    (b : Boot) (store : Store) (record : Record) : Prop where
  booted : boot disk config = .ok b
  stored : b.store = .ok store
  shaped : record? input recordType shape = .ok record

/-- The response and the result in which a validation run ends. -/
inductive Ended (disk : Disk) (today : Date) (input : List UInt8) (config recordType : String)
    (shape : Shape) : Option Json → Except Fault Unit → Prop
  | noConfig {message : String} :
      boot disk config = .error message →
      Ended disk today input config recordType shape none (.error (.config message))
  | noRules {b : Boot} {defect : Defect} :
      boot disk config = .ok b → b.store = .error defect →
      Ended disk today input config recordType shape none (.error (.rules defect))
  | noRecord {b : Boot} {store : Store} {message : String} :
      boot disk config = .ok b → b.store = .ok store →
      record? input recordType shape = .error (.io message) →
      Ended disk today input config recordType shape none (.error (.io message))
  | passed {b : Boot} {store : Store} {record : Record} :
      Prepared disk input config recordType shape b store record →
      Collected store (b.dates today) record recordType (.ok []) →
      Ended disk today input config recordType shape
        (some (okResponse (.object [("record_type", .text recordType)]))) (.ok ())
  | failed {b : Boot} {store : Store} {record : Record} {list : List Violation} :
      Prepared disk input config recordType shape b store record →
      Collected store (b.dates today) record recordType (.ok list) → list ≠ [] →
      Ended disk today input config recordType shape
        (some (invalidResponse list)) (.error (.violations list.length))
  | defect {b : Boot} {store : Store} {record : Record} {defect : Defect} :
      Prepared disk input config recordType shape b store record →
      Collected store (b.dates today) record recordType (.error defect) →
      Ended disk today input config recordType shape
        (some (errorResponse defect)) (.error (.rules defect))

/-! ## Records -/

theorem exists_io_of_readRecord_error {input : List UInt8} {fault : Fault}
    (failed : readRecord input = .error fault) : ∃ message, fault = .io message := by
  unfold readRecord at failed
  split at failed
  · next text _ =>
    unfold parseRecord at failed
    split at failed
    · cases failed
      exact ⟨_, rfl⟩
    · split at failed
      · cases failed
        exact ⟨_, rfl⟩
      · cases failed
      · cases failed
        exact ⟨_, rfl⟩
  · cases failed
    exact ⟨_, rfl⟩

theorem exists_io_of_shapeRecord_error {shape : Shape} {recordType : String} {json : Json}
    {fault : Fault} (failed : shapeRecord shape recordType json = .error fault) :
    ∃ message, fault = .io message := by
  unfold shapeRecord at failed
  cases shape with
  | json =>
    dsimp only at failed
    split at failed
    · cases failed
    · cases failed
      exact ⟨_, rfl⟩
  | wireTransfer =>
    dsimp only at failed
    split at failed
    · cases failed
    · cases failed
      exact ⟨_, rfl⟩

/-- A record that cannot be read is a fault of the input. -/
theorem exists_io_of_record_error {input : List UInt8} {recordType : String} {shape : Shape}
    {fault : Fault} (failed : record? input recordType shape = .error fault) :
    ∃ message, fault = .io message := by
  rcases bind_eq_error_iff.mp failed with unread | ⟨json, _, unshaped⟩
  · exact exists_io_of_readRecord_error unread
  · exact exists_io_of_shapeRecord_error unshaped

/-! ## Runs -/

section

variable {disk : Disk} {today : Date} {input : List UInt8} {config recordType : String}
  {shape : Shape} {b : Boot}

theorem run_of_no_config {message : String} (failed : boot disk config = .error message) :
    run disk today input (.validate config recordType shape) = .noConfig message := by
  simp only [run, failed]

theorem run_of_boot (booted : boot disk config = .ok b) :
    run disk today input (.validate config recordType shape) =
      validate b today recordType shape input := by
  simp only [run, booted]

theorem validate_of_defect {defect : Defect} (failed : b.store = .error defect) :
    validate b today recordType shape input =
      ⟨b.least, b.log, none, .error (.rules defect)⟩ := by
  simp only [validate, Boot.run, failed]

theorem validate_of_no_record {store : Store} {fault : Fault} (stored : b.store = .ok store)
    (failed : record? input recordType shape = .error fault) :
    validate b today recordType shape input = ⟨b.least, b.log ++ [], none, .error fault⟩ := by
  unfold record? at failed
  simp only [validate, Boot.run, stored, failed]

theorem validate_of_record {store : Store} {record : Record} (stored : b.store = .ok store)
    (shaped : record? input recordType shape = .ok record) :
    validate b today recordType shape input =
      let validated := Validation.validate store (b.dates today) record recordType
      ⟨b.least, b.log ++ validated.log, some (answer recordType validated.result).1,
        (answer recordType validated.result).2⟩ := by
  unfold record? at shaped
  simp only [validate, Boot.run, stored, shaped, Boot.dates]

/-- With everything there, a run ends as its validation does. -/
theorem Prepared.ended {store : Store} {record : Record}
    (prepared : Prepared disk input config recordType shape b store record) :
    Ended disk today input config recordType shape
      (some (answer recordType
        (Validation.validate store (b.dates today) record recordType).result).1)
      (answer recordType
        (Validation.validate store (b.dates today) record recordType).result).2 := by
  have collected : Collected store (b.dates today) record recordType
      (Validation.collect store (b.dates today) record recordType).result := collected_collect
  rw [validate_result]
  cases found : (Validation.collect store (b.dates today) record recordType).result with
  | error defect =>
    rw [found] at collected
    exact .defect prepared collected
  | ok list =>
    rw [found] at collected
    cases list with
    | nil => exact .passed prepared collected
    | cons v vs => exact .failed prepared collected (List.cons_ne_nil v vs)

end

/-- Every run of a validation ends in one of these ways. -/
theorem ended_run (disk : Disk) (today : Date) (input : List UInt8) (config recordType : String)
    (shape : Shape) :
    Ended disk today input config recordType shape
      (run disk today input (.validate config recordType shape)).response
      (run disk today input (.validate config recordType shape)).result := by
  cases booted : boot disk config with
  | error message =>
    rw [run_of_no_config booted]
    exact .noConfig booted
  | ok b =>
    rw [run_of_boot booted]
    cases stored : b.store with
    | error defect =>
      rw [validate_of_defect stored]
      exact .noRules booted stored
    | ok store =>
      cases shaped : record? input recordType shape with
      | error fault =>
        obtain ⟨message, rfl⟩ := exists_io_of_record_error shaped
        rw [validate_of_no_record stored shaped]
        exact .noRecord booted stored shaped
      | ok record =>
        rw [validate_of_record stored shaped]
        exact Prepared.ended ⟨booted, stored, shaped⟩

end RecordRules.Command
