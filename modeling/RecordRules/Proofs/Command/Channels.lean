/-
  The line that a run writes, and what it tells. A run writes nothing or one line, which is read back
  as the response. Of a validation, the line, the result and the exit code tell the same: success,
  the violations in the order of the document, or the defect of the rules.

  1. `line_iff`: the line that is written is the response.
  2. `readable_okResponse`, `readable_invalidResponse`, `readable_errorResponse`: responses are
     read back.
  3. `Agreement`: what the line says, against what the run results in.
  4. `channels_agree`: the line, the result and the exit code of a validation agree.
-/
import RecordRules.Proofs.Command.Ended
import RecordRules.Proofs.Json.Printed

namespace RecordRules.Command

/-! ## Lines -/

/-- The output is one line, and the line is a JSON text with this value. -/
def Line (output : String) (json : Json) : Prop :=
  ∃ line, output = line ++ "\n" ∧ '\n' ∉ line.toList ∧ JsonText.read line = .ok json

theorem not_line_empty {json : Json} : ¬ Line "" json := by
  rintro ⟨line, written, _⟩
  simp at written

theorem line_print_iff {printed json : Json} (readable : Readable JsonText.depthLimit printed) :
    Line (printed.print ++ "\n") json ↔ json = printed := by
  constructor
  · rintro ⟨line, written, _, read⟩
    -- the line is what was printed, and reading gives one value
    have same : printed.print = line := (String.append_left_inj _).mp written
    rw [← same, read_print readable] at read
    cases read
    rfl
  · rintro rfl
    refine ⟨json.print, rfl, ?_, read_print readable⟩
    rw [Json.print, String.toList_ofList]
    exact newline_not_mem_chars json

/-- The line that is written is the response. -/
theorem line_iff {r : Run} (readable : ∀ json ∈ r.response, Readable JsonText.depthLimit json)
    {json : Json} : Line r.output json ↔ r.response = some json := by
  unfold Run.output
  cases given : r.response with
  | none => simp [not_line_empty]
  | some printed => simp [line_print_iff (readable printed given), eq_comm]

/-! ## Responses -/

section

variable {depth : Nat}

theorem readable_okResponse {data : Json} (readable : Readable (depth + 1) data) :
    Readable (depth + 2) (okResponse data) := by
  refine .object (by simp) ?_
  simpa using ⟨.text "ok", readable⟩

theorem readable_invalidResponse (list : List Violation) :
    Readable (depth + 4) (invalidResponse list) := by
  have errors : Readable (depth + 3) (violationsJson list) := by
    refine .array fun item listed => ?_
    obtain ⟨v, _, rfl⟩ := List.mem_map.mp listed
    exact readable_texts (by simp) (by simp)
  refine .object (by simp) ?_
  simpa using ⟨.text "invalid", errors⟩

theorem readable_errorResponse (defect : Defect) :
    Readable (depth + 2) (errorResponse defect) :=
  readable_texts (by simp) (by simp)

end

/-! ## Agreement -/

/-- The line has a status. -/
def Says (output status : String) : Prop :=
  ∃ members, Line output (.object members) ∧ members.lookup "status" = some (.text status)

/-- The line has the status of success and names the record type. -/
def SaysOk (output recordType : String) : Prop :=
  ∃ members data, Line output (.object members) ∧
    members.lookup "status" = some (.text "ok") ∧ members.lookup "data" = some (.object data) ∧
    data.lookup "record_type" = some (.text recordType)

/-- A run fails with a code. -/
def FailsWith (r : Run) (code : String) : Prop :=
  ∃ fault, r.result = .error fault ∧ fault.code = code

/-- The line, the result and the exit code of a run tell the same, where `Ready` says that there is
    a record and all that it takes to validate it, and `Found` holds of the violations that it has. -/
structure Agreement (recordType : String) (Ready : Prop) (Found : List Violation → Prop) (r : Run) :
    Prop where
  line : r.output = "" ∨ ∃ json, Line r.output json
  written : (∃ json, Line r.output json) ↔ Ready
  ok : r.result = .ok () ↔ SaysOk r.output recordType
  okCode : r.outcome.exitCode = 0 ↔ SaysOk r.output recordType
  invalid : FailsWith r "CLI_VALIDATION_FAILED" ↔ Says r.output "invalid"
  invalidCode : Says r.output "invalid" → r.outcome.exitCode = 1
  violations : ∀ members, Line r.output (.object members) →
    members.lookup "status" = some (.text "invalid") →
    ∃ list fault, Found list ∧ list ≠ [] ∧
      members.lookup "errors" = some (.array (list.map fun v =>
        .object [("field", .text v.field), ("message", .text v.message)])) ∧
      r.result = .error fault ∧ fault.message = toString list.length ++ " violation(s)"
  error : ∀ members, Line r.output (.object members) →
    members.lookup "status" = some (.text "error") →
    ∃ code message fault, members.lookup "code" = some (.text code) ∧
      members.lookup "message" = some (.text message) ∧ r.result = .error fault ∧
      fault.code = "CLI_RULES_ERROR" ∧ fault.message = code ++ ": " ++ message
  silent : FailsWith r "CLI_CONFIG_ERROR" ∨ FailsWith r "CLI_IO_ERROR" → r.output = ""

section

variable {r : Run} {recordType : String} {Ready : Prop}
  {Found : List Violation → Prop}

theorem exitCode_eq_zero_iff : r.outcome.exitCode = 0 ↔ r.result = .ok () := by
  unfold Run.outcome
  split
  · next same => simp [same]
  · next same => simp [same]

theorem exitCode_eq_one_iff : r.outcome.exitCode = 1 ↔ ∃ fault, r.result = .error fault := by
  unfold Run.outcome
  split
  · next same => simp [same]
  · next same => simp [same]

theorem failsWith_iff {fault : Fault} (failed : r.result = .error fault) {code : String} :
    FailsWith r code ↔ fault.code = code := by
  simp [FailsWith, failed]

/-- A run without a response tells nothing but its fault. -/
theorem agreement_of_silence {fault : Fault} (unready : ¬ Ready) (silent : r.response = none)
    (failed : r.result = .error fault) (other : fault.code ≠ "CLI_VALIDATION_FAILED") :
    Agreement recordType Ready Found r := by
  have output : r.output = "" := by rw [Run.output, silent]
  have none (json : Json) : ¬ Line r.output json := output ▸ not_line_empty
  have untold : ¬ SaysOk r.output recordType := fun ⟨_, _, line, _⟩ => none _ line
  exact {
    line := .inl output
    written := iff_of_false (fun ⟨_, line⟩ => none _ line) unready
    ok := iff_of_false (by simp [failed]) untold
    okCode := iff_of_false (by simp [exitCode_eq_zero_iff, failed]) untold
    invalid := iff_of_false (mt (failsWith_iff failed).mp other) fun ⟨_, line, _⟩ => none _ line
    invalidCode := fun ⟨_, line, _⟩ => absurd line (none _)
    violations := fun _ line => absurd line (none _)
    error := fun _ line => absurd line (none _)
    silent := fun _ => output }

theorem line_of_response {json : Json} (given : r.response = some json)
    (readable : Readable JsonText.depthLimit json) (other : Json) :
    Line r.output other ↔ json = other := by
  have readable' : ∀ json ∈ r.response, Readable JsonText.depthLimit json := by
    rw [given]
    rintro _ ⟨⟩
    exact readable
  rw [line_iff readable', given, Option.some.injEq]

theorem agreement_of_ok (ready : Ready)
    (given : r.response = some (okResponse (.object [("record_type", .text recordType)])))
    (passed : r.result = .ok ()) : Agreement recordType Ready Found r := by
  have line := line_of_response given
    (readable_okResponse (readable_texts (by simp) (by simp)))
  have written : ∃ json, Line r.output json := ⟨_, (line _).mpr rfl⟩
  have told : SaysOk r.output recordType := ⟨_, _, (line _).mpr rfl, rfl, rfl, rfl⟩
  have untold : ¬ Says r.output "invalid" := by simp [Says, line, okResponse]
  exact {
    line := .inr written
    written := iff_of_true written ready
    ok := iff_of_true passed told
    okCode := iff_of_true (exitCode_eq_zero_iff.mpr passed) told
    invalid := iff_of_false (by simp [FailsWith, passed]) untold
    invalidCode := fun invalid => absurd invalid untold
    violations := fun _ line status => absurd ⟨_, line, status⟩ untold
    error := by simp [line, okResponse]
    silent := by simp [FailsWith, passed] }

theorem agreement_of_violations {list : List Violation} (ready : Ready) (found : Found list)
    (nonempty : list ≠ []) (given : r.response = some (invalidResponse list))
    (failed : r.result = .error (.violations list.length)) :
    Agreement recordType Ready Found r := by
  have line := line_of_response given (readable_invalidResponse list)
  have written : ∃ json, Line r.output json := ⟨_, (line _).mpr rfl⟩
  have told : Says r.output "invalid" := ⟨_, (line _).mpr rfl, rfl⟩
  have untold : ¬ SaysOk r.output recordType := by simp [SaysOk, line, invalidResponse]
  exact {
    line := .inr written
    written := iff_of_true written ready
    ok := iff_of_false (by simp [failed]) untold
    okCode := iff_of_false (by simp [exitCode_eq_zero_iff, failed]) untold
    invalid := iff_of_true ((failsWith_iff failed).mpr rfl) told
    invalidCode := fun _ => exitCode_eq_one_iff.mpr ⟨_, failed⟩
    violations := by
      intro members line' _
      cases (line _).mp line'
      exact ⟨list, _, found, nonempty, rfl, failed, rfl⟩
    error := by simp [line, invalidResponse]
    silent := by simp [failsWith_iff failed, Fault.code] }

theorem agreement_of_defect {defect : Defect} (ready : Ready)
    (given : r.response = some (errorResponse defect)) (failed : r.result = .error (.rules defect)) :
    Agreement recordType Ready Found r := by
  have line := line_of_response given (readable_errorResponse defect)
  have written : ∃ json, Line r.output json := ⟨_, (line _).mpr rfl⟩
  have notOk : ¬ SaysOk r.output recordType := by simp [SaysOk, line, errorResponse]
  have notInvalid : ¬ Says r.output "invalid" := by simp [Says, line, errorResponse]
  exact {
    line := .inr written
    written := iff_of_true written ready
    ok := iff_of_false (by simp [failed]) notOk
    okCode := iff_of_false (by simp [exitCode_eq_zero_iff, failed]) notOk
    invalid := iff_of_false (by simp [failsWith_iff failed, Fault.code]) notInvalid
    invalidCode := fun invalid => absurd invalid notInvalid
    violations := fun _ line status => absurd ⟨_, line, status⟩ notInvalid
    error := by
      intro members line' _
      cases (line _).mp line'
      exact ⟨_, _, _, rfl, rfl, failed, rfl, rfl⟩
    silent := by simp [failsWith_iff failed, Fault.code] }

end

section

variable (disk : Disk) (today : Date) (input : List UInt8) (config recordType : String)
  (shape : Shape)

/-- Everything is there that a validation needs. -/
def Ready : Prop := ∃ b store record, Prepared disk input config recordType shape b store record

/-- The violations of the record that a validation is about, in the order of the document. -/
def FoundBy (list : List Violation) : Prop :=
  ∃ b store record, Prepared disk input config recordType shape b store record ∧
    Collected store (b.dates today) record recordType (.ok list)

variable {disk today input config recordType shape}

theorem not_ready_of_no_config {message : String} (failed : boot disk config = .error message) :
    ¬ Ready disk input config recordType shape := by
  rintro ⟨b, store, record, prepared⟩
  cases failed.symm.trans prepared.booted

theorem not_ready_of_no_rules {b : Boot} {defect : Defect} (booted : boot disk config = .ok b)
    (failed : b.store = .error defect) : ¬ Ready disk input config recordType shape := by
  rintro ⟨b', store, record, prepared⟩
  cases booted.symm.trans prepared.booted
  cases failed.symm.trans prepared.stored

theorem not_ready_of_no_record {fault : Fault}
    (failed : record? input recordType shape = .error fault) :
    ¬ Ready disk input config recordType shape := by
  rintro ⟨b, store, record, prepared⟩
  cases failed.symm.trans prepared.shaped

/-- However a validation ends, the line, the result and the exit code agree. -/
theorem Ended.agreement {r : Run}
    (ended : Ended disk today input config recordType shape r.response r.result) :
    Agreement recordType (Ready disk input config recordType shape)
      (FoundBy disk today input config recordType shape) r := by
  generalize given : r.response = response at ended
  generalize reached : r.result = result at ended
  cases ended with
  | noConfig failed =>
    exact agreement_of_silence (not_ready_of_no_config failed) given reached (by simp [Fault.code])
  | noRules booted failed =>
    exact agreement_of_silence (not_ready_of_no_rules booted failed) given reached
      (by simp [Fault.code])
  | noRecord _ _ failed =>
    exact agreement_of_silence (not_ready_of_no_record failed) given reached (by simp [Fault.code])
  | passed prepared => exact agreement_of_ok ⟨_, _, _, prepared⟩ given reached
  | failed prepared collected nonempty =>
    exact agreement_of_violations ⟨_, _, _, prepared⟩ ⟨_, _, _, prepared, collected⟩ nonempty given
      reached
  | defect prepared => exact agreement_of_defect ⟨_, _, _, prepared⟩ given reached

end

/-- Whatever the files and the input are, the line, the result and the exit code of a validation
    agree, and a line is written exactly if there is a record to validate. -/
theorem channels_agree (disk : Disk) (today : Date) (input : List UInt8)
    (config recordType : String) (shape : Shape) :
    Agreement recordType (Ready disk input config recordType shape)
      (FoundBy disk today input config recordType shape)
      (run disk today input (.validate config recordType shape)) :=
  (ended_run disk today input config recordType shape).agreement

end RecordRules.Command
