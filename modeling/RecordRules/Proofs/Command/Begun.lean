/-
  How a run begins, and what becomes of a defect of the rules. Both commands load the configuration
  and the rules first, and end alike if one of them cannot be loaded. A validation answers a defect
  of loaded rules on its line, be it a missing document, a reference or a constraint; of a defect
  that keeps the rules from being loaded its output says nothing.

  1. `rules?_of_load`: what a boot gives whose configuration is loaded.
  2. `begun_ok_iff`, `begun_error_iff`: what comes of the beginning of a run.
  3. `run_of_begun_error`: all runs that cannot begin are the same.
  4. `defect_answered_iff_rules_load`: which defects a validation answers.
-/
import Mathlib
import RecordRules.Disk.Tree
import RecordRules.Proofs.Command.Channels
import RecordRules.Proofs.Command.Settings

namespace RecordRules.Command

/-- What comes of the beginning of a run: the rules in a store, or the fault that ends the run. -/
inductive Begun (disk : Disk) (config : String) : Except Fault Store → Prop
  | noConfig {message : String} :
      Config.load disk (.ofText config) = .error message →
      Begun disk config (.error (.config message))
  | noRules {c : Config} {defect : Defect} :
      Config.load disk (.ofText config) = .ok c →
      (Loading.load disk c.layout).result = .error defect →
      Begun disk config (.error (.rules defect))
  | loaded {c : Config} {store : Store} :
      Config.load disk (.ofText config) = .ok c →
      (Loading.load disk c.layout).result = .ok store →
      Begun disk config (.ok store)

section

variable {disk : Disk} {config : String}

/-! ## Boot -/

/-- What a boot gives: the rules in a store, or the fault that ends the run. -/
def rules? (disk : Disk) (config : String) : Except Fault Store :=
  match boot disk config with
  | .error message => .error (.config message)
  | .ok b => b.store.mapError .rules

theorem rules?_of_load_error {message : String}
    (failed : Config.load disk (.ofText config) = .error message) :
    rules? disk config = .error (.config message) := by
  rw [rules?, boot, failed]
  rfl

theorem rules?_of_load {c : Config} (configured : Config.load disk (.ofText config) = .ok c) :
    rules? disk config = (Loading.load disk c.layout).result.mapError .rules := by
  obtain ⟨b, booted, _, _, stored⟩ := boot_of_load configured
  simp only [rules?, booted, stored]

/-! ## The beginning of a run -/

theorem begun_iff {result : Except Fault Store} :
    Begun disk config result ↔ rules? disk config = result := by
  constructor
  · rintro (failed | ⟨configured, failed⟩ | ⟨configured, loaded⟩)
    · exact rules?_of_load_error failed
    · rw [rules?_of_load configured, failed]
      rfl
    · rw [rules?_of_load configured, loaded]
      rfl
  · rintro rfl
    cases configured : Config.load disk (.ofText config) with
    | error message =>
      rw [rules?_of_load_error configured]
      exact .noConfig configured
    | ok c =>
      rw [rules?_of_load configured]
      cases loaded : (Loading.load disk c.layout).result with
      | error defect => exact .noRules configured loaded
      | ok store => exact .loaded configured loaded

theorem begun_ok_iff {store : Store} :
    Begun disk config (.ok store) ↔ ∃ b, boot disk config = .ok b ∧ b.store = .ok store := by
  rw [begun_iff, rules?]
  cases boot disk config with
  | error message => simp
  | ok b => cases stored : b.store <;> simp [Except.mapError, stored]

theorem begun_error_iff {fault : Fault} :
    Begun disk config (.error fault) ↔
      (∃ message, boot disk config = .error message ∧ fault = .config message) ∨
      ∃ b defect, boot disk config = .ok b ∧ b.store = .error defect ∧ fault = .rules defect := by
  rw [begun_iff, rules?]
  cases boot disk config with
  | error message => simp [eq_comm]
  | ok b => cases stored : b.store <;> simp [Except.mapError, stored, eq_comm]

theorem run_check_of_no_config {today : Date} {input : List UInt8} {message : String}
    (failed : boot disk config = .error message) :
    run disk today input (.check config) = .noConfig message := by
  simp only [run, failed]

theorem run_check_of_boot {today : Date} {input : List UInt8} {b : Boot}
    (booted : boot disk config = .ok b) : run disk today input (.check config) = check b := by
  simp only [run, booted]

theorem check_of_defect {b : Boot} {defect : Defect} (failed : b.store = .error defect) :
    check b = ⟨b.least, b.log, none, .error (.rules defect)⟩ := by
  simp only [check, Boot.run, failed]

/-- A run that cannot begin fails with the fault and answers nothing, and is the same whatever its
    task is. -/
theorem run_of_begun_error {fault : Fault} (failed : Begun disk config (.error fault)) :
    ∃ r : Run, r.result = .error fault ∧ r.response = none ∧
      ∀ (today : Date) (input : List UInt8) (task : Task), task.config = config →
        run disk today input task = r := by
  rcases begun_error_iff.mp failed with ⟨message, unbooted, rfl⟩ | ⟨b, defect, booted, stored, rfl⟩
  · refine ⟨.noConfig message, rfl, rfl, ?_⟩
    rintro today input (_ | _) rfl
    · exact run_of_no_config unbooted
    · exact run_check_of_no_config unbooted
  · refine ⟨⟨b.least, b.log, none, .error (.rules defect)⟩, rfl, rfl, ?_⟩
    rintro today input (_ | _) rfl
    · exact (run_of_boot booted).trans (validate_of_defect stored)
    · exact (run_check_of_boot booted).trans (check_of_defect stored)

end

/-! ## Answers to defects -/

/-- A validation that fails for a defect of the rules answers with the code and the text of the
    defect, if the rules could be loaded, and otherwise with nothing. -/
theorem defect_answered_iff_rules_load (disk : Disk) (today : Date) (input : List UInt8)
    (config recordType : String) (shape : Shape) (defect : Defect)
    (failed : (run disk today input (.validate config recordType shape)).result =
      .error (.rules defect)) :
    (Line (run disk today input (.validate config recordType shape)).output
        (.object [("status", .text "error"), ("code", .text defect.code),
          ("message", .text defect.message)]) ↔
      ∃ store, Begun disk config (.ok store)) ∧
    ((run disk today input (.validate config recordType shape)).output = "" ↔
      Begun disk config (.error (.rules defect))) := by
  have ended := ended_run disk today input config recordType shape
  generalize run disk today input (.validate config recordType shape) = r at failed ended
  rw [failed] at ended
  generalize given : r.response = response at ended
  cases ended with
  | noRules booted unstored =>
    have begun : Begun disk config (.error (.rules defect)) :=
      begun_error_iff.mpr (.inr ⟨_, _, booted, unstored, rfl⟩)
    have silent : r.output = "" := by rw [Run.output, given]
    refine ⟨iff_of_false (silent ▸ not_line_empty) ?_, iff_of_true silent begun⟩
    rintro ⟨store, loaded⟩
    cases (begun_iff.mp begun).symm.trans (begun_iff.mp loaded)
  | @defect b store record _ prepared =>
    have begun : Begun disk config (.ok store) :=
      begun_ok_iff.mpr ⟨b, prepared.booted, prepared.stored⟩
    have line := (line_of_response given (readable_errorResponse defect) _).mpr rfl
    refine ⟨iff_of_true line ⟨store, begun⟩, iff_of_false ?_ fun unbegun => ?_⟩
    · intro silent
      exact not_line_empty (silent ▸ line)
    · cases (begun_iff.mp begun).symm.trans (begun_iff.mp unbegun)

/-- A tree with a configuration that sets nothing, and a text as the file of rules for payments. -/
def paymentTree (rules : String) : Tree :=
  .directory [(.ofText "rulecheck.json", .file (Text.utf8 "\x7b\x7d")),
    (.ofText "validation", .directory [(.ofText "specifics", .directory
      [(.ofText "payment.json", .file (Text.utf8 rules))])])]

/-- The defect of a file of rules for payments that breaks off. -/
def unfinishedRules : Defect :=
  .malformed "./validation/specifics/payment.json"
    "Invalid JSON: EOF while parsing an object at line 1 column 1"

theorem begun_unfinishedRules :
    Begun (paymentTree "\x7b").disk usualConfig (.error (.rules unfinishedRules)) := by
  have configured : Config.load (paymentTree "\x7b").disk (.ofText usualConfig) = .ok {} := by
    decide +kernel
  exact .noRules configured (by cbv)

/-- A file of rules that breaks off is a defect to which a validation does not answer, though its
    configuration is loaded. -/
theorem unfinishedRules_unanswered :
    (∃ c, Config.load (paymentTree "\x7b").disk (.ofText usualConfig) = .ok c) ∧
    ∀ today,
      let r := run (paymentTree "\x7b").disk today (Text.utf8 "\x7b\x7d")
        (.validate usualConfig "payment" .json)
      r.result = .error (.rules unfinishedRules) ∧ ∀ json, ¬ Line r.output json := by
  obtain ⟨r, result, silent, same⟩ := run_of_begun_error begun_unfinishedRules
  constructor
  · cases begun_unfinishedRules with
    | noRules configured => exact ⟨_, configured⟩
  · intro today
    rw [same today _ _ rfl]
    refine ⟨result, fun json => ?_⟩
    rw [Run.output, silent]
    exact not_line_empty

theorem defect_answered_iff_rules_load_refund :
    let r := run (paymentTree "\x7b\x7d").disk Date.first (Text.utf8 "\x7b\x7d")
      (.validate usualConfig "refund" .json)
    r.result = .error (.rules (.noDocument "refund")) ∧
    (∃ store, Begun (paymentTree "\x7b\x7d").disk usualConfig (.ok store)) ∧
    Line r.output (.object [("status", .text "error"), ("code", .text "RULES_CONFIG_NOT_FOUND"),
      ("message", .text "Validation configuration not found for key: refund")]) := by
  have failed : (run (paymentTree "\x7b\x7d").disk Date.first (Text.utf8 "\x7b\x7d")
      (.validate usualConfig "refund" .json)).result = .error (.rules (.noDocument "refund")) := by
    decide +kernel
  have begun : ∃ store, Begun (paymentTree "\x7b\x7d").disk usualConfig (.ok store) :=
    ⟨⟨.empty, [("payment", ⟨[]⟩)], by decide⟩, .loaded (c := {}) (by decide +kernel) (by cbv)⟩
  exact ⟨failed, begun, (defect_answered_iff_rules_load _ _ _ _ _ _ _ failed).1.mpr begun⟩

end RecordRules.Command
