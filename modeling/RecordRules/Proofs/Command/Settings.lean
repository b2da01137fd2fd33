/-
  Configurations that are loaded. Whatever file they come from, their paths are not blank and they
  name a severity, so that a boot which has loaded its configuration comes to load the rules. Written
  as JSON and loaded again they are the same: the holidays are absent, empty or listed as before, each
  day in its place, since every day that is read is of the calendar's years.

  1. `usable_iff`: what the check of the settings sees to.
  2. `dated_of_ofText`: the holidays of every configuration that is read are of the calendar's years.
  3. `ofText_print_toJson`: what is read of a configuration that was written.
  4. `boot_of_load`: a boot with a configuration that is loaded.
  5. `loaded_config_survives`: what a configuration that is loaded can be relied on for.
-/
import RecordRules.Command.Run
import RecordRules.Disk.Tree
import RecordRules.Proofs.Date.Loose
import RecordRules.Proofs.Json.Typed

namespace RecordRules

namespace Config

/-- The settings can be used: no path is blank, and the log level names a severity. -/
structure Usable (c : Config) : Prop where
  rules : Text.isBlankText c.rulesDirectory = false
  definitions : Text.isBlankText c.definitionsFile = false
  documents : Text.isBlankText c.documentsDirectory = false
  severity : ∃ least, c.severity = .ok least

/-- The holidays that are set are of the years of the calendar. -/
def Dated (c : Config) : Prop := ∀ days ∈ c.holidays, ∀ d ∈ days, d.InCalendar

/-! ## Settings that are checked -/

theorem notBlank_eq_ok_iff {name value : String} :
    notBlank name value = .ok () ↔ Text.isBlankText value = false := by
  unfold notBlank
  cases Text.isBlankText value <;> simp

/-- The check accepts the settings that can be used. -/
theorem usable_iff {c : Config} : c.check = .ok () ↔ c.Usable := by
  simp only [check, bind_eq_ok_iff]
  constructor
  · rintro ⟨_, rules, _, definitions, _, documents, least, named, _⟩
    exact ⟨notBlank_eq_ok_iff.mp rules, notBlank_eq_ok_iff.mp definitions,
      notBlank_eq_ok_iff.mp documents, least, named⟩
  · rintro ⟨rules, definitions, documents, least, named⟩
    exact ⟨(), notBlank_eq_ok_iff.mpr rules, (), notBlank_eq_ok_iff.mpr definitions, (),
      notBlank_eq_ok_iff.mpr documents, least, named, rfl⟩

theorem ofText_eq_ok_iff {text : String} {c : Config} :
    ofText text = .ok c ↔ shape.ofText text = .ok c ∧ c.Usable := by
  simp only [ofText, bind_eq_ok_iff, mapError_eq_ok_iff]
  constructor
  · rintro ⟨_, read, _, checked, same⟩
    cases same
    exact ⟨read, usable_iff.mp checked⟩
  · rintro ⟨read, usable⟩
    exact ⟨c, read, (), usable_iff.mpr usable, rfl⟩

theorem load_eq_ok_iff {disk : Disk} {p : Path} {c : Config} :
    load disk p = .ok c ↔ ∃ text, disk.readText p = .ok text ∧ ofText text = .ok c := by
  simp only [load, bind_eq_ok_iff, mapError_eq_ok_iff]

theorem usable_of_load {disk : Disk} {p : Path} {c : Config} (loaded : load disk p = .ok c) :
    c.Usable := by
  obtain ⟨text, _, accepted⟩ := load_eq_ok_iff.mp loaded
  exact (ofText_eq_ok_iff.mp accepted).2

/-! ## Configurations that are read -/

/-- Every configuration that is read has holidays of the calendar's years. -/
theorem dated_of_ofText {text : String} {c : Config} (read : shape.ofText text = .ok c) :
    c.Dated := by
  have any {α : Type} (t : Typed α) : t.Yields fun _ => True := fun _ _ _ _ _ => trivial
  have days : (Typed.content "a formatted date string" Date.ofLoose).list.optional.Yields
      fun holidays => ∀ days ∈ holidays, ∀ d ∈ days, d.InCalendar :=
    Typed.yields_optional (Typed.yields_list
      (Typed.yields_content fun _ _ => Date.inCalendar_of_ofLoose))
  refine TypedObject.ofText_keeps (o := shape) (P := Dated) nofun ?_ read
  simp only [shape, List.forall_mem_cons]
  refine ⟨?_, ?_, ?_, ?_, ?_, nofun⟩
  · exact TypedField.keeps_map (any _) fun _ _ _ dated => dated
  · exact TypedField.keeps_map (any _) fun _ _ _ dated => dated
  · exact TypedField.keeps_map (any _) fun _ _ _ dated => dated
  · exact TypedField.keeps_map days fun _ _ dated _ => dated
  · exact TypedField.keeps_map (any _) fun _ _ _ dated => dated

/-! ## Configurations that are written -/

/-- The list of days as it is written. -/
def holidaysJson (days : List Date) : Json := .array (days.map fun d => .text d.text)

variable {depth : Nat}

theorem readable_holidaysJson (days : List Date) : Readable (depth + 2) (holidaysJson days) := by
  refine .array fun item listed => ?_
  obtain ⟨d, _, rfl⟩ := List.mem_map.mp listed
  exact .text d.text

theorem gives_holidays {days : List Date} (dated : ∀ d ∈ days, d.InCalendar) :
    (Typed.content "a formatted date string" Date.ofLoose).list.optional.Gives (depth + 2)
      (holidaysJson days) (some days) := by
  have each : List.Forall₂ (fun item d => Readable (depth + 1) item ∧
      (Typed.content "a formatted date string" Date.ofLoose).Gives (depth + 1) item d)
      (days.map fun d => .text d.text) days := by
    rw [List.forall₂_map_left_iff, List.forall₂_same]
    exact fun d there => ⟨.text d.text, Typed.gives_content (Date.ofLoose_text (dated d there))⟩
  refine Typed.gives_optional (Typed.gives_list each) ?_
  unfold holidaysJson
  cases days <;> exact ⟨'[', _, rfl, by decide, by decide⟩

/-- A configuration that was written is read back. -/
theorem ofText_print_toJson {c : Config} (dated : c.Dated) : shape.ofText c.toJson.print = .ok c := by
  obtain ⟨rules, definitions, documents, holidays, level⟩ := c
  cases holidays with
  | none =>
    have each {depth : Nat} : List.Forall₂ (shape.Changes depth)
        [("rules_dir", .text rules), ("definitions_file", .text definitions),
          ("specifics_dir", .text documents), ("log_level", .text level)] _ :=
      .cons (TypedObject.changes_of_find rfl (Typed.gives_text _)) <|
      .cons (TypedObject.changes_of_find rfl (Typed.gives_text _)) <|
      .cons (TypedObject.changes_of_find rfl (Typed.gives_text _)) <|
      .cons (TypedObject.changes_of_find rfl (Typed.gives_text _)) .nil
    exact TypedObject.ofText_print each (by simp)
  | some days =>
    have each {depth : Nat} : List.Forall₂ (shape.Changes (depth + 2))
        [("rules_dir", .text rules), ("definitions_file", .text definitions),
          ("specifics_dir", .text documents), ("holidays", holidaysJson days),
          ("log_level", .text level)] _ :=
      .cons (TypedObject.changes_of_find rfl (Typed.gives_text _)) <|
      .cons (TypedObject.changes_of_find rfl (Typed.gives_text _)) <|
      .cons (TypedObject.changes_of_find rfl (Typed.gives_text _)) <|
      .cons (TypedObject.changes_of_find rfl (gives_holidays (dated days rfl))) <|
      .cons (TypedObject.changes_of_find rfl (Typed.gives_text _)) .nil
    exact TypedObject.ofText_print each (by simp)

/-- In what is written the holidays are absent if none are set, and otherwise they are the list of
    their texts. -/
theorem read_print_toJson (c : Config) :
    ∃ members, JsonText.read c.toJson.print = .ok (.object members) ∧
      members.lookup "holidays" = c.holidays.map holidaysJson := by
  obtain ⟨rules, definitions, documents, holidays, level⟩ := c
  cases holidays with
  | none => exact ⟨_, read_print (readable_texts (by simp) (by simp)), rfl⟩
  | some days =>
    refine ⟨_, read_print (.object (by simp) ?_), rfl⟩
    simpa using ⟨.text rules, .text definitions, .text documents, readable_holidaysJson days,
      .text level⟩

end Config

/-! ## Configurations that are loaded -/

namespace Command

/-- A boot with a configuration that is loaded comes to load the rules. -/
theorem boot_of_load {disk : Disk} {config : String} {c : Config}
    (loaded : Config.load disk (.ofText config) = .ok c) :
    ∃ b, boot disk config = .ok b ∧ b.config = c ∧ c.severity = .ok b.least ∧
      b.store = (Loading.load disk c.layout).result := by
  obtain ⟨least, named⟩ := (Config.usable_of_load loaded).severity
  rw [boot, loaded]
  simp only [bind, Except.bind, named]
  exact ⟨_, rfl, rfl, rfl, rfl⟩

/-- A configuration that is loaded can be used, so that a boot with it comes to load the rules.
    Written as JSON, with its holidays as they are, and loaded from any file with this text, it is
    the same configuration. -/
theorem loaded_config_survives (disk : Disk) (p : Path) (c : Config)
    (loaded : Config.load disk p = .ok c) :
    c.Usable ∧
    (∀ config, Path.ofText config = p → ∃ b, boot disk config = .ok b ∧ b.config = c ∧
      c.severity = .ok b.least ∧ b.store = (Loading.load disk c.layout).result) ∧
    (∃ members, JsonText.read c.toJson.print = .ok (.object members) ∧
      members.lookup "holidays" = c.holidays.map Config.holidaysJson) ∧
    ∀ (other : Disk) (q : Path), other.readText q = .ok c.toJson.print →
      Config.load other q = .ok c := by
  obtain ⟨text, _, accepted⟩ := Config.load_eq_ok_iff.mp loaded
  obtain ⟨read, usable⟩ := Config.ofText_eq_ok_iff.mp accepted
  refine ⟨usable, ?_, c.read_print_toJson, ?_⟩
  · rintro config rfl
    exact boot_of_load loaded
  · intro other q written
    have again : Config.ofText c.toJson.print = .ok c :=
      Config.ofText_eq_ok_iff.mpr ⟨Config.ofText_print_toJson (Config.dated_of_ofText read), usable⟩
    exact Config.load_eq_ok_iff.mpr ⟨_, written, again⟩

/-- A tree with a text as the configuration. -/
def settingsTree (text : String) : Tree :=
  .directory [(.ofText "rulecheck.json", .file (Text.utf8 text))]

/-- Settings as a list, with days in loose writing, one of them before the first year and one twice. -/
def listedSettings : String :=
  "[\"rules\", \"shared.json\", \"types\", [\" +2025-1-01\", \"-4-12-25\", \"2025-01-01\"], \"WARN\"]"

/-- The configuration that they are read as. -/
def listedConfig : Config where
  rulesDirectory := "rules"
  definitionsFile := "shared.json"
  documentsDirectory := "types"
  holidays := some [⟨2025, 1, 1, by decide⟩, ⟨-4, 12, 25, by decide⟩, ⟨2025, 1, 1, by decide⟩]
  logLevel := "WARN"

theorem loaded_config_survives_listed :
    Config.load (settingsTree listedSettings).disk (.ofText "rulecheck.json") = .ok listedConfig ∧
    listedConfig.Usable ∧
    (∃ b, boot (settingsTree listedSettings).disk "rulecheck.json" = .ok b) ∧
    listedConfig.toJson.print =
      "\x7b\"rules_dir\":\"rules\",\"definitions_file\":\"shared.json\"," ++
        "\"specifics_dir\":\"types\",\"holidays\":[\"2025-01-01\",\"-0004-12-25\"," ++
        "\"2025-01-01\"],\"log_level\":\"WARN\"\x7d" ∧
    Config.load (settingsTree listedConfig.toJson.print).disk (.ofText "rulecheck.json") =
      .ok listedConfig := by
  have loaded : Config.load (settingsTree listedSettings).disk (.ofText "rulecheck.json") =
      .ok listedConfig := by decide +kernel
  have written : (settingsTree listedConfig.toJson.print).disk.readText (.ofText "rulecheck.json") =
      .ok listedConfig.toJson.print := by decide +kernel
  obtain ⟨usable, boots, _, again⟩ := loaded_config_survives _ _ _ loaded
  obtain ⟨b, booted, _⟩ := boots "rulecheck.json" rfl
  exact ⟨loaded, usable, ⟨b, booted⟩, by decide +kernel, again _ _ written⟩

end Command

end RecordRules
