/-
  Requests and the JSON objects that they are read from, as records. The request holds a day where
  the object holds its text, and any other value is the same in both as it comes back from being taken
  as a JSON value once more. Whether a date field holds a day or its strict text makes no difference to
  rules that do not ask for text: the text is shown as the day is, it is no number, and it is read as
  the day. A great amount may be shown otherwise in both, with the same value, and an amount that ends
  with an odd digit may be another one in the request.

  1. `field_day_eq_text`: a day and its text are checked alike.
  2. `field_of_equal_numbers`: numbers of one value are checked alike, apart from how they are shown.
  3. `Alike`, `alike_of_ofJson`: what a request and its object answer when asked for a field.
  4. `reshown_collect_respelled`, `collect_respelled_eq_collect`: what it changes that numbers come back
     otherwise.
  5. `collect_request_eq_collect_respelled`: how far validation does not tell a request and its object
     apart.
-/
import Mathlib
import RecordRules.Proofs.Check.Spellings
import RecordRules.Proofs.Date.Strict
import RecordRules.Proofs.Json.Respelled
import RecordRules.Proofs.Record.Members
import RecordRules.Proofs.Validation.Related

namespace RecordRules

/-! ## A day and its text -/

section

variable {s : String} {d : Date}

theorem ofLoose_of_strict (strict : Date.ofStrict? s = some d) : Date.ofLoose s = .ok d := by
  rw [Date.ofLoose, (Date.spelled_of_strict strict).ofLooseChars_eq]
  rfl

theorem trim_of_strict (strict : Date.ofStrict? s = some d) : Text.trim s = s := by
  rw [Text.trim, Text.trimChars_eq_self (Date.spelled_of_strict strict).plain, String.ofList_toList]

theorem isBlankText_of_strict (strict : Date.ofStrict? s = some d) :
    Text.isBlankText s = false := by
  rw [← trim_of_strict strict] at strict
  exact isBlankText_of_trimmed strict

theorem decimal_of_strict (strict : Date.ofStrict? s = some d) : Decimal.ofText? s = none := by
  have spelled := Date.spelled_of_strict strict
  rw [Decimal.ofText?, Text.trimChars_eq_self spelled.plain, spelled.not_decimal]

theorem present_number (d : Decimal) :
    Check.present (some (.number d)) = some (.number d) := rfl

theorem present_date (d : Date) : Check.present (some (.date d)) = some (.date d) := rfl

theorem present_of_strict (strict : Date.ofStrict? s = some d) :
    Check.present (some (.text s)) = some (.text s) := by
  rw [Check.present, Option.filter_some, Value.isBlank, isBlankText_of_strict strict]
  rfl

/-- Rules for anything but text take a day and its strict text for the same. -/
theorem field_day_eq_text (strict : Date.ofStrict? s = some d) {rules : Node}
    (kind : rules.kind ≠ .string) (name : String) (dates : Dates) :
    Check.field name (some (.date d)) rules dates =
      Check.field name (some (.text s)) rules dates := by
  have shown : (Value.date d).shown = (Value.text s).shown := text_of_strict strict
  rw [Check.field, Check.field, present_date, present_of_strict strict]
  simp only [Check.presentValue, shown]
  cases declared : rules.kind with
  | string => exact absurd declared kind
  | number =>
    have numeric : Check.number? (.text s) = none := decimal_of_strict strict
    simp only [Check.Subject.number, numeric]
    rfl
  | date => simp only [Check.Subject.date, trim_of_strict strict, strict]
  | unknown => rfl

theorem log_day_eq_text (strict : Date.ofStrict? s = some d) (name : String) (rules : Node) :
    Check.log name (some (.date d)) rules = Check.log name (some (.text s)) rules := by
  rw [Check.log, Check.log, present_date, present_of_strict strict]
  cases rules.kind <;> rfl

end

/-! ## Numbers of one value -/

/-- Violations for one complaint about an amount that is shown in two ways: the same violation, or two
    by a template that shows the value. -/
inductive Reshown : Violation → Violation → Prop
  | same (v : Violation) : Reshown v v
  | amount {rules : Node} {c : Complaint} {d d' : Decimal} :
      d'.value = d.value → rules.ShowsValue c.template →
      Reshown (c.violation "amount" d.text rules) (c.violation "amount" d'.text rules)

section

variable {d d' : Decimal} (same : d'.value = d.value)

include same

theorem complaints_of_equal_numbers (field : String) (rules : Node) (dates : Dates) :
    Check.complaints field (some (.number d)) rules dates =
      Check.complaints field (some (.number d')) rules dates := by
  rw [Check.complaints, Check.complaints, present_number, present_number]
  unfold Check.presentComplaints
  cases rules.kind with
  | number => simp only [Check.number?, breaksNumber_congr same]
  | string | date | unknown => rfl

/-- Numbers of one value have the same defect, or the same is complained of. -/
theorem field_of_equal_numbers (rules : Node) (dates : Dates) :
    SameFindings Reshown (Check.field "amount" (some (.number d)) rules dates)
      (Check.field "amount" (some (.number d')) rules dates) := by
  rw [field_eq_complaints, field_eq_complaints, complaints_of_equal_numbers same]
  cases Check.complaints "amount" (some (.number d')) rules dates with
  | error defect => exact .defect defect
  | ok complaints =>
    refine .violations ?_
    rw [List.forall₂_map_left_iff, List.forall₂_map_right_iff, List.forall₂_same]
    intro c _
    by_cases shows : rules.ShowsValue c.template
    · exact .amount same shows
    · rw [violation_of_hidden_value shows]
      exact .same _

end

/-! ## A request and its object -/

/-- What a request and its object answer when asked for a field: the same, but for a day and its
    text. -/
inductive Alike : String → Option Value → Option Value → Prop
  | same (name : String) (value : Option Value) : Alike name value value
  | day {s : String} {d : Date} :
      Date.ofStrict? s = some d → Alike "transferDate" (some (.date d)) (some (.text s))

/-- An object whose amount, if it has one, is a number, and whose transfer date is a strict text. The
    other fields of a request can only be read from texts. -/
structure Plain (object : Entries Json) : Prop where
  amount : ∀ json, object.find? "amount" = some json → json = .null ∨ ∃ n, json = .number n
  transferDate : ∀ json, object.find? "transferDate" = some json →
    json = .null ∨ ∃ s d, json = .text s ∧ Date.ofStrict? s = some d

namespace WireTransfer

/-- The value that a member of an object gives as it comes back. -/
def reread (object : Entries Json) (name : String) : Option Value :=
  ((object.find? name).map Json.respelled).bind Value.ofJson

/-- An amount that is read from a number is the number that comes back. -/
theorem ofText?_of_valueOf {n : Numeral} {value : Option Value}
    (gives : valueOf "amount" (.number n) = .ok value) :
    ∃ d, Decimal.ofText? n.respelled.text = some d ∧ value = some (.number d) := by
  rw [valueOf, if_pos rfl] at gives
  obtain ⟨v, reads, rfl⟩ := map_eq_ok_iff.mp gives
  simp only [Json.respelled, amountOf, amountOf.read] at reads
  cases decimal : Decimal.ofText? n.respelled.text with
  | none =>
    rw [decimal] at reads
    cases reads
  | some d =>
    rw [decimal] at reads
    cases reads
    exact ⟨d, rfl, rfl⟩

theorem ofJson_of_decimal {n : Numeral} {d : Decimal} (decimal : Decimal.ofText? n.text = some d) :
    Value.ofJson (.number n) = some (.number d) := by
  rw [Value.ofJson, decimal]

theorem alike_transferDate {json : Json}
    (strict : json = .null ∨ ∃ s d, json = .text s ∧ Date.ofStrict? s = some d)
    {value : Option Value} (gives : valueOf "transferDate" json = .ok value) :
    Alike "transferDate" value (Value.ofJson json) := by
  obtain ⟨v, reads, rfl⟩ := map_eq_ok_iff.mp gives
  rcases strict with rfl | ⟨s, d, rfl, strict⟩
  · cases reads
    exact .same ..
  · obtain ⟨d', loose, rfl⟩ := map_eq_ok_iff.mp reads
    cases loose.symm.trans (ofLoose_of_strict strict)
    exact .day strict

/-- Other values than amounts are not numbers, and come back as they are. -/
theorem respelled_of_valueOf {name : String} (other : name ≠ "amount") {json : Json}
    {value : Option Value} (gives : valueOf name json = .ok value) : json.respelled = json := by
  rw [valueOf, if_neg other] at gives
  cases json with
  | null | bool | text => rfl
  | number | array | object => split at gives <;> cases gives

theorem alike_text {name : String} (amount : name ≠ "amount") (date : name ≠ "transferDate")
    {json : Json} {value : Option Value} (gives : valueOf name json = .ok value) :
    Alike name value (Value.ofJson json) := by
  rw [valueOf, if_neg amount, if_neg date] at gives
  obtain ⟨v, reads, rfl⟩ := map_eq_ok_iff.mp gives
  cases json with
  | null | text =>
    cases reads
    exact .same ..
  | bool | number | array | object => cases reads

theorem alike_of_ofJson {object : Entries Json} {w : WireTransfer}
    (read : ofJson (.object object.list) = .ok w) (plain : Plain object) {name : String}
    (known : name ∈ fieldNames) :
    ∃ value, w.record.field name = .ok value ∧ Alike name value (reread object name) := by
  have field := field_of_ofJson read known
  unfold reread
  cases found : object.find? name with
  | none =>
    rw [found] at field
    exact ⟨none, field, .same name none⟩
  | some json =>
    rw [found] at field
    obtain ⟨value, gives, has⟩ := field
    refine ⟨value, has, ?_⟩
    rw [Option.map_some, Option.bind_some]
    by_cases amount : name = "amount"
    · subst amount
      rcases plain.amount json found with rfl | ⟨n, rfl⟩
      · cases gives
        exact .same ..
      · obtain ⟨d, decimal, rfl⟩ := ofText?_of_valueOf gives
        rw [Json.respelled, ofJson_of_decimal decimal]
        exact .same ..
    · rw [respelled_of_valueOf amount gives]
      by_cases date : name = "transferDate"
      · subst date
        exact alike_transferDate (plain.transferDate json found) gives
      · exact alike_text amount date gives

/-- A member of an object that is read gives what it gives as it comes back, or it is a great amount
    that is written as its double: then it gives an amount of the same value. -/
theorem reread_cases {object : Entries Json} {w : WireTransfer}
    (read : ofJson (.object object.list) = .ok w) (plain : Plain object)
    (raised : ∀ n, object.find? "amount" = some (.number n) → n.isDouble = true → n.isRaised = false)
    {name : String} (known : name ∈ fieldNames) :
    (object.find? name).bind Value.ofJson = reread object name ∨
      name = "amount" ∧
        (∃ n, object.find? name = some (.number n) ∧ n.isDouble = true ∧ n.isGreat = true) ∧
        ∃ d d', reread object name = some (.number d) ∧
          (object.find? name).bind Value.ofJson = some (.number d') ∧ d'.value = d.value := by
  have field := field_of_ofJson read known
  unfold reread
  cases found : object.find? name with
  | none => exact .inl rfl
  | some json =>
    rw [found] at field
    obtain ⟨value, gives, _⟩ := field
    rw [Option.map_some, Option.bind_some, Option.bind_some]
    by_cases amount : name = "amount"
    · subst amount
      rcases plain.amount json found with rfl | ⟨n, rfl⟩
      · exact .inl rfl
      · have even := raised n found
        obtain ⟨d, decimal, _⟩ := ofText?_of_valueOf gives
        rw [Json.respelled, ofJson_of_decimal decimal]
        by_cases far : n.isDouble = true → n.isGreat = false
        · rw [Numeral.ofText?_respelled far even] at decimal
          exact .inl (ofJson_of_decimal decimal)
        · obtain ⟨double, great⟩ := Classical.not_imp.mp far
          rw [Bool.not_eq_false] at great
          obtain ⟨d', decimal', same⟩ := Numeral.exists_of_ofText?_respelled even decimal
          exact .inr ⟨rfl, ⟨n, rfl, double, great⟩, d, d', rfl, ofJson_of_decimal decimal', same⟩
    · exact .inl (by rw [respelled_of_valueOf amount gives])

end WireTransfer

/-! ## Validation -/

theorem validation_field_of_alike {record other : Record} {name : String}
    {value value' : Option Value} (gives : record.field name = .ok value)
    (gives' : other.field name = .ok value') (alike : Alike name value value') {rules : Node}
    (kind : name = "transferDate" → rules.kind ≠ .string) (recordType : String) (dates : Dates) :
    Validation.field record recordType dates name rules =
      Validation.field other recordType dates name rules := by
  unfold Validation.field
  rw [gives, gives']
  cases alike with
  | same => rfl
  | day strict => simp only [log_day_eq_text strict, field_day_eq_text strict (kind rfl)]

/-- A document that lists fields of a request only, and whose transfer date, if its node resolves, is
    not checked as text. -/
structure Suited (definitions : Definitions) (document : Document) : Prop where
  known : ∀ field ∈ document.fields, field.1 ∈ WireTransfer.fieldNames
  transferDate : ∀ field ∈ document.fields, field.1 = "transferDate" →
    ∀ rules, field.2.resolve definitions = .ok rules → rules.kind ≠ .string

theorem Suited.of_resolved {definitions : Definitions} {document : Document}
    {rules : List (String × Node)} (suited : Suited definitions document)
    (resolved : Resolved definitions document.fields rules) {rule : String × Node}
    (listed : rule ∈ rules) :
    rule.1 ∈ WireTransfer.fieldNames ∧ (rule.1 = "transferDate" → rule.2.kind ≠ .string) := by
  obtain ⟨field, there, name, resolves⟩ := resolved.exists_field listed
  rw [name]
  exact ⟨suited.known field there, fun date => suited.transferDate field there date _ resolves⟩

theorem field_respelledMembers (typeName : String) (object : Entries Json) (name : String) :
    (Record.ofMembers typeName (Json.respelledMembers object.list)).field name =
      .ok (WireTransfer.reread object name) :=
  congrArg (fun json : Option Json => Except.ok (json.bind Value.ofJson))
    (Json.lookup_respelledMembers object.list name)

section

variable {store : Store} {dates : Dates} {recordType typeName : String} {object : Entries Json}
  {w : WireTransfer} (read : WireTransfer.ofJson (.object object.list) = .ok w) (plain : Plain object)
  (suited : ∀ document, store.find? recordType = some document → Suited store.definitions document)

include read plain suited

/-- A request is validated as its object with the numbers as they come back. -/
theorem collect_eq_collect_respelled :
    Validation.collect store dates w.record recordType =
      Validation.collect store dates (.ofMembers typeName (Json.respelledMembers object.list))
        recordType := by
  refine collect_congr fun document rules found resolved rule listed => ?_
  obtain ⟨known, kind⟩ := (suited document found).of_resolved resolved listed
  obtain ⟨value, gives, alike⟩ := WireTransfer.alike_of_ofJson read plain known
  exact validation_field_of_alike gives (field_respelledMembers typeName object rule.1) alike kind
    recordType dates

variable
  (raised : ∀ n, object.find? "amount" = some (.number n) → n.isDouble = true → n.isRaised = false)

include raised

/-- If the amount keeps its value, it makes a difference only to messages. -/
theorem reshown_collect_respelled :
    SameFindings Reshown
      (Validation.collect store dates (.ofMembers typeName (Json.respelledMembers object.list))
        recordType).result
      (Validation.collect store dates (.ofMembers typeName object.list) recordType).result := by
  refine collect_related .same fun document rules found resolved rule listed => ?_
  obtain ⟨known, _⟩ := (suited document found).of_resolved resolved listed
  have gives := field_respelledMembers typeName object rule.1
  unfold Validation.field
  rcases WireTransfer.reread_cases read plain raised known with
    same | ⟨amount, _, d, d', first, second, same⟩
  · have gives' : (Record.ofMembers typeName object.list).field rule.1 = _ :=
      congrArg Except.ok same
    rw [gives, gives']
    exact .of_eq .same rfl
  · have gives' : (Record.ofMembers typeName object.list).field rule.1 = _ :=
      congrArg Except.ok second
    rw [gives, gives', first, amount]
    exact field_of_equal_numbers same rule.2 dates

/-- If the amount keeps its value and its scale, it makes no difference. -/
theorem collect_respelled_eq_collect
    (near : ∀ n, object.find? "amount" = some (.number n) → n.isDouble = true → n.isGreat = false) :
    Validation.collect store dates (.ofMembers typeName (Json.respelledMembers object.list))
        recordType =
      Validation.collect store dates (.ofMembers typeName object.list) recordType := by
  refine collect_congr fun document rules found resolved rule listed => ?_
  obtain ⟨known, kind⟩ := (suited document found).of_resolved resolved listed
  rcases WireTransfer.reread_cases read plain raised known with
    same | ⟨amount, ⟨n, given, double, great⟩, _⟩
  · exact validation_field_of_alike (field_respelledMembers typeName object rule.1)
      (congrArg Except.ok same) (.same ..) kind recordType dates
  · exact absurd great (ne_true_of_eq_false (near n (amount ▸ given) double))

end

/-- Validation of a request that is read from a plain object has the same outcome as validation of
    the object with its numbers as they come back: the same violations with the same messages in the
    same order, or the same defect, and the same is logged. If the amount is not lowered to an even
    digit, the object itself has the same defect, or violations of the same fields for the same reasons,
    and a message differs only where its template shows the amount. The outcome is that for the object
    itself unless the amount is a whole number beyond 128 bits. Only an amount that is written with the
    digits of its double makes a difference. -/
theorem collect_request_eq_collect_respelled (store : Store) (dates : Dates)
    (recordType typeName : String) (object : Entries Json) (w : WireTransfer)
    (read : WireTransfer.ofJson (.object object.list) = .ok w) (plain : Plain object)
    (suited : ∀ document, store.find? recordType = some document →
      Suited store.definitions document) :
    Validation.collect store dates w.record recordType =
        Validation.collect store dates (.ofMembers typeName (Json.respelledMembers object.list))
          recordType ∧
      ((∀ n, object.find? "amount" = some (.number n) → n.isDouble = true → n.isRaised = false) →
        SameFindings Reshown (Validation.collect store dates w.record recordType).result
            (Validation.collect store dates (.ofMembers typeName object.list) recordType).result ∧
          ((∀ n, object.find? "amount" = some (.number n) → n.isDouble = true → n.isGreat = false) →
            Validation.collect store dates w.record recordType =
              Validation.collect store dates (.ofMembers typeName object.list) recordType)) := by
  have respelled : Validation.collect store dates w.record recordType =
      Validation.collect store dates (.ofMembers typeName (Json.respelledMembers object.list))
        recordType := collect_eq_collect_respelled read plain suited
  refine ⟨respelled, fun raised => ?_⟩
  rw [respelled]
  exact ⟨reshown_collect_respelled read plain suited raised,
    collect_respelled_eq_collect read plain suited raised⟩

/-- An order to transfer money on a Saturday, with a member that requests do not have. -/
def saturdayOrder : Entries Json where
  list := [("beneficiaryName", .text "Alice"),
    ("amount", .number ⟨false, .ofNat 15, some (.ofNat 75), none⟩), ("transferDate", .text "2025-05-03"),
    ("memo", .null), ("channel", .bool true)]
  distinct := by decide

/-- The request that the order is read as. -/
def saturdayRequest : WireTransfer where
  beneficiaryName := some "Alice"
  amount := some ⟨1575, 2⟩
  transferDate := some ⟨2025, 5, 3, by decide⟩

/-- Rules of the transfer date: no weekends, and a message that shows the day. -/
def workdayRules : Node :=
  ⟨.ofList [("type", .text "date"), ("customRule", .text "noWeekendOrHoliday"),
    ("errorMessageCustomRule", .text "\x7bvalue\x7d is no workday.")]⟩

/-- Rules for transfers. -/
def transferRules : Document where
  fields := [("transferDate", workdayRules),
    ("amount", ⟨.ofList [("type", .text "number"), ("maxValue", .nat 10)]⟩),
    ("memo", ⟨.ofList [("required", .bool true)]⟩)]

/-- A store with these rules. -/
def transfers : Store where
  definitions := .empty
  documents := [("transfer", transferRules)]
  ascending := by decide

theorem collect_request_eq_collect_respelled_saturday :
    WireTransfer.ofJson (.object saturdayOrder.list) = .ok saturdayRequest ∧ Plain saturdayOrder ∧
      (∀ document, transfers.find? "transfer" = some document →
        Suited transfers.definitions document) ∧
      ∀ dates typeName,
        Validation.collect transfers dates saturdayRequest.record "transfer" =
          Validation.collect transfers dates (.ofMembers typeName saturdayOrder.list) "transfer" := by
  have read : WireTransfer.ofJson (.object saturdayOrder.list) = .ok saturdayRequest := by
    decide +kernel
  have plain : Plain saturdayOrder := by
    constructor
    · intro json found
      cases found
      exact .inr ⟨_, rfl⟩
    · intro json found
      cases found
      exact .inr ⟨_, _, rfl, by rfl⟩
  have unchanged : workdayRules.resolve transfers.definitions = .ok workdayRules := by cbv
  have suited : ∀ document, transfers.find? "transfer" = some document →
      Suited transfers.definitions document := by
    intro document found
    cases found
    refine ⟨by decide, fun field listed date rules resolves => ?_⟩
    simp only [transferRules, List.mem_cons, List.not_mem_nil, or_false] at listed
    rcases listed with rfl | rfl | rfl
    · cases unchanged.symm.trans resolves
      decide
    · exact absurd date (by decide)
    · exact absurd date (by decide)
  have raised : ∀ n, saturdayOrder.find? "amount" = some (.number n) →
      n.isDouble = true → n.isRaised = false := by
    intro n found _
    cases found
    decide +kernel
  have near : ∀ n, saturdayOrder.find? "amount" = some (.number n) →
      n.isDouble = true → n.isGreat = false := by
    intro n found _
    cases found
    rfl
  refine ⟨read, plain, suited, fun dates typeName => ?_⟩
  exact ((collect_request_eq_collect_respelled transfers dates "transfer" typeName saturdayOrder
    saturdayRequest read plain suited).2 raised).2 near

/-- An order of an amount that is a power of ten. -/
def hugeOrder : Entries Json where
  list := [("amount", .nat (10 ^ 39))]
  distinct := by decide

/-- The request that the order is read as. -/
def hugeRequest : WireTransfer where
  amount := some ⟨1, -39⟩

/-- Rules of an amount: a greatest value, and a message that shows the amount. -/
def limitedRules : Node :=
  ⟨.ofList [("type", .text "number"), ("maxValue", .nat 10),
    ("errorMessageMaxValue", .text "\x7bvalue\x7d is too much.")]⟩

/-- A store with these rules. -/
def limitedTransfers : Store where
  definitions := .empty
  documents := [("transfer", ⟨[("amount", limitedRules)]⟩)]
  ascending := by decide

/-- What is collected of an amount that is too great. -/
theorem collect_limitedTransfers {record : Record} {d : Decimal}
    (given : record.field "amount" = .ok (some (.number d)))
    (high : breaksNumber d (.maxValue ⟨10, 0⟩) = true) (dates : Dates) :
    (Validation.collect limitedTransfers dates record "transfer").result =
      .ok [(Complaint.limit (.maxValue ⟨10, 0⟩)).violation "amount" d.text limitedRules] := by
  have kind : limitedRules.kind = .number := by cbv
  have limits : Constraint.ofNumbers.mapM (limitedRules.limit "amount") =
      .ok [none, some (.maxValue ⟨10, 0⟩)] := by cbv
  have raised : Check.complaints "amount" (some (.number d)) limitedRules dates =
      .ok [.limit (.maxValue ⟨10, 0⟩)] := by
    rw [Check.complaints, present_number]
    simp only [Check.presentComplaints, kind, Check.number?, Check.brokenLimits, limits, Except.map,
      List.reduceOption_cons_of_none, List.reduceOption_cons_of_some, List.reduceOption_nil,
      List.filter_cons, high]
    rfl
  have unchanged : limitedRules.resolve limitedTransfers.definitions = .ok limitedRules := by cbv
  rw [collect_of_resolved rfl (.cons ⟨rfl, unchanged⟩ .nil)]
  simp only [Validation.fields, Validation.field, given, field_eq_complaints, raised]
  rfl

/-- The request shows its amount as a power of ten, and its object shows all digits. -/
theorem amount_shown_otherwise :
    WireTransfer.ofJson (.object hugeOrder.list) = .ok hugeRequest ∧ Plain hugeOrder ∧
      (∀ document, limitedTransfers.find? "transfer" = some document →
        Suited limitedTransfers.definitions document) ∧
      ∀ dates typeName,
        (Validation.collect limitedTransfers dates hugeRequest.record "transfer").result =
            .ok [⟨"amount", "1e+39 is too much."⟩] ∧
          (Validation.collect limitedTransfers dates (.ofMembers typeName hugeOrder.list)
              "transfer").result =
            .ok [⟨"amount", "1000000000000000000000000000000000000000 is too much."⟩] := by
  have plain : Plain hugeOrder := by
    constructor
    · intro json found
      cases found
      exact .inr ⟨_, rfl⟩
    · intro json found
      cases found
  have suited : ∀ document, limitedTransfers.find? "transfer" = some document →
      Suited limitedTransfers.definitions document := by
    intro document found
    cases found
    refine ⟨by decide, fun field listed date => ?_⟩
    cases List.mem_singleton.mp listed
    exact absurd date (by decide)
  have digits : Decimal.ofText? (Numeral.ofNat (10 ^ 39)).text = some ⟨10 ^ 39, 0⟩ := by
    decide +kernel
  have worded : (Complaint.limit (.maxValue ⟨10, 0⟩)).violation "amount" (Decimal.text ⟨1, -39⟩)
      limitedRules = ⟨"amount", "1e+39 is too much."⟩ := by decide +kernel
  have worded' : (Complaint.limit (.maxValue ⟨10, 0⟩)).violation "amount" (Decimal.text ⟨10 ^ 39, 0⟩)
      limitedRules = ⟨"amount", "1000000000000000000000000000000000000000 is too much."⟩ := by
    decide +kernel
  refine ⟨by decide +kernel, plain, suited, fun dates typeName => ⟨?_, ?_⟩⟩
  · rw [← worded]
    exact collect_limitedTransfers rfl (by decide +kernel) dates
  · rw [← worded']
    exact collect_limitedTransfers (congrArg Except.ok (WireTransfer.ofJson_of_decimal digits))
      (by decide +kernel) dates

end RecordRules
