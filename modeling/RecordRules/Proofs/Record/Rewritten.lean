/-
  Wire transfer requests that are written and read again. Whatever text a request is read from, what
  it is written as gives the same request: names and days are identical, and the amount has the same
  value, though it may have another number of decimal places. Written once more, it gives the same
  text.

  1. `withinLimits_of_ofText`: what every request that is read has in common.
  2. `ofText_print_toJson`: what is read of a request that was written.
  3. `request_reads_back`: the same as one statement.
-/
import RecordRules.Record.WireTransfer
import RecordRules.Proofs.Date.Loose
import RecordRules.Proofs.Decimal.Written
import RecordRules.Proofs.Json.Typed

namespace RecordRules

namespace WireTransfer

/-- The amount and the day are within the limits of what can be read. -/
structure WithinLimits (w : WireTransfer) : Prop where
  amount : ∀ d ∈ w.amount, d.scale.natAbs ≤ Decimal.scaleLimit
  day : ∀ d ∈ w.transferDate, d.InCalendar

/-- Two requests are the same, with amounts of the same value. -/
structure Same (w v : WireTransfer) : Prop where
  beneficiaryName : w.beneficiaryName = v.beneficiaryName
  beneficiaryAccountNumber : w.beneficiaryAccountNumber = v.beneficiaryAccountNumber
  routingNumber : w.routingNumber = v.routingNumber
  amount : Option.Rel (fun d e => d.value = e.value) w.amount v.amount
  currency : w.currency = v.currency
  transferDate : w.transferDate = v.transferDate
  memo : w.memo = v.memo

/-- The request that is read of a written one. -/
def rewritten (w : WireTransfer) : WireTransfer := { w with amount := w.amount.map Decimal.written }

/-! ## What can be read -/

theorem amountOf_limit {json : Json} {amount : Option Decimal} (read : amountOf json = .ok amount) :
    ∀ d ∈ amount, d.scale.natAbs ≤ Decimal.scaleLimit := by
  have text {s : String} (read : amountOf.read s = .ok amount) :
      ∀ d ∈ amount, d.scale.natAbs ≤ Decimal.scaleLimit := by
    unfold amountOf.read at read
    split at read
    · next found =>
      cases read
      rintro _ ⟨⟩
      exact Decimal.natAbs_scale_le found
    · cases read
  cases json with
  | null =>
    cases read
    exact nofun
  | number n => exact text read
  | text s => exact text read
  | bool | array | object => cases read

/-- Every request that is read is within the limits. -/
theorem withinLimits_of_ofText {text : String} {w : WireTransfer} (read : ofText text = .ok w) :
    w.WithinLimits := by
  have any {α : Type} (t : Typed α) : t.Yields fun _ => True := fun _ _ _ _ _ => trivial
  have amounts : (Typed.any amountOf).Yields fun amount =>
      ∀ d ∈ amount, d.scale.natAbs ≤ Decimal.scaleLimit :=
    Typed.yields_any fun _ _ => amountOf_limit
  have days : day.optional.Yields fun day => ∀ d ∈ day, d.InCalendar :=
    Typed.yields_optional (Typed.yields_content fun _ _ => Date.inCalendar_of_ofLoose)
  refine TypedObject.ofText_keeps (o := shape) ⟨nofun, nofun⟩ ?_ read
  simp only [shape, List.forall_mem_cons]
  refine ⟨?_, ?_, ?_, ?_, ?_, ?_, ?_, nofun⟩
  · exact TypedField.keeps_map (any _) fun _ _ _ limits => ⟨limits.amount, limits.day⟩
  · exact TypedField.keeps_map (any _) fun _ _ _ limits => ⟨limits.amount, limits.day⟩
  · exact TypedField.keeps_map (any _) fun _ _ _ limits => ⟨limits.amount, limits.day⟩
  · exact TypedField.keeps_map amounts fun _ _ amount limits => ⟨amount, limits.day⟩
  · exact TypedField.keeps_map (any _) fun _ _ _ limits => ⟨limits.amount, limits.day⟩
  · exact TypedField.keeps_map days fun _ _ day limits => ⟨limits.amount, day⟩
  · exact TypedField.keeps_map (any _) fun _ _ _ limits => ⟨limits.amount, limits.day⟩

/-! ## What is written -/

section

variable {depth : Nat} {w : WireTransfer}

theorem gives_textOrNull (s : Option String) :
    (Typed.optional .text).Gives depth (textOrNull s) s := by
  cases s with
  | none => exact Typed.gives_null
  | some s => exact Typed.gives_optional_text (Typed.gives_text s)

theorem gives_amount {amount : Option Decimal}
    (limit : ∀ d ∈ amount, d.scale.natAbs ≤ Decimal.scaleLimit) :
    (Typed.any amountOf).Gives depth (textOrNull (amount.map Decimal.text))
      (amount.map Decimal.written) := by
  cases amount with
  | none => exact Typed.gives_any .null rfl
  | some d =>
    have read : amountOf (.text d.text) = .ok (some d.written) := by
      simp only [amountOf, amountOf.read, d.ofText?_text (limit d rfl)]
    exact Typed.gives_any (.text d.text) read

theorem gives_day {transferDate : Option Date} (limit : ∀ d ∈ transferDate, d.InCalendar) :
    day.optional.Gives depth (textOrNull (transferDate.map Date.text)) transferDate := by
  cases transferDate with
  | none => exact Typed.gives_null
  | some d =>
    have read : Date.ofLoose d.text = .ok d := Date.ofLoose_text (limit d rfl)
    exact Typed.gives_optional_text (Typed.gives_content read)

/-- What is read of a request that was written. -/
theorem ofText_print_toJson (limits : w.WithinLimits) :
    ofText w.toJson.print = .ok w.rewritten := by
  have each {depth : Nat} : List.Forall₂ (shape.Changes depth)
      [("beneficiaryName", textOrNull w.beneficiaryName),
        ("beneficiaryAccountNumber", textOrNull w.beneficiaryAccountNumber),
        ("routingNumber", textOrNull w.routingNumber),
        ("amount", textOrNull (w.amount.map Decimal.text)), ("currency", textOrNull w.currency),
        ("transferDate", textOrNull (w.transferDate.map Date.text)),
        ("memo", textOrNull w.memo)] _ :=
    .cons (TypedObject.changes_of_find rfl (gives_textOrNull _)) <|
    .cons (TypedObject.changes_of_find rfl (gives_textOrNull _)) <|
    .cons (TypedObject.changes_of_find rfl (gives_textOrNull _)) <|
    .cons (TypedObject.changes_of_find rfl (gives_amount limits.amount)) <|
    .cons (TypedObject.changes_of_find rfl (gives_textOrNull _)) <|
    .cons (TypedObject.changes_of_find rfl (gives_day limits.day)) <|
    .cons (TypedObject.changes_of_find rfl (gives_textOrNull _)) .nil
  exact TypedObject.ofText_print each (by simp)

theorem same_rewritten : Same w w.rewritten where
  beneficiaryName := rfl
  beneficiaryAccountNumber := rfl
  routingNumber := rfl
  amount := by
    unfold rewritten
    cases w.amount with
    | none => exact .none
    | some d => exact .some d.value_written.symm
  currency := rfl
  transferDate := rfl
  memo := rfl

theorem toJson_rewritten : w.rewritten.toJson = w.toJson := by
  have amounts : (w.amount.map Decimal.written).map Decimal.text = w.amount.map Decimal.text := by
    cases w.amount with
    | none => rfl
    | some d => exact congrArg (fun cs => some (String.ofList cs)) d.chars_written
  rw [toJson, toJson, rewritten, amounts]

end

end WireTransfer

/-- A request that was read from a text and written as JSON is read back as the same request, and
    written again it is the same text. -/
theorem request_reads_back (text : String) (w : WireTransfer)
    (read : WireTransfer.ofText text = .ok w) :
    ∃ v, WireTransfer.ofText w.toJson.print = .ok v ∧ w.Same v ∧
      v.toJson.print = w.toJson.print :=
  ⟨w.rewritten, WireTransfer.ofText_print_toJson (WireTransfer.withinLimits_of_ofText read),
    WireTransfer.same_rewritten, congrArg Json.print WireTransfer.toJson_rewritten⟩

/-- A transfer with an escape in its name, an exponent in its amount and a year before the first. -/
def idesTransfer : String :=
  "\x7b\"beneficiaryName\": \"Zo\\u00eb\", \"amount\": 12.5e3, \"transferDate\": \" -44-3-15\"\x7d"

/-- The request that it is read as. -/
def idesRequest : WireTransfer where
  beneficiaryName := some "Zo\u00eb"
  amount := some ⟨125, -2⟩
  transferDate := some ⟨-44, 3, 15, by decide⟩

theorem request_reads_back_ides :
    WireTransfer.ofText idesTransfer = .ok idesRequest ∧
    idesRequest.toJson.print =
      "\x7b\"beneficiaryName\":\"Zo\u00eb\",\"beneficiaryAccountNumber\":null," ++
        "\"routingNumber\":null,\"amount\":\"12500\",\"currency\":null," ++
        "\"transferDate\":\"-0044-03-15\",\"memo\":null\x7d" ∧
    ∃ v, WireTransfer.ofText idesRequest.toJson.print = .ok v ∧ idesRequest.Same v ∧
      v.toJson.print = idesRequest.toJson.print := by
  have read : WireTransfer.ofText idesTransfer = .ok idesRequest := by decide +kernel
  exact ⟨read, by decide +kernel, request_reads_back idesTransfer idesRequest read⟩

end RecordRules
