/-
  Wire transfer requests: records with fixed fields, read from JSON and written as JSON. An amount is
  read from a number or from numeric text, and written as text.
-/
import RecordRules.Date.Loose
import RecordRules.Json.Typed
import RecordRules.Record.Value

namespace RecordRules

/-- A wire transfer request. -/
structure WireTransfer where
  beneficiaryName : Option String := none
  beneficiaryAccountNumber : Option String := none
  routingNumber : Option String := none
  amount : Option Decimal := none
  currency : Option String := none
  transferDate : Option Date := none
  memo : Option String := none
deriving DecidableEq, Repr

namespace WireTransfer

/-- The type name of every request. -/
def typeName : String := "WireTransferRequest"

/-- The amount that a JSON value gives: none for null. -/
def amountOf : Json → Except String (Option Decimal)
  | .null => .ok none
  | .number n => read n.text
  | .text s => read s
  | json => .error ("expected a decimal, got " ++ json.print)
where
  /-- The amount of numeric text. -/
  read (text : String) : Except String (Option Decimal) :=
    match Decimal.ofText? text with
    | some d => .ok (some d)
    | none => .error ("invalid decimal: " ++ text)

/-- Days in loose writing. -/
def day : Typed Date := .content "a formatted date string" Date.ofLoose

/-- How requests are read. -/
def shape : TypedObject WireTransfer where
  name := typeName
  initial := {}
  fields :=
    [⟨"beneficiaryName", (Typed.optional .text).map fun v w => { w with beneficiaryName := v },
        false⟩,
      ⟨"beneficiaryAccountNumber",
        (Typed.optional .text).map fun v w => { w with beneficiaryAccountNumber := v }, false⟩,
      ⟨"routingNumber", (Typed.optional .text).map fun v w => { w with routingNumber := v }, false⟩,
      ⟨"amount", (Typed.any amountOf).map fun v w => { w with amount := v }, true⟩,
      ⟨"currency", (Typed.optional .text).map fun v w => { w with currency := v }, false⟩,
      ⟨"transferDate", day.optional.map fun v w => { w with transferDate := v }, false⟩,
      ⟨"memo", (Typed.optional .text).map fun v w => { w with memo := v }, false⟩]

/-- The request of a JSON text. -/
def ofText (text : String) : Except String WireTransfer := shape.ofText text

/-- The request of a JSON value. -/
def ofJson (json : Json) : Except String WireTransfer := shape.ofJson json

/-- A text, or null. -/
def textOrNull : Option String → Json
  | some s => .text s
  | none => .null

/-- The JSON value of a request. -/
def toJson (w : WireTransfer) : Json :=
  .object
    [("beneficiaryName", textOrNull w.beneficiaryName),
      ("beneficiaryAccountNumber", textOrNull w.beneficiaryAccountNumber),
      ("routingNumber", textOrNull w.routingNumber),
      ("amount", textOrNull (w.amount.map Decimal.text)),
      ("currency", textOrNull w.currency),
      ("transferDate", textOrNull (w.transferDate.map Date.text)),
      ("memo", textOrNull w.memo)]

/-- The record of a request. Every other field is unknown to it. -/
def record (w : WireTransfer) : Record where
  typeName := typeName
  field
    | "beneficiaryName" => .ok (w.beneficiaryName.map .text)
    | "beneficiaryAccountNumber" => .ok (w.beneficiaryAccountNumber.map .text)
    | "routingNumber" => .ok (w.routingNumber.map .text)
    | "amount" => .ok (w.amount.map .number)
    | "currency" => .ok (w.currency.map .text)
    | "transferDate" => .ok (w.transferDate.map .date)
    | "memo" => .ok (w.memo.map .text)
    | other => .error (.unknown other)

end WireTransfer

end RecordRules
