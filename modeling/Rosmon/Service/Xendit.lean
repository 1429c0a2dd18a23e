import Rosmon.Go.Json
import Rosmon.Service.Payment

namespace Rosmon.Service

open Go Store

structure XenditWebhookBody where
  id : String
  paymentID : String
  externalID : String
  status : String
  amount : ℚ
  paidAt : String
  deriving DecidableEq

def XenditWebhookBody.zero : XenditWebhookBody := ⟨"", "", "", "", 0, ""⟩

/-- `json.Unmarshal` into a fresh body. A `null` leaves the body as it is; the
text of an error is only logged. -/
def XenditWebhookBody.unmarshal (rawBody : List Char) : Option XenditWebhookBody := do
  match ← Json.parse rawBody with
  | .null => return .zero
  | .obj members =>
    return { id := ← Json.stringField "id" members
             paymentID := ← Json.stringField "payment_id" members
             externalID := ← Json.stringField "external_id" members
             status := ← Json.stringField "status" members
             amount := ← Json.floatField "amount" members
             paidAt := ← Json.stringField "paid_at" members }
  | _ => none

/-- The reference a body names: the payment id, or the id when that is empty. -/
def XenditWebhookBody.externalRef (wb : XenditWebhookBody) : String :=
  if wb.paymentID = "" then wb.id else wb.paymentID

/-- Every status other than `paid` and `expired` is folded into `failed`. -/
def XenditWebhookBody.eventStatus (wb : XenditWebhookBody) : EventStatus :=
  let status := toLower wb.status
  if status = "paid" then .paid
  else if status = "expired" then .expired
  else .failed

def XenditWebhookBody.event (wb : XenditWebhookBody) : PaymentEvent where
  externalRef := wb.externalRef
  status := wb.eventStatus
  amount := int64OfFloat64 wb.amount
  gatewayName := "xendit"

/-- `ParseWebhookEvent` without the time of payment, which nothing reads. -/
def parseWebhookEvent (rawBody : List Char) : Option PaymentEvent :=
  (XenditWebhookBody.unmarshal rawBody).map XenditWebhookBody.event

theorem parseWebhookEvent_gatewayName {rawBody : List Char} {event : PaymentEvent}
    (h : parseWebhookEvent rawBody = some event) : event.gatewayName = "xendit" := by
  obtain ⟨wb, -, rfl⟩ := Option.map_eq_some_iff.mp h
  rfl

/-- The amount of an event is always one the database can hold. -/
theorem parseWebhookEvent_amount {rawBody : List Char} {event : PaymentEvent}
    (h : parseWebhookEvent rawBody = some event) :
    -2 ^ 63 ≤ event.amount ∧ event.amount < 2 ^ 63 := by
  obtain ⟨wb, -, rfl⟩ := Option.map_eq_some_iff.mp h
  exact int64OfFloat64_range wb.amount

/-- No body makes `ProcessWebhook` meet a status it ignores. -/
theorem parseWebhookEvent_status {rawBody : List Char} {event : PaymentEvent}
    (h : parseWebhookEvent rawBody = some event) :
    event.status = .paid ∨ event.status = .expired ∨ event.status = .failed := by
  obtain ⟨wb, -, rfl⟩ := Option.map_eq_some_iff.mp h
  dsimp only [XenditWebhookBody.event, XenditWebhookBody.eventStatus]
  split
  · exact .inl rfl
  · split
    · exact .inr (.inl rfl)
    · exact .inr (.inr rfl)

/-- The token is compared as it stands; no token configured means no check. -/
def XenditAdapter.verifyWebhookSignature (a : XenditAdapter) (token : String) : Bool :=
  a.webhookToken = "" || token = a.webhookToken

end Rosmon.Service
