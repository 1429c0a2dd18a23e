import Rosmon.Handler.Handlers
import Rosmon.Service.Billing

namespace Rosmon.Handler

open Library Store Service

/-- A field that is to hold a date, `2006-01-02`. -/
inductive DateField
  | absent
  | malformed
  | date (t : Time)
  deriving DecidableEq

structure InvoiceGenerateRequest where
  subscriptionID : ℕ
  customerID : ℕ
  amount : ℤ
  periodStart : DateField
  dueDays : ℤ
  deriving DecidableEq

def InvoiceGenerateRequest.valid (req : InvoiceGenerateRequest) : Bool :=
  0 < req.subscriptionID && 0 < req.customerID && 0 ≤ req.amount && req.periodStart ≠ .absent &&
    0 ≤ req.dueDays

/-- `Invoices.Generate`. -/
def generateInvoice (req : InvoiceGenerateRequest) (actor : Option ℕ) : Prog (Response Invoice) := do
  if ¬req.valid then return .failure 400 "VALIDATION" "request validation failed"
  match req.periodStart with
  | .absent | .malformed =>
    return .failure 400 "INVALID_ARGUMENT" "period_start must be YYYY-MM-DD"
  | .date periodStart =>
    let dueDays := if req.dueDays = 0 then 7 else req.dueDays
    match ← perform (.subscriptions (.get req.subscriptionID)) with
    | .error err =>
      return if err.is .subscriptionNotFound then
          .failure 400 "INVALID_ARGUMENT" "subscription not found"
        else writeErr err
    | .ok sub =>
      if sub.customerID ≠ req.customerID then
        return .failure 400 "INVALID_ARGUMENT"
          "customer_id tidak sesuai dengan customer subscription"
      let override := if 0 < req.amount then some req.amount else none
      match ← generateForSubscriptionWithAmount sub periodStart dueDays override with
      | .error err =>
        return if err.isUniqueViolation then
            .failure 409 "CONFLICT" "invoice untuk periode ini sudah ada"
          else writeErr err
      | .ok inv =>
        audit actor "invoice_generated" "invoice" inv.id
        return .success 201 inv

end Rosmon.Handler
