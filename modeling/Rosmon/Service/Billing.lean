import Rosmon.Go.Calendar
import Rosmon.World

namespace Rosmon.Service

open Go Library Store

/-- `%0` and a width, of `fmt`. -/
def zeroPad (width : ℕ) (n : ℤ) : String :=
  let sign := if n < 0 then "-" else ""
  let digits := toString n.natAbs
  sign ++ String.ofList (List.replicate (width - sign.length - digits.length) '0') ++ digits

def formatNumber (kind : String) (year month value : ℤ) : String :=
  if 0 < month then s!"{kind}-{year}-{zeroPad 2 month}-{zeroPad 4 value}"
  else s!"{kind}-{year}-{zeroPad 4 value}"

example : formatNumber "INV" 2026 5 1 = "INV-2026-05-0001" := by decide

/-- The name and the monthly price of the profile a subscription pays for. -/
def resolveProfileInfo (sub : Subscription) : Prog (Except Error (String × ℤ)) :=
  let missing (kind : String) : Error := .new s!"subscription {sub.id} has no {kind}_profile_id"
  let resolved (kind : String) (r : Except Error Profile) : Except Error (String × ℤ) := match r with
    | .error err => .error (err.wrap ("get " ++ kind ++ " profile: "))
    | .ok p => .ok (p.name, p.priceMonthly)
  match sub.serviceType with
  | .pppoe => match sub.pppProfileID with
    | none => return .error (missing "ppp")
    | some id => do return resolved "ppp" (← perform (.pppProfiles id))
  | .hotspot => match sub.hotspotProfileID with
    | none => return .error (missing "hotspot")
    | some id => do return resolved "hotspot" (← perform (.hotspotProfiles id))

/-- The invoice of a subscription for the month that starts with `periodStart`. -/
def newInvoice (sub : Subscription) (price : ℤ) (number paymentCode : String) (periodStart : Time)
    (dueDays : ℤ) (now : Time) : Invoice where
  id := 0
  invoiceNumber := number
  customerID := sub.customerID
  subscriptionID := sub.id
  amount := price
  periodStart
  periodEnd := addDate periodStart 0 1 (-1)
  dueDate := addDate periodStart 0 0 dueDays
  status := .issued
  paymentCode
  issuedAt := some now
  paidAt := none
  notes := ""

/-- A positive amount takes the place of the price. -/
def overridden (override : Option ℤ) (price : ℤ) : ℤ :=
  match override with
  | some amount => if 0 < amount then amount else price
  | none => price

/-- `InvoiceStore.Create`. -/
def createInvoice (inv : Invoice) : Prog (Except Error Invoice) :=
  perform (.invoices (.create inv))

def generateForSubscriptionWithAmount (sub : Subscription) (periodStart : Time) (dueDays : ℤ)
    (override : Option ℤ) : Prog (Except Error Invoice) := do
  match ← resolveProfileInfo sub with
  | .error err => return .error (err.wrap "billing: resolve profile: ")
  | .ok (_, price) =>
    let price := overridden override price
    let now ← perform .now
    match ← perform (.nextVal ("INV", year now, month now)) with
    | .error err => return .error (err.wrap "billing: next sequence: ")
    | .ok seq =>
      let number := formatNumber "INV" (year now) (month now) seq
      let paymentCode ← perform .newPaymentCode
      createInvoice (newInvoice sub price number paymentCode periodStart dueDays now)

def generateForSubscription (sub : Subscription) (periodStart : Time) (dueDays : ℤ) :
    Prog (Except Error Invoice) :=
  generateForSubscriptionWithAmount sub periodStart dueDays none

/-- The day of the month is one that every month has. -/
def clampBillingDay (billingDay : ℤ) : ℤ :=
  if billingDay < 1 then 1 else if 28 < billingDay then 28 else billingDay

/-- One month after `t`, on the billing day of the month which that leads to. -/
def nextInvoiceDate (t : Time) (billingDay : ℤ) : Time :=
  let nextMonth := addDate t 0 1 0
  date (year nextMonth) (month nextMonth) (clampBillingDay billingDay)

end Rosmon.Service
