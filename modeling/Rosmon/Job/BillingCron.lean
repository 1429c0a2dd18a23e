import Rosmon.Job.Suspension
import Rosmon.Service.Billing

namespace Rosmon.Job

open Go Library Store Service

/-- What the notification says about a new invoice. -/
def issuedVars (inv : Invoice) : List (String × String) :=
  [("invoice_number", inv.invoiceNumber), ("amount", formatRupiah inv.amount),
    ("period", formatDate inv.periodStart ++ " s/d " ++ formatDate inv.periodEnd),
    ("due_date", formatDate inv.dueDate)]

/-- The body of the loop. The date that is advanced is that of the list. -/
def bill (today : Time) (dueDays : ℤ) (sub : Subscription) : Prog Unit := do
  match sub.nextInvoiceDate with
  | none => return ()
  | some due =>
    if Time.truncateDay due ≠ today then return ()
    match ← generateForSubscription sub today dueDays with
    | .error _ => return ()
    | .ok inv =>
      let billingDay ← match sub.billingDay with
        | some billingDay => pure billingDay
        | none => settingInt "billing.default_billing_day" 1
      let _ ← perform (.subscriptions
        (.updateNextInvoiceDate sub.id (nextInvoiceDate due billingDay)))
      notifyCustomer sub.customerID "invoice_issued" (issuedVars inv)

def billingLoop (today : Time) (dueDays : ℤ) : List Subscription → Prog (Except Error Unit)
  | [] => return .ok ()
  | sub :: subs => do
    if ← perform .contextDone then return .error (.of .canceled)
    bill today dueDays sub
    billingLoop today dueDays subs

/-- `BillingCronJob.Run`. -/
def billingRun : Prog (Except Error Unit) := do
  let now ← perform .now
  let today := Time.truncateDay now
  let dueDays ← settingInt "billing.invoice_due_days" 7
  match ← perform (.subscriptions (.listByStatus .active)) with
  | .error err => return .error (err.wrap "billing_cron: list subscriptions: ")
  | .ok subs => billingLoop today dueDays subs

end Rosmon.Job
