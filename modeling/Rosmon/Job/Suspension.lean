import Rosmon.Go.Duration
import Rosmon.Go.Itoa
import Rosmon.Service.Payment

namespace Rosmon.Job

open Go Library Store Service

/-- `settingInt` of the job: a setting that is not a number is as good as none. -/
def settingInt (key : String) (dflt : ℤ) : Prog ℤ := do
  match ← perform (.settings key) with
  | .error _ => return dflt
  | .ok v => return (atoi v).getD dflt

/-- The negation is that of `int64`. -/
def formatRupiah (n : ℤ) : String :=
  if n < 0 then "-" ++ String.ofList (groupThousands (itoa ((-n).bmod (2 ^ 64))))
  else String.ofList (groupThousands (itoa n))

def notifyCustomer (customerID : ℕ) (slug : String) (extra : List (String × String)) :
    Prog Unit := do
  match ← perform (.customers customerID) with
  | .error _ => return ()
  | .ok cust =>
    if cust.phone = "" then return ()
    let companyName ← settingStr "general.company_name" ""
    perform (.notify
      { customerID := some cust.id
        phone := cust.phone
        slug
        vars := [("customer_name", cust.fullName), ("company_name", companyName)] ++ extra })

/-- What a notification says about an invoice. -/
def invoiceVars (inv : Invoice) : List (String × String) :=
  [("invoice_number", inv.invoiceNumber), ("amount", formatRupiah inv.amount),
    ("due_date", formatDate inv.dueDate)]

/-- The loop of `sendReminders`, which stops with the server. -/
def remind : List Invoice → Prog Unit
  | [] => return ()
  | inv :: invs => do
    if ← perform .contextDone then return ()
    notifyCustomer inv.customerID "invoice_reminder" (invoiceVars inv)
    remind invs

def sendReminders (now : Time) : Prog Unit := do
  match ← perform (.invoices (.listDueForBilling (now + 2 * day))) with
  | .error _ => return ()
  | .ok invs => remind invs

/-- The status tested here is the one of the list. -/
def markOverdue (inv : Invoice) : Prog Unit := do
  if inv.status ≠ .issued then return ()
  match ← perform (.invoices (.updateStatus inv.id .overdue none)) with
  | .error _ => return ()
  | .ok () => notifyCustomer inv.customerID "invoice_overdue" (invoiceVars inv)

def daysPastDue (now : Time) (inv : Invoice) : ℤ := wholeDays (timeSub now inv.dueDate)

/-- The keys of the map `suspendCandidates`. -/
def suspendCandidates (now : Time) (hardSuspendAfter : ℤ) (invs : List Invoice) : List ℕ :=
  ((invs.filter fun inv ↦ hardSuspendAfter ≤ daysPastDue now inv).map (·.subscriptionID)).dedup

/-- The keys of the map `isolirCandidates`. -/
def isolirCandidates (now : Time) (isolirAfter hardSuspendAfter : ℤ) (invs : List Invoice) :
    List ℕ :=
  ((invs.filter fun inv ↦ daysPastDue now inv < hardSuspendAfter &&
    isolirAfter ≤ daysPastDue now inv).map (·.subscriptionID)).dedup

/-- Take a subscription that is in one of these states down to another one. -/
def downgrade (eligible : List SubscriptionStatus) (status : SubscriptionStatus)
    (syncStatus : SyncStatus) (syncNotes slug : String) (subID : ℕ) : Prog Unit := do
  match ← perform (.subscriptions (.get subID)) with
  | .error _ => return ()
  | .ok sub =>
    if sub.status ∉ eligible then return ()
    match ← perform (.subscriptions (.updateStatus subID status none none)) with
    | .error _ => return ()
    | .ok () =>
      let _ ← perform (.subscriptions (.updateSyncStatus subID syncStatus syncNotes))
      audit none "subscription_status_changed" "subscription" subID
      notifyCustomer sub.customerID slug []

/-- The body of the second step, for what is not to be suspended anyway. -/
def isolir (suspend : List ℕ) (subID : ℕ) : Prog Unit :=
  if subID ∈ suspend then return ()
  else downgrade [.active] .isolir .pendingProfileChange "auto-isolir: overdue invoice"
    "service_isolir" subID

/-- The body of the third step. -/
def hardSuspend (subID : ℕ) : Prog Unit :=
  downgrade [.active, .isolir] .suspended .pendingDisable "auto-suspend: overdue invoice"
    "service_suspended" subID

/-- `SuspensionCheckJob.Run`. -/
def suspensionCheck : Prog (Except Error Unit) := do
  let now ← perform .now
  let isolirAfter ← settingInt "billing.isolir_after_days" 3
  let hardSuspendAfter ← settingInt "billing.hard_suspend_after_days" 14
  sendReminders now
  match ← perform (.invoices (.listOverdue now)) with
  | .error err => return .error (err.wrap "suspension_check: list overdue: ")
  | .ok overdueInvoices =>
    overdueInvoices.forM markOverdue
    let suspend := suspendCandidates now hardSuspendAfter overdueInvoices
    let order ← perform
      (.rangeKeys (isolirCandidates now isolirAfter hardSuspendAfter overdueInvoices))
    order.forM (isolir suspend)
    let order ← perform (.rangeKeys suspend)
    order.forM hardSuspend
    return .ok ()

end Rosmon.Job
