import Rosmon.World

namespace Rosmon.Service

open Go Library Store

/-- `rupiah`: dots before every group of three characters counted from the right. -/
def rupiah (amount : ℤ) : String :=
  let s := (toString amount).toList
  if s.length ≤ 3 then "Rp " ++ String.ofList s else "Rp " ++ String.ofList (groupThousands s)

def settingStr (key dflt : String) : Prog String := do
  match ← perform (.settings key) with
  | .error _ => return dflt
  | .ok v => return if v = "" then dflt else v

def settingInt (key : String) (dflt : ℤ) : Prog ℤ := do
  let v ← settingStr key ""
  return if v = "" then dflt else (atoi v).getD dflt

structure XenditAdapter where
  secretKey : String
  webhookToken : String
  invoiceDuration : ℤ
  deriving DecidableEq

def newXenditAdapter (secretKey webhookToken : String) (invoiceDurationSec : ℤ) : XenditAdapter :=
  ⟨secretKey, webhookToken, if invoiceDurationSec ≤ 0 then 86400 else invoiceDurationSec⟩

/-- The HTTP exchange is one call: its outcome is the gateway's to choose. -/
def XenditAdapter.createInvoice (a : XenditAdapter) (req : CreateInvoiceRequest) :
    Prog (Except Error CreateInvoiceResult) :=
  if a.secretKey = "" then return .error (.new "xendit: secret key tidak dikonfigurasi")
  else perform (.xendit req)

def buildGateway : Prog (Except Error XenditAdapter) := do
  let enabled ← settingStr "payment.xendit_enabled" "false"
  if enabled ≠ "true" then
    return .error
      (.new "payment gateway Xendit belum diaktifkan (setting payment.xendit_enabled)")
  let secretKey ← settingStr "payment.xendit_secret_key" ""
  if trimSpace secretKey = "" then
    return .error (.new "payment gateway belum dikonfigurasi: secret key kosong")
  let webhookToken ← settingStr "payment.xendit_webhook_token" ""
  let duration ← settingInt "payment.xendit_invoice_duration" 86400
  return .ok (newXenditAdapter secretKey webhookToken duration)

/-- `BuildGatewayForWebhook`: either secret is enough. -/
def buildGatewayForWebhook : Prog (Except Error XenditAdapter) := do
  let secretKey ← settingStr "payment.xendit_secret_key" ""
  let webhookToken ← settingStr "payment.xendit_webhook_token" ""
  if trimSpace secretKey = "" ∧ trimSpace webhookToken = "" then
    return .error (.new "xendit not configured")
  return .ok (newXenditAdapter secretKey webhookToken 0)

structure InitiatePaymentResult where
  paymentID : ℕ
  invoiceURL : String
  expiresAt : Time
  deriving DecidableEq

def notOwned (invoiceID customerID : ℕ) : Error :=
  .new s!"payment: invoice {invoiceID} bukan milik customer {customerID}"

/-- The row a gateway payment starts as: pending, and without a reference. -/
def gatewayPayment (inv : Invoice) (invoiceID customerID : ℕ) (now : Time) : Payment where
  id := 0
  invoiceID
  customerID
  amount := inv.amount
  method := "gateway"
  referenceNumber := ""
  proofURL := ""
  bankName := ""
  status := .pending
  confirmedBy := none
  confirmedAt := none
  rejectionReason := ""
  idempotencyKey := s!"xendit-inv{invoiceID}-{now.unixMilli}"
  gatewayName := "xendit"
  externalRef := ""
  gatewayResponse := ""
  invoiceURL := ""
  expiresAt := none

/-- The row is created before the gateway is asked and its reference is saved
afterwards, in a write whose error is ignored. -/
def initiatePayment (invoiceID customerID : ℕ) : Prog (Except Error InitiatePaymentResult) := do
  match ← buildGateway with
  | .error err => return .error err
  | .ok gw =>
    match ← perform (.invoices (.getByID invoiceID)) with
    | .error err => return .error (err.wrap "payment: get invoice: ")
    | .ok inv =>
      if inv.customerID ≠ customerID then return .error (notOwned invoiceID customerID)
      if inv.status = .paid then return .error (.new "payment: invoice sudah lunas")
      if inv.status = .cancelled then return .error (.new "payment: invoice sudah dibatalkan")
      match ← perform (.customers customerID) with
      | .error err => return .error (err.wrap "payment: get customer: ")
      | .ok cust =>
        let now ← perform .now
        match ← perform (.payments (.create (gatewayPayment inv invoiceID customerID now))) with
        | .error err => return .error (err.wrap "payment: create payment record: ")
        | .ok p =>
          let appURL ← settingStr "payment.app_url" ""
          let gwReq : CreateInvoiceRequest :=
            { externalID := s!"xendit-inv{invoiceID}-pay{p.id}"
              amount := inv.amount
              description := "Tagihan " ++ inv.invoiceNumber
              customerName := cust.fullName
              customerPhone := cust.phone
              successURL := s!"{appURL}/portal/invoices/{invoiceID}?status=paid"
              failureURL := s!"{appURL}/portal/invoices/{invoiceID}?status=failed" }
          match ← gw.createInvoice gwReq with
          | .error err =>
            let _ ← perform (.payments (.updateStatus p.id .rejected none none
              ("gateway error: " ++ err.text)))
            return .error (err.wrap "payment: create gateway invoice: ")
          | .ok result =>
            let _ ← perform (.payments (.updateGatewayInfo p.id
              { externalRef := result.externalRef
                gatewayResponse := result.rawResponse
                invoiceURL := result.invoiceURL
                expiresAt := result.expiresAt }))
            return .ok ⟨p.id, result.invoiceURL, result.expiresAt⟩

/-- `audit.Log`: a failure to write is only logged. -/
def audit (userID : Option ℕ) (action entityType : String) (entityID : ℕ) : Prog Unit := do
  let _ ← perform (.audit { userID, action, entityType, entityID })

def notifyPaid (inv : Invoice) (restored : Bool) : Prog Unit := do
  match ← perform (.customers inv.customerID) with
  | .error _ => return ()
  | .ok cust =>
    if cust.phone = "" then return ()
    perform (.notify
      { customerID := some cust.id
        phone := cust.phone
        slug := "payment_confirmed"
        vars := [("customer_name", cust.fullName), ("invoice_number", inv.invoiceNumber),
          ("amount", rupiah inv.amount)] })
    if restored then
      let companyName ← settingStr "general.company_name" ""
      perform (.notify
        { customerID := some cust.id
          phone := cust.phone
          slug := "service_restored"
          vars := [("customer_name", cust.fullName), ("company_name", companyName)] })
    else return ()

def notifyRejected (p : Payment) : Prog Unit := do
  match ← perform (.customers p.customerID) with
  | .error _ => return ()
  | .ok cust =>
    if cust.phone = "" then return ()
    match ← perform (.invoices (.getByID p.invoiceID)) with
    | .error _ => return ()
    | .ok inv =>
      perform (.notify
        { customerID := some cust.id
          phone := cust.phone
          slug := "payment_rejected"
          vars := [("customer_name", cust.fullName), ("invoice_number", inv.invoiceNumber),
            ("reason", p.rejectionReason)] })

/-- Give the subscription back what the settled invoice had cost it. Both writes
are best effort. The result says whether there was anything to restore. -/
def restoreSubscription (subscriptionID : ℕ) : Prog Bool := do
  match ← perform (.subscriptions (.get subscriptionID)) with
  | .error _ => return false
  | .ok sub =>
    match sub.status with
    | .isolir =>
      let _ ← perform (.subscriptions (.updateStatus sub.id .active none none))
      let _ ← perform (.subscriptions (.updateSyncStatus sub.id .pendingProfileChange
        "payment settled — restore profile"))
      return true
    | .suspended =>
      let _ ← perform (.subscriptions (.updateStatus sub.id .active none none))
      let _ ← perform (.subscriptions (.updateSyncStatus sub.id .pendingEnable
        "payment settled — re-enable"))
      return true
    | _ => return false

/-- The second half of `applySettlement`, which starts by reading the invoice back. -/
def restoreService (invoiceID : ℕ) : Prog Unit := do
  match ← perform (.invoices (.getByID invoiceID)) with
  | .error _ => return ()
  | .ok inv =>
    let restored ← restoreSubscription inv.subscriptionID
    notifyPaid inv restored

/-- No error of a settlement reaches the caller. -/
def applySettlement (p : Payment) : Prog Unit := do
  let now ← perform .now
  let _ ← perform (.invoices (.updateStatus p.invoiceID .paid (some now)))
  restoreService p.invoiceID

/-- The refusal of the operations that open a payment on a closed invoice. -/
def alreadyClosed (status : InvoiceStatus) : Error :=
  .new ("payment: invoice sudah " ++ status.text)

def createManual (p : Payment) (actorUserID : Option ℕ) : Prog (Except Error Payment) := do
  match ← perform (.invoices (.getByID p.invoiceID)) with
  | .error err => return .error (err.wrap "payment: get invoice: ")
  | .ok inv =>
    if inv.customerID ≠ p.customerID then return .error (notOwned p.invoiceID p.customerID)
    if inv.status = .paid ∨ inv.status = .cancelled then return .error (alreadyClosed inv.status)
    let now ← perform .now
    match ← perform (.payments (.create
        { p with status := .confirmed, confirmedBy := actorUserID, confirmedAt := some now })) with
    | .error err => return .error err
    | .ok p =>
      applySettlement p
      audit actorUserID "payment_confirmed" "payment" p.id
      return .ok p

/-- The row of a transfer proof uploaded in the portal. -/
def portalPayment (inv : Invoice) (invoiceID customerID : ℕ) (proofURL bankName refNum : String)
    (now : Time) : Payment where
  id := 0
  invoiceID
  customerID
  amount := inv.amount
  method := "portal"
  referenceNumber := refNum
  proofURL
  bankName
  status := .pending
  confirmedBy := none
  confirmedAt := none
  rejectionReason := ""
  idempotencyKey := s!"portal-inv{invoiceID}-cust{customerID}-{now.unixMilli}"
  gatewayName := ""
  externalRef := ""
  gatewayResponse := ""
  invoiceURL := ""
  expiresAt := none

def createPortalPayment (invoiceID customerID : ℕ) (proofURL bankName refNum : String) :
    Prog (Except Error Payment) := do
  match ← perform (.invoices (.getByID invoiceID)) with
  | .error err => return .error (err.wrap "payment: get invoice: ")
  | .ok inv =>
    if inv.customerID ≠ customerID then return .error (notOwned invoiceID customerID)
    if inv.status = .paid ∨ inv.status = .cancelled then return .error (alreadyClosed inv.status)
    let now ← perform .now
    match ← perform (.payments (.create
        (portalPayment inv invoiceID customerID proofURL bankName refNum now))) with
    | .error err => return .error err
    | .ok p =>
      audit none "payment_uploaded" "payment" p.id
      return .ok p

/-- The refusal of `Confirm` and `Reject` on a payment that is no longer pending. -/
def alreadyDecided (status : PaymentStatus) : Error :=
  .new ("payment: status is already " ++ status.text)

def confirm (paymentID : ℕ) (actorUserID : Option ℕ) : Prog (Except Error Payment) := do
  match ← perform (.payments (.getByID paymentID)) with
  | .error err => return .error err
  | .ok p =>
    if p.status ≠ .pending then return .error (alreadyDecided p.status)
    let now ← perform .now
    match ← perform (.payments (.updateStatus paymentID .confirmed actorUserID (some now) "")) with
    | .error err => return .error err
    | .ok () =>
      let p := { p with status := .confirmed, confirmedAt := some now, confirmedBy := actorUserID }
      applySettlement p
      audit actorUserID "payment_confirmed" "payment" p.id
      return .ok p

def reject (paymentID : ℕ) (reason : String) (actorUserID : Option ℕ) :
    Prog (Except Error Payment) := do
  match ← perform (.payments (.getByID paymentID)) with
  | .error err => return .error err
  | .ok p =>
    if p.status ≠ .pending then return .error (alreadyDecided p.status)
    match ← perform (.payments (.updateStatus paymentID .rejected none none reason)) with
    | .error err => return .error err
    | .ok () =>
      let p := { p with status := .rejected, rejectionReason := reason }
      audit actorUserID "payment_rejected" "payment" p.id
      notifyRejected p
      return .ok p

/-- The statuses `ProcessWebhook` acts on, and all the others. -/
inductive EventStatus
  | paid
  | expired
  | failed
  | other (text : String)
  deriving DecidableEq

def EventStatus.text : EventStatus → String
  | .paid => "paid"
  | .expired => "expired"
  | .failed => "failed"
  | .other text => text

structure PaymentEvent where
  externalRef : String
  status : EventStatus
  amount : ℤ
  gatewayName : String
  deriving DecidableEq

/-- The `paid` branch of `ProcessWebhook`. -/
def webhookConfirm (p : Payment) : Prog (Except Error Unit) := do
  let now ← perform .now
  match ← perform (.payments (.updateStatus p.id .confirmed none (some now) "")) with
  | .error err => return .error err
  | .ok () =>
    applySettlement { p with status := .confirmed, confirmedAt := some now }
    audit none "payment_confirmed" "payment" p.id
    return .ok ()

/-- The `expired` and `failed` branch. -/
def webhookReject (p : Payment) (status : EventStatus) : Prog (Except Error Unit) := do
  match ← perform (.payments
      (.updateStatus p.id .rejected none none ("gateway: " ++ status.text))) with
  | .error err => return .error err
  | .ok () =>
    audit none "payment_rejected" "payment" p.id
    return .ok ()

def processWebhook (event : PaymentEvent) : Prog (Except Error Unit) := do
  match ← perform (.payments (.getByExternalRef event.gatewayName event.externalRef)) with
  | .error err => return .error (err.wrap "payment: get by external ref: ")
  | .ok p =>
    if p.status = .confirmed ∨ p.status = .rejected then return .ok ()
    match event.status with
    | .paid => webhookConfirm p
    | .expired | .failed => webhookReject p event.status
    | .other _ => return .ok ()

end Rosmon.Service
