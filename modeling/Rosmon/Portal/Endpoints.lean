import Rosmon.Go.Numbers
import Rosmon.Portal.CustomerAuth

namespace Rosmon.Portal

open Go Library Store Service Handler

structure CustomerMeResponse where
  id : ℕ
  fullName : String
  phone : String
  address : String
  area : String
  status : String
  deriving DecidableEq

def fromModelCustomerMe (c : Customer) : CustomerMeResponse where
  id := c.id
  fullName := c.fullName
  phone := c.phone
  address := c.address
  area := c.area
  status := c.status

structure SubscriptionResponse where
  id : ℕ
  customerID : ℕ
  deviceID : ℕ
  pppProfileID : Option ℕ
  hotspotProfileID : Option ℕ
  serviceType : ServiceType
  mikrotikUsername : String
  status : SubscriptionStatus
  billingDay : Option ℤ
  nextInvoiceDate : Option Time
  syncStatus : SyncStatus
  syncNotes : String
  activatedAt : Option Time
  terminatedAt : Option Time
  notes : String
  deriving DecidableEq

/-- The password of the router is left out. -/
def fromModelSubscription (s : Subscription) : SubscriptionResponse where
  id := s.id
  customerID := s.customerID
  deviceID := s.deviceID
  pppProfileID := s.pppProfileID
  hotspotProfileID := s.hotspotProfileID
  serviceType := s.serviceType
  mikrotikUsername := s.mikrotikUsername
  status := s.status
  billingDay := s.billingDay
  nextInvoiceDate := s.nextInvoiceDate
  syncStatus := s.syncStatus
  syncNotes := s.syncNotes
  activatedAt := s.activatedAt
  terminatedAt := s.terminatedAt
  notes := s.notes

def paymentCodeQR (code : String) : String := if code = "" then "" else "rosmon-pay:" ++ code

/-- An invoice and the text of its QR code. -/
structure InvoiceResponse extends Invoice where
  qrContent : String
  deriving DecidableEq

def fromModelInvoice (inv : Invoice) : InvoiceResponse :=
  { inv with qrContent := paymentCodeQR inv.paymentCode }

structure PaymentResponse where
  id : ℕ
  invoiceID : ℕ
  customerID : ℕ
  amount : ℤ
  method : String
  referenceNumber : String
  proofURL : String
  bankName : String
  status : PaymentStatus
  confirmedBy : Option ℕ
  confirmedAt : Option Time
  rejectionReason : String
  gatewayName : String
  invoiceURL : String
  expiresAt : Option Time
  deriving DecidableEq

/-- The key, the reference of the gateway and its raw answer are left out. -/
def fromModelPayment (p : Payment) : PaymentResponse where
  id := p.id
  invoiceID := p.invoiceID
  customerID := p.customerID
  amount := p.amount
  method := p.method
  referenceNumber := p.referenceNumber
  proofURL := p.proofURL
  bankName := p.bankName
  status := p.status
  confirmedBy := p.confirmedBy
  confirmedAt := p.confirmedAt
  rejectionReason := p.rejectionReason
  gatewayName := p.gatewayName
  invoiceURL := p.invoiceURL
  expiresAt := p.expiresAt

structure TicketResponse where
  id : ℕ
  customerID : ℕ
  customerName : String
  subject : String
  body : String
  status : String
  priority : String
  assignedTo : Option ℕ
  staffNotes : String
  resolvedAt : Option Time
  deriving DecidableEq

/-- A ticket and the customer that has been loaded with it, if any. -/
def fromModelTicket (t : Ticket) (customer : Option Store.Customer) : TicketResponse where
  id := t.id
  customerID := t.customerID
  customerName := (customer.map (·.fullName)).getD ""
  subject := t.subject
  body := t.body
  status := t.status
  priority := t.priority
  assignedTo := t.assignedTo
  staffNotes := t.staffNotes
  resolvedAt := t.resolvedAt

/-- The body of a 2xx answer. -/
inductive Body
  | me (r : CustomerMeResponse)
  | subscriptions (items : List SubscriptionResponse)
  | subscription (r : SubscriptionResponse)
  | invoices (items : List InvoiceResponse)
  | invoice (r : InvoiceResponse)
  | payments (items : List PaymentResponse)
  | payment (r : PaymentResponse)
  | initiated (r : InitiatePaymentResult)
  | enabled (enabled : Bool)
  | message (text : String)
  | tickets (items : List TicketResponse)
  | ticket (r : TicketResponse)
  deriving DecidableEq

def notFound (message : String) : Response Body := .failure 404 "NOT_FOUND" message

def validationErr : Response Body := .failure 400 "VALIDATION" "request validation failed"

/-- `parseUintParam` and what follows it. -/
def withID (raw : String) (p : ℕ → Prog (Response Body)) : Prog (Response Body) :=
  match parseUint raw with
  | none => return .failure 400 "INVALID_ID" "invalid id"
  | some id => p id

variable (cid : ℕ)

/-- `Me`. -/
def me : Prog (Response Body) := do
  match ← perform (.customer cid) with
  | .error err =>
    return if err.is .customerNotFound then notFound "customer not found" else writeErr err
  | .ok cust => return .success 200 (.me (fromModelCustomerMe cust))

/-- `Subscriptions`. -/
def subscriptions : Prog (Response Body) := do
  match ← perform (.subscriptions cid) with
  | .error err => return writeErr err
  | .ok subs => return .success 200 (.subscriptions (subs.map fromModelSubscription))

/-- `SubscriptionStatus`. -/
def subscriptionStatus (raw : String) : Prog (Response Body) :=
  withID raw fun id ↦ do
    match ← perform (.subscription id) with
    | .error err =>
      return if err.is .subscriptionNotFound then notFound "subscription not found"
        else writeErr err
    | .ok sub =>
      return if sub.customerID ≠ cid then notFound "subscription not found"
        else .success 200 (.subscription (fromModelSubscription sub))

/-- `ListInvoices`. -/
def listInvoices (status : String) : Prog (Response Body) := do
  match ← perform (.invoices cid status) with
  | .error err => return writeErr err
  | .ok items => return .success 200 (.invoices (items.map fromModelInvoice))

/-- `GetInvoice`. -/
def getInvoice (raw : String) : Prog (Response Body) :=
  withID raw fun id ↦ do
    match ← perform (.base (.invoices (.getByID id))) with
    | .error _ => return notFound "invoice not found"
    | .ok inv =>
      return if inv.customerID ≠ cid then notFound "invoice not found"
        else .success 200 (.invoice (fromModelInvoice inv))

/-- `PaymentHistory`. -/
def paymentHistory : Prog (Response Body) := do
  match ← perform (.payments cid) with
  | .error err => return writeErr err
  | .ok items => return .success 200 (.payments (items.map fromModelPayment))

structure PortalPaymentUploadRequest where
  proofURL : String
  bankName : String
  referenceNumber : String
  deriving DecidableEq

def PortalPaymentUploadRequest.valid (req : PortalPaymentUploadRequest) : Bool :=
  req.proofURL ≠ "" && req.proofURL.length ≤ 500 && req.bankName.length ≤ 100 &&
    req.referenceNumber.length ≤ 100

def containsAny (s : String) (subs : List String) : Bool := subs.any (contains s)

/-- What both ways to pay make of an error: they look at its text. -/
def payFailed (message : String) (err : Error) : Response Body :=
  if containsAny err.text ["sudah lunas", "sudah dibatalkan"] then .failure 409 "CONFLICT" err.text
  else if containsAny err.text ["bukan milik customer", "not found"] then
    notFound "invoice not found"
  else .failure 500 "INTERNAL" message

/-- The proof of a transfer. `configured` says whether there is a payment service. -/
def uploadProof (configured : Bool) (invoiceID : ℕ) (body : Option PortalPaymentUploadRequest) :
    Prog (Response Body) := do
  match body.filter (·.valid) with
  | none => return validationErr
  | some req =>
    if ¬"/uploads/".toList.isPrefixOf req.proofURL.toList then return validationErr
    else if ¬configured then
      return .failure 503 "SERVICE_UNAVAILABLE" "layanan pembayaran tidak tersedia"
    else
      match ← lift (createPortalPayment invoiceID cid req.proofURL req.bankName
          req.referenceNumber) with
      | .error err => return payFailed "gagal mengunggah bukti pembayaran" err
      | .ok p =>
        perform (.publish p)
        return .success 201 (.payment (fromModelPayment p))

/-- `IsEnabled`. -/
def isEnabled : Prog Bool := do
  let gateway ← lift buildGateway
  return gateway.isOk

/-- There is a payment service, and the gateway is switched on. -/
def gatewayEnabled (configured : Bool) : Prog Bool :=
  if configured then isEnabled else return false

def payOnline (configured : Bool) (invoiceID : ℕ) : Prog (Response Body) := do
  let enabled ← gatewayEnabled configured
  if ¬enabled then
    return .failure 503 "SERVICE_UNAVAILABLE" "pembayaran online tidak tersedia"
  else
    match ← lift (initiatePayment invoiceID cid) with
    | .error err => return payFailed "gagal membuat link pembayaran" err
    | .ok result => return .success 200 (.initiated result)

/-- `PayInvoice`: without a body the payment goes through the gateway. -/
def payInvoice (configured : Bool) (raw : String)
    (body : Option (Option PortalPaymentUploadRequest)) : Prog (Response Body) :=
  withID raw fun invoiceID ↦
    match body with
    | some body => uploadProof cid configured invoiceID body
    | none => payOnline cid configured invoiceID

/-- `GetGatewayStatus`. -/
def getGatewayStatus (configured : Bool) : Prog (Response Body) := do
  let enabled ← gatewayEnabled configured
  return .success 200 (.enabled enabled)

structure ChangePasswordRequest where
  oldPassword : String
  newPassword : String
  deriving DecidableEq

def ChangePasswordRequest.valid (req : ChangePasswordRequest) : Bool :=
  1 ≤ req.oldPassword.length && req.oldPassword.length ≤ 128 && 8 ≤ req.newPassword.length &&
    req.newPassword.length ≤ 128

/-- `ChangePassword`. -/
def changePasswordHandler (body : Option ChangePasswordRequest) : Prog (Response Body) := do
  match body.filter (·.valid) with
  | none => return validationErr
  | some req =>
    match ← changePassword cid req.oldPassword req.newPassword with
    | .error .invalidCredentials => return .failure 400 "INVALID_ARGUMENT" "password lama salah"
    | .error .weakPassword =>
      return .failure 400 "INVALID_ARGUMENT" "password baru minimal 8 karakter"
    | .error (.other err) => return writeErr err
    | .ok () => return .success 200 (.message "password updated")

/-- `ListMine`: the notes of the staff are not shown. -/
def listMine : Prog (Response Body) := do
  match ← perform (.tickets cid) with
  | .error err => return writeErr err
  | .ok tickets =>
    return .success 200 (.tickets (tickets.map fun t ↦
      { fromModelTicket t.1 t.2 with staffNotes := "" }))

structure CreateMineRequest where
  subject : String
  body : String
  priority : String
  deriving DecidableEq

def CreateMineRequest.valid (req : CreateMineRequest) : Bool :=
  3 ≤ req.subject.length && req.subject.length ≤ 200

def CreateMineRequest.ticket (req : CreateMineRequest) : Ticket where
  id := 0
  customerID := cid
  subject := req.subject
  body := req.body
  status := ""
  priority := req.priority
  assignedTo := none
  staffNotes := ""
  resolvedAt := none
  deletedAt := none

/-- `CreateMine`. -/
def createMine (body : Option CreateMineRequest) : Prog (Response Body) := do
  match body.filter (·.valid) with
  | none => return validationErr
  | some req =>
    match ← perform (.createTicket (req.ticket cid)) with
    | .error err => return writeErr err
    | .ok t => return .success 201 (.ticket { fromModelTicket t none with staffNotes := "" })

/-- A request to the portal. A body that is no JSON of the right shape is `none`. -/
inductive Request
  | me
  | subscriptions
  | subscriptionStatus (id : String)
  | listInvoices (status : String)
  | getInvoice (id : String)
  | payInvoice (id : String) (body : Option (Option PortalPaymentUploadRequest))
  | paymentHistory
  | changePassword (body : Option ChangePasswordRequest)
  | gatewayStatus
  | listTickets
  | createTicket (body : Option CreateMineRequest)

/-- What the server does with a request whose token names the customer `cid`. -/
def serve (configured : Bool) : Request → Prog (Response Body)
  | .me => Portal.me cid
  | .subscriptions => Portal.subscriptions cid
  | .subscriptionStatus id => Portal.subscriptionStatus cid id
  | .listInvoices status => Portal.listInvoices cid status
  | .getInvoice id => Portal.getInvoice cid id
  | .payInvoice id body => Portal.payInvoice cid configured id body
  | .paymentHistory => Portal.paymentHistory cid
  | .changePassword body => changePasswordHandler cid body
  | .gatewayStatus => getGatewayStatus configured
  | .listTickets => listMine cid
  | .createTicket body => createMine cid body

end Rosmon.Portal
