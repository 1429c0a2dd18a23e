import Rosmon.Service.Xendit

namespace Rosmon.Handler

open Library Store Service

/-- What a handler answers. -/
inductive Response (α : Type)
  | success (status : ℕ) (body : α)
  | failure (status : ℕ) (code message : String)
  deriving DecidableEq

def Response.status {α : Type} : Response α → ℕ
  | .success status _ => status
  | .failure status _ _ => status

/-- A 2xx answer. -/
def Response.Accepted {α : Type} (r : Response α) : Prop := 200 ≤ r.status ∧ r.status < 300

instance {α : Type} (r : Response α) : Decidable r.Accepted := inferInstanceAs (Decidable (_ ∧ _))

/-- `WriteErr`: the status and code `MapError` chooses. -/
def writeErr {α : Type} (err : Error) : Response α :=
  if err.is .mikrotikNotFound then .failure 404 "NOT_FOUND" err.text
  else if err.is .mikrotikInvalidArgument then .failure 400 "INVALID_ARGUMENT" err.text
  else if err.is .mikrotikAmbiguous then .failure 409 "AMBIGUOUS" err.text
  else if err.is .deadlineExceeded then .failure 504 "TIMEOUT" "operation timed out"
  else if err.is .canceled then .failure 499 "CANCELED" "request canceled"
  else .failure 500 "INTERNAL" err.text

/-- `writeErr` never answers 2xx. -/
theorem writeErr_not_accepted {α : Type} (err : Error) : ¬(writeErr err : Response α).Accepted := by
  unfold writeErr Response.Accepted
  split_ifs <;> simp [Response.status]

/-- `Invoices.Cancel`. -/
def cancel (id : ℕ) (actor : Option ℕ) : Prog (Response Invoice) := do
  match ← perform (.invoices (.getByID id)) with
  | .error err =>
    return if err.is .invoiceNotFound then .failure 404 "NOT_FOUND" "invoice not found"
      else writeErr err
  | .ok inv =>
    if inv.status = .paid then return .failure 409 "CONFLICT" "cannot cancel a paid invoice"
    match ← perform (.invoices (.updateStatus id .cancelled none)) with
    | .error err => return writeErr err
    | .ok () =>
      audit actor "invoice_cancelled" "invoice" id
      return .success 200 { inv with status := .cancelled }

structure PaymentCreateRequest where
  invoiceID : ℕ
  customerID : ℕ
  amount : ℤ
  method : String
  referenceNumber : String
  proofURL : String
  bankName : String
  idempotencyKey : String
  deriving DecidableEq

/-- The binding rules of the request: the amount is positive, and nothing else is
asked of it. -/
def PaymentCreateRequest.valid (req : PaymentCreateRequest) : Bool :=
  0 < req.invoiceID && 0 < req.customerID && 0 < req.amount &&
    req.method ∈ ["transfer", "cash"] && req.referenceNumber.length ≤ 100 &&
    req.proofURL.length ≤ 500 && req.bankName.length ≤ 100 && req.idempotencyKey.length ≤ 200

/-- The payment `Create` hands to `CreateManual`. -/
def manualPayment (req : PaymentCreateRequest) : Payment where
  id := 0
  invoiceID := req.invoiceID
  customerID := req.customerID
  amount := req.amount
  method := req.method
  referenceNumber := req.referenceNumber
  proofURL := req.proofURL
  bankName := req.bankName
  status := .pending
  confirmedBy := none
  confirmedAt := none
  rejectionReason := ""
  idempotencyKey := req.idempotencyKey
  gatewayName := ""
  externalRef := ""
  gatewayResponse := ""
  invoiceURL := ""
  expiresAt := none

/-- `Payments.Create`. -/
def create (req : PaymentCreateRequest) (actor : Option ℕ) : Prog (Response Payment) := do
  if ¬req.valid then return .failure 400 "VALIDATION" "request validation failed"
  match ← createManual (manualPayment req) actor with
  | .error err =>
    return if err.isUniqueViolation then
        .failure 409 "CONFLICT" "pembayaran dengan key ini sudah pernah diproses"
      else writeErr err
  | .ok created => return .success 201 created

structure PaymentCollectRequest where
  code : String
  method : String
  deriving DecidableEq

/-- The binding rules of the request. -/
def PaymentCollectRequest.valid (req : PaymentCollectRequest) : Bool :=
  4 ≤ req.code.length && req.code.length ≤ 32 && req.method ∈ ["", "cash", "transfer"]

def markPaid (inv : Invoice) (now : Time) : Invoice :=
  { inv with status := .paid, paidAt := some now }

/-- The payment `Collect` hands to `CreateManual`: the whole amount of the invoice. -/
def collectPayment (inv : Invoice) (req : PaymentCollectRequest) : Payment where
  id := 0
  invoiceID := inv.id
  customerID := inv.customerID
  amount := inv.amount
  method := if req.method = "" then "cash" else req.method
  referenceNumber := ""
  proofURL := ""
  bankName := ""
  status := .pending
  confirmedBy := none
  confirmedAt := none
  rejectionReason := ""
  idempotencyKey := "code:" ++ req.code
  gatewayName := ""
  externalRef := ""
  gatewayResponse := ""
  invoiceURL := ""
  expiresAt := none

/-- `Payments.Collect`. The invoice in the answer is not read again: it is the
one read before the settlement, marked paid. -/
def collect (req : PaymentCollectRequest) (actor : Option ℕ) :
    Prog (Response (Payment × Invoice)) := do
  if ¬req.valid then return .failure 400 "VALIDATION" "request validation failed"
  match ← perform (.invoices (.getByPaymentCode req.code)) with
  | .error err =>
    return if err.is .invoiceNotFound then
        .failure 404 "NOT_FOUND" "kode pembayaran tidak ditemukan"
      else writeErr err
  | .ok inv =>
    if inv.status = .paid then return .failure 409 "CONFLICT" "tagihan sudah lunas"
    if inv.status = .cancelled then return .failure 409 "CONFLICT" "tagihan dibatalkan"
    match ← createManual (collectPayment inv req) actor with
    | .error err =>
      return if err.isUniqueViolation then .failure 409 "CONFLICT" "kode sudah pernah dibayar"
        else writeErr err
    | .ok created =>
      let now ← perform .now
      return .success 201 (created, markPaid inv now)

/-- `XenditWebhook.Handle` on a body that could be read. The token is the
`x-callback-token` header, empty when there is none. -/
def handle (token : String) (rawBody : List Char) : Prog (Response String) := do
  match ← buildGatewayForWebhook with
  | .error _ => return .success 200 "ignored"
  | .ok adapter =>
    if ¬adapter.verifyWebhookSignature token then
      return .failure 401 "UNAUTHORIZED" "invalid callback token"
    match parseWebhookEvent rawBody with
    | none => return .failure 400 "BAD_REQUEST" "cannot parse webhook event"
    | some evt =>
      match ← processWebhook evt with
      | .error err =>
        return if err.is .paymentNotFound then .success 200 "unknown"
          else .failure 500 "INTERNAL" "internal error"
      | .ok () => return .success 200 evt.status.text

end Rosmon.Handler
