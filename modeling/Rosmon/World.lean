import Mathlib.Logic.Function.Basic
import Rosmon.Library.Pool
import Rosmon.Mikrotik.Router
import Rosmon.Store.Stores

namespace Rosmon

open Library Store Mikrotik

/-- What the payment gateway is asked for. -/
structure CreateInvoiceRequest where
  externalID : String
  amount : ℤ
  description : String
  customerName : String
  customerPhone : String
  successURL : String
  failureURL : String
  deriving DecidableEq

structure CreateInvoiceResult where
  externalRef : String
  invoiceURL : String
  expiresAt : Time
  rawResponse : String
  deriving DecidableEq

/-- What becomes of one request to the gateway: the id of the invoice it has
created, if any, and what the adapter makes of its response. -/
structure GatewayOutcome where
  created : Option String
  reply : Except Error CreateInvoiceResult

/-- A notification handed to `NotifyAsync`. -/
structure Notification where
  customerID : Option ℕ
  phone : String
  slug : String
  vars : List (String × String)
  deriving DecidableEq

/-- Everything the server reads and writes: the database, the gateway's
invoices, and the devices with the state of their routers. -/
structure World where
  payments : Table Payment
  invoices : Table Invoice
  subscriptions : Table Subscription
  customers : Table Customer
  pppProfiles : Table Profile
  hotspotProfiles : Table Profile
  settings : List (String × String)
  registrations : Table Registration
  sequences : Sequences
  auditLogs : List AuditLog
  outgoing : List Notification
  gatewayInvoices : List String
  connected : List ℕ
  routers : ℕ → Router

/-- A customer with one subscription and one issued invoice for it. -/
def World.oneInvoice (amount : ℤ) (subStatus : SubscriptionStatus) : World where
  payments := .empty
  invoices := Table.empty.insert
    { id := 0, invoiceNumber := "INV-1", customerID := 1, subscriptionID := 1, amount
      periodStart := 0, periodEnd := 30 * day, dueDate := 7 * day, status := .issued
      paymentCode := "ABCD1234", issuedAt := some 0, paidAt := none, notes := "" }
  subscriptions := Table.empty.insert
    { id := 0, customerID := 1, deviceID := 1, pppProfileID := some 1, hotspotProfileID := none
      serviceType := .pppoe, mikrotikUsername := "budi", mikrotikPassword := "rahasia"
      status := subStatus, billingDay := some 1, nextInvoiceDate := none, syncStatus := .synced
      syncNotes := "", syncRetryCount := 0, activatedAt := some 0, terminatedAt := none, notes := ""
      deletedAt := none }
  customers := Table.empty.insert
    { id := 0, fullName := "Budi", phone := "", address := "", deletedAt := none }
  pppProfiles := Table.empty.insert 
    { id := 0, deviceID := 1, name := "paket-10M", priceMonthly := 150000, deletedAt := none }
  hotspotProfiles := .empty
  settings := []
  registrations := .empty
  sequences := []
  auditLogs := []
  outgoing := []
  gatewayInvoices := []
  connected := [1]
  routers := fun _ ↦ .blank

/-- The settings under which `InitiatePayment` works and the webhook is open. -/
def World.withGateway (w : World) : World :=
  { w with settings :=
      [("payment.xendit_enabled", "true"), ("payment.xendit_secret_key", "xnd_development")] }

/-- What the outside world contributes to one call: the error it fails with, if
it fails, the time, the gateway's doing, whether the server is shutting down,
what the random generator yields, and the order of unordered results. -/
structure Env where
  fault : Option Error
  now : Time
  gateway : GatewayOutcome
  stopping : Bool
  random : String
  invoiceOrder : Arrangement Invoice
  subscriptionOrder : Arrangement Subscription
  keyOrder : Arrangement ℕ

/-- Nothing fails and queries answer in key order. -/
def Env.calm (now : Time) : Env where
  fault := none
  now
  gateway := ⟨none, .error (.new "no gateway")⟩
  stopping := false
  random := ""
  invoiceOrder := .keep _
  subscriptionOrder := .keep _
  keyOrder := .keep _

/-- The call fails. -/
def Env.broken (now : Time) : Env :=
  { Env.calm now with fault := some (.new "connection refused") }

/-- Nothing fails, and the gateway answers every request with an invoice `ref`. -/
def Env.answering (ref : String) (now : Time) : Env :=
  { Env.calm now with
    gateway := ⟨some ref, .ok
      { externalRef := ref, invoiceURL := "https://checkout.xendit.co/" ++ ref
        expiresAt := now + day, rawResponse := "" }⟩ }

/-- The calls the code makes on its surroundings. -/
inductive Call
  | now
  | payments (c : PaymentCall)
  | invoices (c : InvoiceCall)
  | subscriptions (c : SubscriptionCall)
  | registrations (c : RegistrationCall)
  | customers (id : ℕ)
  | customerByPhone (phone : String)
  | createCustomer (cust : Customer)
  | pppProfiles (id : ℕ)
  | hotspotProfiles (id : ℕ)
  | settings (key : String)
  | nextVal (counter : String × ℤ × ℤ)
  | newPaymentCode
  | portalPassword (customerID : ℕ)
  | audit (entry : AuditLog)
  | notify (n : Notification)
  | xendit (req : CreateInvoiceRequest)
  | device (id : ℕ)
  | router (deviceID : ℕ) (service : ServiceType) (c : RouterCall)
  | contextDone
  | rangeKeys (keys : List ℕ)

abbrev Call.Reply : Call → Type
  | .now => Time
  | .payments c => Except Error c.Result
  | .invoices c => Except Error c.Result
  | .subscriptions c => Except Error c.Result
  | .registrations c => Except Error c.Result
  | .customers _ | .customerByPhone _ | .createCustomer _ => Except Error Customer
  | .pppProfiles _ | .hotspotProfiles _ => Except Error Profile
  | .settings _ => Except Error String
  | .nextVal _ => Except Error ℤ
  | .newPaymentCode => String
  | .portalPassword _ => Except Error String
  | .audit _ => Except Error Unit
  | .notify _ => Unit
  | .xendit _ => Except Error CreateInvoiceResult
  | .device _ => Except Error Unit
  | .router _ _ c => Except Error c.Result
  | .contextDone => Bool
  | .rangeKeys _ => List ℕ

/-- A call that fails is answered with the error and leaves no trace. -/
def orFault {α : Type} (e : Env) (w : World) (r : Except Error α × World) :
    Except Error α × World :=
  match e.fault with
  | some err => (.error err, w)
  | none => r

def Call.exec : (c : Call) → Env → World → c.Reply × World
  | .now, e, w => (e.now, w)
  | .payments c, e, w =>
    let r := c.exec w.payments
    orFault e w (r.1, { w with payments := r.2 })
  | .invoices c, e, w =>
    let r := c.exec e.now e.invoiceOrder w.invoices
    orFault e w (r.1, { w with invoices := r.2 })
  | .subscriptions c, e, w =>
    let r := c.exec e.now e.subscriptionOrder w.subscriptions
    orFault e w (r.1, { w with subscriptions := r.2 })
  | .registrations c, e, w =>
    let r := c.exec w.registrations
    orFault e w (r.1, { w with registrations := r.2 })
  | .customers id, e, w =>
    orFault e w (found .customerNotFound
      (w.customers.find fun r ↦ r.deletedAt = none && r.id == id), w)
  | .customerByPhone phone, e, w =>
    orFault e w (found .customerNotFound
      (w.customers.find fun r ↦ r.deletedAt = none && r.phone = phone), w)
  | .createCustomer cust, e, w =>
    let r := Store.createCustomer cust w.customers
    orFault e w (r.1, { w with customers := r.2 })
  | .pppProfiles id, e, w =>
    orFault e w (found .pppProfileNotFound
      (w.pppProfiles.find fun r ↦ r.deletedAt = none && r.id == id), w)
  | .hotspotProfiles id, e, w =>
    orFault e w (found .hotspotProfileNotFound
      (w.hotspotProfiles.find fun r ↦ r.deletedAt = none && r.id == id), w)
  | .settings key, e, w => orFault e w (found .settingNotFound (w.settings.lookup key), w)
  | .nextVal counter, e, w =>
    let r := w.sequences.nextVal counter
    orFault e w (.ok r.1, { w with sequences := r.2 })
  | .newPaymentCode, e, w => (e.random, w)
  | .portalPassword customerID, e, w =>
    orFault e w ((found .customerNotFound
      (w.customers.find fun r ↦ r.deletedAt = none && r.id == customerID)).map fun _ ↦ e.random, w)
  | .audit entry, e, w => orFault e w (.ok (), { w with auditLogs := w.auditLogs ++ [entry] })
  | .notify n, _, w => ((), { w with outgoing := w.outgoing ++ [n] })
  | .xendit _, e, w =>
    (e.gateway.reply, { w with gatewayInvoices := w.gatewayInvoices ++ e.gateway.created.toList })
  | .device id, _, w =>
    (if id ∈ w.connected then .ok () else .error (.of .deviceNotConnected), w)
  | .router deviceID service c, e, w =>
    let r := c.exec service (w.routers deviceID)
    orFault e w (r.1, { w with routers := Function.update w.routers deviceID r.2 })
  | .contextDone, e, w => (e.stopping, w)
  | .rangeKeys keys, e, w => (e.keyOrder.order keys, w)

/-- A piece of the code: Go statements between two calls run at once. -/
abbrev Prog (α : Type) := Program Call Call.Reply α

abbrev perform (c : Call) : Prog c.Reply := Program.perform c

end Rosmon
