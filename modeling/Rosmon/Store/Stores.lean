import Mathlib.Data.List.Perm.Basic
import Rosmon.Store.Model

namespace Rosmon.Store

open Library

/-- An order in which a query without `ORDER BY` returns its rows, or a `range`
loop visits the keys of a map. -/
structure Arrangement (ρ : Type) where
  order : List ρ → List ρ
  perm : ∀ l, (order l).Perm l

def Arrangement.keep (ρ : Type) : Arrangement ρ := ⟨fun l ↦ l, List.Perm.refl⟩

theorem Arrangement.mem_order {ρ : Type} (a : Arrangement ρ) {l : List ρ} {r : ρ} :
    r ∈ a.order l ↔ r ∈ l := (a.perm l).mem_iff

/-- A read by primary key. -/
def found {ρ : Type} (s : Sentinel) : Option ρ → Except Error ρ
  | some r => .ok r
  | none => .error (.of s)

@[simp] theorem found_some {ρ : Type} (s : Sentinel) (r : ρ) : found s (some r) = .ok r := rfl

@[simp] theorem found_none {ρ : Type} (s : Sentinel) :
    found s (none : Option ρ) = .error (.of s) := rfl

/-- An `UPDATE ... WHERE`, which reports when it has met no row. -/
def updated {ρ : Type} [Row ρ] (s : Sentinel) (t : Table ρ) (p : ρ → Bool) (f : ρ → ρ)
    [KeepsKey f] : Except Error Unit × Table ρ :=
  (if (t.find p).isSome then .ok () else .error (.of s), t.update p f)

section Payments

/-- The columns `InitiatePayment` saves once the gateway has answered. -/
structure GatewayInfo where
  externalRef : String
  gatewayResponse : String
  invoiceURL : String
  expiresAt : Time
  deriving DecidableEq

inductive PaymentCall
  | create (p : Payment)
  | getByID (id : ℕ)
  | getByExternalRef (gatewayName externalRef : String)
  | updateStatus (id : ℕ) (status : PaymentStatus) (confirmedBy : Option ℕ)
      (confirmedAt : Option Time) (rejectionReason : String)
  | updateGatewayInfo (id : ℕ) (info : GatewayInfo)

abbrev PaymentCall.Result : PaymentCall → Type
  | .create _ | .getByID _ | .getByExternalRef _ _ => Payment
  | .updateStatus .. | .updateGatewayInfo .. => Unit

def Payment.named (gatewayName externalRef : String) (p : Payment) : Bool :=
  p.gatewayName = gatewayName && p.externalRef = externalRef

/-- The columns `UpdateStatus` writes; a nil pointer leaves its column alone. -/
def Payment.setStatus (status : PaymentStatus) (confirmedBy : Option ℕ)
    (confirmedAt : Option Time) (rejectionReason : String) (p : Payment) : Payment :=
  { p with
    status
    rejectionReason
    confirmedBy := confirmedBy <|> p.confirmedBy
    confirmedAt := confirmedAt <|> p.confirmedAt }

def Payment.setGatewayInfo (info : GatewayInfo) (p : Payment) : Payment :=
  { p with
    externalRef := info.externalRef
    gatewayResponse := info.gatewayResponse
    invoiceURL := info.invoiceURL
    expiresAt := some info.expiresAt }

instance (status : PaymentStatus) (confirmedBy : Option ℕ) (confirmedAt : Option Time)
    (rejectionReason : String) :
    KeepsKey (Payment.setStatus status confirmedBy confirmedAt rejectionReason) :=
  ⟨fun _ ↦ rfl⟩

instance (info : GatewayInfo) : KeepsKey (Payment.setGatewayInfo info) := ⟨fun _ ↦ rfl⟩

def PaymentCall.exec : (c : PaymentCall) → Table Payment → Except Error c.Result × Table Payment
  | .create p, t =>
    if (t.find fun q ↦ q.idempotencyKey = p.idempotencyKey).isSome then
      (.error (.duplicateKey "idx_payments_idempotency_key"), t)
    else (.ok { p with id := t.next }, t.insert p)
  | .getByID id, t => (found .paymentNotFound (t.get id), t)
  | .getByExternalRef gatewayName externalRef, t =>
    (found .paymentNotFound (t.find (Payment.named gatewayName externalRef)), t)
  | .updateStatus id status confirmedBy confirmedAt rejectionReason, t =>
    updated .paymentNotFound t (·.id == id)
      (Payment.setStatus status confirmedBy confirmedAt rejectionReason)
  | .updateGatewayInfo id info, t =>
    updated .paymentNotFound t (·.id == id) (Payment.setGatewayInfo info)

def PaymentCall.reads : PaymentCall → Bool
  | .getByID _ | .getByExternalRef .. => true
  | _ => false

theorem PaymentCall.exec_reads {c : PaymentCall} (hc : c.reads) (t : Table Payment) :
    (c.exec t).2 = t := by
  cases c with
  | getByID | getByExternalRef => rfl
  | create | updateStatus | updateGatewayInfo => cases hc

end Payments

section Invoices

inductive InvoiceCall
  | create (inv : Invoice)
  | getByID (id : ℕ)
  | getByPaymentCode (code : String)
  | updateStatus (id : ℕ) (status : InvoiceStatus) (paidAt : Option Time)
  | listDueForBilling (date : Time)
  | listOverdue (cutoff : Time)

abbrev InvoiceCall.Result : InvoiceCall → Type
  | .create _ | .getByID _ | .getByPaymentCode _ => Invoice
  | .updateStatus .. => Unit
  | .listDueForBilling _ | .listOverdue _ => List Invoice

def Invoice.setStatus (status : InvoiceStatus) (paidAt : Option Time) (now : Time)
    (inv : Invoice) : Invoice :=
  { inv with
    status
    paidAt := paidAt <|> inv.paidAt
    issuedAt := if status = .issued then some now else inv.issuedAt }

instance (status : InvoiceStatus) (paidAt : Option Time) (now : Time) :
    KeepsKey (Invoice.setStatus status paidAt now) := ⟨fun _ ↦ rfl⟩

def Invoice.overdueAt (cutoff : Time) (inv : Invoice) : Bool :=
  inv.dueDate < cutoff && (inv.status = .issued || inv.status = .overdue)

/-- The key of the unique index `idx_inv_sub_period`. -/
def Invoice.covers (subscriptionID : ℕ) (periodStart : Time) (inv : Invoice) : Bool :=
  inv.subscriptionID = subscriptionID && inv.periodStart = periodStart

def InvoiceCall.exec (now : Time) (arrange : Arrangement Invoice) :
    (c : InvoiceCall) → Table Invoice → Except Error c.Result × Table Invoice
  | .create inv, t =>
    if (t.find (Invoice.covers inv.subscriptionID inv.periodStart)).isSome then
      (.error (.duplicateKey "idx_inv_sub_period"), t)
    else (.ok { inv with id := t.next }, t.insert inv)
  | .getByID id, t => (found .invoiceNotFound (t.get id), t)
  | .getByPaymentCode code, t =>
    if code = "" then (.error (.of .invoiceNotFound), t)
    else (found .invoiceNotFound (t.find (·.paymentCode = code)), t)
  | .updateStatus id status paidAt, t =>
    updated .invoiceNotFound t (·.id == id) (Invoice.setStatus status paidAt now)
  | .listDueForBilling date, t =>
    (.ok (arrange.order (t.rows.filter fun inv ↦
      inv.dueDate.truncateDay = date.truncateDay && inv.status = .issued)), t)
  | .listOverdue cutoff, t => (.ok (arrange.order (t.rows.filter (Invoice.overdueAt cutoff))), t)

def InvoiceCall.reads : InvoiceCall → Bool
  | .create _ | .updateStatus .. => false
  | _ => true

theorem InvoiceCall.exec_reads {c : InvoiceCall} (hc : c.reads) (now : Time)
    (arrange : Arrangement Invoice) (t : Table Invoice) : (c.exec now arrange t).2 = t := by
  cases c with
  | getByID | listDueForBilling | listOverdue => rfl
  | getByPaymentCode code => rw [InvoiceCall.exec]; split <;> rfl
  | create | updateStatus => cases hc

end Invoices

section Subscriptions

inductive SubscriptionCall
  | list
  | listByStatus (status : SubscriptionStatus)
  | get (id : ℕ)
  | create (sub : Subscription)
  | update (sub : Subscription)
  | updateStatus (id : ℕ) (status : SubscriptionStatus) (activatedAt terminatedAt : Option Time)
  | updateSyncStatus (id : ℕ) (syncStatus : SyncStatus) (syncNotes : String)
  | incrSyncRetry (id : ℕ) (notes : String)
  | listPendingSync (limit : ℕ)
  | updateNextInvoiceDate (id : ℕ) (next : Time)
  | delete (id : ℕ)

abbrev SubscriptionCall.Result : SubscriptionCall → Type
  | .list | .listByStatus _ | .listPendingSync _ => List Subscription
  | .get _ | .create _ => Subscription
  | .update _ | .updateStatus .. | .updateSyncStatus .. | .updateNextInvoiceDate .. | .delete _ =>
    Unit
  | .incrSyncRetry .. => ℤ

/-- Soft-deleted rows are invisible to every query. -/
def Subscription.live (s : Subscription) : Bool := s.deletedAt = none

def Subscription.liveAt (id : ℕ) (s : Subscription) : Bool := s.live && s.id == id

def Subscription.setStatus (status : SubscriptionStatus) (activatedAt terminatedAt : Option Time)
    (now : Time) (s : Subscription) : Subscription :=
  { s with
    status
    activatedAt := activatedAt <|> s.activatedAt
    terminatedAt := terminatedAt <|> s.terminatedAt
    nextInvoiceDate :=
      if status = .active then s.nextInvoiceDate <|> some now.truncateDay else s.nextInvoiceDate }

/-- Reaching `synced` also clears the retry counter. -/
def Subscription.setSyncStatus (syncStatus : SyncStatus) (syncNotes : String)
    (s : Subscription) : Subscription :=
  { s with
    syncStatus
    syncNotes
    syncRetryCount := if syncStatus = .synced then 0 else s.syncRetryCount }

def Subscription.bumpRetry (notes : String) (s : Subscription) : Subscription :=
  { s with syncRetryCount := s.syncRetryCount + 1, syncNotes := notes }

instance (status : SubscriptionStatus) (activatedAt terminatedAt : Option Time) (now : Time) :
    KeepsKey (Subscription.setStatus status activatedAt terminatedAt now) := ⟨fun _ ↦ rfl⟩

instance (syncStatus : SyncStatus) (syncNotes : String) :
    KeepsKey (Subscription.setSyncStatus syncStatus syncNotes) := ⟨fun _ ↦ rfl⟩

instance (notes : String) : KeepsKey (Subscription.bumpRetry notes) := ⟨fun _ ↦ rfl⟩

def Subscription.setNextInvoiceDate (next : Time) (s : Subscription) : Subscription :=
  { s with nextInvoiceDate := some next }

instance (next : Time) : KeepsKey (Subscription.setNextInvoiceDate next) := ⟨fun _ ↦ rfl⟩

def Subscription.softDelete (now : Time) (s : Subscription) : Subscription :=
  { s with deletedAt := some now }

instance (now : Time) : KeepsKey (Subscription.softDelete now) := ⟨fun _ ↦ rfl⟩

/-- The key of the unique index `idx_sub_dev_type_user`, which covers live rows. -/
def Subscription.sameLogin (a b : Subscription) : Bool :=
  a.deviceID = b.deviceID && a.serviceType = b.serviceType &&
    a.mikrotikUsername = b.mikrotikUsername

/-- What `Save` makes of the row under its key: every column is written. -/
def Subscription.replace (sub r : Subscription) : Subscription := { sub with id := r.id }

instance (sub : Subscription) : KeepsKey (Subscription.replace sub) := ⟨fun _ ↦ rfl⟩

/-- `Save` of a live row under a key of the table. The error is that of the index. -/
def saveSubscription (err : Error) (sub : Subscription) (t : Table Subscription) :
    Except Error Unit × Table Subscription :=
  if (t.find fun r ↦ r.live && r.sameLogin sub && r.id != sub.id).isSome then (.error err, t)
  else (.ok (), t.update (·.id == sub.id) (Subscription.replace sub))

def SyncStatus.pending : SyncStatus → Bool
  | .synced | .error => false
  | _ => true

def SubscriptionCall.exec (now : Time) (arrange : Arrangement Subscription) :
    (c : SubscriptionCall) → Table Subscription → Except Error c.Result × Table Subscription
  | .list, t => (.ok (arrange.order (t.rows.filter Subscription.live)), t)
  | .listByStatus status, t =>
    (.ok (arrange.order (t.rows.filter fun s ↦ s.live && s.status = status)), t)
  | .get id, t => (found .subscriptionNotFound (t.find (Subscription.liveAt id)), t)
  | .create sub, t =>
    match t.find (Subscription.sameLogin sub) with
    | some existing =>
      if existing.live then (.error (.of .subscriptionUsernameTaken), t)
      else
        -- The row of a deleted subscription is used again.
        let sub := { sub with id := existing.id, deletedAt := none }
        let r := saveSubscription (.duplicateKey "idx_sub_dev_type_user") sub t
        (r.1.map fun _ ↦ sub, r.2)
    | none => (.ok { sub with id := t.next }, t.insert sub)
  | .update sub, t => saveSubscription (.of .subscriptionUsernameTaken) sub t
  | .updateStatus id status activatedAt terminatedAt, t =>
    updated .subscriptionNotFound t (Subscription.liveAt id)
      (Subscription.setStatus status activatedAt terminatedAt now)
  | .updateSyncStatus id syncStatus syncNotes, t =>
    updated .subscriptionNotFound t (Subscription.liveAt id)
      (Subscription.setSyncStatus syncStatus syncNotes)
  | .incrSyncRetry id notes, t =>
    let t' := t.update (Subscription.liveAt id) (Subscription.bumpRetry notes)
    ((found .subscriptionNotFound (t'.find (Subscription.liveAt id))).map
      (·.syncRetryCount), t')
  | .listPendingSync limit, t =>
    (.ok ((arrange.order (t.rows.filter fun s ↦ s.live && s.syncStatus.pending)).take limit), t)
  | .updateNextInvoiceDate id next, t =>
    updated .subscriptionNotFound t (Subscription.liveAt id)
      (Subscription.setNextInvoiceDate next)
  | .delete id, t =>
    updated .subscriptionNotFound t (Subscription.liveAt id) (Subscription.softDelete now)

def SubscriptionCall.reads : SubscriptionCall → Bool
  | .list | .listByStatus _ | .get _ | .listPendingSync _ => true
  | _ => false

theorem SubscriptionCall.exec_reads {c : SubscriptionCall} (hc : c.reads) (now : Time)
    (arrange : Arrangement Subscription) (t : Table Subscription) :
    (c.exec now arrange t).2 = t := by
  cases c with
  | list | listByStatus | get | listPendingSync => rfl
  | create | update | updateStatus | updateSyncStatus | incrSyncRetry | updateNextInvoiceDate
  | delete => cases hc

end Subscriptions

section Customers

/-- `CustomerStore.Create`: the index on the phone covers live rows. -/
def createCustomer (cust : Customer) (t : Table Customer) :
    Except Error Customer × Table Customer :=
  if (t.find fun r ↦ r.deletedAt = none && r.phone = cust.phone).isSome then
    (.error (.of .customerPhoneTaken), t)
  else (.ok { cust with id := t.next }, t.insert cust)

end Customers

section Registrations

inductive RegistrationCall
  | get (id : ℕ)
  | update (reg : Registration)

abbrev RegistrationCall.Result : RegistrationCall → Type
  | .get _ => Registration
  | .update _ => Unit

def Registration.replace (reg r : Registration) : Registration := { reg with id := r.id }

instance (reg : Registration) : KeepsKey (Registration.replace reg) := ⟨fun _ ↦ rfl⟩

def RegistrationCall.exec :
    (c : RegistrationCall) → Table Registration → Except Error c.Result × Table Registration
  | .get id, t => (found .registrationNotFound (t.get id), t)
  | .update reg, t => (.ok (), t.update (·.id == reg.id) (Registration.replace reg))

end Registrations

section Sequences

/-- The counters behind document numbers, by prefix, year and month. -/
abbrev Sequences := List ((String × ℤ × ℤ) × ℤ)

/-- `NextVal`: the first value of a counter is 1. -/
def Sequences.nextVal (s : Sequences) (counter : String × ℤ × ℤ) : ℤ × Sequences :=
  match s.lookup counter with
  | none => (1, (counter, 1) :: s)
  | some lastValue =>
    (lastValue + 1, s.map fun c ↦ if c.1 = counter then (counter, lastValue + 1) else c)

end Sequences

end Rosmon.Store
