import Rosmon.Library.Table
import Rosmon.Store.Errors

namespace Rosmon.Store

open Library

/-- Nanoseconds since the Unix epoch. -/
abbrev Time := ℤ

def Time.unixMilli (t : Time) : ℤ := t / 1000000

/-- The length of a day. -/
def day : ℤ := 24 * 3600 * 1000000000

/-- `t.Truncate(24 * time.Hour)`: the UTC midnight before `t`. -/
def Time.truncateDay (t : Time) : Time := t - t % day

inductive PaymentStatus
  | pending
  | confirmed
  | rejected
  deriving DecidableEq

def PaymentStatus.text : PaymentStatus → String
  | .pending => "pending"
  | .confirmed => "confirmed"
  | .rejected => "rejected"

structure Payment where
  id : ℕ
  invoiceID : ℕ
  customerID : ℕ
  amount : ℤ
  method : String
  referenceNumber : String
  proofURL : String
  bankName : String
  status : PaymentStatus
  confirmedBy : Option ℕ
  confirmedAt : Option Time
  rejectionReason : String
  idempotencyKey : String
  gatewayName : String
  externalRef : String
  gatewayResponse : String
  invoiceURL : String
  expiresAt : Option Time
  deriving DecidableEq

inductive InvoiceStatus
  | draft
  | issued
  | paid
  | overdue
  | cancelled
  deriving DecidableEq

def InvoiceStatus.text : InvoiceStatus → String
  | .draft => "draft"
  | .issued => "issued"
  | .paid => "paid"
  | .overdue => "overdue"
  | .cancelled => "cancelled"

structure Invoice where
  id : ℕ
  invoiceNumber : String
  customerID : ℕ
  subscriptionID : ℕ
  amount : ℤ
  periodStart : Time
  periodEnd : Time
  dueDate : Time
  status : InvoiceStatus
  paymentCode : String
  issuedAt : Option Time
  paidAt : Option Time
  notes : String
  deriving DecidableEq

inductive ServiceType
  | pppoe
  | hotspot
  deriving DecidableEq

def ServiceType.text : ServiceType → String
  | .pppoe => "pppoe"
  | .hotspot => "hotspot"

inductive SubscriptionStatus
  | pendingInstall
  | active
  | isolir
  | suspended
  | terminated
  deriving DecidableEq

def SubscriptionStatus.text : SubscriptionStatus → String
  | .pendingInstall => "pending_install"
  | .active => "active"
  | .isolir => "isolir"
  | .suspended => "suspended"
  | .terminated => "terminated"

/-- The outbox flag of a subscription. -/
inductive SyncStatus
  | synced
  | pendingCreate
  | pendingProfileChange
  | pendingDisable
  | pendingEnable
  | pendingDelete
  | error
  deriving DecidableEq

structure Subscription where
  id : ℕ
  customerID : ℕ
  deviceID : ℕ
  pppProfileID : Option ℕ
  hotspotProfileID : Option ℕ
  serviceType : ServiceType
  mikrotikUsername : String
  mikrotikPassword : String
  status : SubscriptionStatus
  billingDay : Option ℤ
  nextInvoiceDate : Option Time
  syncStatus : SyncStatus
  syncNotes : String
  syncRetryCount : ℤ
  activatedAt : Option Time
  terminatedAt : Option Time
  notes : String
  deletedAt : Option Time
  deriving DecidableEq

structure Customer where
  id : ℕ
  fullName : String
  phone : String
  address : String
  area : String := ""
  notes : String := ""
  status : String := "aktif"
  createdBy : Option ℕ := none
  deletedAt : Option Time
  deriving DecidableEq

/-- What the server reads of a PPP or hotspot profile row. -/
structure Profile where
  id : ℕ
  deviceID : ℕ
  name : String
  priceMonthly : ℤ
  deletedAt : Option Time
  deriving DecidableEq

inductive RegistrationStatus
  | pending
  | approved
  | rejected
  | cancelled
  | completed
  deriving DecidableEq

def RegistrationStatus.text : RegistrationStatus → String
  | .pending => "pending"
  | .approved => "approved"
  | .rejected => "rejected"
  | .cancelled => "cancelled"
  | .completed => "completed"

/-- What the handlers read and write of a `CustomerRegistration`. -/
structure Registration where
  id : ℕ
  fullName : String := ""
  phone : String := ""
  address : String := ""
  area : String := ""
  notes : String := ""
  status : RegistrationStatus
  rejectionReason : String := ""
  reviewedBy : Option ℕ := none
  reviewedAt : Option Time := none
  scheduledAt : Option Time := none
  assignedTo : Option ℕ := none
  installedAt : Option Time
  customerID : Option ℕ
  deriving DecidableEq

structure AuditLog where
  userID : Option ℕ
  action : String
  entityType : String
  entityID : ℕ
  deriving DecidableEq

instance : Row Payment := ⟨Payment.id, fun n r ↦ { r with id := n }, fun _ _ ↦ rfl⟩
instance : Row Invoice := ⟨Invoice.id, fun n r ↦ { r with id := n }, fun _ _ ↦ rfl⟩
instance : Row Subscription := ⟨Subscription.id, fun n r ↦ { r with id := n }, fun _ _ ↦ rfl⟩
instance : Row Customer := ⟨Customer.id, fun n r ↦ { r with id := n }, fun _ _ ↦ rfl⟩
instance : Row Profile := ⟨Profile.id, fun n r ↦ { r with id := n }, fun _ _ ↦ rfl⟩
instance : Row Registration := ⟨Registration.id, fun n r ↦ { r with id := n }, fun _ _ ↦ rfl⟩

theorem Payment.get_iff {t : Table Payment} {n : ℕ} {p : Payment} :
    t.get n = some p ↔ p ∈ t ∧ p.id = n := Table.get_eq_some

theorem Payment.find_of_mem {t : Table Payment} {p : Payment} (hp : p ∈ t) :
    t.find (·.id == p.id) = some p := Payment.get_iff.mpr ⟨hp, rfl⟩

theorem Invoice.get_iff {t : Table Invoice} {n : ℕ} {inv : Invoice} :
    t.get n = some inv ↔ inv ∈ t ∧ inv.id = n := Table.get_eq_some

end Rosmon.Store
