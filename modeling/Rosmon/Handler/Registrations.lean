import Rosmon.Handler.Subscriptions
import Rosmon.Service.Billing

namespace Rosmon.Handler

open Go Library Store Service

/-- The body of `Approve` is optional. -/
structure RegistrationApproveRequest where
  scheduledAt : Option Time
  deriving DecidableEq

structure RegistrationRejectRequest where
  reason : String
  deriving DecidableEq

def RegistrationRejectRequest.valid (req : RegistrationRejectRequest) : Bool :=
  1 ≤ req.reason.length && req.reason.length ≤ 2000

structure RegistrationAssignRequest where
  assignedTo : ℕ
  scheduledAt : Option Time
  deriving DecidableEq

def RegistrationAssignRequest.valid (req : RegistrationAssignRequest) : Bool := 0 < req.assignedTo

/-- `Get` and its 404. -/
def withRegistration {α : Type} (id : ℕ) (p : Registration → Prog (Response α)) :
    Prog (Response α) := do
  match ← perform (.registrations (.get id)) with
  | .error err =>
    return if err.is .registrationNotFound then .failure 404 "NOT_FOUND" "registration not found"
      else writeErr err
  | .ok reg => p reg

/-- The customer with the phone of the registration, or a new one. -/
def customerOf (reg : Registration) (actor : Option ℕ) : Prog (Except Error Customer) := do
  match ← perform (.customerByPhone reg.phone) with
  | .ok cust => return .ok cust
  | .error err =>
    if err.is .customerNotFound then
      perform (.createCustomer
        { id := 0, fullName := reg.fullName, phone := reg.phone, address := reg.address
          area := reg.area, notes := reg.notes, status := "aktif", createdBy := actor
          deletedAt := none })
    else return .error err

def notifyPhone (customerID : Option ℕ) (phone slug : String) (extra : List (String × String)) :
    Prog Unit := do
  if phone = "" then return ()
  let companyName ← settingStr "general.company_name" ""
  perform (.notify { customerID, phone, slug, vars := ("company_name", companyName) :: extra })

/-- The end of the handlers that review a registration: the row is saved as a whole. -/
def saveReview (reg : Registration) (action : String) (actor : Option ℕ) (notify : Prog Unit) :
    Prog (Response Registration) := do
  match ← perform (.registrations (.update reg)) with
  | .error err => return writeErr err
  | .ok () =>
    audit actor action "CustomerRegistration" reg.id
    notify
    return .success 200 reg

/-- `Registrations.Approve`. -/
def approve (id : ℕ) (req : RegistrationApproveRequest) (actor : Option ℕ) :
    Prog (Response Registration) :=
  withRegistration id fun reg ↦ do
    if reg.status ≠ .pending then return .failure 409 "CONFLICT" "registration is not pending"
    match ← customerOf reg actor with
    | .error err => return writeErr err
    | .ok cust =>
      let now ← perform .now
      let reg := { reg with
        status := .approved
        customerID := some cust.id
        reviewedAt := some now
        scheduledAt := req.scheduledAt <|> reg.scheduledAt
        reviewedBy := actor <|> reg.reviewedBy }
      let schedule := (reg.scheduledAt.map formatDateTime).getD "akan dijadwalkan"
      saveReview reg "approve_registration" actor
        (notifyPhone (some cust.id) cust.phone "registration_approved"
          [("customer_name", cust.fullName), ("schedule", schedule)])

/-- `Registrations.Reject`. -/
def rejectRegistration (id : ℕ) (req : RegistrationRejectRequest) (actor : Option ℕ) :
    Prog (Response Registration) := do
  if ¬req.valid then return .failure 400 "VALIDATION" "request validation failed"
  withRegistration id fun reg ↦ do
    if reg.status ≠ .pending then return .failure 409 "CONFLICT" "registration is not pending"
    let now ← perform .now
    let reg := { reg with
      status := .rejected
      rejectionReason := req.reason
      reviewedAt := some now
      reviewedBy := actor <|> reg.reviewedBy }
    saveReview reg "reject_registration" actor
      (notifyPhone none reg.phone "registration_rejected"
        [("customer_name", reg.fullName), ("reason", req.reason)])

/-- `Registrations.Cancel`. The reason is optional. -/
def cancelRegistration (id : ℕ) (reason : String) (actor : Option ℕ) :
    Prog (Response Registration) :=
  withRegistration id fun reg ↦ do
    if reg.status = .cancelled ∨ reg.status = .completed ∨ reg.status = .rejected then
      return .failure 409 "CONFLICT"
        ("registration cannot be cancelled (status: " ++ reg.status.text ++ ")")
    let now ← perform .now
    saveReview { reg with
      status := .cancelled
      rejectionReason := reason
      reviewedAt := some now
      reviewedBy := actor <|> reg.reviewedBy } "cancel_registration" actor (return ())

/-- `Registrations.Assign`, which looks at no status and logs nothing. -/
def assign (id : ℕ) (req : RegistrationAssignRequest) : Prog (Response Registration) := do
  if ¬req.valid then return .failure 400 "VALIDATION" "request validation failed"
  withRegistration id fun reg ↦ do
    let reg := { reg with
      assignedTo := some req.assignedTo
      scheduledAt := req.scheduledAt <|> reg.scheduledAt }
    match ← perform (.registrations (.update reg)) with
    | .error err => return writeErr err
    | .ok () => return .success 200 reg

structure RegistrationCompleteInstallRequest where
  deviceID : ℕ
  serviceType : ServiceType
  pppProfileID : Option ℕ
  hotspotProfileID : Option ℕ
  mikrotikUsername : String
  mikrotikPassword : String
  billingDay : Option ℤ
  deriving DecidableEq

def RegistrationCompleteInstallRequest.valid (req : RegistrationCompleteInstallRequest) : Bool :=
  0 < req.deviceID && validID req.pppProfileID && validID req.hotspotProfileID &&
    1 ≤ req.mikrotikUsername.length && req.mikrotikUsername.length ≤ 100 &&
    1 ≤ req.mikrotikPassword.length && req.mikrotikPassword.length ≤ 200 &&
    validBillingDay req.billingDay

structure CompleteInstallResponse where
  subscription : Subscription
  invoice : Option Invoice
  deriving DecidableEq

/-- The row `CompleteInstall` inserts. -/
def installedSubscription (req : RegistrationCompleteInstallRequest) (customerID : ℕ)
    (today now : Time) : Subscription where
  id := 0
  customerID
  deviceID := req.deviceID
  pppProfileID := req.pppProfileID
  hotspotProfileID := req.hotspotProfileID
  serviceType := req.serviceType
  mikrotikUsername := req.mikrotikUsername
  mikrotikPassword := req.mikrotikPassword
  status := .active
  billingDay := req.billingDay
  nextInvoiceDate := some today
  syncStatus := .pendingCreate
  syncNotes := ""
  syncRetryCount := 0
  activatedAt := some now
  terminatedAt := none
  notes := ""
  deletedAt := none

/-- The first invoice, and the date of the next one. Neither holds up the installation. -/
def firstInvoice (sub : Subscription) (today : Time) : Prog CompleteInstallResponse := do
  let dueDays ← settingInt "billing.invoice_due_days" 7
  match ← generateForSubscription sub today dueDays with
  | .error _ => return ⟨sub, none⟩
  | .ok inv =>
    let billingDay ← match sub.billingDay with
      | some billingDay => pure billingDay
      | none => settingInt "billing.default_billing_day" 1
    let advanced := { sub with nextInvoiceDate := some (nextInvoiceDate today billingDay) }
    let _ ← perform (.subscriptions (.update advanced))
    return ⟨sub, some inv⟩

/-- `notifyPhone` and what it is given about a customer. -/
def notifyInstalled (cust : Customer) (extra : List (String × String)) : Prog Unit := do
  if cust.phone = "" then return ()
  let companyName ← settingStr "general.company_name" ""
  perform (.notify
    { customerID := some cust.id
      phone := cust.phone
      slug := "installation_complete"
      vars := [("company_name", companyName), ("customer_name", cust.fullName)] ++ extra })

/-- The end of `CompleteInstall`: the new password for the portal, and a notification. -/
def welcome (customerID : ℕ) : Prog Unit := do
  match ← perform (.customers customerID) with
  | .error _ => return ()
  | .ok cust =>
    let portalURL ← settingStr "portal.url" ""
    let vars := [("address", cust.address), ("portal_url", portalURL),
      ("portal_username", cust.phone)]
    match ← perform (.portalPassword cust.id) with
    | .error _ => notifyInstalled cust vars
    | .ok plain => notifyInstalled cust (vars ++ [("portal_password", plain)])

/-- `Registrations.CompleteInstall`. -/
def completeInstall (id : ℕ) (req : RegistrationCompleteInstallRequest) (actor : Option ℕ) :
    Prog (Response CompleteInstallResponse) := do
  if ¬req.valid then return .failure 400 "VALIDATION" "request validation failed"
  if req.serviceType = .pppoe ∧ req.pppProfileID = none then
    return .failure 400 "INVALID_ARGUMENT" "ppp_profile_id required for pppoe"
  if req.serviceType = .hotspot ∧ req.hotspotProfileID = none then
    return .failure 400 "INVALID_ARGUMENT" "hotspot_profile_id required for hotspot"
  match ← perform (.registrations (.get id)) with
  | .error err =>
    return if err.is .registrationNotFound then .failure 404 "NOT_FOUND" "registration not found"
      else writeErr err
  | .ok reg =>
    match reg.status, reg.customerID with
    | .approved, some customerID =>
      let today := Time.truncateDay (← perform .now)
      let now ← perform .now
      match ← perform (.subscriptions (.create (installedSubscription req customerID today now))) with
      | .error err =>
        return if err.is .subscriptionUsernameTaken then
            .failure 409 "CONFLICT" "mikrotik_username already used on this device"
          else writeErr err
      | .ok sub =>
        let resp ← firstInvoice sub today
        let _ ← perform (.registrations (.update { reg with installedAt := some now }))
        audit actor "complete_install" "CustomerRegistration" reg.id
        welcome customerID
        return .success 201 resp
    | _, _ =>
      return .failure 409 "CONFLICT"
        "registration must be approved with a customer before install"

end Rosmon.Handler
