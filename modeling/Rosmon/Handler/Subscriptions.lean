import Rosmon.Handler.Handlers
import Rosmon.Job.Outbox

namespace Rosmon.Handler

open Library Store Mikrotik Service Job

/-- The body of an answer to a write. The row is the one the handler holds, which it
does not read again. -/
structure SubscriptionWriteResponse where
  subscription : Subscription
  warning : String
  deriving DecidableEq

structure SubscriptionCreateRequest where
  customerID : ℕ
  deviceID : ℕ
  pppProfileID : Option ℕ
  hotspotProfileID : Option ℕ
  serviceType : ServiceType
  mikrotikUsername : String
  mikrotikPassword : String
  billingDay : Option ℤ
  notes : String
  deriving DecidableEq

/-- A field of type `*uint` with `binding:"omitempty,gt=0"`. -/
def validID (id : Option ℕ) : Bool := id.all (0 < ·)

/-- A field of type `*int` with `binding:"omitempty,gte=1,lte=28"`. -/
def validBillingDay (d : Option ℤ) : Bool := d.all fun d ↦ 1 ≤ d && d ≤ 28

def SubscriptionCreateRequest.valid (req : SubscriptionCreateRequest) : Bool :=
  0 < req.customerID && 0 < req.deviceID && validID req.pppProfileID &&
    validID req.hotspotProfileID && 1 ≤ req.mikrotikUsername.length &&
    req.mikrotikUsername.length ≤ 100 && 1 ≤ req.mikrotikPassword.length &&
    req.mikrotikPassword.length ≤ 200 && validBillingDay req.billingDay && req.notes.length ≤ 2000

/-- An absent field leaves its column alone. -/
structure SubscriptionUpdateRequest where
  pppProfileID : Option ℕ
  hotspotProfileID : Option ℕ
  mikrotikPassword : Option String
  billingDay : Option ℤ
  notes : Option String
  deriving DecidableEq

def SubscriptionUpdateRequest.valid (req : SubscriptionUpdateRequest) : Bool :=
  validID req.pppProfileID && validID req.hotspotProfileID &&
    req.mikrotikPassword.all (fun p ↦ 1 ≤ p.length && p.length ≤ 200) &&
    validBillingDay req.billingDay && req.notes.all (·.length ≤ 2000)

/-- The profile on the router and its `disabled` flag, as a status demands them. -/
def profileForStatus (status : SubscriptionStatus) (normalProfile isolirProfile : String) :
    String × Bool :=
  match status with
  | .active => (normalProfile, false)
  | .isolir => (isolirProfile, false)
  | .suspended => (normalProfile, true)
  | .pendingInstall | .terminated => (normalProfile, true)

/-- The two lookups are those of the outbox. -/
def resolveProfileForSub (sub : Subscription) (status : SubscriptionStatus) :
    Prog (String × Bool) := do
  let normalProfile ← normalProfile sub
  let isolirProfile ← isolirProfile
  return profileForStatus status normalProfile isolirProfile

/-- The profile of a new subscription, which must be one of its device. -/
def resolveProfileNameForCreate (req : SubscriptionCreateRequest) :
    Prog (Except Error String) :=
  let checked (kind : String) (missing : Sentinel) (r : Except Error Profile) :
      Except Error String := match r with
    | .error err => .error (if err.is missing then .new (kind ++ " profile not found") else err)
    | .ok p =>
      if p.deviceID ≠ req.deviceID then .error (.new (kind ++ " profile belongs to a different device"))
      else .ok p.name
  match req.serviceType with
  | .pppoe => match req.pppProfileID with
    | none => return .error (.new "ppp_profile_id required for pppoe subscription")
    | some id => do return checked "ppp" .pppProfileNotFound (← perform (.pppProfiles id))
  | .hotspot => match req.hotspotProfileID with
    | none => return .error (.new "hotspot_profile_id required for hotspot subscription")
    | some id => do
      return checked "hotspot" .hotspotProfileNotFound (← perform (.hotspotProfiles id))

/-- The warning a failed command leads to; an empty text is none. -/
def mapSubErr {α : Type} (r : Except Error α) (sub : Subscription) : String :=
  match r with
  | .ok _ => ""
  | .error err => sub.serviceType.text ++ "/" ++ sub.mikrotikUsername ++ ": " ++ err.text

/-- `SecretAdd` or `UserAdd`, as `tryProvisionOnRouter` and `ensureRouterState` call it. -/
def addRecord (sub : Subscription) (profileName : String) (disabled : Bool) : Prog String := do
  let scope := match sub.serviceType with
    | .pppoe => "pppoe"
    | .hotspot => "all"
  return mapSubErr (← onRouter sub (.add
    { name := sub.mikrotikUsername, password := sub.mikrotikPassword, scope
      profile := profileName, disabled })) sub

/-- `SecretByName` or `UserByName`, and what follows it. -/
def lookup (sub : Subscription) (absent : Prog String) (present : Record → Prog String) :
    Prog String := do
  match ← onRouter sub (.byName sub.mikrotikUsername) with
  | .error err => if err.is .mikrotikNotFound then absent else return mapSubErr (.error err : Except Error Unit) sub
  | .ok row => present row

/-- What is done if `lookupClientForSub` finds the device, or the warning. -/
def whileOnline (sub : Subscription) (offline : String) (p : Prog String) : Prog String := do
  match ← perform (.device sub.deviceID) with
  | .error _ => return offline
  | .ok () => p

def tryProvisionOnRouter (sub : Subscription) (profileName : String) (disabled : Bool) :
    Prog String :=
  whileOnline sub "device offline — subscription saved locally only"
    (addRecord sub profileName disabled)

/-- An empty `newProfileName` is not sent, and the flag never is. -/
def trySetOnRouter (sub : Subscription) (newProfileName : String) : Prog String :=
  whileOnline sub "device offline — subscription saved locally only"
    (lookup sub
      (do
        let (_, disabled) ← resolveProfileForSub sub sub.status
        tryProvisionOnRouter sub newProfileName disabled)
      (fun row ↦ do
        return mapSubErr
          (← onRouter sub (.set row.id sub.mikrotikPassword newProfileName none)) sub))

def tryRemoveOnRouter (sub : Subscription) : Prog String :=
  whileOnline sub "device offline — subscription removed from DB only"
    (lookup sub (return "") fun row ↦ do return mapSubErr (← onRouter sub (.remove row.id)) sub)

def ensureRouterState (sub : Subscription) (profileName : String) (disabled : Bool) :
    Prog String :=
  lookup sub (addRecord sub profileName disabled) fun row ↦ do
    return mapSubErr
      (← onRouter sub (.set row.id sub.mikrotikPassword profileName (some disabled))) sub

def notOnRouter : ServiceType → String
  | .pppoe => "secret not found on router — reconcile required"
  | .hotspot => "user not found on router — reconcile required"

def trySyncStatus (sub : Subscription) (targetProfile : String) (disabled : Bool) : Prog String :=
  if sub.status = .terminated then tryRemoveOnRouter sub
  else whileOnline sub "device offline — status updated locally only"
    (if sub.status = .active then ensureRouterState sub targetProfile disabled
    else lookup sub (return notOnRouter sub.serviceType) fun row ↦ do
      match ← onRouter sub (.set row.id "" targetProfile none) with
      | .error err => return mapSubErr (.error err : Except Error Unit) sub
      | .ok () => return mapSubErr (← onRouter sub (.setDisabled row.id disabled)) sub)

/-- The row `Create` inserts. -/
def newSubscription (req : SubscriptionCreateRequest) : Subscription where
  id := 0
  customerID := req.customerID
  deviceID := req.deviceID
  pppProfileID := req.pppProfileID
  hotspotProfileID := req.hotspotProfileID
  serviceType := req.serviceType
  mikrotikUsername := req.mikrotikUsername
  mikrotikPassword := req.mikrotikPassword
  status := .pendingInstall
  billingDay := req.billingDay
  nextInvoiceDate := none
  syncStatus := .pendingCreate
  syncNotes := ""
  syncRetryCount := 0
  activatedAt := none
  terminatedAt := none
  notes := req.notes
  deletedAt := none

/-- `Subscriptions.Create`. Only a command that succeeds makes the row active and synced. -/
def createSubscription (req : SubscriptionCreateRequest) (actor : Option ℕ) :
    Prog (Response SubscriptionWriteResponse) := do
  if ¬req.valid then return .failure 400 "VALIDATION" "request validation failed"
  match ← perform (.customers req.customerID) with
  | .error err =>
    return if err.is .customerNotFound then .failure 400 "INVALID_ARGUMENT" "customer not found"
      else writeErr err
  | .ok _ =>
    match ← resolveProfileNameForCreate req with
    | .error err => return .failure 400 "INVALID_ARGUMENT" err.text
    | .ok profileName =>
      match ← perform (.subscriptions (.create (newSubscription req))) with
      | .error err =>
        return if err.is .subscriptionUsernameTaken then
            .failure 409 "CONFLICT" "mikrotik_username already used on this device"
          else writeErr err
      | .ok sub =>
        let warning ← tryProvisionOnRouter sub profileName false
        let mut sub := sub
        if warning = "" then
          let now ← perform .now
          match ← perform (.subscriptions (.updateStatus sub.id .active (some now) none)) with
          | .error _ => pure ()
          | .ok () => sub := { sub with status := .active, activatedAt := some now }
          let _ ← perform (.subscriptions (.updateSyncStatus sub.id .synced ""))
        audit actor "subscription_created" "subscription" sub.id
        return .success 201 ⟨sub, warning⟩

/-- `Get` and its 404. -/
def withSubscription {α : Type} (id : ℕ) (p : Subscription → Prog (Response α)) :
    Prog (Response α) := do
  match ← perform (.subscriptions (.get id)) with
  | .error err =>
    return if err.is .subscriptionNotFound then .failure 404 "NOT_FOUND" "subscription not found"
      else writeErr err
  | .ok sub => p sub

/-- A profile that the request changes must exist and belong to the device. The name
is empty if nothing changes. -/
def changedProfile (current requested : Option ℕ) (deviceID : ℕ) (kind : String)
    (missing : Sentinel) (get : ℕ → Prog (Except Error Profile)) :
    Prog (Except (Response SubscriptionWriteResponse) (Option (ℕ × String))) :=
  match requested with
  | none => return .ok none
  | some id => do
    if current = some id then return .ok none
    match ← get id with
    | .error err =>
      return .error (if err.is missing then
          .failure 400 "INVALID_ARGUMENT" (kind ++ " profile not found")
        else writeErr err)
    | .ok p =>
      if p.deviceID ≠ deviceID then
        return .error
          (.failure 400 "INVALID_ARGUMENT" (kind ++ " profile belongs to a different device"))
      return .ok (some (id, p.name))

/-- The row after the fields of the request have been copied into it. -/
def SubscriptionUpdateRequest.apply (req : SubscriptionUpdateRequest)
    (ppp hotspot : Option (ℕ × String)) (sub : Subscription) : Subscription :=
  { sub with
    pppProfileID := (ppp.map (·.1)) <|> sub.pppProfileID
    hotspotProfileID := (hotspot.map (·.1)) <|> sub.hotspotProfileID
    mikrotikPassword := req.mikrotikPassword.getD sub.mikrotikPassword
    billingDay := req.billingDay <|> sub.billingDay
    notes := req.notes.getD sub.notes }

/-- The name of the last profile that has changed. -/
def newProfileName (ppp hotspot : Option (ℕ × String)) : String :=
  ((hotspot <|> ppp).map (·.2)).getD ""

/-- `Subscriptions.Update`. -/
def updateSubscription (id : ℕ) (req : SubscriptionUpdateRequest) :
    Prog (Response SubscriptionWriteResponse) := do
  if ¬req.valid then return .failure 400 "VALIDATION" "request validation failed"
  withSubscription id fun sub ↦ do
    match ← changedProfile sub.pppProfileID req.pppProfileID sub.deviceID "ppp"
        .pppProfileNotFound (fun id ↦ perform (.pppProfiles id)) with
    | .error answer => return answer
    | .ok ppp =>
      match ← changedProfile sub.hotspotProfileID req.hotspotProfileID sub.deviceID "hotspot"
          .hotspotProfileNotFound (fun id ↦ perform (.hotspotProfiles id)) with
      | .error answer => return answer
      | .ok hotspot =>
        let sub := req.apply ppp hotspot sub
        match ← perform (.subscriptions (.update sub)) with
        | .error err => return writeErr err
        | .ok () =>
          let warning ← trySetOnRouter sub (newProfileName ppp hotspot)
          return .success 200 ⟨sub, warning⟩

/-- `Subscriptions.Delete`; nothing is answered unless there is a warning. -/
def deleteSubscription (id : ℕ) (actor : Option ℕ) :
    Prog (Response (Option SubscriptionWriteResponse)) :=
  withSubscription id fun sub ↦ do
    match ← perform (.subscriptions (.delete id)) with
    | .error err => return writeErr err
    | .ok () =>
      audit actor "subscription_deleted" "subscription" id
      let warning ← tryRemoveOnRouter sub
      return if warning ≠ "" then .success 200 (some ⟨sub, warning⟩) else .success 204 none

/-- `Subscriptions.PatchStatus`. -/
def patchStatus (id : ℕ) (status : SubscriptionStatus) (actor : Option ℕ) :
    Prog (Response SubscriptionWriteResponse) :=
  withSubscription id fun sub ↦ do
    let now ← perform .now
    let activatedAt := if status = .active ∧ sub.activatedAt = none then some now else none
    let terminatedAt := if status = .terminated then some now else none
    match ← perform (.subscriptions (.updateStatus id status activatedAt terminatedAt)) with
    | .error err => return writeErr err
    | .ok () =>
      let sub := { sub with
        status
        activatedAt := activatedAt <|> sub.activatedAt
        terminatedAt := terminatedAt <|> sub.terminatedAt }
      let (targetProfile, disabled) ← resolveProfileForSub sub status
      let warning ← trySyncStatus sub targetProfile disabled
      audit actor "subscription_status_changed" "subscription" id
      return .success 200 ⟨sub, warning⟩

end Rosmon.Handler
