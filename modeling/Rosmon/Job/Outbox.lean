import Rosmon.Service.Payment

namespace Rosmon.Job

open Library Store Mikrotik Service

def outboxBatchSize : ℕ := 20

def outboxEscalationThreshold : ℤ := 5

def normalProfile (sub : Subscription) : Prog String :=
  let name (r : Except Error Profile) : String := match r with
    | .ok p => p.name
    | .error _ => ""
  match sub.serviceType, sub.pppProfileID, sub.hotspotProfileID with
  | .pppoe, some id, _ => do return name (← perform (.pppProfiles id))
  | .hotspot, _, some id => do return name (← perform (.hotspotProfiles id))
  | _, _, _ => return ""

def isolirProfile : Prog String := do
  match ← perform (.settings "billing.isolir_profile_name") with
  | .error _ => return "isolir"
  | .ok v => return if v ≠ "" then v else "isolir"

/-- A call on the secrets or on the users of the router, as the subscription has it. -/
def onRouter (sub : Subscription) (c : RouterCall) : Prog (Except Error c.Result) :=
  perform (.router sub.deviceID sub.serviceType c)

def doCreate (sub : Subscription) : Prog (Except Error Unit) := do
  let profile ← normalProfile sub
  let scope := match sub.serviceType with
    | .pppoe => "pppoe"
    | .hotspot => "all"
  match ← onRouter sub (.add
      { name := sub.mikrotikUsername, password := sub.mikrotikPassword, scope, profile
        disabled := false }) with
  | .error err => return .error err
  | .ok _ => return .ok ()

/-- Look the record up by the name of the subscription and change it. A record
that does not exist needs no change. -/
def withRecord (sub : Subscription) (change : Record → Prog (Except Error Unit)) :
    Prog (Except Error Unit) := do
  match ← onRouter sub (.byName sub.mikrotikUsername) with
  | .error err => return if err.is .mikrotikNotFound then .ok () else .error err
  | .ok row => change row

def doProfileChange (sub : Subscription) : Prog (Except Error Unit) := do
  let targetProfile ← if sub.status = .isolir then isolirProfile else normalProfile sub
  withRecord sub fun row ↦ onRouter sub (.setProfile row.id targetProfile)

def doDisable (sub : Subscription) (disabled : Bool) : Prog (Except Error Unit) :=
  withRecord sub fun row ↦ onRouter sub (.setDisabled row.id disabled)

def doEnable (sub : Subscription) : Prog (Except Error Unit) := do
  match ← doProfileChange sub with
  | .error err => return .error err
  | .ok () => doDisable sub false

def doRemove (sub : Subscription) : Prog (Except Error Unit) :=
  withRecord sub fun row ↦ onRouter sub (.remove row.id)

/-- The router commands a request stands for. -/
def doSync (sub : Subscription) : Prog (Except Error Unit) :=
  match sub.syncStatus with
  | .pendingCreate => doCreate sub
  | .pendingProfileChange => doProfileChange sub
  | .pendingDisable => doDisable sub true
  | .pendingEnable => doEnable sub
  | .pendingDelete => doRemove sub
  | .synced | .error => return .ok ()

/-- A device that is offline makes the request succeed without a command. -/
def applySync (sub : Subscription) : Prog (Except Error Unit) := do
  match ← perform (.device sub.deviceID) with
  | .error _ => return .ok ()
  | .ok () => doSync sub

def escalate (sub : Subscription) (syncErr : Error) (retryCount : ℤ) : Prog Unit := do
  match ← perform (.settings "notification.admin_phone") with
  | .error _ => return ()
  | .ok adminPhone =>
    if adminPhone = "" then return ()
    perform (.notify
      { customerID := none
        phone := adminPhone
        slug := "outbox_escalation"
        vars := [("subscription_id", toString sub.id), ("service_type", sub.serviceType.text),
          ("mikrotik_username", sub.mikrotikUsername), ("error", syncErr.text),
          ("retry_count", toString retryCount)] })

/-- What `Run` writes after a failed attempt. -/
def syncFailed (sub : Subscription) (err : Error) : Prog Unit := do
  let retryCount := match ← perform (.subscriptions (.incrSyncRetry sub.id err.text)) with
    | .ok n => n
    | .error _ => 0
  if outboxEscalationThreshold ≤ retryCount then
    let _ ← perform (.subscriptions (.updateSyncStatus sub.id .error err.text))
    escalate sub err retryCount

/-- The loop of `Run`: each row is worked on as it was when the batch was read, and
the outcome is written by id. -/
def outboxLoop : List Subscription → Prog (Except Error Unit)
  | [] => return .ok ()
  | sub :: subs => do
    if ← perform .contextDone then return .error (.of .canceled)
    match ← applySync sub with
    | .error err => syncFailed sub err
    | .ok () =>
      let _ ← perform (.subscriptions (.updateSyncStatus sub.id .synced ""))
    outboxLoop subs

/-- `OutboxJob.Run`. -/
def outboxRun : Prog (Except Error Unit) := do
  match ← perform (.subscriptions (.listPendingSync outboxBatchSize)) with
  | .error err => return .error err
  | .ok subs => outboxLoop subs

end Rosmon.Job
