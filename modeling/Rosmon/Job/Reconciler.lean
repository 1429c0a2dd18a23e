import Rosmon.Service.Payment

namespace Rosmon.Job

open Library Store Mikrotik Service

def missing : ServiceType → String
  | .pppoe => "ppp secret missing on router"
  | .hotspot => "hotspot user missing on router"

/-- `checkPPPDrift` and `checkHotspotDrift`; an empty text is no drift. -/
def checkRecordDrift (sub : Subscription) : Prog String := do
  match ← perform (.router sub.deviceID sub.serviceType (.byName sub.mikrotikUsername)) with
  | .error err =>
    return if err.is .mikrotikNotFound ∧ (sub.status = .active ∨ sub.status = .isolir) then
        missing sub.serviceType
      else ""
  | .ok row =>
    let expectedDisabled := sub.status == .suspended
    return if row.disabled ≠ expectedDisabled then
        s!"disabled mismatch: router={row.disabled} expected={expectedDisabled}"
      else ""

def checkDrift (sub : Subscription) : Prog String := do
  match ← perform (.device sub.deviceID) with
  | .error _ => return ""
  | .ok () => checkRecordDrift sub

/-- One row of the list, judged by the status it had when the list was read. -/
def reconcile (sub : Subscription) : Prog Unit := do
  if sub.syncStatus ≠ .synced then return ()
  if sub.status ∉ [.active, .isolir, .suspended] then return ()
  let drift ← checkDrift sub
  if drift = "" then return ()
  let _ ← perform (.subscriptions (.updateSyncStatus sub.id .pendingProfileChange
    ("reconciler detected drift: " ++ drift)))
  audit none "reconciler_drift" "subscription" sub.id

def reconcilerLoop : List Subscription → Prog (Except Error Unit)
  | [] => return .ok ()
  | sub :: subs => do
    if ← perform .contextDone then return .error (.of .canceled)
    reconcile sub
    reconcilerLoop subs

/-- `ReconcilerJob.Run`. -/
def reconcilerRun : Prog (Except Error Unit) := do
  match ← perform (.subscriptions .list) with
  | .error err => return .error (err.wrap "reconciler: list subscriptions: ")
  | .ok subs => reconcilerLoop subs

end Rosmon.Job
