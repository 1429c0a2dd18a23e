import Rosmon.Profiles.Config
import Rosmon.Profiles.Upsert

namespace Rosmon.Profiles

open Go Library Store Program Handler

section Definitions

/-- The fields of a profile on the router that the server keeps. -/
structure RouterProfile where
  name : String
  addressPool : String
  rateLimit : String
  sharedUsers : ℤ
  statusAutorefresh : String
  parentQueue : String

def sentenceToProfile (i : Item) : RouterProfile where
  name := i.name
  addressPool := i.settings "address-pool"
  rateLimit := i.settings "rate-limit"
  sharedUsers := (atoi (i.settings "shared-users")).getD 1
  statusAutorefresh := i.settings "status-autorefresh"
  parentQueue := i.settings "parent-queue"

def isSystemProfile (name : String) : Bool := name = "default" || name = "default-encryption"

/-- The loops over the profiles of the router pass over the other names. -/
def managed (name : String) : Bool := name ≠ "" && !isSystemProfile name

structure ProfileSyncResult where
  synced : List String
  created : List String
  orphan : List String
  injected : List String
  injectFailed : List String

/-- What `SyncProfiles` stores for a profile that it does not know. -/
def unknownRow (deviceID : ℕ) (name : String) : HotspotProfile :=
  newRow deviceID name { HotspotColumns.zero with role := "voucher", expiryMode := "0" }

/-- The loop of `SyncProfiles` over the profiles of the router. -/
def syncRows (deviceID : ℕ) (dbNames : List String) :
    List String → ProfileSyncResult → Prog (ProfileSyncResult × Option Error)
  | [], result => return (result, none)
  | name :: names, result =>
    if ¬managed name then syncRows deviceID dbNames names result
    else if name ∈ dbNames then
      syncRows deviceID dbNames names { result with synced := result.synced ++ [name] }
    else do
      match ← perform (.hotspot (.upsert (unknownRow deviceID name))) with
      | .error err =>
        return (result, some (err.wrap s!"workflows.SyncProfiles: upsert \"{name}\": "))
      | .ok _ =>
        syncRows deviceID dbNames names { result with created := result.created ++ [name] }

variable (texts : Texts)

/-- The loop of `SyncProfiles` over the rows of the database. -/
def injectRows (routerNames : List String) :
    List HotspotProfile → ProfileSyncResult → Prog ProfileSyncResult
  | [], result => return result
  | p :: rows, result =>
    if isSystemProfile p.name then injectRows routerNames rows result
    else if p.name ∉ routerNames then
      injectRows routerNames rows { result with orphan := result.orphan ++ [p.name] }
    else do
      match ← injectOnLoginScript texts p with
      | .error (_, inner) =>
        injectRows routerNames rows
          { result with injectFailed := result.injectFailed ++ [p.name ++ ": " ++ inner.text] }
      | .ok () =>
        injectRows routerNames rows { result with injected := result.injected ++ [p.name] }

/-- `workflows.SyncProfiles`. -/
def syncProfiles (deviceID : ℕ) : Prog (ProfileSyncResult × Option Error) := do
  let result : ProfileSyncResult := ⟨[], [], [], [], []⟩
  match ← perform (.router .hotspot .print) with
  | .error err =>
    return (result, some (err.wrap "workflows.SyncProfiles: list router profiles: "))
  | .ok items =>
    match ← perform (.listByDevice deviceID "voucher") with
    | .error err => return (result, some (err.wrap "workflows.SyncProfiles: list db profiles: "))
    | .ok dbProfiles =>
      let names := items.map Item.name
      let (result, err) ← syncRows deviceID (dbProfiles.map (·.name)) names result
      if err.isSome then return (result, err)
      let result ← injectRows texts (names.filter managed) dbProfiles result
      return (result, none)

structure SyncResponse where
  synced : List String
  created : List String
  orphan : List String

/-- What `HotspotProfiles.Sync` stores for a profile of the router. -/
def routerRow (deviceID : ℕ) (role : String) (rp : RouterProfile) : HotspotProfile :=
  newRow deviceID rp.name
    { HotspotColumns.zero with
      role
      rateLimit := rp.rateLimit
      addressPool := rp.addressPool
      sharedUsers := if role = "voucher" then 1 else rp.sharedUsers
      statusAutorefresh := rp.statusAutorefresh
      parentQueue := rp.parentQueue
      expiryMode := if role = "voucher" then "remc" else ""
      active := true }

/-- The loop of `HotspotProfiles.Sync`: a profile that cannot be stored is left out. -/
def upsertRows (deviceID : ℕ) (role : String) :
    List RouterProfile → SyncResponse → Prog SyncResponse
  | [], res => return res
  | rp :: rps, res =>
    if ¬managed rp.name then upsertRows deviceID role rps res
    else do
      match ← perform (.hotspot (.upsert (routerRow deviceID role rp))) with
      | .error _ => upsertRows deviceID role rps res
      | .ok true => upsertRows deviceID role rps { res with created := res.created ++ [rp.name] }
      | .ok false => upsertRows deviceID role rps { res with synced := res.synced ++ [rp.name] }

/-- The end of `HotspotProfiles.Sync`: the scripts of the vouchers. -/
def injectVouchers : List HotspotProfile → Prog Unit
  | [] => return ()
  | p :: rows => do
    if p.columns.expiryMode ≠ "0" then tryInjectOnLogin texts p
    injectVouchers rows

/-- `HotspotProfiles.Sync`. -/
def sync (deviceID : ℕ) (role : String) : Prog (Response SyncResponse) := do
  if role ≠ "permanent" ∧ role ≠ "voucher" then
    return .failure 400 "INVALID_ARGUMENT" "role must be 'permanent' or 'voucher'"
  if ¬(← perform .online) then
    return .failure 503 "DEVICE_OFFLINE" "device not connected: devmgr: device not connected"
  match ← perform (.router .hotspot .print) with
  | .error err => return writeErr (err.wrap "list hotspot profiles: ")
  | .ok items =>
    let rps := items.map sentenceToProfile
    let res ← upsertRows deviceID role rps ⟨[], [], []⟩
    let orphan := match ← perform (.listByDevice deviceID role) with
      | .error _ => []
      | .ok rows => (rows.map (·.name)).filter fun name ↦
        !isSystemProfile name && name ∉ (rps.map (·.name)).filter managed
    if role = "voucher" then
      match ← perform (.listByDevice deviceID "voucher") with
      | .error _ => pure ()
      | .ok rows => injectVouchers texts rows
    return .success 200 { res with orphan }

end Definitions

end Rosmon.Profiles
