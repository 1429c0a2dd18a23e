import Rosmon.Profiles.World

namespace Rosmon.Profiles

open Go Library Store Program Handler

section Requests

def expiryModes : List String := ["0", "none", "rem", "ntf", "remc", "ntfc"]

structure ProfileConfigUpsertRequest where
  expiryMode : String
  validity : String
  price : ℤ
  sellPrice : ℤ
  lockMAC : Bool

def ProfileConfigUpsertRequest.valid (req : ProfileConfigUpsertRequest) : Bool :=
  req.expiryMode ∈ expiryModes && req.validity ≠ "" && 0 ≤ req.price && 0 ≤ req.sellPrice

structure HotspotProfileCreateRequest where
  name : String
  role : String
  rateLimit : String
  addressPool : String
  sharedUsers : ℤ
  statusAutorefresh : String
  parentQueue : String
  priceMonthly : ℤ
  expiryMode : String
  validity : String
  price : ℤ
  sellPrice : ℤ
  lockMAC : Bool
  description : String
  active : Option Bool
  isPublic : Option Bool

def HotspotProfileCreateRequest.valid (req : HotspotProfileCreateRequest) : Bool :=
  1 ≤ req.name.length && req.name.length ≤ 100 && req.role ∈ ["permanent", "voucher"] &&
    req.rateLimit.length ≤ 64 && req.addressPool.length ≤ 64 && 0 ≤ req.sharedUsers &&
    req.statusAutorefresh.length ≤ 16 && req.parentQueue.length ≤ 64 && 0 ≤ req.priceMonthly &&
    (req.expiryMode = "" || req.expiryMode ∈ expiryModes) && req.validity.length ≤ 16 &&
    0 ≤ req.price && 0 ≤ req.sellPrice && req.description.length ≤ 2000

/-- The fields that a request leaves out are `none`. -/
structure HotspotProfileUpdateRequest where
  name : Option String
  rateLimit : Option String
  addressPool : Option String
  sharedUsers : Option ℤ
  statusAutorefresh : Option String
  parentQueue : Option String
  priceMonthly : Option ℤ
  expiryMode : Option String
  validity : Option String
  price : Option ℤ
  sellPrice : Option ℤ
  lockMAC : Option Bool
  description : Option String
  active : Option Bool
  isPublic : Option Bool

def HotspotProfileUpdateRequest.valid (req : HotspotProfileUpdateRequest) : Bool :=
  req.name.all (fun s ↦ 1 ≤ s.length && s.length ≤ 100) && req.rateLimit.all (·.length ≤ 64) &&
    req.addressPool.all (·.length ≤ 64) && req.sharedUsers.all (0 ≤ ·) &&
    req.statusAutorefresh.all (·.length ≤ 16) && req.parentQueue.all (·.length ≤ 64) &&
    req.priceMonthly.all (0 ≤ ·) && req.expiryMode.all (· ∈ expiryModes) &&
    req.validity.all (·.length ≤ 16) && req.price.all (0 ≤ ·) && req.sellPrice.all (0 ≤ ·) &&
    req.description.all (·.length ≤ 2000)

structure PPPProfileCreateRequest where
  name : String
  rateLimit : String
  localAddress : String
  remoteAddress : String
  sessionTimeout : String
  idleTimeout : String
  parentQueue : String
  priceMonthly : ℤ
  description : String
  active : Option Bool
  isPublic : Option Bool

def PPPProfileCreateRequest.valid (req : PPPProfileCreateRequest) : Bool :=
  1 ≤ req.name.length && req.name.length ≤ 100 && req.rateLimit.length ≤ 64 &&
    req.localAddress.length ≤ 64 && req.remoteAddress.length ≤ 64 &&
    req.sessionTimeout.length ≤ 32 && req.idleTimeout.length ≤ 32 && req.parentQueue.length ≤ 64 &&
    0 ≤ req.priceMonthly && req.description.length ≤ 2000

structure PPPProfileUpdateRequest where
  name : Option String
  rateLimit : Option String
  localAddress : Option String
  remoteAddress : Option String
  sessionTimeout : Option String
  idleTimeout : Option String
  parentQueue : Option String
  priceMonthly : Option ℤ
  description : Option String
  active : Option Bool
  isPublic : Option Bool

def PPPProfileUpdateRequest.valid (req : PPPProfileUpdateRequest) : Bool :=
  req.name.all (fun s ↦ 1 ≤ s.length && s.length ≤ 100) && req.rateLimit.all (·.length ≤ 64) &&
    req.localAddress.all (·.length ≤ 64) && req.remoteAddress.all (·.length ≤ 64) &&
    req.sessionTimeout.all (·.length ≤ 32) && req.idleTimeout.all (·.length ≤ 32) &&
    req.parentQueue.all (·.length ≤ 64) && req.priceMonthly.all (0 ≤ ·) &&
    req.description.all (·.length ≤ 2000)

/-- A row that has not been stored. -/
def newRow {κ : Type} (deviceID : ℕ) (name : String) (columns : κ) : ProfileRow κ :=
  ⟨0, deviceID, name, columns, zeroTime, zeroTime, none⟩

def HotspotColumns.zero : HotspotColumns :=
  ⟨"", "", "", 0, "", "", 0, "", "", 0, 0, false, "", false, false⟩

/-- The row that `ProfileConfig.Upsert` writes. -/
def configRow (deviceID : ℕ) (name : String) (req : ProfileConfigUpsertRequest)
    (validity : String) : HotspotProfile :=
  newRow deviceID name
    { HotspotColumns.zero with
      role := "voucher"
      expiryMode := req.expiryMode
      validity
      price := req.price
      sellPrice := req.sellPrice
      lockMAC := req.lockMAC }

/-- The columns that `HotspotProfiles.Create` fills in. -/
def HotspotProfileCreateRequest.columns (req : HotspotProfileCreateRequest) (validity : String) :
    HotspotColumns where
  role := req.role
  rateLimit := req.rateLimit
  addressPool := req.addressPool
  sharedUsers := if req.sharedUsers ≤ 0 then 1 else req.sharedUsers
  statusAutorefresh := if req.statusAutorefresh = "" then "1m" else req.statusAutorefresh
  parentQueue := req.parentQueue
  priceMonthly := req.priceMonthly
  expiryMode := if req.expiryMode = "" then "0" else req.expiryMode
  validity
  price := req.price
  sellPrice := req.sellPrice
  lockMAC := req.lockMAC
  description := req.description
  active := req.active.getD true
  isPublic := req.isPublic.getD false

def PPPProfileCreateRequest.columns (req : PPPProfileCreateRequest) : PPPColumns where
  rateLimit := req.rateLimit
  localAddress := req.localAddress
  remoteAddress := req.remoteAddress
  sessionTimeout := req.sessionTimeout
  idleTimeout := req.idleTimeout
  parentQueue := req.parentQueue
  priceMonthly := req.priceMonthly
  description := req.description
  active := req.active.getD true
  isPublic := req.isPublic.getD false

/-- The row with the fields that the request sets. -/
def HotspotProfileUpdateRequest.apply (req : HotspotProfileUpdateRequest)
    (validity : Option String) (p : HotspotProfile) : HotspotProfile :=
  { p with
    name := req.name.getD p.name
    columns :=
      { p.columns with
        rateLimit := req.rateLimit.getD p.columns.rateLimit
        addressPool := req.addressPool.getD p.columns.addressPool
        sharedUsers := req.sharedUsers.getD p.columns.sharedUsers
        statusAutorefresh := req.statusAutorefresh.getD p.columns.statusAutorefresh
        parentQueue := req.parentQueue.getD p.columns.parentQueue
        priceMonthly := req.priceMonthly.getD p.columns.priceMonthly
        expiryMode := req.expiryMode.getD p.columns.expiryMode
        validity := validity.getD p.columns.validity
        price := req.price.getD p.columns.price
        sellPrice := req.sellPrice.getD p.columns.sellPrice
        lockMAC := req.lockMAC.getD p.columns.lockMAC
        description := req.description.getD p.columns.description
        active := req.active.getD p.columns.active
        isPublic := req.isPublic.getD p.columns.isPublic } }

def PPPProfileUpdateRequest.apply (req : PPPProfileUpdateRequest) (p : PPPProfile) : PPPProfile :=
  { p with
    name := req.name.getD p.name
    columns :=
      { rateLimit := req.rateLimit.getD p.columns.rateLimit
        localAddress := req.localAddress.getD p.columns.localAddress
        remoteAddress := req.remoteAddress.getD p.columns.remoteAddress
        sessionTimeout := req.sessionTimeout.getD p.columns.sessionTimeout
        idleTimeout := req.idleTimeout.getD p.columns.idleTimeout
        parentQueue := req.parentQueue.getD p.columns.parentQueue
        priceMonthly := req.priceMonthly.getD p.columns.priceMonthly
        description := req.description.getD p.columns.description
        active := req.active.getD p.columns.active
        isPublic := req.isPublic.getD p.columns.isPublic } }

end Requests

section Propagation

/-- A setting that is not sent when it is empty. -/
def sent (setting value : String) : List (String × String) :=
  if value = "" then [] else [(setting, value)]

/-- A setting that is not sent when it is empty or `none`. -/
def sentUnlessNone (setting value : String) : List (String × String) :=
  if value = "" ∨ value = "none" then [] else [(setting, value)]

def sharedUsersText (sharedUsers : ℤ) : String :=
  if sharedUsers = 0 then "unlimited" else toString sharedUsers

/-- What `ProfileAdd` of the hotspot client sends for a row. -/
def hotspotAddPairs (p : HotspotProfile) : List (String × String) :=
  [("name", p.name)] ++ sentUnlessNone "address-pool" p.columns.addressPool ++
    sent "rate-limit" p.columns.rateLimit ++
    sent "shared-users" (sharedUsersText p.columns.sharedUsers) ++
    sent "status-autorefresh" p.columns.statusAutorefresh ++
    sentUnlessNone "parent-queue" p.columns.parentQueue

/-- What `ProfileSet` of the hotspot client sends for a row. -/
def hotspotSetPairs (p : HotspotProfile) : List (String × String) :=
  [("address-pool", if p.columns.addressPool = "" then "none" else p.columns.addressPool)] ++
    sent "rate-limit" p.columns.rateLimit ++
    [("shared-users", sharedUsersText p.columns.sharedUsers)] ++
    sent "status-autorefresh" p.columns.statusAutorefresh ++
    sentUnlessNone "parent-queue" p.columns.parentQueue

def pppAddPairs (p : PPPProfile) : List (String × String) :=
  [("name", p.name)] ++ sent "local-address" p.columns.localAddress ++
    sent "remote-address" p.columns.remoteAddress ++ sent "rate-limit" p.columns.rateLimit ++
    sent "session-timeout" p.columns.sessionTimeout ++ sent "idle-timeout" p.columns.idleTimeout ++
    sentUnlessNone "parent-queue" p.columns.parentQueue

def pppSetPairs (p : PPPProfile) : List (String × String) :=
  sent "local-address" p.columns.localAddress ++ sent "remote-address" p.columns.remoteAddress ++
    sent "rate-limit" p.columns.rateLimit ++
    [("session-timeout", p.columns.sessionTimeout), ("idle-timeout", p.columns.idleTimeout)] ++
    sentUnlessNone "parent-queue" p.columns.parentQueue

/-- The settings that `ProfileSet` of the PPP client takes away, before it sends the others. -/
def pppUnset (p : PPPProfile) : List String :=
  (if p.columns.localAddress = "" then ["local-address"] else []) ++
    if p.columns.remoteAddress = "" then ["remote-address"] else []

/-- `unset` of the settings and `set` of the pairs, up to the first error. -/
def profileSet (menu : Menu) (id : ℕ) (pairs : List (String × String)) :
    List String → Prog (Except Error Unit)
  | [] => perform (.router menu (.set id pairs))
  | setting :: settings => do
    match ← perform (.router menu (.unset id setting)) with
    | .error err => return .error err
    | .ok () => profileSet menu id pairs settings

def Menu.text : Menu → String
  | .hotspot => "hotspot"
  | .ppp => "ppp"

/-- `mapHotspotProfileErr` and `mapPPPProfileErr`. -/
def mapProfileErr (menu : Menu) (name : String) : Except Error Unit → String
  | .ok () => ""
  | .error err => menu.text ++ "/" ++ name ++ ": " ++ err.text

def offline : String := "device offline — profile saved locally only"

/-- `propagateAdd` of the handlers of either kind of profile. -/
def propagateAdd (menu : Menu) (name : String) (pairs : List (String × String)) : Prog String := do
  if ← perform .online then
    return mapProfileErr menu name (← perform (.router menu (.add pairs)))
  else return offline

/-- `propagateSet` of the handlers of either kind of profile: a name that the router does not
know is added. -/
def propagateSet (menu : Menu) (name : String) (addPairs setPairs : List (String × String))
    (unset : List String) : Prog String := do
  if ← perform .online then
    match ← perform (.router menu (.byName name)) with
    | .error err =>
      if err.is .mikrotikNotFound then propagateAdd menu name addPairs
      else return mapProfileErr menu name (.error err)
    | .ok rp => return mapProfileErr menu name (← profileSet menu rp.id setPairs unset)
  else return offline

/-- `propagateSet` of `HotspotProfiles`. -/
def propagateHotspot (p : HotspotProfile) : Prog String :=
  propagateSet .hotspot p.name (hotspotAddPairs p) (hotspotSetPairs p) []

/-- `propagateSet` of `PPPProfiles`. -/
def propagatePPP (p : PPPProfile) : Prog String :=
  propagateSet .ppp p.name (pppAddPairs p) (pppSetPairs p) (pppUnset p)

end Propagation

section Handlers

/-- What the code computes with texts: `rosfmt.NormalizeDuration`, and the body of the on-login
script of a profile. -/
structure Texts where
  normalizeDuration : String → Except Error String
  onLogin : HotspotProfile → Except Error String

variable (texts : Texts)

/-- `workflows.InjectOnLoginScript`, which fails with a context and the error that it wraps. -/
def injectOnLoginScript (p : HotspotProfile) : Prog (Except (String × Error) Unit) := do
  if p.name = "" then return .error ("", .of .mikrotikInvalidArgument)
  match ← perform (.router .hotspot (.byName p.name)) with
  | .error err =>
    return .error (if err.is .mikrotikNotFound then
      s!"workflows.InjectOnLoginScript: profile {p.name} not found on router: "
      else s!"workflows.InjectOnLoginScript: lookup profile {p.name}: ", err)
  | .ok rp =>
    match texts.onLogin p with
    | .error err => return .error ("workflows.InjectOnLoginScript: ", err)
    | .ok script =>
      match ← perform (.router .hotspot (.set rp.id [("on-login", script)])) with
      | .error err =>
        return .error (s!"workflows.InjectOnLoginScript: set on-login {p.name}: ", err)
      | .ok () => return .ok ()

/-- An error is only logged. -/
def tryInjectOnLogin (p : HotspotProfile) : Prog Unit := do
  if ← perform .online then
    let _ ← injectOnLoginScript texts p

/-- The end of `ProfileConfig.Upsert`. -/
def answerConfig (deviceID : ℕ) (name : String) (status : ℕ) : Prog (Response HotspotProfile) := do
  match ← perform (.hotspot (.getByName deviceID name)) with
  | .error err => return writeErr err
  | .ok persisted =>
    tryInjectOnLogin texts persisted
    return .success status persisted

/-- `ProfileConfig.Upsert`. -/
def upsertConfig (deviceID : ℕ) (name : String) (req : ProfileConfigUpsertRequest) :
    Prog (Response HotspotProfile) := do
  if ¬req.valid then return .failure 400 "VALIDATION" "request validation failed"
  match texts.normalizeDuration req.validity with
  | .error _ => return .failure 400 "VALIDATION" "invalid validity format"
  | .ok validity =>
    let p := configRow deviceID name req validity
    match ← perform (.hotspot (.getByName deviceID name)) with
    | .error err =>
      if err.is .hotspotProfileNotFound then
        match ← perform (.hotspot (.create p)) with
        | .error err => return writeErr err
        | .ok _ => answerConfig texts deviceID name 201
      else return writeErr err
    | .ok existing =>
      match ← perform (.hotspot (.update { p with id := existing.id })) with
      | .error err => return writeErr err
      | .ok _ => answerConfig texts deviceID name 200

/-- A profile that a request has saved, with what went wrong on the router. -/
structure ProfileWriteResponse (κ : Type) where
  profile : ProfileRow κ
  warning : String

def duplicateOr {α : Type} (err : Error) : Response α :=
  if err.isUniqueViolation then
    .failure 409 "CONFLICT" "profile name already exists on this device"
  else writeErr err

/-- `HotspotProfiles.Create`. -/
def createHotspot (deviceID : ℕ) (req : HotspotProfileCreateRequest) :
    Prog (Response (ProfileWriteResponse HotspotColumns)) := do
  if ¬req.valid then return .failure 400 "VALIDATION" "request validation failed"
  match if req.role = "voucher" ∧ req.validity ≠ "" then texts.normalizeDuration req.validity
    else .ok req.validity with
  | .error _ => return .failure 400 "VALIDATION" "invalid validity format"
  | .ok validity =>
    match ← perform (.hotspot (.create (newRow deviceID req.name (req.columns validity)))) with
    | .error err => return duplicateOr err
    | .ok p =>
      let warning ← propagateAdd .hotspot p.name (hotspotAddPairs p)
      if p.columns.role = "voucher" then tryInjectOnLogin texts p
      return .success 201 ⟨p, warning⟩

/-- `PPPProfiles.Create`. -/
def createPPP (deviceID : ℕ) (req : PPPProfileCreateRequest) :
    Prog (Response (ProfileWriteResponse PPPColumns)) := do
  if ¬req.valid then return .failure 400 "VALIDATION" "request validation failed"
  match ← perform (.ppp (.create (newRow deviceID req.name req.columns))) with
  | .error err => return duplicateOr err
  | .ok p =>
    let warning ← propagateAdd .ppp p.name (pppAddPairs p)
    return .success 201 ⟨p, warning⟩

/-- `HotspotProfiles.Update`. -/
def updateHotspot (deviceID id : ℕ) (req : HotspotProfileUpdateRequest) :
    Prog (Response (ProfileWriteResponse HotspotColumns)) := do
  if ¬req.valid then return .failure 400 "VALIDATION" "request validation failed"
  match ← perform (.hotspot (.get id)) with
  | .error err =>
    return if err.is .hotspotProfileNotFound then
        .failure 404 "NOT_FOUND" "hotspot profile not found"
      else writeErr err
  | .ok p =>
    if p.deviceID ≠ deviceID then
      return .failure 404 "NOT_FOUND" "hotspot profile not found for this device"
    match req.validity.mapM texts.normalizeDuration with
    | .error _ => return .failure 400 "VALIDATION" "invalid validity format"
    | .ok validity =>
      match ← perform (.hotspot (.update (req.apply validity p))) with
      | .error err => return writeErr err
      | .ok p =>
        let warning ← propagateHotspot p
        if p.columns.role = "voucher" then tryInjectOnLogin texts p
        return .success 200 ⟨p, warning⟩

/-- `PPPProfiles.Update`. -/
def updatePPP (deviceID id : ℕ) (req : PPPProfileUpdateRequest) :
    Prog (Response (ProfileWriteResponse PPPColumns)) := do
  if ¬req.valid then return .failure 400 "VALIDATION" "request validation failed"
  match ← perform (.ppp (.get id)) with
  | .error err =>
    return if err.is .pppProfileNotFound then .failure 404 "NOT_FOUND" "ppp profile not found"
      else writeErr err
  | .ok p =>
    if p.deviceID ≠ deviceID then
      return .failure 404 "NOT_FOUND" "ppp profile not found for this device"
    match ← perform (.ppp (.update (req.apply p))) with
    | .error err => return writeErr err
    | .ok p =>
      let warning ← propagatePPP p
      return .success 200 ⟨p, warning⟩

end Handlers

end Rosmon.Profiles
