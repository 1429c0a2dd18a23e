import Rosmon.Auth.Service

namespace Rosmon.Api

open Go Store

section Tokens

/-- The members of a token's JSON; a struct that does not name a member has no use for it, and one
that is missing is zero. -/
structure Payload where
  uid : ℕ
  usr : String
  rol : String
  cid : ℕ
  phn : String
  typ : String
  jti : String
  sub : String
  iat : ℤ
  exp : ℤ
  deriving DecidableEq

structure Claims where
  userID : ℕ
  username : String
  role : String
  tokenTyp : String
  id : String
  subject : String
  issuedAt : ℤ
  expiresAt : ℤ
  deriving DecidableEq

structure CustomerClaims where
  customerID : ℕ
  phone : String
  tokenTyp : String
  id : String
  subject : String
  issuedAt : ℤ
  expiresAt : ℤ
  deriving DecidableEq

def Payload.claims (p : Payload) : Claims :=
  ⟨p.uid, p.usr, p.rol, p.typ, p.jti, p.sub, p.iat, p.exp⟩

def Payload.customerClaims (p : Payload) : CustomerClaims :=
  ⟨p.cid, p.phn, p.typ, p.jti, p.sub, p.iat, p.exp⟩

def Claims.payload (c : Claims) : Payload :=
  ⟨c.userID, c.username, c.role, 0, "", c.tokenTyp, c.id, c.subject, c.issuedAt, c.expiresAt⟩

def CustomerClaims.payload (c : CustomerClaims) : Payload :=
  ⟨0, "", "", c.customerID, c.phone, c.tokenTyp, c.id, c.subject, c.issuedAt, c.expiresAt⟩

inductive ParseError
  | expired
  | other (text : String)
  deriving DecidableEq

/-- The library of the tokens with the secret of the server: `parse` is `ParseWithClaims` under a
key function that takes HMAC only. -/
structure Jwt where
  signedString : Payload → Except Error String
  parse : Time → String → Except ParseError Payload

/-- `jwt.NewNumericDate`, in seconds. -/
def numericDate (t : Time) : ℤ := t / 1000000000

/-- What the library is relied on for. -/
structure Jwt.Lawful (j : Jwt) : Prop where
  fresh : ∀ now token p, j.parse now token = .ok p → now < p.exp * 1000000000
  signed : ∀ p token, j.signedString p = .ok token → ∀ now, now < p.exp * 1000000000 →
    j.parse now token = .ok p

structure Signer where
  accessTTL : ℤ
  refreshTTL : ℤ
  customerTTL : ℤ
  deriving DecidableEq

def newSigner (accessTTL refreshTTL : ℤ) : Signer where
  accessTTL := if accessTTL ≤ 0 then 900000000000 else accessTTL
  refreshTTL := if refreshTTL ≤ 0 then 604800000000000 else refreshTTL
  customerTTL := 86400000000000

def Signer.setCustomerTTL (s : Signer) (ttl : ℤ) : Signer :=
  if 0 < ttl then { s with customerTTL := ttl } else s

/-- The claims of the three kinds of tokens. `jti` is a new UUID. -/
def Signer.accessClaims (s : Signer) (now : Time) (jti : String) (userID : ℕ)
    (username role : String) : Claims :=
  ⟨userID, username, role, "access", jti, toString userID, numericDate now,
    numericDate (now + s.accessTTL)⟩

def Signer.refreshClaims (s : Signer) (now : Time) (jti : String) (userID : ℕ)
    (username role : String) : Claims :=
  ⟨userID, username, role, "refresh", jti, toString userID, numericDate now,
    numericDate (now + s.refreshTTL)⟩

def Signer.customerClaims (s : Signer) (now : Time) (jti : String) (customerID : ℕ)
    (phone : String) : CustomerClaims :=
  ⟨customerID, phone, "customer_access", jti, "cust:" ++ toString customerID, numericDate now,
    numericDate (now + s.customerTTL)⟩

inductive TokenError
  | expired
  | invalid
  | wrongType
  deriving DecidableEq

variable (j : Jwt) (now : Time)

/-- `Signer.parse` and its copy in `VerifyCustomerAccess`. -/
def parse (token : String) : Except TokenError Payload :=
  match j.parse now token with
  | .ok p => .ok p
  | .error .expired => .error .expired
  | .error (.other _) => .error .invalid

def verifyTyp (typ token : String) : Except TokenError Payload :=
  match parse j now token with
  | .error err => .error err
  | .ok p => if p.typ ≠ typ then .error .wrongType else .ok p

def verifyAccess (token : String) : Except TokenError Claims :=
  (verifyTyp j now "access" token).map Payload.claims

def verifyRefresh (token : String) : Except TokenError Claims :=
  (verifyTyp j now "refresh" token).map Payload.claims

def verifyCustomerAccess (token : String) : Except TokenError CustomerClaims :=
  (verifyTyp j now "customer_access" token).map Payload.customerClaims

end Tokens

section Middlewares

inductive Method
  | get
  | post
  | put
  | patch
  | delete
  deriving DecidableEq

/-- Of a request what the middlewares look at: the first `Authorization` header and the first
`access_token` of the query, empty where there is none. -/
structure Request where
  authorization : String
  accessToken : String
  clientIP : String

/-- `strings.SplitN(s, " ", 2)` where there are two parts. -/
def splitSpace (s : String) : Option (String × String) :=
  match s.toList.span (· ≠ ' ') with
  | (_, []) => none
  | (before, _ :: rest) => some (String.ofList before, String.ofList rest)

/-- No letter of `Bearer` folds to one outside ASCII. -/
def extractBearer (header : String) : Option String :=
  if header = "" then none
  else match splitSpace header with
    | none => none
    | some (scheme, rest) =>
      if toLower scheme ≠ "bearer" then none
      else if trimSpace rest = "" then none
      else some (trimSpace rest)

def extractBearerOrQuery (req : Request) : Option String :=
  match extractBearer req.authorization with
  | some token => some token
  | none => if trimSpace req.accessToken ≠ "" then some (trimSpace req.accessToken) else none

/-- What the middlewares put into the context. -/
structure Context where
  claims : Option Claims
  customer : Option CustomerClaims
  deriving DecidableEq

inductive Abort
  | unauthorized (msg : String)
  | forbidden
  | rateLimited (scope : String)
  | noDevice
  deriving DecidableEq

inductive Middleware
  | requirePerIPRate
  | requireAuth
  | requirePerUserRate
  | heavyEndpointsRate
  | requireRole (roles : List String)
  | requireCustomerAuth
  | requireAnyAuth
  | deviceMiddleware
  deriving DecidableEq

/-- The time, what the limiters say to a key, and whether the device of the path is connected. -/
structure Env where
  now : Time
  ipAllow : String → Bool
  userAllow : String → Bool
  heavyAllow : String → Bool
  device : Bool

def userKey (req : Request) (ctx : Context) : String :=
  match ctx.claims with
  | some claims => "user:" ++ toString claims.userID
  | none => "ip:" ++ req.clientIP

/-- The suffixes of the paths that are dear, with the names of the endpoints. -/
def heavyEndpoints : List (List String × String) :=
  [(["hotspot", "vouchers", "generate"], "voucher_generate"),
    (["hotspot", "users", "bulk-delete"], "bulk_delete"),
    (["system", "reboot"], "reboot"),
    (["system", "shutdown"], "shutdown")]

def classifyHeavy (method : Method) (fullPath : List String) : Option String :=
  if method ≠ .post then none
  else (heavyEndpoints.find? fun e ↦ e.1.isSuffixOf fullPath).map Prod.snd

def unauthorized (token : String) : TokenError → Abort
  | .expired => .unauthorized "token expired"
  | .wrongType => .unauthorized token
  | .invalid => .unauthorized "invalid token"

variable (j : Jwt) (env : Env) (req : Request)

def Middleware.run (method : Method) (fullPath : List String) (ctx : Context) :
    Middleware → Except Abort Context
  | .requirePerIPRate =>
    if env.ipAllow ("ip:" ++ req.clientIP) then .ok ctx else .error (.rateLimited "ip")
  | .requireAuth => match extractBearerOrQuery req with
    | none => .error (.unauthorized "missing or malformed Authorization")
    | some token => match verifyAccess j env.now token with
      | .error err => .error (unauthorized "wrong token type (refresh used as access?)" err)
      | .ok claims => .ok { ctx with claims := some claims }
  | .requirePerUserRate =>
    if env.userAllow (userKey req ctx) then .ok ctx else .error (.rateLimited "user")
  | .heavyEndpointsRate => match classifyHeavy method fullPath with
    | none => .ok ctx
    | some endpoint =>
      if env.heavyAllow (userKey req ctx ++ ":" ++ endpoint) then .ok ctx
      else .error (.rateLimited endpoint)
  | .requireRole roles => match ctx.claims with
    | none => .error (.unauthorized "no authentication context (RequireAuth missing?)")
    | some claims => if claims.role ∈ roles then .ok ctx else .error .forbidden
  | .requireCustomerAuth => match extractBearerOrQuery req with
    | none => .error (.unauthorized "missing or malformed Authorization")
    | some token => match verifyCustomerAccess j env.now token with
      | .error err =>
        .error (unauthorized "wrong token type (staff token used on customer portal?)" err)
      | .ok claims => .ok { ctx with customer := some claims }
  | .requireAnyAuth => match extractBearerOrQuery req with
    | none => .error (.unauthorized "missing or malformed Authorization")
    | some token => match verifyAccess j env.now token, verifyCustomerAccess j env.now token with
      | .ok claims, _ => .ok { ctx with claims := some claims }
      | .error _, .ok claims => .ok { ctx with customer := some claims }
      | .error _, .error _ => .error (.unauthorized "invalid token")
  | .deviceMiddleware => if env.device then .ok ctx else .error .noDevice

def runChain (method : Method) (fullPath : List String) (chain : List Middleware) :
    Except Abort Context :=
  chain.foldlM (fun ctx m ↦ m.run j env req method fullPath ctx) ⟨none, none⟩

end Middlewares

section Endpoints

/-- A method and a path below the group in which the handler is registered. -/
structure Endpoint where
  method : Method
  path : List String
  handler : String
  deriving DecidableEq

def hookLogin : List Endpoint :=
  [⟨.post, ["hook", "hotspot", "login", ":device_id"], "HookLogin.Login"⟩]

def xenditWebhook : List Endpoint :=
  [⟨.post, ["public", "webhooks", "xendit"], "XenditWebhook.Handle"⟩]

def authPublic : List Endpoint :=
  [⟨.post, ["auth", "login"], "Auth.Login"⟩, ⟨.post, ["auth", "refresh"], "Auth.Refresh"⟩,
    ⟨.post, ["auth", "logout"], "Auth.Logout"⟩]

def authProtected : List Endpoint :=
  [⟨.get, ["auth", "me"], "Auth.Me"⟩, ⟨.put, ["auth", "me"], "Auth.UpdateMe"⟩]

def users : List Endpoint :=
  [⟨.get, ["auth", "users"], "Users.List"⟩, ⟨.post, ["auth", "users"], "Users.Create"⟩,
    ⟨.post, ["auth", "users", "batch-delete"], "Users.BatchDelete"⟩,
    ⟨.get, ["auth", "users", ":id"], "Users.Get"⟩, ⟨.put, ["auth", "users", ":id"], "Users.Update"⟩,
    ⟨.delete, ["auth", "users", ":id"], "Users.Delete"⟩]

def devicesRead : List Endpoint :=
  [⟨.get, ["devices"], "Devices.List"⟩, ⟨.get, ["devices", ":device_id"], "Devices.Get"⟩]

def devicesWrite : List Endpoint :=
  [⟨.post, ["devices"], "Devices.Create"⟩, ⟨.put, ["devices", ":device_id"], "Devices.Update"⟩,
    ⟨.delete, ["devices", ":device_id"], "Devices.Delete"⟩]

def systemInfo : List Endpoint :=
  [⟨.get, ["system", "identity"], "SystemInfo.Identity"⟩,
    ⟨.get, ["system", "resource"], "SystemInfo.Resource"⟩,
    ⟨.get, ["system", "routerboard"], "SystemInfo.Routerboard"⟩,
    ⟨.get, ["system", "clock"], "SystemInfo.Clock"⟩,
    ⟨.get, ["system", "license"], "SystemInfo.License"⟩]

def systemLogging : List Endpoint :=
  [⟨.get, ["system", "logging", "by-prefix", ":prefix"], "SystemLogging.ByPrefix"⟩,
    ⟨.post, ["system", "logging", "hotspot-disk"], "SystemLogging.AddHotspotDisk"⟩]

def systemScriptRead : List Endpoint :=
  [⟨.get, ["system", "scripts"], "SystemScript.List"⟩,
    ⟨.get, ["system", "scripts", ":id"], "SystemScript.Get"⟩]

def systemScriptWrite : List Endpoint :=
  [⟨.post, ["system", "scripts"], "SystemScript.Create"⟩,
    ⟨.put, ["system", "scripts", ":id"], "SystemScript.Update"⟩,
    ⟨.delete, ["system", "scripts", ":id"], "SystemScript.Delete"⟩]

def systemSchedulerRead : List Endpoint :=
  [⟨.get, ["system", "schedulers"], "SystemScheduler.List"⟩,
    ⟨.get, ["system", "schedulers", "count"], "SystemScheduler.Count"⟩]

def systemSchedulerWrite : List Endpoint :=
  [⟨.post, ["system", "schedulers"], "SystemScheduler.Create"⟩,
    ⟨.put, ["system", "schedulers", ":id"], "SystemScheduler.Update"⟩,
    ⟨.delete, ["system", "schedulers", ":id"], "SystemScheduler.Delete"⟩]

def log : List Endpoint := [⟨.get, ["log"], "Log.List"⟩]

def pingCount : List Endpoint := [⟨.get, ["ping"], "PingCount.Ping"⟩]

def systemControl : List Endpoint :=
  [⟨.post, ["system", "reboot"], "SystemControl.Reboot"⟩,
    ⟨.post, ["system", "shutdown"], "SystemControl.Shutdown"⟩]

def hotspotUserRead : List Endpoint :=
  [⟨.get, ["hotspot", "users"], "HotspotUser.List"⟩,
    ⟨.get, ["hotspot", "users", "count"], "HotspotUser.Count"⟩,
    ⟨.get, ["hotspot", "users", "by-name", ":name"], "HotspotUser.GetByName"⟩,
    ⟨.get, ["hotspot", "users", ":id"], "HotspotUser.Get"⟩]

def hotspotUserWrite : List Endpoint :=
  [⟨.post, ["hotspot", "users"], "HotspotUser.Create"⟩,
    ⟨.put, ["hotspot", "users", ":id"], "HotspotUser.Update"⟩,
    ⟨.patch, ["hotspot", "users", ":id", "disabled"], "HotspotUser.SetDisabled"⟩,
    ⟨.patch, ["hotspot", "users", ":id", "expiry"], "HotspotUser.SetExpiry"⟩,
    ⟨.patch, ["hotspot", "users", ":id", "mac"], "HotspotUser.SetMAC"⟩,
    ⟨.post, ["hotspot", "users", ":id", "reset-counters"], "HotspotUser.ResetCounters"⟩,
    ⟨.post, ["hotspot", "users", ":id", "reset-usage"], "HotspotUser.ResetUsage"⟩,
    ⟨.delete, ["hotspot", "users", ":id"], "HotspotUser.Delete"⟩,
    ⟨.post, ["hotspot", "users", "bulk-delete"], "HotspotUser.BulkDelete"⟩]

def hotspotUserAdmin : List Endpoint :=
  [⟨.get, ["hotspot", "users", ":id", "password"], "HotspotUser.RevealPassword"⟩]

def hotspotProfileRead : List Endpoint :=
  [⟨.get, ["hotspot", "profiles"], "HotspotProfile.List"⟩,
    ⟨.get, ["hotspot", "profiles", "by-name", ":name"], "HotspotProfile.GetByName"⟩,
    ⟨.get, ["hotspot", "profiles", ":id"], "HotspotProfile.Get"⟩]

def hotspotProfileWrite : List Endpoint :=
  [⟨.post, ["hotspot", "profiles"], "HotspotProfile.Create"⟩,
    ⟨.put, ["hotspot", "profiles", ":id"], "HotspotProfile.Update"⟩,
    ⟨.delete, ["hotspot", "profiles", ":id"], "HotspotProfile.Delete"⟩]

def hotspotServer : List Endpoint := [⟨.get, ["hotspot", "servers"], "HotspotServer.List"⟩]

def hotspotActiveRead : List Endpoint :=
  [⟨.get, ["hotspot", "active"], "HotspotActive.List"⟩,
    ⟨.get, ["hotspot", "active", "count"], "HotspotActive.Count"⟩,
    ⟨.get, ["hotspot", "active", ":id"], "HotspotActive.Get"⟩]

def hotspotActiveWrite : List Endpoint :=
  [⟨.delete, ["hotspot", "active", ":id"], "HotspotActive.Kick"⟩]

def hotspotHost : List Endpoint :=
  [⟨.get, ["hotspot", "hosts"], "HotspotHost.List"⟩,
    ⟨.delete, ["hotspot", "hosts", ":id"], "HotspotHost.Delete"⟩]

def hotspotCookie : List Endpoint :=
  [⟨.get, ["hotspot", "cookies"], "HotspotCookie.List"⟩,
    ⟨.get, ["hotspot", "cookies", "count"], "HotspotCookie.Count"⟩,
    ⟨.delete, ["hotspot", "cookies", ":id"], "HotspotCookie.Delete"⟩]

def hotspotBindingRead : List Endpoint :=
  [⟨.get, ["hotspot", "bindings"], "HotspotBinding.List"⟩,
    ⟨.get, ["hotspot", "bindings", "count"], "HotspotBinding.Count"⟩,
    ⟨.get, ["hotspot", "bindings", ":id"], "HotspotBinding.Get"⟩]

def hotspotBindingWrite : List Endpoint :=
  [⟨.patch, ["hotspot", "bindings", ":id", "type"], "HotspotBinding.SetType"⟩,
    ⟨.patch, ["hotspot", "bindings", ":id", "disabled"], "HotspotBinding.SetDisabled"⟩,
    ⟨.delete, ["hotspot", "bindings", ":id"], "HotspotBinding.Delete"⟩]

def hotspotVoucherWrite : List Endpoint :=
  [⟨.post, ["hotspot", "vouchers", "generate"], "HotspotVoucher.Generate"⟩]

def networkInterface : List Endpoint := [⟨.get, ["network", "interfaces"], "NetworkInterface.List"⟩]

def networkPoolRead : List Endpoint :=
  [⟨.get, ["network", "pools"], "NetworkPool.List"⟩,
    ⟨.get, ["network", "pools", "by-name", ":name"], "NetworkPool.GetByName"⟩]

def networkPoolWrite : List Endpoint :=
  [⟨.post, ["network", "pools"], "NetworkPool.Create"⟩,
    ⟨.put, ["network", "pools", ":id"], "NetworkPool.Update"⟩,
    ⟨.delete, ["network", "pools", ":id"], "NetworkPool.Delete"⟩]

def networkARPRead : List Endpoint := [⟨.get, ["network", "arp"], "NetworkARP.List"⟩]

def networkARPWrite : List Endpoint := [⟨.delete, ["network", "arp", ":id"], "NetworkARP.Delete"⟩]

def networkDHCPRead : List Endpoint :=
  [⟨.get, ["network", "dhcp-leases"], "NetworkDHCP.List"⟩,
    ⟨.get, ["network", "dhcp-leases", "count"], "NetworkDHCP.Count"⟩]

def networkDHCPWrite : List Endpoint :=
  [⟨.delete, ["network", "dhcp-leases", ":id"], "NetworkDHCP.Delete"⟩]

def networkQueueRead : List Endpoint := [⟨.get, ["network", "queues"], "NetworkQueue.List"⟩]

def networkQueueWrite : List Endpoint :=
  [⟨.delete, ["network", "queues", ":id"], "NetworkQueue.Delete"⟩]

def pppSecretRead : List Endpoint :=
  [⟨.get, ["ppp", "secrets"], "PPPSecret.List"⟩,
    ⟨.get, ["ppp", "secrets", "by-name", ":name"], "PPPSecret.GetByName"⟩]

def pppSecretWrite : List Endpoint :=
  [⟨.post, ["ppp", "secrets"], "PPPSecret.Create"⟩,
    ⟨.post, ["ppp", "secrets", "batch-delete"], "PPPSecret.BatchDelete"⟩,
    ⟨.post, ["ppp", "secrets", "bulk-delete"], "PPPSecret.BatchDelete"⟩,
    ⟨.put, ["ppp", "secrets", ":id"], "PPPSecret.Update"⟩,
    ⟨.patch, ["ppp", "secrets", ":id", "disabled"], "PPPSecret.SetDisabled"⟩,
    ⟨.delete, ["ppp", "secrets", ":id"], "PPPSecret.Delete"⟩]

def pppSecretAdmin : List Endpoint :=
  [⟨.get, ["ppp", "secrets", ":id", "password"], "PPPSecret.RevealPassword"⟩]

def pppProfileRead : List Endpoint :=
  [⟨.get, ["ppp", "profiles"], "PPPProfile.List"⟩,
    ⟨.get, ["ppp", "profiles", "by-name", ":name"], "PPPProfile.GetByName"⟩]

def pppProfileWrite : List Endpoint :=
  [⟨.post, ["ppp", "profiles"], "PPPProfile.Create"⟩,
    ⟨.put, ["ppp", "profiles", ":id"], "PPPProfile.Update"⟩,
    ⟨.delete, ["ppp", "profiles", ":id"], "PPPProfile.Delete"⟩]

def pppActiveRead : List Endpoint := [⟨.get, ["ppp", "active"], "PPPActive.List"⟩]

def pppActiveWrite : List Endpoint := [⟨.delete, ["ppp", "active", ":id"], "PPPActive.Delete"⟩]

def stream : List Endpoint :=
  [⟨.get, ["stream", "hotspot", "active"], "Stream.HotspotActive"⟩,
    ⟨.get, ["stream", "hotspot", "users"], "Stream.HotspotUsers"⟩,
    ⟨.get, ["stream", "hotspot", "inactive"], "Stream.HotspotInactive"⟩,
    ⟨.get, ["stream", "ppp", "active"], "Stream.PPPActive"⟩,
    ⟨.get, ["stream", "ppp", "secrets"], "Stream.PPPSecrets"⟩,
    ⟨.get, ["stream", "ppp", "inactive"], "Stream.PPPInactive"⟩,
    ⟨.get, ["stream", "log"], "Stream.Log"⟩,
    ⟨.get, ["stream", "system", "resource"], "Stream.SystemResource"⟩,
    ⟨.get, ["stream", "network", "interfaces", ":name", "traffic"], "Stream.InterfaceTraffic"⟩,
    ⟨.get, ["stream", "network", "interfaces", "stats"], "Stream.InterfaceStats"⟩,
    ⟨.get, ["stream", "network", "queues", "stats"], "Stream.QueueStats"⟩,
    ⟨.get, ["stream", "network", "queues", "stats", ":name"], "Stream.QueueStatsByName"⟩,
    ⟨.get, ["stream", "network", "queues", "parents", "stats"], "Stream.ParentQueueStats"⟩,
    ⟨.get, ["stream", "system", "routerboard"], "Stream.SystemRouterboard"⟩,
    ⟨.get, ["stream", "ping"], "Stream.Ping"⟩]

def history : List Endpoint :=
  [⟨.get, ["history", "resource"], "History.Resource"⟩,
    ⟨.get, ["history", "interfaces"], "History.Interfaces"⟩,
    ⟨.get, ["history", "hotspot", "users"], "History.HotspotUsers"⟩,
    ⟨.get, ["history", "hotspot", "active"], "History.HotspotActive"⟩,
    ⟨.get, ["history", "ppp", "active"], "History.PPPActive"⟩,
    ⟨.get, ["history", "queues"], "History.Queues"⟩]

def report : List Endpoint :=
  [⟨.get, ["reports", "selling"], "Report.SellingList"⟩,
    ⟨.get, ["reports", "selling", "today"], "Report.SellingToday"⟩,
    ⟨.get, ["reports", "selling", "summary"], "Report.SellingSummary"⟩,
    ⟨.get, ["reports", "selling.csv"], "Report.SellingCSV"⟩,
    ⟨.get, ["reports", "daily"], "Report.Daily"⟩, ⟨.get, ["reports", "monthly"], "Report.Monthly"⟩,
    ⟨.get, ["reports", "resume"], "Report.Resume"⟩,
    ⟨.get, ["reports", "summary"], "Report.Summary"⟩,
    ⟨.get, ["reports", "sales"], "Report.SalesListPaginated"⟩,
    ⟨.post, ["reports", "sales"], "Report.RecordSale"⟩,
    ⟨.post, ["reports", "import"], "Report.ImportSales"⟩]

def reportFinancial : List Endpoint :=
  [⟨.get, ["reports", "financial"], "ReportFinancial.Monthly"⟩,
    ⟨.get, ["reports", "aging"], "ReportFinancial.Aging"⟩,
    ⟨.get, ["reports", "churn"], "ReportFinancial.Churn"⟩,
    ⟨.get, ["reports", "dashboard"], "ReportFinancial.Dashboard"⟩]

def profileConfigRead : List Endpoint :=
  [⟨.get, ["hotspot", "profile-configs"], "ProfileConfig.List"⟩,
    ⟨.get, ["hotspot", "profile-configs", ":profile_name"], "ProfileConfig.Get"⟩]

def profileConfigWrite : List Endpoint :=
  [⟨.post, ["hotspot", "profile-configs", "sync"], "ProfileConfig.Sync"⟩,
    ⟨.put, ["hotspot", "profile-configs", ":profile_name"], "ProfileConfig.Upsert"⟩,
    ⟨.delete, ["hotspot", "profile-configs", ":profile_name"], "ProfileConfig.Delete"⟩]

def pppProfilesRead : List Endpoint :=
  [⟨.get, ["ppp-profiles"], "PPPProfiles.List"⟩, ⟨.get, ["ppp-profiles", ":id"], "PPPProfiles.Get"⟩]

def pppProfilesWrite : List Endpoint :=
  [⟨.post, ["ppp-profiles"], "PPPProfiles.Create"⟩,
    ⟨.post, ["ppp-profiles", "sync"], "PPPProfiles.Sync"⟩,
    ⟨.put, ["ppp-profiles", ":id"], "PPPProfiles.Update"⟩,
    ⟨.delete, ["ppp-profiles", ":id"], "PPPProfiles.Delete"⟩]

def hotspotProfilesRead : List Endpoint :=
  [⟨.get, ["hotspot-profiles"], "HotspotProfiles.List"⟩,
    ⟨.get, ["hotspot-profiles", ":id"], "HotspotProfiles.Get"⟩]

def hotspotProfilesWrite : List Endpoint :=
  [⟨.post, ["hotspot-profiles"], "HotspotProfiles.Create"⟩,
    ⟨.post, ["hotspot-profiles", "sync"], "HotspotProfiles.Sync"⟩,
    ⟨.put, ["hotspot-profiles", ":id"], "HotspotProfiles.Update"⟩,
    ⟨.delete, ["hotspot-profiles", ":id"], "HotspotProfiles.Delete"⟩]

def quickPrintRead : List Endpoint :=
  [⟨.get, ["quick-print"], "QuickPrint.List"⟩, ⟨.get, ["quick-print", ":name"], "QuickPrint.Get"⟩]

def quickPrintWrite : List Endpoint :=
  [⟨.post, ["quick-print"], "QuickPrint.Create"⟩,
    ⟨.put, ["quick-print", ":name"], "QuickPrint.Update"⟩,
    ⟨.delete, ["quick-print", ":name"], "QuickPrint.Delete"⟩]

def customersRead : List Endpoint :=
  [⟨.get, ["customers"], "Customers.List"⟩, ⟨.get, ["customers", ":id"], "Customers.Get"⟩]

def customersAdmin : List Endpoint :=
  [⟨.post, ["customers", ":id", "portal-password"], "Customers.SetPortalPassword"⟩,
    ⟨.get, ["customers", ":id", "portal-password"], "Customers.RevealPortalPassword"⟩,
    ⟨.post, ["customers", ":id", "portal-password", "reset"], "Customers.ResetPortalPassword"⟩]

def customersMutate : List Endpoint :=
  [⟨.post, ["customers"], "Customers.Create"⟩,
    ⟨.post, ["customers", "batch-delete"], "Customers.BatchDelete"⟩,
    ⟨.put, ["customers", ":id"], "Customers.Update"⟩,
    ⟨.delete, ["customers", ":id"], "Customers.Delete"⟩]

def subscriptionsRead : List Endpoint :=
  [⟨.get, ["subscriptions"], "Subscriptions.List"⟩,
    ⟨.get, ["subscriptions", ":id"], "Subscriptions.Get"⟩]

def subscriptionsWrite : List Endpoint :=
  [⟨.post, ["subscriptions"], "Subscriptions.Create"⟩,
    ⟨.post, ["subscriptions", "batch-delete"], "Subscriptions.BatchDelete"⟩,
    ⟨.put, ["subscriptions", ":id"], "Subscriptions.Update"⟩,
    ⟨.patch, ["subscriptions", ":id", "status"], "Subscriptions.PatchStatus"⟩,
    ⟨.post, ["subscriptions", ":id", "reconcile"], "Subscriptions.Reconcile"⟩,
    ⟨.delete, ["subscriptions", ":id"], "Subscriptions.Delete"⟩]

def subscriptionsAdmin : List Endpoint :=
  [⟨.get, ["subscriptions", ":id", "password"], "Subscriptions.RevealPassword"⟩]

def subscriptionsDevice : List Endpoint :=
  [⟨.get, ["subscriptions"], "Subscriptions.DeviceSubscriptions"⟩]

def settingsRead : List Endpoint := [⟨.get, ["settings"], "Settings.List"⟩]

def settingsWrite : List Endpoint :=
  [⟨.put, ["settings", ":key"], "Settings.Update"⟩,
    ⟨.post, ["settings", "payment-gateway", "test"], "Settings.TestPaymentGateway"⟩]

def invoicesRead : List Endpoint :=
  [⟨.get, ["invoices"], "Invoices.List"⟩, ⟨.get, ["invoices", ":id"], "Invoices.Get"⟩]

def invoicesWrite : List Endpoint :=
  [⟨.post, ["invoices", "generate"], "Invoices.Generate"⟩,
    ⟨.post, ["invoices", ":id", "cancel"], "Invoices.Cancel"⟩]

def paymentsRead : List Endpoint :=
  [⟨.get, ["payments"], "Payments.List"⟩, ⟨.get, ["payments", "stream"], "Payments.StreamPayments"⟩,
    ⟨.get, ["payments", ":id"], "Payments.Get"⟩]

def paymentsWrite : List Endpoint :=
  [⟨.post, ["payments"], "Payments.Create"⟩, ⟨.post, ["payments", "collect"], "Payments.Collect"⟩,
    ⟨.post, ["payments", ":id", "confirm"], "Payments.Confirm"⟩,
    ⟨.post, ["payments", ":id", "reject"], "Payments.Reject"⟩]

def auditLogs : List Endpoint := [⟨.get, ["audit-logs"], "AuditLogs.List"⟩]

def messageTemplates : List Endpoint :=
  [⟨.get, ["message-templates"], "MessageTemplates.List"⟩,
    ⟨.get, ["message-templates", ":slug"], "MessageTemplates.Get"⟩,
    ⟨.put, ["message-templates", ":slug"], "MessageTemplates.Update"⟩]

def notifications : List Endpoint := [⟨.get, ["notifications"], "Notifications.List"⟩]

def whatsApp : List Endpoint :=
  [⟨.get, ["whatsapp", "status"], "WhatsApp.Status"⟩, ⟨.get, ["whatsapp", "qr"], "WhatsApp.QR"⟩,
    ⟨.post, ["whatsapp", "pair-phone"], "WhatsApp.PairPhone"⟩,
    ⟨.post, ["whatsapp", "logout"], "WhatsApp.Logout"⟩,
    ⟨.post, ["whatsapp", "test"], "WhatsApp.Test"⟩,
    ⟨.get, ["whatsapp", "contacts"], "WhatsApp.Contacts"⟩,
    ⟨.get, ["whatsapp", "groups"], "WhatsApp.Groups"⟩]

def telegramTest : List Endpoint := [⟨.post, ["telegram", "test"], "WhatsApp.TelegramTest"⟩]

def notificationEvents : List Endpoint :=
  [⟨.get, ["notification-events"], "NotificationEvents.List"⟩,
    ⟨.put, ["notification-events", ":event"], "NotificationEvents.Update"⟩]

def registrationsPublic : List Endpoint :=
  [⟨.post, ["public", "registrations"], "Registrations.SubmitPublic"⟩]

def registrationsStaff : List Endpoint :=
  [⟨.get, ["registrations"], "Registrations.List"⟩,
    ⟨.get, ["registrations", ":id"], "Registrations.Get"⟩,
    ⟨.post, ["registrations", ":id", "approve"], "Registrations.Approve"⟩,
    ⟨.post, ["registrations", ":id", "reject"], "Registrations.Reject"⟩,
    ⟨.post, ["registrations", ":id", "cancel"], "Registrations.Cancel"⟩,
    ⟨.put, ["registrations", ":id", "assign"], "Registrations.Assign"⟩,
    ⟨.post, ["registrations", ":id", "complete-install"], "Registrations.CompleteInstall"⟩]

def publicPackages : List Endpoint := [⟨.get, ["public", "packages"], "PublicPackages.List"⟩]

def customerAuth : List Endpoint := [⟨.post, ["customer", "login"], "CustomerAuth.Login"⟩]

def customerPortal : List Endpoint :=
  [⟨.get, ["customer", "me"], "CustomerPortal.Me"⟩,
    ⟨.get, ["customer", "subscriptions"], "CustomerPortal.Subscriptions"⟩,
    ⟨.get, ["customer", "subscriptions", ":id", "status"], "CustomerPortal.SubscriptionStatus"⟩,
    ⟨.get, ["customer", "invoices"], "CustomerPortal.ListInvoices"⟩,
    ⟨.get, ["customer", "invoices", ":id"], "CustomerPortal.GetInvoice"⟩,
    ⟨.post, ["customer", "invoices", ":id", "pay"], "CustomerPortal.PayInvoice"⟩,
    ⟨.get, ["customer", "payments"], "CustomerPortal.PaymentHistory"⟩,
    ⟨.post, ["customer", "change-password"], "CustomerPortal.ChangePassword"⟩,
    ⟨.get, ["customer", "payment-gateway", "status"], "CustomerPortal.GetGatewayStatus"⟩]

def upload : List Endpoint := [⟨.post, ["customer", "upload"], "Upload.UploadFile"⟩]

def ticketsCustomer : List Endpoint :=
  [⟨.get, ["customer", "tickets"], "Tickets.ListMine"⟩,
    ⟨.post, ["customer", "tickets"], "Tickets.CreateMine"⟩]

def ticketsStaff : List Endpoint :=
  [⟨.get, ["tickets"], "Tickets.List"⟩, ⟨.get, ["tickets", ":id"], "Tickets.Get"⟩,
    ⟨.post, ["tickets"], "Tickets.Create"⟩,
    ⟨.patch, ["tickets", ":id", "status"], "Tickets.PatchStatus"⟩,
    ⟨.post, ["tickets", ":id", "assign"], "Tickets.Assign"⟩,
    ⟨.post, ["tickets", ":id", "resolve"], "Tickets.Resolve"⟩,
    ⟨.delete, ["tickets", ":id"], "Tickets.Delete"⟩]

end Endpoints

section Routes

/-- Which of the dependencies that decide on routes are not nil. -/
structure Deps where
  txStore : Bool
  profileStore : Bool
  deviceStore : Bool
  xenditGateway : Bool
  ipLimiter : Bool
  userLimiter : Bool
  heavyLimiter : Bool
  authService : Bool
  authSigner : Bool
  influxReader : Bool
  invoiceStore : Bool
  subscriptionStore : Bool
  pppProfileStore : Bool
  hotspotStore : Bool
  quickPrintStore : Bool
  customerStore : Bool
  settingStore : Bool
  sequenceStore : Bool
  paymentStore : Bool
  auditLogStore : Bool
  templateStore : Bool
  notificationStore : Bool
  whatsApp : Bool
  registrationStore : Bool
  portalAuth : Bool
  ticketStore : Bool

structure Route where
  method : Method
  path : List String
  handler : String
  chain : List Middleware
  deriving DecidableEq

/-- What a group with its middlewares makes of endpoints. -/
def mount (base : List String) (chain : List Middleware) (endpoints : List Endpoint) : List Route :=
  endpoints.map fun e ↦ ⟨e.method, base ++ e.path, e.handler, chain⟩

variable (d : Deps)

def ipChain : List Middleware := if d.ipLimiter then [.requirePerIPRate] else []

def authChain : List Middleware :=
  (if d.authSigner then [.requireAuth] else []) ++
    (if d.userLimiter then [.requirePerUserRate] else []) ++
    if d.heavyLimiter then [.heavyEndpointsRate] else []

def roleChain (roles : List String) : List Middleware :=
  authChain d ++ if d.authSigner then [.requireRole roles] else []

def roleAdmin : String := "admin"
def roleOperator : String := "operator"

def api : List String := ["api", "v1"]
def deviceBase : List String := api ++ ["devices", ":device_id"]

/-- The endpoints of a connected router. -/
def deviceRoutes : List Route :=
  let dev := mount deviceBase (authChain d ++ [.deviceMiddleware])
  let devAdminOp := mount deviceBase (roleChain d [roleAdmin, roleOperator] ++ [.deviceMiddleware])
  dev systemInfo ++ dev systemLogging ++
    dev systemScriptRead ++ devAdminOp systemScriptWrite ++
    dev systemSchedulerRead ++ devAdminOp systemSchedulerWrite ++
    dev log ++ dev pingCount ++
    mount deviceBase (roleChain d [roleAdmin] ++ [.deviceMiddleware]) systemControl ++
    dev hotspotUserRead ++ devAdminOp hotspotUserWrite ++
    dev hotspotProfileRead ++ devAdminOp hotspotProfileWrite ++
    dev hotspotServer ++
    dev hotspotActiveRead ++ devAdminOp hotspotActiveWrite ++
    dev hotspotHost ++ dev hotspotCookie ++
    dev hotspotBindingRead ++ devAdminOp hotspotBindingWrite ++
    devAdminOp hotspotVoucherWrite ++
    dev networkInterface ++
    dev networkPoolRead ++ devAdminOp networkPoolWrite ++
    dev networkARPRead ++ devAdminOp networkARPWrite ++
    dev networkDHCPRead ++ devAdminOp networkDHCPWrite ++
    dev networkQueueRead ++ devAdminOp networkQueueWrite ++
    dev pppSecretRead ++ devAdminOp pppSecretWrite ++
    dev pppProfileRead ++ devAdminOp pppProfileWrite ++
    dev pppActiveRead ++ devAdminOp pppActiveWrite ++
    devAdminOp pppSecretAdmin ++ devAdminOp hotspotUserAdmin ++
    dev stream ++
    (if d.influxReader then dev history else []) ++
    if d.subscriptionStore && d.customerStore then dev subscriptionsDevice else []

/-- The endpoints below a device that do without its connection. -/
def offlineRoutes : List Route :=
  let scope := mount deviceBase (authChain d)
  let adminOp := mount deviceBase (roleChain d [roleAdmin, roleOperator])
  (if d.txStore && d.deviceStore then scope report else []) ++
    (if d.profileStore then scope profileConfigRead ++ adminOp profileConfigWrite else []) ++
    (if d.pppProfileStore then scope pppProfilesRead ++ adminOp pppProfilesWrite else []) ++
    (if d.hotspotStore then scope hotspotProfilesRead ++ adminOp hotspotProfilesWrite else []) ++
    if d.quickPrintStore then scope quickPrintRead ++ adminOp quickPrintWrite else []

def businessRoutes : List Route :=
  let scope := mount api (authChain d)
  let adminOp := mount api (roleChain d [roleAdmin, roleOperator])
  (if d.invoiceStore && d.subscriptionStore then scope reportFinancial else []) ++
    (if d.customerStore then
      scope customersRead ++ adminOp customersAdmin ++ adminOp customersMutate else []) ++
    (if d.subscriptionStore && d.customerStore then
      scope subscriptionsRead ++ adminOp subscriptionsWrite ++ adminOp subscriptionsAdmin
      else []) ++
    (if d.settingStore then scope settingsRead ++ adminOp settingsWrite else []) ++
    (if d.invoiceStore && d.sequenceStore then scope invoicesRead ++ adminOp invoicesWrite
      else []) ++
    (if d.paymentStore && d.invoiceStore then scope paymentsRead ++ adminOp paymentsWrite
      else []) ++
    (if d.registrationStore then adminOp registrationsStaff else []) ++
    if d.ticketStore then adminOp ticketsStaff else []

def adminRoutes : List Route :=
  let admin := mount api (roleChain d [roleAdmin])
  if d.auditLogStore || d.templateStore || d.notificationStore || d.whatsApp || d.settingStore then
    (if d.auditLogStore then admin auditLogs else []) ++
      (if d.templateStore then admin messageTemplates else []) ++
      (if d.notificationStore then admin notifications else []) ++
      admin whatsApp ++ admin telegramTest ++
      if d.settingStore then admin notificationEvents else []
  else []

def publicRoutes : List Route :=
  let pub := mount api (ipChain d)
  (if d.txStore && d.profileStore && d.deviceStore then mount api [] hookLogin else []) ++
    (if d.xenditGateway then pub xenditWebhook else []) ++
    (if d.authService then pub authPublic else []) ++
    (if d.registrationStore then pub registrationsPublic else []) ++
    (if d.pppProfileStore || d.hotspotStore then pub publicPackages else []) ++
    if d.portalAuth && d.authSigner then pub customerAuth else []

def portalRoutes : List Route :=
  let scope := mount api [.requireCustomerAuth]
  if d.portalAuth && d.authSigner then
    scope customerPortal ++ scope upload ++ if d.ticketStore then scope ticketsCustomer else []
  else []

/-- All that `RegisterRoutes` registers; the order is without meaning to gin. -/
def registerRoutes : List Route :=
  publicRoutes d ++
    (if d.authService then
      mount api (authChain d) authProtected ++ mount api (roleChain d [roleAdmin]) users else []) ++
    mount api (authChain d) devicesRead ++ mount api (roleChain d [roleAdmin]) devicesWrite ++
    deviceRoutes d ++ offlineRoutes d ++ businessRoutes d ++ adminRoutes d ++ portalRoutes d

def serverRoutes : List Route :=
  mount [] [] [⟨.get, ["healthz"], "healthzHandler"⟩, ⟨.get, ["docs", "openapi.yaml"], "docs"⟩,
      ⟨.get, ["docs"], "docs"⟩] ++
    mount ["uploads"] (if d.authSigner then [.requireAnyAuth] else [])
      [⟨.get, [":filename"], "uploads"⟩] ++
    registerRoutes d

end Routes

section Policy

/-- Who may have a request served. -/
inductive Access
  | anyone (throttled : Bool)
  | account
  | customer
  | staff
  | role (roles : List String)
  deriving DecidableEq

def adminAreas : List (List String) :=
  [["auth", "users"], ["audit-logs"], ["message-templates"], ["notifications"],
    ["notification-events"], ["whatsapp"], ["telegram"],
    ["devices", ":device_id", "system", "reboot"], ["devices", ":device_id", "system", "shutdown"]]

def adminOnly (method : Method) (path : List String) : Bool :=
  adminAreas.any (·.isPrefixOf path) ||
    method ≠ .get && (path = ["devices"] || path = ["devices", ":device_id"])

/-- What changes something and is not kept from any of the staff. -/
def openChanges : List (Method × List String) :=
  [(.put, ["auth", "me"]),
    (.delete, ["devices", ":device_id", "hotspot", "hosts", ":id"]),
    (.delete, ["devices", ":device_id", "hotspot", "cookies", ":id"]),
    (.post, ["devices", ":device_id", "system", "logging", "hotspot-disk"]),
    (.post, ["devices", ":device_id", "reports", "sales"]),
    (.post, ["devices", ":device_id", "reports", "import"])]

/-- Passwords are shown, registrations and tickets handled, and things changed by operators. -/
def operatorOnly (method : Method) (path : List String) : Bool :=
  path.getLast? = some "password" || path.getLast? = some "portal-password" ||
    path.head? = some "registrations" || path.head? = some "tickets" ||
    method ≠ .get && (method, path) ∉ openChanges

def signIns : List (List String) :=
  [["auth", "login"], ["auth", "refresh"], ["auth", "logout"], ["customer", "login"]]

def apiAccess (method : Method) (path : List String) : Access :=
  if path.head? = some "hook" then .anyone false
  else if path.head? = some "public" || path ∈ signIns then .anyone true
  else if path.head? = some "customer" then .customer
  else if adminOnly method path then .role [roleAdmin]
  else if operatorOnly method path then .role [roleAdmin, roleOperator]
  else .staff

/-- What the routes are meant to be: a rule by method and path. -/
def access (method : Method) (path : List String) : Access :=
  if path.head? = some "uploads" then .account
  else if api.isPrefixOf path then apiAccess method (path.drop 2)
  else .anyone false

/-- The chain that lets in whom the rule lets in. -/
def Access.chain (d : Deps) : Access → List Middleware
  | .anyone throttled => if throttled then ipChain d else []
  | .account => if d.authSigner then [.requireAnyAuth] else []
  | .customer => [.requireCustomerAuth]
  | .staff => authChain d
  | .role roles => roleChain d roles

/-- The route lets in whom the rule lets in, and may ask for a connected device after that. -/
def Route.Guarded (d : Deps) (r : Route) : Prop :=
  ∃ device : Bool,
    r.chain = (access r.method r.path).chain d ++ if device then [.deviceMiddleware] else []

def AllGuarded (d : Deps) (routes : List Route) : Prop := ∀ r ∈ routes, r.Guarded d

variable {d : Deps}

theorem AllGuarded.append {l m : List Route} (hl : AllGuarded d l) (hm : AllGuarded d m) :
    AllGuarded d (l ++ m) := by
  intro r hr
  rcases List.mem_append.mp hr with hr | hr
  · exact hl r hr
  · exact hm r hr

/-- Endpoints that are there only with some dependency. -/
theorem AllGuarded.given {l : List Route} (b : Bool) (hl : AllGuarded d l) :
    AllGuarded d (if b then l else []) := by
  intro r hr
  split at hr
  · exact hl r hr
  · cases hr

def Ruled (base : List String) (a : Access) (es : List Endpoint) : Bool :=
  es.all fun e ↦ access e.method (base ++ e.path) = a

theorem AllGuarded.mount {base : List String} {a : Access} {es : List Endpoint}
    (h : Ruled base a es = true) : AllGuarded d (mount base (a.chain d) es) := by
  intro r hr
  obtain ⟨e, he, rfl⟩ := List.mem_map.mp hr
  have haccess : access e.method (base ++ e.path) = a := by
    simpa using List.all_eq_true.mp h e he
  refine ⟨false, ?_⟩
  rw [haccess]
  simp

theorem AllGuarded.onDevice {base : List String} {a : Access} {es : List Endpoint}
    (h : Ruled base a es = true) :
    AllGuarded d (Api.mount base (a.chain d ++ [.deviceMiddleware]) es) := by
  intro r hr
  obtain ⟨e, he, rfl⟩ := List.mem_map.mp hr
  have haccess : access e.method (base ++ e.path) = a := by
    simpa using List.all_eq_true.mp h e he
  refine ⟨true, ?_⟩
  rw [haccess]
  rfl

section Tables

/-- The tables of endpoints by the group that they are registered in. -/
def deviceStaff : List (List Endpoint) :=
  [systemInfo, systemLogging, systemScriptRead, systemSchedulerRead, log, pingCount,
    hotspotUserRead, hotspotProfileRead, hotspotServer, hotspotActiveRead, hotspotHost,
    hotspotCookie, hotspotBindingRead, networkInterface, networkPoolRead, networkARPRead,
    networkDHCPRead, networkQueueRead, pppSecretRead, pppProfileRead, pppActiveRead, stream,
    history, subscriptionsDevice, report, profileConfigRead, pppProfilesRead,
    hotspotProfilesRead, quickPrintRead]

def deviceOperator : List (List Endpoint) :=
  [systemScriptWrite, systemSchedulerWrite, hotspotUserWrite, hotspotProfileWrite,
    hotspotActiveWrite, hotspotBindingWrite, hotspotVoucherWrite, networkPoolWrite,
    networkARPWrite, networkDHCPWrite, networkQueueWrite, pppSecretWrite, pppProfileWrite,
    pppActiveWrite, pppSecretAdmin, hotspotUserAdmin, profileConfigWrite, pppProfilesWrite,
    hotspotProfilesWrite, quickPrintWrite]

def apiStaff : List (List Endpoint) :=
  [reportFinancial, customersRead, subscriptionsRead, settingsRead, invoicesRead, paymentsRead,
    authProtected, devicesRead]

def apiOperator : List (List Endpoint) :=
  [customersAdmin, customersMutate, subscriptionsWrite, subscriptionsAdmin, settingsWrite,
    invoicesWrite, paymentsWrite, registrationsStaff, ticketsStaff]

def apiAdmin : List (List Endpoint) :=
  [auditLogs, messageTemplates, notifications, whatsApp, telegramTest, notificationEvents, users,
    devicesWrite]

def apiPublic : List (List Endpoint) :=
  [xenditWebhook, authPublic, registrationsPublic, publicPackages, customerAuth]

def apiCustomer : List (List Endpoint) := [customerPortal, upload, ticketsCustomer]

def openEndpoints : List Endpoint :=
  [⟨.get, ["healthz"], "healthzHandler"⟩, ⟨.get, ["docs", "openapi.yaml"], "docs"⟩,
    ⟨.get, ["docs"], "docs"⟩]

def uploaded : List Endpoint := [⟨.get, [":filename"], "uploads"⟩]

/-- The groups: where their endpoints are, and who may use them. -/
def groups : List (List String × Access × List (List Endpoint)) :=
  [(deviceBase, .staff, deviceStaff),
    (deviceBase, .role [roleAdmin, roleOperator], deviceOperator),
    (deviceBase, .role [roleAdmin], [systemControl]),
    (api, .staff, apiStaff),
    (api, .role [roleAdmin, roleOperator], apiOperator),
    (api, .role [roleAdmin], apiAdmin),
    (api, .anyone true, apiPublic),
    (api, .anyone false, [hookLogin]),
    (api, .customer, apiCustomer),
    ([], .anyone false, [openEndpoints]),
    (["uploads"], .account, [uploaded])]

-- All tables are looked at in one evaluation.
theorem groups_checked :
    groups.all (fun g ↦ g.2.2.all fun es ↦ Ruled g.1 g.2.1 es) = true := by
  decide +kernel

/-- Each table holds what the rule means for its group. -/
theorem ruled_of_mem (base : List String) (a : Access) (tables : List (List Endpoint))
    {es : List Endpoint} (hgroup : (base, a, tables) ∈ groups) (hes : es ∈ tables) :
    Ruled base a es = true := by
  have htables := List.all_eq_true.mp groups_checked (base, a, tables) hgroup
  exact List.all_eq_true.mp htables es hes

end Tables

theorem deviceStaff_ruled : ∀ es ∈ deviceStaff, Ruled deviceBase .staff es = true := by
  intro es hes
  exact ruled_of_mem deviceBase .staff deviceStaff (by simp [groups]) hes

theorem deviceOperator_ruled : ∀ es ∈ deviceOperator,
    Ruled deviceBase (.role [roleAdmin, roleOperator]) es = true := by
  intro es hes
  exact ruled_of_mem deviceBase (.role [roleAdmin, roleOperator]) deviceOperator
    (by simp [groups]) hes

theorem deviceRoutes_guarded : AllGuarded d (deviceRoutes d) := by
  have staff := deviceStaff_ruled
  have operator := deviceOperator_ruled
  simp only [deviceStaff, deviceOperator, List.forall_mem_cons] at staff operator
  have dev {es : List Endpoint} (h : Ruled deviceBase .staff es = true) :
      AllGuarded d (mount deviceBase (authChain d ++ [.deviceMiddleware]) es) := .onDevice h
  have devAdminOp {es : List Endpoint}
      (h : Ruled deviceBase (.role [roleAdmin, roleOperator]) es = true) :
      AllGuarded d
        (mount deviceBase (roleChain d [roleAdmin, roleOperator] ++ [.deviceMiddleware]) es) :=
    .onDevice h
  have admin : AllGuarded d
      (mount deviceBase (roleChain d [roleAdmin] ++ [.deviceMiddleware]) systemControl) :=
    .onDevice (ruled_of_mem deviceBase (.role [roleAdmin]) [systemControl]
      (by simp [groups]) (by simp))
  unfold deviceRoutes
  repeat' first | apply AllGuarded.append | apply AllGuarded.given
  all_goals first
    | exact admin
    | exact dev (by simp only [staff])
    | exact devAdminOp (by simp only [operator])

theorem offlineRoutes_guarded : AllGuarded d (offlineRoutes d) := by
  have staff := deviceStaff_ruled
  have operator := deviceOperator_ruled
  simp only [deviceStaff, deviceOperator, List.forall_mem_cons] at staff operator
  have scope {es : List Endpoint} (h : Ruled deviceBase .staff es = true) :
      AllGuarded d (mount deviceBase (authChain d) es) := .mount h
  have adminOp {es : List Endpoint}
      (h : Ruled deviceBase (.role [roleAdmin, roleOperator]) es = true) :
      AllGuarded d (mount deviceBase (roleChain d [roleAdmin, roleOperator]) es) := .mount h
  unfold offlineRoutes
  repeat' first | apply AllGuarded.append | apply AllGuarded.given
  all_goals first
    | exact scope (by simp only [staff])
    | exact adminOp (by simp only [operator])

section Api

theorem staff_guarded {es : List Endpoint} (h : es ∈ apiStaff) :
    AllGuarded d (mount api (authChain d) es) :=
  .mount (ruled_of_mem api .staff apiStaff (by simp [groups]) h)

theorem operator_guarded {es : List Endpoint} (h : es ∈ apiOperator) :
    AllGuarded d (mount api (roleChain d [roleAdmin, roleOperator]) es) :=
  .mount (ruled_of_mem api (.role [roleAdmin, roleOperator]) apiOperator (by simp [groups]) h)

theorem admin_guarded {es : List Endpoint} (h : es ∈ apiAdmin) :
    AllGuarded d (mount api (roleChain d [roleAdmin]) es) :=
  .mount (ruled_of_mem api (.role [roleAdmin]) apiAdmin (by simp [groups]) h)

theorem businessRoutes_guarded : AllGuarded d (businessRoutes d) := by
  unfold businessRoutes
  repeat' first | apply AllGuarded.append | apply AllGuarded.given
  all_goals first
    | exact staff_guarded (by simp [apiStaff])
    | exact operator_guarded (by simp [apiOperator])

theorem adminRoutes_guarded : AllGuarded d (adminRoutes d) := by
  unfold adminRoutes
  repeat' first | apply AllGuarded.append | apply AllGuarded.given
  all_goals exact admin_guarded (by simp [apiAdmin])

theorem publicRoutes_guarded : AllGuarded d (publicRoutes d) := by
  have hook : AllGuarded d (mount api [] hookLogin) :=
    .mount (ruled_of_mem api (.anyone false) [hookLogin] (by simp [groups]) (by simp))
  have pub {es : List Endpoint} (h : es ∈ apiPublic) : AllGuarded d (mount api (ipChain d) es) :=
    .mount (ruled_of_mem api (.anyone true) apiPublic (by simp [groups]) h)
  unfold publicRoutes
  repeat' first | apply AllGuarded.append | apply AllGuarded.given
  all_goals first
    | exact hook
    | exact pub (by simp [apiPublic])

theorem portalRoutes_guarded : AllGuarded d (portalRoutes d) := by
  have scope {es : List Endpoint} (h : es ∈ apiCustomer) :
      AllGuarded d (mount api [.requireCustomerAuth] es) :=
    .mount (ruled_of_mem api .customer apiCustomer (by simp [groups]) h)
  unfold portalRoutes
  repeat' first | apply AllGuarded.append | apply AllGuarded.given
  all_goals exact scope (by simp [apiCustomer])

theorem registerRoutes_guarded : AllGuarded d (registerRoutes d) := by
  have hprotected : AllGuarded d
      (mount api (authChain d) authProtected ++ mount api (roleChain d [roleAdmin]) users) :=
    .append (staff_guarded (by simp [apiStaff])) (admin_guarded (by simp [apiAdmin]))
  have hdevices : AllGuarded d (mount api (authChain d) devicesRead) :=
    staff_guarded (by simp [apiStaff])
  have hchanges : AllGuarded d (mount api (roleChain d [roleAdmin]) devicesWrite) :=
    admin_guarded (by simp [apiAdmin])
  exact .append (.append (.append (.append (.append (.append (.append (.append
    publicRoutes_guarded (.given _ hprotected)) hdevices) hchanges) deviceRoutes_guarded)
    offlineRoutes_guarded) businessRoutes_guarded) adminRoutes_guarded) portalRoutes_guarded

end Api

/-- The routes are mounted as the rule says, whatever the server is set up with. -/
theorem serverRoutes_guarded : AllGuarded d (serverRoutes d) := by
  have hopen : AllGuarded d (mount [] [] openEndpoints) :=
    .mount (ruled_of_mem [] (.anyone false) [openEndpoints] (by simp [groups]) (by simp))
  have huploads : AllGuarded d (mount ["uploads"]
      (if d.authSigner then [.requireAnyAuth] else []) uploaded) :=
    .mount (ruled_of_mem ["uploads"] .account [uploaded] (by simp [groups]) (by simp))
  exact .append (.append hopen huploads) registerRoutes_guarded

end Policy

section Admission

variable (d : Deps) (j : Jwt) (env : Env) (req : Request)

/-- The tokens that a rule asks for, and what they put into the context. -/
def Access.Grants (ctx : Context) : Access → Prop
  | .anyone _ => ctx = ⟨none, none⟩
  | .account => ∃ token, extractBearerOrQuery req = some token ∧
      ((∃ c, verifyAccess j env.now token = .ok c ∧ ctx = ⟨some c, none⟩) ∨
        (∀ c, verifyAccess j env.now token ≠ .ok c) ∧
          ∃ c, verifyCustomerAccess j env.now token = .ok c ∧ ctx = ⟨none, some c⟩)
  | .customer => ∃ token c, extractBearerOrQuery req = some token ∧
      verifyCustomerAccess j env.now token = .ok c ∧ ctx = ⟨none, some c⟩
  | .staff => ∃ token c, extractBearerOrQuery req = some token ∧
      verifyAccess j env.now token = .ok c ∧ ctx = ⟨some c, none⟩
  | .role roles => ∃ token c, extractBearerOrQuery req = some token ∧
      verifyAccess j env.now token = .ok c ∧ c.role ∈ roles ∧ ctx = ⟨some c, none⟩

/-- The limits of staff: for each user, and for each user and each endpoint that is dear. -/
def UserUnthrottled (method : Method) (path : List String) (ctx : Context) : Prop :=
  (d.userLimiter = true → env.userAllow (userKey req ctx) = true) ∧
    (d.heavyLimiter = true → ∀ endpoint, classifyHeavy method path = some endpoint →
      env.heavyAllow (userKey req ctx ++ ":" ++ endpoint) = true)

def Access.Unthrottled (method : Method) (path : List String) (ctx : Context) : Access → Prop
  | .anyone throttled => throttled = true → d.ipLimiter = true →
      env.ipAllow ("ip:" ++ req.clientIP) = true
  | .account | .customer => True
  | .staff | .role _ => UserUnthrottled d env req method path ctx

section Chains

variable {d j env req} {method : Method} {path : List String} {ctx ctx' : Context}

theorem bind_eq_ok {ε α β : Type} {x : Except ε α} {f : α → Except ε β} {b : β} :
    (x >>= f) = .ok b ↔ ∃ a, x = .ok a ∧ f a = .ok b := by
  cases x with
  | error err =>
    have hnot : ¬∃ a, (Except.error err : Except ε α) = .ok a ∧ f a = .ok b := by simp
    exact iff_of_false (by simp [bind, Except.bind]) hnot
  | ok a => simp [bind, Except.bind]

/-- What a list of middlewares makes of a context. -/
def through (j : Jwt) (env : Env) (req : Request) (method : Method) (path : List String)
    (ms : List Middleware) (ctx : Context) : Except Abort Context :=
  ms.foldlM (fun ctx m ↦ m.run j env req method path ctx) ctx

theorem through_append {l m : List Middleware} :
    through j env req method path (l ++ m) ctx = .ok ctx' ↔ ∃ mid,
      through j env req method path l ctx = .ok mid ∧
        through j env req method path m mid = .ok ctx' := by
  unfold through
  rw [List.foldlM_append]
  exact bind_eq_ok

theorem through_singleton {m : Middleware} :
    through j env req method path [m] ctx = m.run j env req method path ctx := by
  unfold through
  rw [List.foldlM_cons]
  cases m.run j env req method path ctx <;> rfl

/-- A middleware that is there only with some dependency. -/
theorem through_given {b : Bool} {m : Middleware} :
    through j env req method path (if b then [m] else []) ctx = .ok ctx' ↔
      (b = true → m.run j env req method path ctx = .ok ctx') ∧ (b = false → ctx' = ctx) := by
  cases b with
  | false =>
    have hnil : through j env req method path [] ctx = .ok ctx := rfl
    simp only [Bool.false_eq_true, if_false, hnil, Except.ok.injEq, false_implies, true_and,
      forall_const]
    exact eq_comm
  | true => simp [through_singleton]

theorem requireAuth_ok : Middleware.run j env req method path ⟨none, none⟩ .requireAuth = .ok ctx ↔
    Access.Grants j env req ctx .staff := by
  unfold Middleware.run Access.Grants
  dsimp only
  cases extractBearerOrQuery req with
  | none => simp
  | some token =>
    dsimp only
    cases hverify : verifyAccess j env.now token with
    | error err => simp [hverify]
    | ok claims =>
      simp only [Except.ok.injEq, Option.some.injEq, exists_and_left, exists_eq_left', hverify]
      exact eq_comm

theorem requireCustomerAuth_ok :
    Middleware.run j env req method path ⟨none, none⟩ .requireCustomerAuth = .ok ctx ↔
      Access.Grants j env req ctx .customer := by
  unfold Middleware.run Access.Grants
  dsimp only
  cases extractBearerOrQuery req with
  | none => simp
  | some token =>
    dsimp only
    cases hverify : verifyCustomerAccess j env.now token with
    | error err => simp [hverify]
    | ok claims =>
      simp only [Except.ok.injEq, Option.some.injEq, exists_and_left, exists_eq_left', hverify]
      exact eq_comm

theorem requireAnyAuth_ok :
    Middleware.run j env req method path ⟨none, none⟩ .requireAnyAuth = .ok ctx ↔
      Access.Grants j env req ctx .account := by
  unfold Middleware.run Access.Grants
  dsimp only
  cases extractBearerOrQuery req with
  | none => simp
  | some token =>
    dsimp only
    cases hstaff : verifyAccess j env.now token with
    | ok claims =>
      constructor
      · intro h
        exact ⟨token, rfl, .inl ⟨claims, hstaff, (Except.ok.inj h).symm⟩⟩
      · intro h
        obtain ⟨token', htoken, ⟨c, hc, rfl⟩ | ⟨hnot, -⟩⟩ := h
        · obtain rfl := Option.some.inj htoken
          obtain rfl := Except.ok.inj (hstaff.symm.trans hc)
          rfl
        · obtain rfl := Option.some.inj htoken
          exact absurd hstaff (hnot claims)
    | error err =>
      have hnot : ∀ c, verifyAccess j env.now token ≠ .ok c := fun c hc ↦ by
        rw [hstaff] at hc
        cases hc
      cases hcustomer : verifyCustomerAccess j env.now token with
      | ok claims =>
        constructor
        · intro h
          exact ⟨token, rfl, .inr ⟨hnot, claims, hcustomer, (Except.ok.inj h).symm⟩⟩
        · intro h
          obtain ⟨token', htoken, ⟨c, hc, -⟩ | ⟨-, c, hc, rfl⟩⟩ := h
          · obtain rfl := Option.some.inj htoken
            exact absurd hc (hnot c)
          · obtain rfl := Option.some.inj htoken
            obtain rfl := Except.ok.inj (hcustomer.symm.trans hc)
            rfl
      | error err => simp [hstaff, hcustomer]

theorem pass_ok {b : Bool} {err : Abort} :
    (if b then .ok ctx else .error err : Except Abort Context) = .ok ctx' ↔
      ctx' = ctx ∧ b = true := by
  cases b with
  | false => simp
  | true => simpa using eq_comm

theorem perUserRate_ok {b : Bool} :
    through j env req method path (if b then [.requirePerUserRate] else []) ctx = .ok ctx' ↔
      ctx' = ctx ∧ (b = true → env.userAllow (userKey req ctx) = true) := by
  rw [through_given]
  cases b with
  | false => simp
  | true =>
    unfold Middleware.run
    simp only [pass_ok, true_implies, Bool.true_eq_false, false_implies, and_true]

theorem heavyRate_ok {b : Bool} :
    through j env req method path (if b then [.heavyEndpointsRate] else []) ctx = .ok ctx' ↔
      ctx' = ctx ∧ (b = true → ∀ endpoint, classifyHeavy method path = some endpoint →
        env.heavyAllow (userKey req ctx ++ ":" ++ endpoint) = true) := by
  rw [through_given]
  cases b with
  | false => simp
  | true =>
    unfold Middleware.run
    dsimp only
    cases classifyHeavy method path with
    | none => simpa using eq_comm
    | some endpoint =>
      simp only [pass_ok, true_implies, Bool.true_eq_false, false_implies, and_true,
        Option.some.injEq, forall_eq']

theorem authChain_ok (hsigner : d.authSigner = true) :
    through j env req method path (authChain d) ⟨none, none⟩ = .ok ctx ↔
      Access.Grants j env req ctx .staff ∧ UserUnthrottled d env req method path ctx := by
  unfold authChain
  rw [List.append_assoc, through_append, hsigner, if_pos rfl, through_singleton]
  simp only [requireAuth_ok]
  constructor
  · intro h
    obtain ⟨mid, hgrants, hrest⟩ := h
    obtain ⟨mid', huser, hheavy⟩ := through_append.mp hrest
    obtain ⟨rfl, huser⟩ := perUserRate_ok.mp huser
    obtain ⟨rfl, hheavy⟩ := heavyRate_ok.mp hheavy
    exact ⟨hgrants, huser, hheavy⟩
  · intro h
    obtain ⟨hgrants, huser, hheavy⟩ := h
    refine ⟨ctx, hgrants, through_append.mpr ⟨ctx, ?_, ?_⟩⟩
    · exact perUserRate_ok.mpr ⟨rfl, huser⟩
    · exact heavyRate_ok.mpr ⟨rfl, hheavy⟩

theorem roleChain_ok (hsigner : d.authSigner = true) {roles : List String} :
    through j env req method path (roleChain d roles) ⟨none, none⟩ = .ok ctx ↔
      Access.Grants j env req ctx (.role roles) ∧ UserUnthrottled d env req method path ctx := by
  unfold roleChain
  rw [through_append, hsigner]
  simp only [if_true, through_singleton, authChain_ok hsigner]
  constructor
  · intro h
    obtain ⟨mid, ⟨hgrants, hunthrottled⟩, hrole⟩ := h
    obtain ⟨token, c, htoken, hverify, rfl⟩ := hgrants
    unfold Middleware.run at hrole
    dsimp only at hrole
    split at hrole
    next hmem =>
      cases hrole
      exact ⟨⟨token, c, htoken, hverify, hmem, rfl⟩, hunthrottled⟩
    next => cases hrole
  · intro h
    obtain ⟨⟨token, c, htoken, hverify, hmem, rfl⟩, hunthrottled⟩ := h
    refine ⟨_, ⟨⟨token, c, htoken, hverify, rfl⟩, hunthrottled⟩, ?_⟩
    unfold Middleware.run
    dsimp only
    rw [if_pos hmem]

theorem ipChain_ok : through j env req method path (ipChain d) ctx = .ok ctx' ↔
    ctx' = ctx ∧ (d.ipLimiter = true → env.ipAllow ("ip:" ++ req.clientIP) = true) := by
  unfold ipChain
  rw [through_given]
  cases d.ipLimiter with
  | false => simp
  | true =>
    unfold Middleware.run
    simp only [pass_ok, true_implies, Bool.true_eq_false, false_implies, and_true]

theorem device_ok {device : Bool} :
    through j env req method path (if device then [.deviceMiddleware] else []) ctx = .ok ctx' ↔
      ctx' = ctx ∧ (device = true → env.device = true) := by
  rw [through_given]
  cases device with
  | false => simp
  | true =>
    unfold Middleware.run
    simp only [pass_ok, true_implies, Bool.true_eq_false, false_implies, and_true]

/-- The chain of a rule lets in whom the rule lets in. -/
theorem chain_ok (hsigner : d.authSigner = true) (a : Access) :
    through j env req method path (a.chain d) ⟨none, none⟩ = .ok ctx ↔
      a.Grants j env req ctx ∧ a.Unthrottled d env req method path ctx := by
  cases a with
  | anyone throttled =>
    cases throttled with
    | false =>
      have hnil : through j env req method path [] ⟨none, none⟩ = .ok ⟨none, none⟩ := rfl
      simp only [Access.chain, Access.Grants, Access.Unthrottled, Bool.false_eq_true, if_false,
        hnil, Except.ok.injEq, false_implies, and_true]
      exact eq_comm
    | true =>
      simp only [Access.chain, Access.Grants, Access.Unthrottled, if_true, true_implies]
      exact ipChain_ok
  | account =>
    simp only [Access.chain, hsigner, if_true, through_singleton, requireAnyAuth_ok,
      Access.Unthrottled, and_true]
  | customer =>
    simp only [Access.chain, through_singleton, requireCustomerAuth_ok, Access.Unthrottled,
      and_true]
  | staff => exact authChain_ok hsigner
  | role roles => exact roleChain_ok hsigner

end Chains

variable {j env req} in
theorem granted {d : Deps} (hsigner : d.authSigner = true) {r : Route} (hr : r ∈ serverRoutes d)
    {ctx : Context} (hserved : runChain j env req r.method r.path r.chain = .ok ctx) :
    (access r.method r.path).Grants j env req ctx := by
  obtain ⟨device, hchain⟩ := serverRoutes_guarded r hr
  have hthrough : through j env req r.method r.path r.chain ⟨none, none⟩ = .ok ctx := hserved
  rw [hchain, through_append] at hthrough
  obtain ⟨mid, hmid, hrest⟩ := hthrough
  obtain ⟨rfl, -⟩ := device_ok.mp hrest
  exact ((chain_ok hsigner _).mp hmid).1

theorem Access.device_notMem_chain (a : Access) (d : Deps) : .deviceMiddleware ∉ a.chain d := by
  have hauth : .deviceMiddleware ∉ authChain d := by
    unfold authChain
    split <;> split <;> split <;> simp
  cases a with
  | anyone throttled =>
    unfold chain ipChain
    dsimp only
    split <;> try split
    all_goals simp
  | account =>
    unfold chain
    dsimp only
    split <;> simp
  | customer => simp [chain]
  | staff => exact hauth
  | role roles =>
    unfold chain roleChain
    dsimp only
    rw [List.mem_append, not_or]
    refine ⟨hauth, ?_⟩
    split <;> simp

/-- A server with everything it can have. -/
def Deps.full : Deps where
  txStore := true
  profileStore := true
  deviceStore := true
  xenditGateway := true
  ipLimiter := true
  userLimiter := true
  heavyLimiter := true
  authService := true
  authSigner := true
  influxReader := true
  invoiceStore := true
  subscriptionStore := true
  pppProfileStore := true
  hotspotStore := true
  quickPrintStore := true
  customerStore := true
  settingStore := true
  sequenceStore := true
  paymentStore := true
  auditLogStore := true
  templateStore := true
  notificationStore := true
  whatsApp := true
  registrationStore := true
  portalAuth := true
  ticketStore := true

/-- The library where the server has signed one token. -/
def Jwt.one (p : Payload) : Jwt where
  signedString q := if q = p then .ok "jwt" else .error (.new "jwt: no such token")
  parse now token :=
    if token ≠ "jwt" then .error (.other "token signature is invalid")
    else if now < p.exp * 1000000000 then .ok p else .error .expired

def Env.idle (now : Time) : Env := ⟨now, fun _ ↦ true, fun _ ↦ true, fun _ ↦ true, true⟩

def viewerClaims : Claims := (newSigner 0 0).accessClaims 0 "jti" 3 "budi" "viewer"

end Admission

end Rosmon.Api
