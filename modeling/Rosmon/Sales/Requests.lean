import Rosmon.Go.Numbers
import Rosmon.Library.Pool
import Rosmon.Profiles.Store
import Rosmon.Reports.Transactions
import Rosmon.Rosfmt.Duration
import Rosmon.Webhook.LoginHook

namespace Rosmon.Sales

open Go Library Program Store Scripts Rosfmt
open Profiles (HotspotProfile HotspotColumns zeroTime)
open Handler (Response writeErr)
open Webhook (LoginForm readLogin)

/-- A row of `transactions`. What comes from a form need not be UTF-8. -/
structure Sale where
  id : ℕ
  deviceID : ℕ
  saleDate : String
  saleTime : String
  saleMonth : String
  username : List UInt8
  price : ℤ
  sellPrice : ℤ
  ip : List UInt8
  mac : List UInt8
  validity : String
  profile : List UInt8
  comment : String
  createdAt : Time
  deriving DecidableEq

instance : Row Sale where
  key := Sale.id
  withKey n r := { r with id := n }
  key_withKey _ _ := rfl

def loginEventComment : String := "login"

section Modes

def parseExpiredMode (s : String) : Option ExpiredMode :=
  if s = "" ∨ s = "none" ∨ s = "0" then some .none
  else if s = "rem" then some .remove
  else if s = "ntf" then some .notice
  else if s = "remc" then some .removeRecord
  else if s = "ntfc" then some .noticeRecord
  else none

def recordsTransaction (m : ExpiredMode) : Bool := m = .removeRecord || m = .noticeRecord

/-- A profile whose logins are sales. -/
def Records (cfg : HotspotColumns) : Prop :=
  ∃ mode, parseExpiredMode cfg.expiryMode = some mode ∧ recordsTransaction mode = true

/-- How long a sale stands for the logins after it. -/
def window (validity : String) : ℤ :=
  match parseDuration validity with
  | .ok d => if d = 0 then 24 * hour else d
  | .error _ => 24 * hour

/-- From when on a sale counts for a login at some time. -/
def since (validity : String) (now : Time) : Time := now + wrap64 (-window validity)

theorem since_mono (validity : String) {t u : Time} (h : t ≤ u) :
    since validity t ≤ since validity u :=
  Int.add_le_add_right h _

end Modes

section Calls

inductive LookupError
  | notFound
  | failed (err : Error)

/-- The calls that the two handlers make of the stores and the clock. -/
inductive Call
  | device (id : ℕ)
  | profile (deviceID : ℕ) (name : List UInt8)
  | now
  | existsByUserCommentSince (deviceID : ℕ) (username : List UInt8) (comment : String)
      (since : Time)
  | create (tx : Sale)

abbrev Call.Reply : Call → Type
  | device _ => Except LookupError Unit
  | profile _ _ => Except LookupError HotspotProfile
  | now => Time
  | existsByUserCommentSince .. => Except Error Bool
  | create _ => Except Error ℕ

abbrev Prog (α : Type) := Program Call Call.Reply α

abbrev perform (c : Call) : Prog c.Reply := Program.perform c

structure World where
  clock : Time
  sales : Table Sale

/-- What the outside contributes to a call: the error it fails with, the time that passes before
it, and what other requests have made of the devices and of the profiles. -/
structure Env where
  fault : Option Error
  tick : ℕ
  devices : List ℕ
  profiles : Table HotspotProfile

def World.wait (w : World) (tick : ℕ) : World := { w with clock := w.clock + tick }

/-- A time that has not been set is that of the insert. -/
def Sale.stamped (tx : Sale) (now : Time) : Sale :=
  { tx with createdAt := if tx.createdAt = zeroTime then now else tx.createdAt }

def Sale.named (deviceID : ℕ) (username : List UInt8) (comment : String) (tx : Sale) : Bool :=
  tx.deviceID = deviceID && tx.username = username && tx.comment = comment

def Call.exec (c : Call) (e : Env) (w : World) : c.Reply × World :=
  let w := w.wait e.tick
  match c with
  | .device id => match e.fault with
    | some err => (.error (.failed err), w)
    | none => (if id ∈ e.devices then .ok () else .error .notFound, w)
  | .profile deviceID name => match e.fault with
    | some err => (.error (.failed err), w)
    | none =>
      let found := e.profiles.find fun p ↦ p.live && p.deviceID = deviceID && bytes p.name = name
      (found.elim (.error .notFound) .ok, w)
  | .now => (w.clock, w)
  | .existsByUserCommentSince deviceID username comment since => match e.fault with
    | some err => (.error err, w)
    | none =>
      (.ok (w.sales.rows.any fun tx ↦ tx.named deviceID username comment && since < tx.createdAt),
        w)
  | .create tx => match e.fault with
    | some err => (.error err, w)
    | none => (.ok w.sales.next, { w with sales := w.sales.insert (tx.stamped w.clock) })

end Calls

section Handlers

-- The zone of the server.
variable (zone : Zone)

/-- `15:04:05` of a wall clock. -/
def timeText (t : Time) : String :=
  let seconds := t % (24 * hour) / 1000000000
  Service.zeroPad 2 (seconds / 3600) ++ ":" ++ Service.zeroPad 2 (seconds % 3600 / 60) ++ ":" ++
    Service.zeroPad 2 (seconds % 60)

inductive Outcome
  | skipped (reason : String)
  | recorded (transactionID : ℕ)
  | sold
  deriving DecidableEq

abbrev Answer := Response Outcome

/-- `c.JSON(http.StatusOK, dto.OK(..))` -/
def answer (o : Outcome) : Answer := .success 200 o

structure LoginRequest where
  secret : String
  deviceID : String
  body : List UInt8

/-- The row of a login under a profile. -/
def loginSale (deviceID : ℕ) (form : LoginForm) (cfg : HotspotColumns) (now : Time) : Sale where
  id := 0
  deviceID
  saleDate := Reports.dateText (zone.clock now)
  saleTime := timeText (zone.clock now)
  saleMonth := Reports.monthText (zone.clock now)
  username := form.user
  price := cfg.price
  sellPrice := cfg.sellPrice
  ip := form.ip
  mac := form.mac
  validity := cfg.validity
  profile := form.profile
  comment := loginEventComment
  createdAt := zeroTime

/-- `Login` where no sale stands for it. -/
def insertLogin (deviceID : ℕ) (form : LoginForm) (cfg : HotspotColumns) : Prog Answer := do
  let now ← perform .now
  match ← perform (.create (loginSale zone deviceID form cfg now)) with
  | .error _ => return .failure 500 "INTERNAL" "insert transaction failed"
  | .ok id => return answer (.recorded id)

/-- `Login` under a profile that records sales. -/
def recordLogin (deviceID : ℕ) (form : LoginForm) (cfg : HotspotColumns) : Prog Answer := do
  let t ← perform .now
  match ← perform (.existsByUserCommentSince deviceID form.user loginEventComment
      (since cfg.validity t)) with
  | .error _ => return .failure 500 "INTERNAL" "dedup check failed"
  | .ok true => return answer (.skipped "already_recorded")
  | .ok false => insertLogin zone deviceID form cfg

/-- `Login` under a profile. -/
def configuredLogin (deviceID : ℕ) (form : LoginForm) (cfg : HotspotColumns) : Prog Answer :=
  match parseExpiredMode cfg.expiryMode with
  | none => .ret (answer (.skipped "non_recording_mode"))
  | some mode =>
    if recordsTransaction mode then recordLogin zone deviceID form cfg
    else .ret (answer (.skipped "non_recording_mode"))

/-- `Login` of a device that exists. -/
def profileLogin (deviceID : ℕ) (form : LoginForm) : Prog Answer :=
  if form.profile = [] then .ret (answer (.skipped "missing_profile"))
  else do
    match ← perform (.profile deviceID form.profile) with
    | .error .notFound => return answer (.skipped "profile_not_configured")
    | .error (.failed _) => return .failure 500 "INTERNAL" "profile config lookup failed"
    | .ok cfg => configuredLogin zone deviceID form cfg.columns

def login (hookSharedSecret : String) (req : LoginRequest) : Prog Answer :=
  if hookSharedSecret ≠ "" ∧ req.secret ≠ hookSharedSecret then
    .ret (.failure 401 "UNAUTHORIZED" "invalid hook secret")
  else match parseUint req.deviceID with
    | none => .ret (.failure 400 "INVALID_ID" "invalid device id")
    | some deviceID => match readLogin req.body with
      | none => .ret (.failure 400 "VALIDATION" "missing user")
      | some form => do
        match ← perform (.device deviceID) with
        | .error .notFound => return .failure 404 "DEVICE_NOT_FOUND" "device not found"
        | .error (.failed _) => return .failure 500 "INTERNAL" "device lookup failed"
        | .ok _ => profileLogin zone deviceID form

/-- The time of a sale is what `time.Parse` makes of its text, with the zone the text names. -/
structure RecordSaleParams where
  username : String
  profileName : String
  price : ℤ
  validity : String
  ipAddress : String
  macAddress : String
  soldAt : Option (Zone × Time)

/-- The row of a sale that is reported by hand. -/
def reportedSale (deviceID : ℕ) (req : RecordSaleParams) (zone : Zone) (soldAt : Time) : Sale where
  id := 0
  deviceID
  saleDate := Reports.dateText (zone.clock soldAt)
  saleTime := timeText (zone.clock soldAt)
  saleMonth := Reports.saleMonthKey (year (zone.clock soldAt)) (month (zone.clock soldAt))
  username := bytes req.username
  price := req.price
  sellPrice := req.price
  ip := bytes req.ipAddress
  mac := bytes req.macAddress
  validity := req.validity
  profile := bytes req.profileName
  comment := ""
  createdAt := soldAt

def recordSale (deviceID : String) (req : RecordSaleParams) : Prog Answer :=
  match parseUint deviceID with
  | none => .ret (.failure 400 "INVALID_ID" "invalid device id")
  | some deviceID =>
    if req.username = "" then .ret (.failure 400 "VALIDATION" "request validation failed")
    else do
      let now ← perform .now
      let (zone, soldAt) := req.soldAt.getD (zone, now)
      match ← perform (.create (reportedSale deviceID req zone soldAt)) with
      | .error err => return writeErr err
      | .ok _ => return answer .sold

inductive Request
  | login (req : LoginRequest)
  | recordSale (deviceID : String) (req : RecordSaleParams)

def Request.prog (hookSharedSecret : String) : Request → Prog Answer
  | .login req => Sales.login zone hookSharedSecret req
  | .recordSale deviceID req => Sales.recordSale zone deviceID req

end Handlers

end Rosmon.Sales
