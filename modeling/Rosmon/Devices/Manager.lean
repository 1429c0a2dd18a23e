import Rosmon.Handler.Handlers
import Rosmon.Streams.Hub

namespace Rosmon.Devices

open Library Store Handler
open Streams (ClientSet)

structure MikrotikDevice where
  id : ℕ
  displayName : String
  host : String
  port : ℤ
  username : String
  password : String
  useTLS : Bool
  status : String
  lastError : String
  expiryCheckInterval : String
  timeZone : String
  active : Bool
  deleted : Bool
  deriving DecidableEq

instance : Row MikrotikDevice where
  key := MikrotikDevice.id
  withKey n d := { d with id := n }
  key_withKey _ _ := rfl

structure DeviceCreateRequest where
  displayName : String
  host : String
  port : ℤ
  username : String
  password : String
  useTLS : Bool
  expiryCheckInterval : String

def DeviceCreateRequest.toModel (r : DeviceCreateRequest) : MikrotikDevice where
  id := 0
  displayName := r.displayName
  host := r.host
  port := r.port
  username := r.username
  password := r.password
  useTLS := r.useTLS
  status := "disconnected"
  lastError := ""
  expiryCheckInterval := if r.expiryCheckInterval = "" then "2m" else r.expiryCheckInterval
  timeZone := ""
  active := true
  deleted := false

structure DeviceUpdateRequest where
  displayName : String
  host : String
  port : Option ℤ
  username : String
  password : String
  useTLS : Option Bool
  expiryCheckInterval : String
  active : Option Bool

def DeviceUpdateRequest.apply (r : DeviceUpdateRequest) (d : MikrotikDevice) : MikrotikDevice :=
  { d with
    displayName := if r.displayName ≠ "" then r.displayName else d.displayName
    host := if r.host ≠ "" then r.host else d.host
    port := r.port.getD d.port
    username := if r.username ≠ "" then r.username else d.username
    password := if r.password ≠ "" then r.password else d.password
    useTLS := r.useTLS.getD d.useTLS
    expiryCheckInterval :=
      if r.expiryCheckInterval ≠ "" then r.expiryCheckInterval else d.expiryCheckInterval
    active := r.active.getD d.active }

/-- `Updates(d)`: the fields of `d` that have their zero value stay as they are stored. -/
def MikrotikDevice.updates (d stored : MikrotikDevice) : MikrotikDevice :=
  { stored with
    displayName := if d.displayName ≠ "" then d.displayName else stored.displayName
    host := if d.host ≠ "" then d.host else stored.host
    port := if d.port ≠ 0 then d.port else stored.port
    username := if d.username ≠ "" then d.username else stored.username
    password := if d.password ≠ "" then d.password else stored.password
    useTLS := d.useTLS || stored.useTLS
    status := if d.status ≠ "" then d.status else stored.status
    lastError := if d.lastError ≠ "" then d.lastError else stored.lastError
    expiryCheckInterval :=
      if d.expiryCheckInterval ≠ "" then d.expiryCheckInterval else stored.expiryCheckInterval
    timeZone := if d.timeZone ≠ "" then d.timeZone else stored.timeZone
    active := d.active || stored.active }

/-- The devices in the database and the connections to them. For each device `changes` says how
its entry in the active map has come (`true`) and gone, and `hooks` which of
`OnDeviceConnected` (`true`) and `OnDeviceRemoved` have been called. -/
structure World where
  devices : Table MikrotikDevice
  active : ℕ → Option ClientSet
  dialled : ℕ
  opened : List ClientSet
  changes : ℕ → List Bool
  hooks : ℕ → List Bool

/-- An error of the database; a violated unique index is told apart. -/
structure Failure where
  err : Error
  unique : Bool

/-- What the outside offers to a call: a fault of the database, an error of the dial, the
time zone that the router answers with. -/
structure Env where
  fault : Option Failure
  dialError : Option Error
  timeZone : Option String

inductive Call
  | get (id : ℕ)
  | create (d : MikrotikDevice)
  | update (d : MikrotikDevice)
  | delete (id : ℕ)
  | updateStatus (id : ℕ) (status lastError : String)
  | updateTimezone (id : ℕ) (tz : String)
  | dial (d : MikrotikDevice)
  | register (clients : ClientSet)
  | unregister (id : ℕ)
  | clock (clients : ClientSet)
  | onDeviceConnected (d : MikrotikDevice)
  | onDeviceRemoved (id : ℕ)
  | close (clients : ClientSet) (wait : Bool)

def Call.Reply : Call → Type
  | get _ => Except Failure MikrotikDevice
  | create _ => Except Failure MikrotikDevice
  | update _ => Except Failure Unit
  | delete _ => Except Failure Unit
  | updateStatus _ _ _ => Except Failure Unit
  | updateTimezone _ _ => Except Failure Unit
  | dial _ => Except Error ClientSet
  | register _ => Unit
  | unregister _ => Option ClientSet
  | clock _ => Option String
  | onDeviceConnected _ => Unit
  | onDeviceRemoved _ => Unit
  | close _ _ => Unit

abbrev Prog := Program Call Call.Reply

def perform (c : Call) : Prog c.Reply := Program.perform c

namespace World

/-- A row that is not soft-deleted. -/
def live (id : ℕ) (d : MikrotikDevice) : Bool := d.id = id && !d.deleted

instance (d : MikrotikDevice) : KeepsKey d.updates := ⟨fun _ ↦ rfl⟩

instance : KeepsKey fun d : MikrotikDevice ↦ { d with deleted := true } := ⟨fun _ ↦ rfl⟩

instance (status lastError : String) :
    KeepsKey fun d : MikrotikDevice ↦ { d with status, lastError } := ⟨fun _ ↦ rfl⟩

instance (timeZone : String) : KeepsKey fun d : MikrotikDevice ↦ { d with timeZone } :=
  ⟨fun _ ↦ rfl⟩

/-- The entry of a device in the active map changes. -/
def setActive (id : ℕ) (clients : Option ClientSet) (w : World) : World :=
  { w with
    active := Function.update w.active id clients
    changes := Function.update w.changes id (w.changes id ++ [clients.isSome]) }

def callHook (id : ℕ) (connected : Bool) (w : World) : World :=
  { w with hooks := Function.update w.hooks id (w.hooks id ++ [connected]) }

end World

/-- A statement that fails changes nothing. -/
def orFault {α : Type} (e : Env) (w : World) (done : Except Failure α × World) :
    Except Failure α × World :=
  match e.fault with
  | some failure => (.error failure, w)
  | none => done

def Call.exec : (c : Call) → Env → World → c.Reply × World
  | get id, e, w =>
    orFault e w ((w.devices.find (World.live id)).elim
      (.error ⟨.new "record not found", false⟩, w) fun d ↦ (.ok d, w))
  | create d, e, w =>
    orFault e w (.ok { d with id := w.devices.next }, { w with devices := w.devices.insert d })
  -- a deleted row is not found, which is no error
  | update d, e, w =>
    orFault e w (.ok (), { w with devices := w.devices.update (World.live d.id) d.updates })
  | delete id, e, w =>
    orFault e w (.ok (),
      { w with devices := w.devices.update (World.live id) fun d ↦ { d with deleted := true } })
  | updateStatus id status lastError, e, w =>
    orFault e w (.ok (),
      { w with
        devices := w.devices.update (World.live id) fun d ↦ { d with status, lastError } })
  | updateTimezone id timeZone, e, w =>
    orFault e w (.ok (),
      { w with devices := w.devices.update (World.live id) fun d ↦ { d with timeZone } })
  | dial d, e, w =>
    match e.dialError with
    | some err => (.error err, w)
    | none =>
      (.ok ⟨d.id, w.dialled⟩,
        { w with dialled := w.dialled + 1, opened := ⟨d.id, w.dialled⟩ :: w.opened })
  | register clients, _, w => ((), w.setActive clients.device (some clients))
  | unregister id, _, w =>
    match w.active id with
    | none => (none, w)
    | some clients => (some clients, w.setActive id none)
  | clock _, e, w => (e.timeZone, w)
  | onDeviceConnected d, _, w => ((), w.callHook d.id true)
  | onDeviceRemoved id, _, w => ((), w.callHook id false)
  | close clients _, _, w => ((), { w with opened := w.opened.filter (· ≠ clients) })

/-- An error to write a status is only logged. -/
def persistStatus (id : ℕ) (status errMsg : String) : Prog Unit := do
  let _ ← perform (.updateStatus id status errMsg)

def connect (d : MikrotikDevice) : Prog (Except Error Unit) := do
  match ← perform (.dial d) with
  | .error err =>
    persistStatus d.id "error" err.text
    return .error err
  | .ok clients =>
    perform (.register clients)
    persistStatus d.id "connected" ""
    match ← perform (.clock clients) with
    | none => perform (.onDeviceConnected d)
    | some timeZone =>
      if timeZone = "" then perform (.onDeviceConnected d)
      else
        let _ ← perform (.updateTimezone d.id timeZone)
        perform (.onDeviceConnected { d with timeZone })
    return .ok ()

/-- The calls by which a device is connected. -/
def Call.Connects : Call → Prop
  | .dial _ | .register _ | .clock _ | .onDeviceConnected _ => True
  | .updateStatus .. | .updateTimezone .. => True
  | _ => False

theorem connect_only (d : MikrotikDevice) : (connect d).Only Call.Connects := by
  refine ⟨trivial, fun r ↦ ?_⟩
  cases r with
  | error err => exact ⟨trivial, fun _ ↦ trivial⟩
  | ok clients =>
    refine ⟨trivial, fun _ ↦ ⟨trivial, fun _ ↦ ⟨trivial, fun timeZone ↦ ?_⟩⟩⟩
    cases timeZone with
    | none => exact ⟨trivial, fun _ ↦ trivial⟩
    | some timeZone =>
      change (if timeZone = "" then _ else _ : Prog (Except Error Unit)).Only _
      split
      · exact ⟨trivial, fun _ ↦ trivial⟩
      · exact ⟨trivial, fun _ ↦ ⟨trivial, fun _ ↦ trivial⟩⟩

def removeInternal (deviceID : ℕ) (wait : Bool) : Prog Unit := do
  match ← perform (.unregister deviceID) with
  | none => return ()
  | some clients =>
    perform (.onDeviceRemoved deviceID)
    perform (.close clients wait)

/-- The device that a request has saved, with a warning if it is not connected. -/
structure DeviceWriteResponse where
  device : MikrotikDevice
  warning : String

def duplicateOr {α : Type} (failure : Failure) : Response α :=
  if failure.unique then
    .failure 409 "DUPLICATE_DEVICE" "a device with this host and port already exists"
  else writeErr failure.err

/-- `Devices.Create`. -/
def create (req : DeviceCreateRequest) : Prog (Response (Option DeviceWriteResponse)) := do
  match ← perform (.create req.toModel) with
  | .error failure => return duplicateOr failure
  | .ok d =>
    match ← connect d with
    | .error err =>
      return .success 201 (some ⟨d, "device saved but connection failed: " ++ err.text⟩)
    | .ok () => return .success 201 (some ⟨d, ""⟩)

/-- `Devices.Update`. -/
def update (id : ℕ) (req : DeviceUpdateRequest) : Prog (Response (Option DeviceWriteResponse)) := do
  match ← perform (.get id) with
  | .error failure => return writeErr failure.err
  | .ok existing =>
    let existing := req.apply existing
    match ← perform (.update existing) with
    | .error failure => return duplicateOr failure
    | .ok () =>
      removeInternal existing.id true
      match ← connect existing with
      | .error err =>
        return .success 200 (some ⟨existing, "device updated but reconnect failed: " ++ err.text⟩)
      | .ok () => return .success 200 (some ⟨existing, ""⟩)

/-- `Devices.Delete`. -/
def delete (id : ℕ) : Prog (Response (Option DeviceWriteResponse)) := do
  match ← perform (.get id) with
  | .error failure => return writeErr failure.err
  | .ok d =>
    match ← perform (.delete id) with
    | .error failure => return writeErr failure.err
    | .ok () =>
      removeInternal d.id false
      return .success 204 none

inductive Request
  | create (req : DeviceCreateRequest)
  | update (id : ℕ) (req : DeviceUpdateRequest)
  | delete (id : ℕ)

def Request.prog : Request → Prog (Response (Option DeviceWriteResponse))
  | .create req => Devices.create req
  | .update id req => Devices.update id req
  | .delete id => Devices.delete id

end Rosmon.Devices
