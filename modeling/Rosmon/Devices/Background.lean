import Rosmon.Devices.Manager
import Rosmon.Library.Tasks

namespace Rosmon.Devices

open Library Program

/-- The keep-alive subscribers of `netstream.Manager`, two for a device. -/
structure Netstream where
  queue : Tasks ℕ
  iface : Tasks ℕ

/-- What the outside offers to a call, and whether the two brokers accept a subscriber. -/
structure Outside extends Env where
  queueSubscribes : Bool
  ifaceSubscribes : Bool

/-- The devices and what runs for them. Without `influx` there is no metrics service. -/
structure Server where
  world : World
  hooked : Bool
  influx : Bool
  expiry : Tasks ℕ
  metrics : Tasks ℕ
  netstream : Netstream

def Netstream.startDevice (n : Netstream) (influx : Bool) (o : Outside) (deviceID : ℕ) :
    Netstream :=
  if influx then
    ⟨n.queue.attempt o.queueSubscribes deviceID, n.iface.attempt o.ifaceSubscribes deviceID⟩
  else n

def Netstream.stopDevice (n : Netstream) (deviceID : ℕ) : Netstream :=
  ⟨n.queue.stop deviceID, n.iface.stop deviceID⟩

namespace Server

section Hooks

def onDeviceConnected (s : Server) (o : Outside) (d : MikrotikDevice) : Server :=
  { s with
    expiry := s.expiry.ensure d.id
    metrics :=
      if s.influx && (s.world.active d.id).isSome then s.metrics.ensure d.id else s.metrics
    netstream :=
      if (s.world.active d.id).isSome then s.netstream.startDevice s.influx o d.id
      else s.netstream }

def onDeviceRemoved (s : Server) (deviceID : ℕ) : Server :=
  { s with
    expiry := s.expiry.stop deviceID
    metrics := if s.influx then s.metrics.stop deviceID else s.metrics
    netstream := s.netstream.stopDevice deviceID }

/-- The hooks do nothing until `main` has set them. -/
def serve : (c : Call) → Outside → Server → c.Reply × Server
  | .onDeviceConnected d, o, s =>
    ((), if s.hooked then { s with world := s.world.callHook d.id true }.onDeviceConnected o d
      else s)
  | .onDeviceRemoved id, _, s =>
    ((), if s.hooked then { s with world := s.world.callHook id false }.onDeviceRemoved id else s)
  | c, o, s => ((c.exec o.toEnv s.world).1, { s with world := (c.exec o.toEnv s.world).2 })

end Hooks

section Boot

/-- `DeviceStore.List`. -/
def list (s : Server) : List MikrotikDevice :=
  s.world.devices.rows.filter fun d ↦ d.active && !d.deleted

/-- `ListActive`: the devices that are connected at boot have rows. -/
def listActive (s : Server) : List ℕ :=
  (s.world.devices.rows.map (·.id)).filter fun id ↦ (s.world.active id).isSome

/-- `devmgr.Manager.Start`: an error to connect is only logged. -/
def startManager (devices : List MikrotikDevice) : Prog PUnit :=
  devices.forM fun d ↦ do let _ ← connect d

def startExpiry (s : Server) : Server :=
  { s with expiry := (s.list.map (·.id)).foldl Tasks.start s.expiry }

def startMetrics (s : Server) : Server :=
  { s with metrics := if s.influx then s.listActive.foldl Tasks.start s.metrics else s.metrics }

def startNetstream (subscribes : ℕ → Outside) (s : Server) : Server :=
  { s with
    netstream := s.listActive.foldl
      (fun n id ↦ n.startDevice s.influx (subscribes id) id) s.netstream }

/-- Before `main` has started anything. -/
def initial (influx : Bool) (devices : Table MikrotikDevice) : Server where
  world := ⟨devices, fun _ ↦ none, 0, [], fun _ ↦ [], fun _ ↦ []⟩
  hooked := false
  influx := influx
  expiry := .empty
  metrics := .empty
  netstream := ⟨.empty, .empty⟩

/-- `main` up to the moment at which requests are served. -/
def boot (influx : Bool) (devices : Table MikrotikDevice) (env subscribes : ℕ → Outside) :
    Server :=
  let s := initial influx devices
  let s := ((startManager s.list).run serve env s).2
  let s := s.startExpiry.startMetrics.startNetstream subscribes
  { s with hooked := true }

end Boot

/-- A request that is alone. -/
def handle (s : Server) (a : Request × (ℕ → Outside)) : Server := (a.1.prog.run serve a.2 s).2

/-- What runs in the background follows the devices. -/
structure InStep (s : Server) : Prop where
  attended : ∀ id, (s.world.active id).isSome → s.expiry.count id = 1
  single : ∀ id, s.expiry.count id ≤ 1
  ended : ∀ d ∈ s.world.devices, d.deleted = true →
    s.expiry.count d.id = 0 ∧ s.metrics.count d.id = 0 ∧
      s.netstream.queue.count d.id = 0 ∧ s.netstream.iface.count d.id = 0

/-- The request gets as far as to delete the row of the device. -/
def Deletes (s : Server) (a : Request × (ℕ → Outside)) (id : ℕ) : Prop :=
  a.1 = .delete id ∧ (a.2 0).fault = none ∧ (a.2 1).fault = none ∧
    ∃ d ∈ s.world.devices, World.live id d = true

/-- No row is deleted of a device that is not connected and has a checker. -/
def Parted (s : Server) (a : Request × (ℕ → Outside)) : Prop :=
  ∀ id, Deletes s a id → (s.world.active id).isSome ∨ s.expiry.count id = 0

end Server

end Rosmon.Devices
