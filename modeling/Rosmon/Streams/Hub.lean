import Mathlib.Data.List.Nodup
import Mathlib.Logic.Function.Basic

namespace Rosmon.Streams

/-- The clients of one connection to a device; `serial` tells connections apart. -/
structure ClientSet where
  device : ℕ
  serial : ℕ
  deriving DecidableEq

/-- `<device>:<base>`. -/
structure Topic where
  device : ℕ
  base : String
  deriving DecidableEq

/-- The stream requests about one device, with the texts of their intervals. -/
inductive Endpoint
  | hotspotActive (mode : String)
  | hotspotUsers (mode : String)
  | hotspotInactive
  | pppActive
  | pppSecrets (mode : String)
  | pppInactive
  | log (topics : String)
  | systemResource (interval : String)
  | interfaceTraffic (name : String)
  | interfaceStats (interval : String)
  | queueStats (interval : String)
  | queueStatsByName (name interval : String)
  | parentQueueStats (interval : String)
  | systemRouterboard (interval : String)
  | ping (address : String)
  deriving DecidableEq

namespace Endpoint

def base : Endpoint → String
  | hotspotActive mode =>
    if mode = "follow-only" then "hotspot-active-follow-only" else "hotspot-active"
  | hotspotUsers mode =>
    if mode = "follow-only" then "hotspot-user-follow-only" else "hotspot-user"
  | hotspotInactive => "hotspot-inactive"
  | pppActive => "ppp-active"
  | pppSecrets mode => if mode = "follow-only" then "ppp-secret-follow-only" else "ppp-secret"
  | pppInactive => "ppp-inactive"
  | log topics => if topics = "" then "log:all" else "log:" ++ topics
  | systemResource interval => "resource:" ++ interval
  | interfaceTraffic name => "traffic:" ++ name
  | interfaceStats interval => "interface-stats:" ++ interval
  | queueStats interval => "queue-stats:" ++ interval
  | queueStatsByName name interval => "queue-stats-name:" ++ name ++ ":" ++ interval
  -- the parents are picked out of the stream of all queues
  | parentQueueStats interval => "queue-stats:" ++ interval
  | systemRouterboard interval => "routerboard:" ++ interval
  | ping address => "ping:" ++ address

/-- A ping without an address is refused before it gets to the hub. -/
def accepted : Endpoint → Bool
  | ping address => address ≠ ""
  | _ => true

def topic (e : Endpoint) (device : ℕ) : Topic := ⟨device, e.base⟩

end Endpoint

/-- `clients` are the ones that the two closures of the broker hold. -/
structure Broker where
  clients : ClientSet
  subs : List String
  started : Bool
  deriving DecidableEq

inductive Kind
  | start
  | stop
  deriving DecidableEq

/-- A call of a broker's `onStart` or `onStop`: the clients it is made on, those the device
has at that moment, and whether the former have been closed. -/
structure Use where
  kind : Kind
  topic : Topic
  clients : ClientSet
  registered : Option ClientSet
  closed : Bool
  deriving DecidableEq

/-- The device manager, the hub, the keep-alive subscribers and what has been done to the
backend streams. -/
structure World where
  active : ℕ → Option ClientSet
  dialled : ℕ
  closed : List ClientSet
  brokers : Topic → Option Broker
  keepalive : ℕ → List (Topic × String)
  uses : List Use

namespace World

def blank : World := ⟨fun _ ↦ none, 0, [], fun _ ↦ none, fun _ ↦ [], []⟩

def setBroker (τ : Topic) (b : Broker) (w : World) : World :=
  { w with brokers := Function.update w.brokers τ (some b) }

/-- A call of a closure of the broker while the device has `registered`. -/
def use (kind : Kind) (τ : Topic) (b : Broker) (registered : Option ClientSet) (w : World) :
    World :=
  { w with uses := w.uses ++ [⟨kind, τ, b.clients, registered, decide (b.clients ∈ w.closed)⟩] }

/-- The closures of the first request for a topic are the ones that its broker keeps. -/
def getOrCreate (τ : Topic) (clients : ClientSet) (w : World) : World :=
  match w.brokers τ with
  | some _ => w
  | none => w.setBroker τ ⟨clients, [], false⟩

/-- `opens` says whether `onStart` comes out well. -/
def subscribe (τ : Topic) (clientID : String) (opens : Bool) (w : World) : World × Bool :=
  match w.brokers τ with
  | none => (w, false)
  | some b =>
    if b.started then (w.setBroker τ { b with subs := b.subs.insert clientID }, true)
    else
      let w := w.use .start τ b (w.active τ.device)
      if opens then
        (w.setBroker τ { b with subs := b.subs.insert clientID, started := true }, true)
      else (w, false)

/-- Whether the client is the last subscriber of a started broker. -/
def Broker.isLast (clientID : String) (b : Broker) : Bool :=
  b.started && (b.subs.filter (· ≠ clientID)).isEmpty

def unsubscribe (registered : Option ClientSet) (τ : Topic) (clientID : String) (w : World) :
    World :=
  match w.brokers τ with
  | none => w
  | some b =>
    let subs := b.subs.filter (· ≠ clientID)
    if Broker.isLast clientID b then
      (w.use .stop τ b registered).setBroker τ { b with subs := subs, started := false }
    else w.setBroker τ { b with subs := subs }

/-- The topics that `StartDevice` keeps alive, and the subscribers that do. -/
def kept (device : ℕ) : List (Topic × String) :=
  [((Endpoint.queueStats "1s").topic device, s!"netstream:{device}:queue"),
    ((Endpoint.interfaceStats "1s").topic device, s!"netstream:{device}:iface")]

/-- `keepAlive` on `QueueBroker` or `InterfaceBroker`; a subscriber that could not be
registered is not released later. -/
def keepAlive (clients : ClientSet) (opens : Topic → Bool) (s : World × List (Topic × String))
    (p : Topic × String) : World × List (Topic × String) :=
  let r := (s.1.getOrCreate p.1 clients).subscribe p.1 p.2 (opens p.1)
  (r.1, if r.2 then s.2 ++ [p] else s.2)

def startDevice (influx : Bool) (clients : ClientSet) (opens : Topic → Bool) (w : World) :
    World :=
  if influx then
    let s := (kept clients.device).foldl (keepAlive clients opens) (w, [])
    { s.1 with keepalive := Function.update s.1.keepalive clients.device s.2 }
  else w

def stopDevice (registered : Option ClientSet) (device : ℕ) (w : World) : World :=
  (w.keepalive device).foldl (fun w p ↦ w.unsubscribe registered p.1 p.2)
    { w with keepalive := Function.update w.keepalive device [] }

/-- The hook runs on the clients that are about to be closed. -/
def removeAndWait (device : ℕ) (w : World) : World :=
  match w.active device with
  | none => w
  | some clients =>
    let w := { w with active := Function.update w.active device none }
    let w := w.stopDevice (some clients) device
    { w with closed := clients :: w.closed }

/-- `dials` says whether the device can be reached. -/
def add (influx : Bool) (device : ℕ) (dials : Bool) (opens : Topic → Bool) (w : World) : World :=
  if dials then
    let clients : ClientSet := ⟨device, w.dialled⟩
    { w with
      active := Function.update w.active device (some clients)
      dialled := w.dialled + 1 }.startDevice influx clients opens
  else w

/-- A request that the middleware lets through takes the clients of the device with it. -/
def request (device : ℕ) (e : Endpoint) (clientID : String) (opens : Bool) (w : World) : World :=
  match w.active device with
  | none => w
  | some clients =>
    if e.accepted then
      ((w.getOrCreate (e.topic device) clients).subscribe (e.topic device) clientID opens).1
    else w

/-- The client goes away. -/
def leave (device : ℕ) (e : Endpoint) (clientID : String) (w : World) : World :=
  w.unsubscribe (w.active device) (e.topic device) clientID

end World

/-- What can happen; an update of a device is `remove` and then `add`. -/
inductive Event
  | add (device : ℕ) (dials : Bool) (opens : Topic → Bool)
  | remove (device : ℕ)
  | request (device : ℕ) (e : Endpoint) (clientID : String) (opens : Bool)
  | leave (device : ℕ) (e : Endpoint) (clientID : String)

def World.step (influx : Bool) (w : World) : Event → World
  | .add device dials opens => w.add influx device dials opens
  | .remove device => w.removeAndWait device
  | .request device e clientID opens => w.request device e clientID opens
  | .leave device e clientID => w.leave device e clientID

end Rosmon.Streams
