import Mathlib.Algebra.Group.Nat.Defs
import Rosmon.Go.Map
import Rosmon.Library.Sequences
import Rosmon.Library.Run

namespace Rosmon.Sse

open Library

structure Event (δ : Type) where
  type : String
  data : δ
  id : String
  deriving DecidableEq

/-- The map holds the numbers of the channels, counted in the order in which they were made. -/
structure Broker where
  topic : String
  subs : Go.Map ℕ
  started : Bool
  dropped : ℕ

def newBroker (topic : String) : Broker := ⟨topic, ∅, false, 0⟩

/-- The slots of a channel. -/
def slots : ℕ := 32

/-- One that `Subscribe` has let in, with the id it came with, its channel, and whether it has
called `Unsubscribe` since. -/
structure Subscriber (δ : Type) where
  clientID : String
  channel : List (Event δ)
  left : Bool
  deriving DecidableEq

/-- What the broker asks of its backend; an `onStart` may come out with an error. -/
inductive Call
  | onStart (err : Option String)
  | onStop
  deriving DecidableEq

/-- Whether the call leaves the backend open, if it changes that. -/
def Call.opens : Call → Option Bool
  | onStart none => some true
  | onStart (some _) => none
  | onStop => some false

/-- The `n`-th subscriber reads from channel `n`. -/
structure World (δ : Type) where
  broker : Broker
  subscribers : List (Subscriber δ)
  calls : List Call

namespace World

variable {δ : Type}

def new (topic : String) : World δ := ⟨newBroker topic, [], []⟩

/-- `ch := make(chan Event, 32); b.subs[clientID] = ch`. -/
def register (clientID : String) (w : World δ) : World δ :=
  { w with
    broker := { w.broker with subs := w.broker.subs.insert clientID w.subscribers.length }
    subscribers := w.subscribers ++ [⟨clientID, [], false⟩] }

/-- `err` is what `onStart` returns, if it is called. -/
def subscribe (clientID : String) (err : Option String) (w : World δ) :
    Except String ℕ × World δ :=
  if w.broker.started then (.ok w.subscribers.length, w.register clientID)
  else
    let w := { w with calls := w.calls ++ [.onStart err] }
    match err with
    | some e => (.error e, w)
    | none =>
      (.ok w.subscribers.length,
        { w with broker := { w.broker with started := true } }.register clientID)

def unsubscribe (clientID : String) (w : World δ) : World δ :=
  let w := { w with broker := { w.broker with subs := w.broker.subs.erase clientID } }
  if w.broker.subs.entries.length = 0 ∧ w.broker.started then
    { w with broker := { w.broker with started := false }, calls := w.calls ++ [.onStop] }
  else w

/-- The deferred `Unsubscribe` of the `n`-th subscriber. -/
def leave (n : ℕ) (w : World δ) : World δ :=
  match w.subscribers[n]? with
  | none => w
  | some s =>
    { w with subscribers := w.subscribers.set n { s with left := true } }.unsubscribe s.clientID

/-- `select { case ch <- e: default: b.dropped.Add(1) }`. -/
def send (e : Event δ) (w : World δ) (n : ℕ) : World δ :=
  match w.subscribers[n]? with
  | none => w
  | some s =>
    if s.channel.length < slots then
      { w with subscribers := w.subscribers.set n { s with channel := s.channel ++ [e] } }
    else { w with broker := { w.broker with dropped := (w.broker.dropped + 1) % 2 ^ 64 } }

def publish (order : Go.RangeOrder ℕ) (e : Event δ) (w : World δ) : World δ :=
  let snap := (order.visit w.broker.subs.entries).map fun entry ↦ entry.2
  snap.foldl (send e) w

/-- `<-ch` by the `n`-th subscriber. -/
def receive (n : ℕ) (w : World δ) : World δ :=
  { w with subscribers := w.subscribers.modify n fun s ↦ { s with channel := s.channel.tail } }

end World

/-- What can happen around a broker. `unsubscribe` is a call by nobody who subscribed. -/
inductive Op (δ : Type)
  | subscribe (clientID : String) (err : Option String)
  | leave (n : ℕ)
  | unsubscribe (clientID : String)
  | publish (order : Go.RangeOrder ℕ) (e : Event δ)
  | receive (n : ℕ)

namespace World

variable {δ : Type}

def step (w : World δ) : Op δ → World δ
  | .subscribe clientID err => (w.subscribe clientID err).2
  | .leave n => w.leave n
  | .unsubscribe clientID => w.unsubscribe clientID
  | .publish order e => w.publish order e
  | .receive n => w.receive n

/-- The successful starts (`true`) and the stops of the backend. -/
def switches (w : World δ) : List Bool := w.calls.filterMap Call.opens

/-- The backend has been started and not been stopped since. -/
def running (w : World δ) : Bool := w.switches.getLastD false

/-- What every call keeps, whether it fails or not. -/
structure Steady (w : World δ) : Prop where
  started : w.broker.started = true ↔ w.broker.subs ≠ ∅
  alternates : Alternates false w.switches
  running : w.running = w.broker.started

theorem Steady.new (topic : String) : (new topic : World δ).Steady :=
  ⟨by simp [World.new, newBroker], trivial, rfl⟩

theorem insert_ne_empty (m : Go.Map ℕ) (k : String) (n : ℕ) : m.insert k n ≠ ∅ := by
  intro h
  have hk : Go.Map.get (m.insert k n) k = none := by rw [h]; rfl
  simp [Go.Map.get_insert] at hk

theorem entries_eq_nil {m : Go.Map ℕ} : m.entries.length = 0 ↔ m = ∅ := by
  rw [List.length_eq_zero_iff]
  exact ⟨fun h ↦ AList.ext h, fun h ↦ by rw [h]; rfl⟩

theorem switches_append (w : World δ) (c : Call) :
    ({ w with calls := w.calls ++ [c] } : World δ).switches = w.switches ++ c.opens.toList := by
  unfold switches
  rw [List.filterMap_append]
  cases h : c.opens <;> simp [h]

/-- A change of the map of a broker that stays as it is, started and with subscribers. -/
theorem Steady.of_eq {w w' : World δ} (h : w.Steady) (hcalls : w'.calls = w.calls)
    (hstarted : w'.broker.started = w.broker.started)
    (hsubs : w'.broker.subs = ∅ ↔ w.broker.subs = ∅) : w'.Steady := by
  have hswitches : w'.switches = w.switches := by unfold switches; rw [hcalls]
  refine ⟨?_, ?_, ?_⟩
  · rw [hstarted, h.started, not_iff_not, hsubs]
  · rw [hswitches]
    exact h.alternates
  · rw [hstarted, ← h.running]
    unfold World.running
    rw [hswitches]

theorem Steady.subscribe {w : World δ} (h : w.Steady) (clientID : String) (err : Option String) :
    (w.subscribe clientID err).2.Steady := by
  unfold World.subscribe
  split
  next hs =>
    refine h.of_eq rfl rfl ?_
    exact iff_of_false (insert_ne_empty _ _ _) (h.started.mp hs)
  next hs =>
    have hoff : w.running = false := h.running.trans (Bool.not_eq_true _ ▸ hs)
    cases err with
    | some e =>
      have hsame : ({ w with calls := w.calls ++ [.onStart (some e)] } : World δ).switches =
          w.switches := by
        rw [switches_append]
        exact List.append_nil _
      refine ⟨h.started, ?_, ?_⟩
      · rw [hsame]
        exact h.alternates
      · rw [World.running, hsame]
        exact h.running
    | none =>
      have hon : (({ w with
          calls := w.calls ++ [.onStart none]
          broker := { w.broker with started := true } } : World δ).register clientID).switches =
          w.switches ++ [true] := switches_append w (.onStart none)
      refine ⟨?_, ?_, ?_⟩
      · exact iff_of_true rfl (insert_ne_empty _ _ _)
      · dsimp only
        rw [hon, alternates_append]
        refine ⟨h.alternates, ?_⟩
        rw [show w.switches.getLastD false = false from hoff]
        rfl
      · dsimp only
        rw [World.running, hon, List.getLastD_concat]
        rfl

theorem Steady.unsubscribe {w : World δ} (h : w.Steady) (clientID : String) :
    (w.unsubscribe clientID).Steady := by
  unfold World.unsubscribe
  dsimp only
  split
  next hlast =>
    obtain ⟨hempty, hs⟩ := hlast
    have hon : w.running = true := h.running.trans hs
    have hswitches : ({ w with
        broker := { w.broker with subs := w.broker.subs.erase clientID, started := false }
        calls := w.calls ++ [.onStop] } : World δ).switches = w.switches ++ [false] :=
      switches_append w .onStop
    refine ⟨?_, ?_, ?_⟩
    · exact iff_of_false Bool.false_ne_true (not_not_intro (entries_eq_nil.mp hempty))
    · rw [hswitches, alternates_append]
      refine ⟨h.alternates, ?_⟩
      rw [show w.switches.getLastD false = true from hon]
      rfl
    · rw [World.running, hswitches, List.getLastD_concat]
  next hmore =>
    refine h.of_eq rfl rfl ?_
    constructor
    · intro hempty
      by_contra hsubs
      exact hmore ⟨entries_eq_nil.mpr hempty, h.started.mpr hsubs⟩
    · intro hempty
      dsimp only
      rw [hempty]
      rfl

theorem Steady.leave {w : World δ} (h : w.Steady) (n : ℕ) : (w.leave n).Steady := by
  unfold World.leave
  split
  · exact h
  next s hn =>
    have hleft : Steady { w with subscribers := w.subscribers.set n { s with left := true } } :=
      ⟨h.started, h.alternates, h.running⟩
    exact hleft.unsubscribe _

theorem Steady.send {w : World δ} (h : w.Steady) (e : Event δ) (n : ℕ) : (w.send e n).Steady := by
  unfold World.send
  split
  · exact h
  · split <;> exact ⟨h.started, h.alternates, h.running⟩

theorem Steady.publish {w : World δ} (h : w.Steady) (order : Go.RangeOrder ℕ) (e : Event δ) :
    (w.publish order e).Steady := by
  unfold World.publish
  dsimp only
  generalize (order.visit w.broker.subs.entries).map (fun entry ↦ entry.2) = snap
  induction snap generalizing w with
  | nil => exact h
  | cons n snap ih => exact ih (h.send e n)

theorem Steady.step {w : World δ} (h : w.Steady) (op : Op δ) : (w.step op).Steady := by
  cases op with
  | subscribe clientID err => exact h.subscribe clientID err
  | leave n => exact h.leave n
  | unsubscribe clientID => exact h.unsubscribe clientID
  | publish order e => exact h.publish order e
  | receive n => exact ⟨h.started, h.alternates, h.running⟩

theorem steady (topic : String) (ops : List (Op δ)) : (ops.foldl step (new topic)).Steady :=
  Run.always (fun _ op h ↦ h.step op) (Steady.new topic) _ (Run.foldl_mem_states _ ops)

/-- The id is not registered when `onStart` fails. -/
theorem subscribe_error {w : World δ} {clientID e : String} {err : Option String}
    (h : (w.subscribe clientID err).1 = .error e) :
    (w.subscribe clientID err).2 = { w with calls := w.calls ++ [.onStart (some e)] } := by
  unfold subscribe at h ⊢
  split at h
  · cases h
  next hs =>
    rw [if_neg hs]
    cases err with
    | none => cases h
    | some e' =>
      cases h
      rfl

theorem started_iff_subscribers (topic : String) (ops : List (Op δ)) :
    let w := ops.foldl step (new topic)
    (w.broker.started = true ↔ w.broker.subs ≠ ∅) ∧ Alternates false w.switches ∧
      ∀ clientID err e, (w.subscribe clientID err).1 = .error e →
        (w.subscribe clientID err).2.broker = w.broker ∧
          (w.subscribe clientID err).2.subscribers = w.subscribers := by
  intro w
  have h := steady topic ops
  refine ⟨h.started, h.alternates, fun clientID err e he ↦ ?_⟩
  rw [subscribe_error he]
  exact ⟨rfl, rfl⟩

end World

end Rosmon.Sse
