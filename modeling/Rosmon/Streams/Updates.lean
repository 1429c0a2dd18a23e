import Rosmon.Library.Run
import Rosmon.Streams.Hub

namespace Rosmon.Streams

open Library

/-- The call is made on the clients that the device has, and they are open. -/
def Use.Current (u : Use) : Prop := u.registered = some u.clients ∧ u.closed = false

namespace World

variable {w : World} {τ : Topic} {clientID : String} {opens : Bool}

def Clean (w : World) : Prop := ∀ u ∈ w.uses, u.Current

/-- The clients that the closures for a topic hold. -/
def owner (τ : Topic) (w : World) : Option ClientSet := (w.brokers τ).map Broker.clients

/-- The next subscriber of the topic will start its stream. -/
def idle (τ : Topic) (w : World) : Bool := (w.brokers τ).any fun b ↦ !b.started

/-- The subscriber will stop the stream of the topic when it leaves. -/
def last (p : Topic × String) (w : World) : Bool := (w.brokers p.1).any (Broker.isLast p.2)

/-- The closures for the topic hold the clients in `registered`, and they are open. -/
def Serves (registered : Option ClientSet) (τ : Topic) (w : World) : Prop :=
  ∃ clients, w.owner τ = some clients ∧ registered = some clients ∧ clients ∉ w.closed

/-- What no subscriber changes. -/
structure Frame (w w' : World) : Prop where
  active : w'.active = w.active
  dialled : w'.dialled = w.dialled
  closed : w'.closed = w.closed
  keepalive : w'.keepalive = w.keepalive

theorem Frame.refl (w : World) : Frame w w := ⟨rfl, rfl, rfl, rfl⟩

theorem Frame.trans {w₁ w₂ w₃ : World} (h : Frame w₁ w₂) (h' : Frame w₂ w₃) : Frame w₁ w₃ :=
  ⟨h'.active.trans h.active, h'.dialled.trans h.dialled, h'.closed.trans h.closed,
    h'.keepalive.trans h.keepalive⟩

theorem getOrCreate_frame (clients : ClientSet) : Frame w (w.getOrCreate τ clients) := by
  unfold getOrCreate
  split
  · exact .refl w
  · exact ⟨rfl, rfl, rfl, rfl⟩

theorem subscribe_frame : Frame w (w.subscribe τ clientID opens).1 := by
  unfold subscribe
  split
  · exact .refl w
  · split
    · exact ⟨rfl, rfl, rfl, rfl⟩
    · dsimp only
      split <;> exact ⟨rfl, rfl, rfl, rfl⟩

theorem unsubscribe_frame (registered : Option ClientSet) :
    Frame w (w.unsubscribe registered τ clientID) := by
  unfold unsubscribe
  split
  · exact .refl w
  · dsimp only
    split <;> exact ⟨rfl, rfl, rfl, rfl⟩

theorem setBroker_brokers_of_ne {τ' : Topic} (h : τ' ≠ τ) (b : Broker) :
    (w.setBroker τ b).brokers τ' = w.brokers τ' :=
  Function.update_of_ne h _ _

theorem getOrCreate_brokers_of_ne {τ' : Topic} (h : τ' ≠ τ) (clients : ClientSet) :
    (w.getOrCreate τ clients).brokers τ' = w.brokers τ' := by
  unfold getOrCreate
  split
  · rfl
  · exact setBroker_brokers_of_ne h _

theorem subscribe_brokers_of_ne {τ' : Topic} (h : τ' ≠ τ) :
    (w.subscribe τ clientID opens).1.brokers τ' = w.brokers τ' := by
  unfold subscribe
  split
  · rfl
  · split
    · exact setBroker_brokers_of_ne h _
    · dsimp only
      split
      · exact setBroker_brokers_of_ne h _
      · rfl

theorem unsubscribe_brokers_of_ne {τ' : Topic} (h : τ' ≠ τ) (registered : Option ClientSet) :
    (w.unsubscribe registered τ clientID).brokers τ' = w.brokers τ' := by
  unfold unsubscribe
  split
  · rfl
  · dsimp only
    split
    · exact setBroker_brokers_of_ne h _
    · exact setBroker_brokers_of_ne h _

theorem setBroker_owner {b b' : Broker} (h : w.brokers τ = some b) (hclients : b'.clients = b.clients)
    (τ' : Topic) : (w.setBroker τ b').owner τ' = w.owner τ' := by
  unfold owner setBroker
  by_cases heq : τ' = τ
  · subst heq
    simp [h, hclients]
  · simp [Function.update_of_ne heq]

theorem subscribe_owner (τ' : Topic) :
    (w.subscribe τ clientID opens).1.owner τ' = w.owner τ' := by
  unfold subscribe
  split
  · rfl
  next b hb =>
    split
    · apply setBroker_owner hb
      rfl
    · dsimp only
      split
      · apply setBroker_owner (w := w.use .start τ b (w.active τ.device)) hb
        rfl
      · rfl

theorem unsubscribe_owner (registered : Option ClientSet) (τ' : Topic) :
    (w.unsubscribe registered τ clientID).owner τ' = w.owner τ' := by
  unfold unsubscribe
  split
  · rfl
  next b hb =>
    dsimp only
    split
    · apply setBroker_owner (w := w.use .stop τ b registered) hb
      rfl
    · apply setBroker_owner hb
      rfl

theorem getOrCreate_owner (clients : ClientSet) (τ' : Topic) :
    (w.getOrCreate τ clients).owner τ' =
      if τ' = τ ∧ w.owner τ = none then some clients else w.owner τ' := by
  unfold getOrCreate
  split
  next b hb => rw [if_neg (by simp [owner, hb])]
  next hnone =>
    by_cases heq : τ' = τ
    · subst heq
      simp [owner, setBroker, hnone]
    · simp [owner, setBroker, heq]

theorem use_clean {kind : Kind} {b : Broker} {registered : Option ClientSet} :
    (w.use kind τ b registered).Clean ↔
      w.Clean ∧ registered = some b.clients ∧ b.clients ∉ w.closed := by
  unfold Clean use
  constructor
  · intro h
    have hnew := h ⟨kind, τ, b.clients, registered, decide (b.clients ∈ w.closed)⟩ (by simp)
    exact ⟨fun u hu ↦ h u (List.mem_append_left _ hu), hnew.1, by simpa using hnew.2⟩
  · intro h u hu
    obtain ⟨hold, hregistered, hopen⟩ := h
    rcases List.mem_append.mp hu with hu | hu
    · exact hold u hu
    · rw [List.mem_singleton.mp hu]
      exact ⟨hregistered, by simpa using hopen⟩

theorem subscribe_clean : (w.subscribe τ clientID opens).1.Clean ↔
    w.Clean ∧ (w.idle τ = true → w.Serves (w.active τ.device) τ) := by
  unfold subscribe idle Serves owner
  cases hb : w.brokers τ with
  | none => simp
  | some b =>
    cases hstarted : b.started with
    | true =>
      simp only [Option.any_some, hstarted, if_true, Bool.not_true, Bool.false_eq_true,
        false_implies, and_true]
      exact Iff.rfl
    | false =>
      have huse : (w.use .start τ b (w.active τ.device)).Clean ↔
          w.Clean ∧ w.active τ.device = some b.clients ∧ b.clients ∉ w.closed := use_clean
      have hcases : (if opens then ((w.use .start τ b (w.active τ.device)).setBroker τ
          { b with subs := b.subs.insert clientID, started := true }, true)
          else (w.use .start τ b (w.active τ.device), false)).1.Clean ↔
            (w.use .start τ b (w.active τ.device)).Clean := by
        split <;> exact Iff.rfl
      simp only [Option.any_some, hstarted, Bool.false_eq_true, if_false, Bool.not_false,
        true_implies, Option.map_some, Option.some.injEq, exists_eq_left']
      rw [hcases, huse]

theorem unsubscribe_clean (registered : Option ClientSet) :
    (w.unsubscribe registered τ clientID).Clean ↔
      w.Clean ∧ (w.last (τ, clientID) = true → w.Serves registered τ) := by
  unfold unsubscribe last Serves owner
  cases hb : w.brokers τ with
  | none => simp
  | some b =>
    cases hlast : Broker.isLast clientID b with
    | true =>
      have huse : (w.use .stop τ b registered).Clean ↔
          w.Clean ∧ registered = some b.clients ∧ b.clients ∉ w.closed := use_clean
      simp only [Option.any_some, hlast, if_true, true_implies, Option.map_some,
        Option.some.injEq, exists_eq_left']
      exact huse
    | false =>
      simp only [Option.any_some, hlast, Bool.false_eq_true, if_false, false_implies, and_true]
      exact Iff.rfl

theorem Frame.serves {w' : World} (h : Frame w w') (howner : w'.owner τ = w.owner τ)
    {registered : Option ClientSet} : w'.Serves registered τ ↔ w.Serves registered τ := by
  unfold Serves
  rw [howner, h.closed]

/-- The subscribers leave one after the other, each its own topic. -/
theorem unsubscribe_all (registered : Option ClientSet) (l : List (Topic × String))
    (hl : (l.map Prod.fst).Nodup) :
    Frame w (l.foldl (fun w p ↦ w.unsubscribe registered p.1 p.2) w) ∧
      (∀ τ, (l.foldl (fun w p ↦ w.unsubscribe registered p.1 p.2) w).owner τ = w.owner τ) ∧
      ((l.foldl (fun w p ↦ w.unsubscribe registered p.1 p.2) w).Clean ↔
        w.Clean ∧ ∀ p ∈ l, w.last p = true → w.Serves registered p.1) := by
  induction l generalizing w with
  | nil => exact ⟨.refl w, fun _ ↦ rfl, by simp⟩
  | cons p l ih =>
    obtain ⟨hp, hrest⟩ := List.nodup_cons.mp hl
    obtain ⟨hframe, howner, hclean⟩ := ih (w := w.unsubscribe registered p.1 p.2) hrest
    have hfirst : Frame w (w.unsubscribe registered p.1 p.2) := unsubscribe_frame registered
    have hfirstOwner : ∀ τ, (w.unsubscribe registered p.1 p.2).owner τ = w.owner τ :=
      unsubscribe_owner registered
    refine ⟨hfirst.trans hframe, fun τ ↦ (howner τ).trans (hfirstOwner τ), ?_⟩
    have hothers : (∀ q ∈ l, (w.unsubscribe registered p.1 p.2).last q = true →
        (w.unsubscribe registered p.1 p.2).Serves registered q.1) ↔
          ∀ q ∈ l, w.last q = true → w.Serves registered q.1 := by
      apply forall₂_congr
      intro q hq
      have hne : q.1 ≠ p.1 := by
        intro heq
        exact hp (heq ▸ List.mem_map_of_mem hq)
      rw [hfirst.serves (hfirstOwner q.1), last, unsubscribe_brokers_of_ne hne, last]
    rw [List.foldl_cons, hclean, unsubscribe_clean, hothers, and_assoc, List.forall_mem_cons]

section Arrivals

variable {clients : ClientSet}

theorem arrive_frame :
    Frame w ((w.getOrCreate τ clients).subscribe τ clientID opens).1 :=
  (getOrCreate_frame clients).trans subscribe_frame

theorem arrive_owner (τ' : Topic) :
    ((w.getOrCreate τ clients).subscribe τ clientID opens).1.owner τ' =
      if τ' = τ ∧ w.owner τ = none then some clients else w.owner τ' :=
  (subscribe_owner τ').trans (getOrCreate_owner clients τ')

theorem arrive_brokers_of_ne {τ' : Topic} (h : τ' ≠ τ) :
    ((w.getOrCreate τ clients).subscribe τ clientID opens).1.brokers τ' = w.brokers τ' :=
  (subscribe_brokers_of_ne h).trans (getOrCreate_brokers_of_ne h clients)

/-- A subscriber with the open clients of the device: the closures made for it are right,
so only a broker from before can go wrong. -/
theorem arrive_clean (hactive : w.active τ.device = some clients) (hopen : clients ∉ w.closed) :
    ((w.getOrCreate τ clients).subscribe τ clientID opens).1.Clean ↔
      w.Clean ∧ (w.idle τ = true → w.Serves (some clients) τ) := by
  rw [subscribe_clean]
  unfold getOrCreate
  split
  next b hb => rw [hactive]
  next hnone =>
    have hidle : w.idle τ = false := by rw [idle, hnone, Option.any_none]
    have hserves : (w.setBroker τ ⟨clients, [], false⟩).Serves (w.active τ.device) τ :=
      ⟨clients, by simp [owner, setBroker], hactive, hopen⟩
    rw [hidle]
    constructor
    · intro h
      exact ⟨h.1, fun hfalse ↦ absurd hfalse (by decide)⟩
    · intro h
      exact ⟨h.1, fun _ ↦ hserves⟩

/-- Subscribers come one after the other, each to its own topic of a device whose clients
are open. -/
theorem keepAlive_all (opens : Topic → Bool) (l : List (Topic × String))
    (hl : (l.map Prod.fst).Nodup) (hopen : clients ∉ w.closed)
    (hactive : ∀ p ∈ l, w.active p.1.device = some clients) (acc : List (Topic × String)) :
    Frame w (l.foldl (keepAlive clients opens) (w, acc)).1 ∧
      (∀ τ, (l.foldl (keepAlive clients opens) (w, acc)).1.owner τ =
        if τ ∈ l.map Prod.fst ∧ w.owner τ = none then some clients else w.owner τ) ∧
      ((l.foldl (keepAlive clients opens) (w, acc)).1.Clean ↔
        w.Clean ∧ ∀ p ∈ l, w.idle p.1 = true → w.Serves (some clients) p.1) ∧
      ∃ l', l'.Sublist l ∧ (l.foldl (keepAlive clients opens) (w, acc)).2 = acc ++ l' := by
  induction l generalizing w acc with
  | nil => exact ⟨.refl w, fun _ ↦ by simp, by simp, [], .refl _, by simp⟩
  | cons p l ih =>
    obtain ⟨hp, hrest⟩ := List.nodup_cons.mp hl
    obtain ⟨hthis, hlater⟩ := List.forall_mem_cons.mp hactive
    have hfirst : Frame w (keepAlive clients opens (w, acc) p).1 := arrive_frame
    have howner : ∀ τ, (keepAlive clients opens (w, acc) p).1.owner τ =
        if τ = p.1 ∧ w.owner p.1 = none then some clients else w.owner τ := arrive_owner
    have hclean : (keepAlive clients opens (w, acc) p).1.Clean ↔
        w.Clean ∧ (w.idle p.1 = true → w.Serves (some clients) p.1) := arrive_clean hthis hopen
    obtain ⟨hframe, hownerRest, hcleanRest, l', hsub, hkept⟩ :=
      ih (w := (keepAlive clients opens (w, acc) p).1) hrest (hfirst.closed ▸ hopen)
        (fun q hq ↦ by rw [hfirst.active]; exact hlater q hq)
        (keepAlive clients opens (w, acc) p).2
    refine ⟨hfirst.trans hframe, ?_, ?_, ?_⟩
    · intro τ
      rw [List.foldl_cons, hownerRest, howner]
      by_cases hτ : τ = p.1
      · subst hτ
        simp only [hp, false_and, if_false, true_and, List.map_cons, List.mem_cons, true_or]
      · simp only [hτ, false_and, if_false, List.map_cons, List.mem_cons, false_or]
    · have hothers : (∀ q ∈ l, (keepAlive clients opens (w, acc) p).1.idle q.1 = true →
          (keepAlive clients opens (w, acc) p).1.Serves (some clients) q.1) ↔
            ∀ q ∈ l, w.idle q.1 = true → w.Serves (some clients) q.1 := by
        apply forall₂_congr
        intro q hq
        have hne : q.1 ≠ p.1 := by
          intro heq
          exact hp (heq ▸ List.mem_map_of_mem hq)
        have hsame : (keepAlive clients opens (w, acc) p).1.owner q.1 = w.owner q.1 := by
          rw [howner, if_neg fun h ↦ hne h.1]
        have hbrokers : (keepAlive clients opens (w, acc) p).1.brokers q.1 = w.brokers q.1 :=
          arrive_brokers_of_ne hne
        rw [hfirst.serves hsame, idle, hbrokers, idle]
      rw [List.foldl_cons, hcleanRest, hclean, hothers, and_assoc, List.forall_mem_cons]
    · rw [List.foldl_cons, hkept]
      unfold keepAlive
      dsimp only
      split
      · exact ⟨p :: l', hsub.cons_cons p, by simp⟩
      · exact ⟨l', hsub.cons p, rfl⟩

end Arrivals

theorem kept_nodup (device : ℕ) : ((kept device).map Prod.fst).Nodup := by
  have hbase : (Endpoint.queueStats "1s").base ≠ (Endpoint.interfaceStats "1s").base := by
    decide +kernel
  have hne : (Endpoint.queueStats "1s").topic device ≠
      (Endpoint.interfaceStats "1s").topic device := by
    intro heq
    exact hbase (congrArg Topic.base heq)
  exact List.nodup_cons.mpr ⟨fun h ↦ hne (List.mem_singleton.mp h), List.nodup_singleton _⟩

theorem kept_device {device : ℕ} {p : Topic × String} (h : p ∈ kept device) :
    p.1.device = device := by
  simp only [kept, List.mem_cons, List.not_mem_nil, or_false] at h
  rcases h with rfl | rfl <;> rfl

end World

/-- A world, and which topics have been requested before their device was last removed or
added. -/
structure History where
  world : World
  updated : Topic → Bool

/-- The device whose clients the event replaces or takes away. -/
def World.changed (w : World) : Event → Option ℕ
  | .add device dials _ => if dials then some device else none
  | .remove device => if (w.active device).isSome then some device else none
  | .request _ _ _ _ | .leave _ _ _ => none

namespace History

variable (influx : Bool)

def start : History := ⟨.blank, fun _ ↦ false⟩

def step (h : History) (a : Event) : History where
  world := h.world.step influx a
  updated τ :=
    h.updated τ || (h.world.changed a = some τ.device && (h.world.brokers τ).isSome)

/-- The event starts or stops no stream whose topic was requested before the device was last
removed or added. -/
def Spares (h : History) : Event → Prop
  | .add device dials _ =>
    dials = true → influx = true → ∀ p ∈ World.kept device, h.world.idle p.1 = false
  | .remove device =>
    (h.world.active device).isSome → ∀ p ∈ h.world.keepalive device,
      h.world.last p = true → h.updated p.1 = false
  | .request device e _ _ =>
    (h.world.active device).isSome → e.accepted = true →
      h.world.idle (e.topic device) = true → h.updated (e.topic device) = false
  | .leave device e clientID =>
    h.world.last (e.topic device, clientID) = true → h.updated (e.topic device) = false

structure Inv (h : History) : Prop where
  owner : ∀ τ clients, h.world.owner τ = some clients → clients.serial < h.world.dialled
  active : ∀ device clients, h.world.active device = some clients →
    clients.device = device ∧ clients.serial < h.world.dialled ∧ clients ∉ h.world.closed
  closed : ∀ clients ∈ h.world.closed, clients.serial < h.world.dialled
  keepalive : ∀ device, ((h.world.keepalive device).map Prod.fst).Nodup ∧
    ∀ p ∈ h.world.keepalive device, p.1.device = device
  fresh : ∀ τ, h.world.owner τ = none → h.updated τ = false
  captured : ∀ τ clients, h.world.owner τ = some clients →
    (h.updated τ = false ↔ h.world.active τ.device = some clients)

variable {influx} {h : History}

/-- Which clients the closures of a topic hold is what matters for the right ones. -/
theorem Inv.serves (hinv : h.Inv) {τ : Topic} (howner : h.world.owner τ ≠ none) :
    h.world.Serves (h.world.active τ.device) τ ↔ h.updated τ = false := by
  obtain ⟨clients, hclients⟩ := Option.ne_none_iff_exists'.mp howner
  rw [hinv.captured τ clients hclients]
  constructor
  · intro hserves
    obtain ⟨clients', howner', hactive, -⟩ := hserves
    rw [hclients] at howner'
    cases howner'
    exact hactive
  · intro hactive
    exact ⟨clients, hclients, hactive, (hinv.active _ _ hactive).2.2⟩

theorem owner_of_any {w : World} {τ : Topic} {p : Broker → Bool}
    (h : (w.brokers τ).any p = true) : w.owner τ ≠ none := by
  intro hnone
  have hbroker : w.brokers τ = none := Option.map_eq_none_iff.mp hnone
  rw [hbroker] at h
  cases h

/-- Subscribers may come and go; a broker that they bring about holds the clients that the
device has. -/
theorem Inv.grow (hinv : h.Inv) {w : World} (hframe : World.Frame h.world w)
    (howner : ∀ τ, w.owner τ = h.world.owner τ ∨ h.world.owner τ = none ∧
      ∃ clients, w.owner τ = some clients ∧ h.world.active τ.device = some clients) :
    Inv ⟨w, h.updated⟩ where
  owner τ clients hclients := by
    show clients.serial < w.dialled
    rw [hframe.dialled]
    rcases howner τ with hsame | ⟨-, new, hnew, hactive⟩
    · exact hinv.owner τ clients (hsame ▸ hclients)
    · rw [hnew] at hclients
      cases hclients
      exact (hinv.active _ _ hactive).2.1
  active device clients hactive := by
    show _ ∧ clients.serial < w.dialled ∧ clients ∉ w.closed
    rw [hframe.dialled, hframe.closed]
    exact hinv.active device clients (hframe.active ▸ hactive)
  closed clients hclients := by
    show clients.serial < w.dialled
    rw [hframe.dialled]
    exact hinv.closed clients (hframe.closed ▸ hclients)
  keepalive device := by
    show ((w.keepalive device).map Prod.fst).Nodup ∧ _
    rw [hframe.keepalive]
    exact hinv.keepalive device
  fresh τ hnone := by
    rcases howner τ with hsame | ⟨hold, -⟩
    · exact hinv.fresh τ (hsame ▸ hnone)
    · exact hinv.fresh τ hold
  captured τ clients hclients := by
    show h.updated τ = false ↔ w.active τ.device = some clients
    rw [hframe.active]
    rcases howner τ with hsame | ⟨hold, new, hnew, hactive⟩
    · exact hinv.captured τ clients (hsame ▸ hclients)
    · rw [hnew] at hclients
      cases hclients
      exact ⟨fun _ ↦ hactive, fun _ ↦ hinv.fresh τ hold⟩

theorem Inv.setKeepalive (hinv : h.Inv) {device : ℕ} {l : List (Topic × String)}
    (hnodup : (l.map Prod.fst).Nodup) (hdevice : ∀ p ∈ l, p.1.device = device) :
    Inv ⟨{ h.world with keepalive := Function.update h.world.keepalive device l }, h.updated⟩ where
  owner := hinv.owner
  active := hinv.active
  closed := hinv.closed
  keepalive d := by
    show ((Function.update h.world.keepalive device l d).map Prod.fst).Nodup ∧ _
    by_cases hd : d = device
    · subst hd
      simpa using ⟨hnodup, fun a b hab ↦ hdevice (a, b) hab⟩
    · simpa [Function.update_of_ne hd] using hinv.keepalive d
  fresh := hinv.fresh
  captured := hinv.captured

/-- The topics of the device that have a broker count as updated from now on. -/
def mark (h : History) (device : ℕ) (τ : Topic) : Bool :=
  h.updated τ || (decide (device = τ.device) && (h.world.brokers τ).isSome)

theorem mark_of_owner {device : ℕ} {τ : Topic} {clients : ClientSet}
    (howner : h.world.owner τ = some clients) (hdevice : device = τ.device) :
    h.mark device τ = true := by
  obtain ⟨b, hb, -⟩ := Option.map_eq_some_iff.mp howner
  simp [mark, hdevice, hb]

theorem mark_of_ne {device : ℕ} {τ : Topic} (hdevice : device ≠ τ.device) :
    h.mark device τ = h.updated τ := by
  simp [mark, hdevice]

theorem mark_of_none {device : ℕ} {τ : Topic} (howner : h.world.owner τ = none) :
    h.mark device τ = h.updated τ := by
  have hbroker : h.world.brokers τ = none := Option.map_eq_none_iff.mp howner
  simp [mark, hbroker]

/-- The device gets new clients, or none; no broker holds the new ones yet. -/
theorem Inv.replace (hinv : h.Inv) {device dialled : ℕ} {clients : Option ClientSet}
    (hdialled : h.world.dialled ≤ dialled) (hnew : ∀ c, clients = some c →
      c.device = device ∧ h.world.dialled ≤ c.serial ∧ c.serial < dialled) :
    Inv ⟨{ h.world with
      active := Function.update h.world.active device clients, dialled := dialled },
      h.mark device⟩ where
  owner τ c hc := Nat.lt_of_lt_of_le (hinv.owner τ c hc) hdialled
  active d c hc := by
    by_cases hd : d = device
    · subst hd
      have hclients : clients = some c := by simpa using hc
      obtain ⟨hdevice, hlow, hhigh⟩ := hnew c hclients
      refine ⟨hdevice, hhigh, fun hclosed ↦ ?_⟩
      have hold := hinv.closed c hclosed
      omega
    · have hold : h.world.active d = some c := by simpa [Function.update_of_ne hd] using hc
      obtain ⟨hdevice, hserial, hopen⟩ := hinv.active d c hold
      exact ⟨hdevice, Nat.lt_of_lt_of_le hserial hdialled, hopen⟩
  closed c hc := Nat.lt_of_lt_of_le (hinv.closed c hc) hdialled
  keepalive := hinv.keepalive
  fresh τ hnone := by
    have hold : h.world.owner τ = none := hnone
    exact (mark_of_none hold).trans (hinv.fresh τ hold)
  captured τ c hc := by
    show h.mark device τ = false ↔ Function.update h.world.active device clients τ.device = some c
    have howner : h.world.owner τ = some c := hc
    by_cases hd : device = τ.device
    · rw [mark_of_owner howner hd, ← hd, Function.update_self]
      constructor
      · intro hfalse
        cases hfalse
      · intro hclients
        have hserial := hinv.owner τ c hc
        have hlow := (hnew c hclients).2.1
        omega
    · rw [mark_of_ne hd, Function.update_of_ne (Ne.symm hd)]
      exact hinv.captured τ c hc

theorem Inv.close (hinv : h.Inv) {clients : ClientSet}
    (hserial : clients.serial < h.world.dialled)
    (hgone : ∀ device, h.world.active device ≠ some clients) :
    Inv ⟨{ h.world with closed := clients :: h.world.closed }, h.updated⟩ where
  owner := hinv.owner
  active device c hc := by
    obtain ⟨hdevice, hlow, hopen⟩ := hinv.active device c hc
    refine ⟨hdevice, hlow, fun hmem ↦ ?_⟩
    rcases List.mem_cons.mp hmem with rfl | hmem
    · exact hgone device hc
    · exact hopen hmem
  closed c hc := by
    rcases List.mem_cons.mp hc with rfl | hc
    · exact hserial
    · exact hinv.closed c hc
  keepalive := hinv.keepalive
  fresh := hinv.fresh
  captured := hinv.captured

/-- The clients of the device are the right ones for a topic that it was not updated after. -/
theorem Inv.serves_of_active (hinv : h.Inv) {τ : Topic} {clients : ClientSet}
    (hactive : h.world.active τ.device = some clients) (howner : h.world.owner τ ≠ none) :
    h.world.Serves (some clients) τ ↔ h.updated τ = false := by
  rw [← hinv.serves howner, hactive]

theorem step_of_unchanged {a : Event} (ha : h.world.changed a = none) :
    h.step influx a = ⟨h.world.step influx a, h.updated⟩ := by
  unfold step
  congr 1
  funext τ
  simp [ha]

theorem step_of_changed {a : Event} {device : ℕ} (ha : h.world.changed a = some device) :
    h.step influx a = ⟨h.world.step influx a, h.mark device⟩ := by
  unfold step
  congr 1
  funext τ
  simp [mark, ha]

/-- What is claimed of one event. -/
def StepsWell (influx : Bool) (h : History) (a : Event) : Prop :=
  (h.step influx a).Inv ∧ ((h.step influx a).world.Clean ↔ h.world.Clean ∧ h.Spares influx a)

theorem Inv.request (hinv : h.Inv) (device : ℕ) (e : Endpoint) (clientID : String)
    (opens : Bool) : h.StepsWell influx (.request device e clientID opens) := by
  unfold StepsWell
  rw [step_of_unchanged rfl]
  cases hactive : h.world.active device with
  | none =>
    have hworld : h.world.step influx (.request device e clientID opens) = h.world := by
      simp only [World.step, World.request, hactive]
    rw [hworld]
    refine ⟨hinv, ?_⟩
    simp [Spares, hactive]
  | some clients =>
    have hopen := (hinv.active device clients hactive).2.2
    have hclean : ((h.world.getOrCreate (e.topic device) clients).subscribe (e.topic device)
        clientID opens).1.Clean ↔ h.world.Clean ∧ (h.world.idle (e.topic device) = true →
          h.world.Serves (some clients) (e.topic device)) := World.arrive_clean hactive hopen
    by_cases haccepted : e.accepted = true
    · have hworld : h.world.step influx (.request device e clientID opens) =
          ((h.world.getOrCreate (e.topic device) clients).subscribe (e.topic device) clientID
            opens).1 := by
        simp only [World.step, World.request, hactive, haccepted, if_true]
      rw [hworld]
      constructor
      · refine hinv.grow World.arrive_frame fun τ ↦ ?_
        rw [World.arrive_owner]
        split_ifs with hnew
        · obtain ⟨rfl, hnone⟩ := hnew
          exact .inr ⟨hnone, clients, rfl, hactive⟩
        · exact .inl rfl
      · simp only [Spares, hactive, haccepted, Option.isSome_some, true_implies]
        refine hclean.trans (and_congr_right' (imp_congr_right fun hidle ↦ ?_))
        exact hinv.serves_of_active hactive (owner_of_any hidle)
    · have hworld : h.world.step influx (.request device e clientID opens) = h.world := by
        simp only [World.step, World.request, hactive, haccepted, if_false, Bool.false_eq_true]
      rw [hworld]
      refine ⟨hinv, ?_⟩
      simp [Spares, haccepted]

theorem Inv.leave (hinv : h.Inv) (device : ℕ) (e : Endpoint) (clientID : String) :
    h.StepsWell influx (.leave device e clientID) := by
  unfold StepsWell
  rw [step_of_unchanged rfl]
  constructor
  · exact hinv.grow (World.unsubscribe_frame _) fun τ ↦ .inl (World.unsubscribe_owner _ τ)
  · have hclean : (h.world.leave device e clientID).Clean ↔ h.world.Clean ∧
        (h.world.last (e.topic device, clientID) = true →
          h.world.Serves (h.world.active device) (e.topic device)) :=
      World.unsubscribe_clean (h.world.active device)
    refine hclean.trans (and_congr_right' (imp_congr_right fun hlast ↦ ?_))
    exact hinv.serves (owner_of_any hlast)

theorem Inv.remove (hinv : h.Inv) (device : ℕ) : h.StepsWell influx (.remove device) := by
  unfold StepsWell
  cases hactive : h.world.active device with
  | none =>
    have hchanged : h.world.changed (.remove device) = none := by
      simp [World.changed, hactive]
    have hworld : h.world.step influx (.remove device) = h.world := by
      simp only [World.step, World.removeAndWait, hactive]
    rw [step_of_unchanged hchanged, hworld]
    refine ⟨hinv, ?_⟩
    simp [Spares, hactive]
  | some clients =>
    have hchanged : h.world.changed (.remove device) = some device := by
      simp [World.changed, hactive]
    rw [step_of_changed hchanged]
    obtain ⟨hdevice, hserial, -⟩ := hinv.active device clients hactive
    obtain ⟨hnodup, hkeptDevice⟩ := hinv.keepalive device
    have hgone : Inv ⟨{ h.world with active := Function.update h.world.active device none },
        h.mark device⟩ := hinv.replace (Nat.le_refl _) fun c hc ↦ by cases hc
    have hreleased : Inv ⟨{ h.world with
        active := Function.update h.world.active device none
        keepalive := Function.update h.world.keepalive device [] }, h.mark device⟩ :=
      hgone.setKeepalive List.nodup_nil fun p hp ↦ by cases hp
    obtain ⟨hframe, howner, hclean⟩ := World.unsubscribe_all
      (w := { h.world with
        active := Function.update h.world.active device none
        keepalive := Function.update h.world.keepalive device [] })
      (some clients) (h.world.keepalive device) hnodup
    have hleft := hreleased.grow hframe fun τ ↦ .inl (howner τ)
    have hworld : h.world.step influx (.remove device) =
        { ({ h.world with active := Function.update h.world.active device none } :
            World).stopDevice (some clients) device with
          closed := clients :: (({ h.world with
            active := Function.update h.world.active device none } : World).stopDevice
              (some clients) device).closed } := by
      simp only [World.step, World.removeAndWait, hactive]
    rw [hworld]
    constructor
    · refine hleft.close ?_ fun d hd ↦ ?_
      · show clients.serial < World.dialled _
        rw [hframe.dialled]
        exact hserial
      · have hd' : Function.update h.world.active device none d = some clients :=
          (congrFun hframe.active d).symm.trans hd
        have hsame : clients.device = d := (hleft.active d clients hd).1
        rw [← hsame, hdevice, Function.update_self] at hd'
        cases hd'
    · refine hclean.trans (and_congr_right' ?_)
      simp only [Spares, hactive, Option.isSome_some, true_implies]
      refine forall₂_congr fun p hp ↦ imp_congr_right fun hlast ↦ ?_
      have hpactive : h.world.active p.1.device = some clients := by
        rw [hkeptDevice p hp, hactive]
      exact hinv.serves_of_active hpactive (owner_of_any hlast)

theorem Inv.add (hinv : h.Inv) (device : ℕ) (dials : Bool) (opens : Topic → Bool) :
    h.StepsWell influx (.add device dials opens) := by
  unfold StepsWell
  cases dials with
  | false =>
    rw [step_of_unchanged rfl]
    refine ⟨hinv, ?_⟩
    simp [Spares, World.step, World.add]
  | true =>
    rw [step_of_changed rfl]
    have hnew : Inv ⟨{ h.world with
        active := Function.update h.world.active device (some ⟨device, h.world.dialled⟩)
        dialled := h.world.dialled + 1 }, h.mark device⟩ :=
      hinv.replace (Nat.le_succ _) fun c hc ↦ by
        cases hc
        exact ⟨rfl, Nat.le_refl _, Nat.lt_succ_self _⟩
    cases influx with
    | false =>
      refine ⟨hnew, ?_⟩
      simp [Spares]
      exact Iff.rfl
    | true =>
      have hopen := (hnew.active device ⟨device, h.world.dialled⟩ (by simp)).2.2
      obtain ⟨hframe, howner, hclean, l, hsub, hkept⟩ := World.keepAlive_all
        (w := { h.world with
          active := Function.update h.world.active device (some ⟨device, h.world.dialled⟩)
          dialled := h.world.dialled + 1 })
        opens (World.kept device) (World.kept_nodup device) hopen
        (fun p hp ↦ by simp [World.kept_device hp]) []
      have hgrown := hnew.grow hframe fun τ ↦ by
        rw [howner]
        split_ifs with hτ
        · obtain ⟨hmem, hnone⟩ := hτ
          obtain ⟨p, hp, rfl⟩ := List.mem_map.mp hmem
          exact .inr ⟨hnone, _, rfl, by simp [World.kept_device hp]⟩
        · exact .inl rfl
      constructor
      · refine hgrown.setKeepalive ?_ ?_
        · rw [hkept]
          exact (World.kept_nodup device).sublist (hsub.map _)
        · intro p hp
          rw [hkept] at hp
          exact World.kept_device (hsub.subset hp)
      · refine hclean.trans (and_congr_right' ?_)
        unfold Spares
        simp only [true_implies]
        refine forall₂_congr fun p hp ↦ ?_
        rw [← Bool.not_eq_true]
        constructor
        · intro hserves hidle
          -- no closure from before can hold the clients that are new
          obtain ⟨clients, hclients, hsame, -⟩ := hserves hidle
          cases hsame
          exact absurd (hinv.owner p.1 _ hclients) (Nat.lt_irrefl _)
        · intro hbusy hidle
          exact absurd hidle hbusy

theorem Inv.step (hinv : h.Inv) (a : Event) : h.StepsWell influx a := by
  cases a with
  | add device dials opens => exact hinv.add device dials opens
  | remove device => exact hinv.remove device
  | request device e clientID opens => exact hinv.request device e clientID opens
  | leave device e clientID => exact hinv.leave device e clientID

theorem Inv.start : start.Inv where
  owner τ clients hclients := by cases hclients
  active device clients hclients := by cases hclients
  closed clients hclients := by cases hclients
  keepalive device := ⟨List.nodup_nil, fun p hp ↦ by cases hp⟩
  fresh τ _ := rfl
  captured τ clients hclients := by cases hclients

end History

/-- Every start and every stop of a backend stream is made on the open clients that the
device has at that moment, if and only if no event starts or stops the stream of a topic that
was requested before its device was last removed or added. -/
theorem streams_on_current_clients (influx : Bool) (events : List Event) :
    (∀ h ∈ Run.states (History.step influx) History.start events,
      ∀ u ∈ h.world.uses, u.Current) ↔
        Run.Guarded (History.step influx) (History.Spares influx) History.start events := by
  have hkeeps : ∀ h a, True → History.Inv h → History.Inv (History.step influx h a) :=
    fun _ a _ hinv ↦ (hinv.step a).1
  have hdecides : ∀ h a, True → History.Inv h → (∀ u ∈ h.world.uses, u.Current) →
      ((∀ u ∈ (History.step influx h a).world.uses, u.Current) ↔ History.Spares influx h a) := by
    intro h a _ hinv hclean
    have hstep : (History.step influx h a).world.Clean ↔
        h.world.Clean ∧ History.Spares influx h a := (hinv.step a).2
    exact hstep.trans (and_iff_right hclean)
  apply Run.states_iff_guarded hkeeps hdecides (fun _ _ ↦ trivial) History.Inv.start
  intro u hu
  cases hu

section Witness

/-- A client watches the hotspot and leaves; the device is updated; the client comes back. -/
def updatedBetween : List Event :=
  [.add 1 true fun _ ↦ true, .request 1 (.hotspotActive "") "a" true,
    .leave 1 (.hotspotActive "") "a", .remove 1, .add 1 true fun _ ↦ true,
    .request 1 (.hotspotActive "") "b" true]

theorem stream_on_closed_clients :
    ¬ ∀ events, ∀ h ∈ Run.states (History.step false) History.start events,
      ∀ u ∈ h.world.uses, u.Current := by
  intro hall
  have hlast := hall updatedBetween _ (Run.foldl_mem_states _ _)
  have hused : (⟨.start, ⟨1, "hotspot-active"⟩, ⟨1, 0⟩, some ⟨1, 1⟩, true⟩ : Use) ∈
      (updatedBetween.foldl (History.step false) History.start).world.uses := by decide +kernel
  exact absurd (hlast _ hused).2 (by decide)

end Witness

end Rosmon.Streams
