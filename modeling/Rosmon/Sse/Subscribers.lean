import Rosmon.Sse.Broker

namespace Rosmon.Sse

open Library

variable {δ : Type}

/-- What a mailbox holds after an event has been put to it. -/
def offer (e : Event δ) (box : List (Event δ)) : List (Event δ) :=
  if box.length < slots then box ++ [e] else box

def Subscriber.offer (e : Event δ) (s : Subscriber δ) : Subscriber δ :=
  { s with channel := Sse.offer e s.channel }

/-- What the subscribers are promised: a mailbox for each, which goes when its owner leaves. -/
abbrev Mailboxes (δ : Type) := List (Option (List (Event δ)))

namespace Mailboxes

def busy (m : Mailboxes δ) : Bool := m.any Option.isSome

def step (m : Mailboxes δ) : Op δ → Mailboxes δ
  -- only the first of the subscribers has to wait for the backend
  | .subscribe _ err => if m.busy = true ∨ err = none then m ++ [some []] else m
  | .leave n => m.set n none
  | .unsubscribe _ => m
  | .publish _ e => m.map (Option.map (offer e))
  | .receive n => m.modify n (Option.map List.tail)

end Mailboxes

/-- No subscriber that is still there came with the id. -/
def Free (clientID : String) (subscribers : List (Subscriber δ)) : Prop :=
  ∀ s ∈ subscribers, s.left = false → s.clientID ≠ clientID

instance (clientID : String) (subscribers : List (Subscriber δ)) :
    Decidable (Free clientID subscribers) :=
  inferInstanceAs (Decidable (∀ s ∈ subscribers, _ → _))

namespace World

def mailboxes (w : World δ) : Mailboxes δ :=
  w.subscribers.map fun s ↦ if s.left then none else some s.channel

/-- Every subscriber that is still there gets the next event, if it has a slot for it. -/
def Served (w : World δ) : Prop :=
  ∀ (n : ℕ) (s : Subscriber δ), w.subscribers[n]? = some s → s.left = false →
    ∀ order e, (w.publish order e).subscribers[n]? = some (s.offer e)

/-- No call is made with the id of another subscriber that is still there. -/
def OwnIds (w : World δ) : Op δ → Prop
  | .subscribe clientID _ => Free clientID w.subscribers
  | .leave n =>
    ∀ s ∈ w.subscribers[n]?, Free s.clientID (w.subscribers.set n { s with left := true })
  | .unsubscribe clientID => Free clientID w.subscribers
  | .publish _ _ => True
  | .receive _ => True

instance (w : World δ) : ∀ op, Decidable (w.OwnIds op)
  | .subscribe clientID _ => inferInstanceAs (Decidable (Free clientID w.subscribers))
  | .leave n => inferInstanceAs (Decidable (∀ s ∈ w.subscribers[n]?, Free _ _))
  | .unsubscribe clientID => inferInstanceAs (Decidable (Free clientID w.subscribers))
  | .publish _ _ => inferInstanceAs (Decidable True)
  | .receive _ => inferInstanceAs (Decidable True)

/-- The map of the broker is the list of those who are there. -/
structure Mapped (w : World δ) : Prop where
  reach : ∀ n s, w.subscribers[n]? = some s → s.left = false →
    w.broker.subs.get s.clientID = some n
  owner : ∀ clientID n, w.broker.subs.get clientID = some n →
    ∃ s, w.subscribers[n]? = some s ∧ s.left = false ∧ s.clientID = clientID

structure Coherent (w : World δ) : Prop where
  steady : w.Steady
  mapped : w.Mapped

theorem Mapped.new (topic : String) : (new topic : World δ).Mapped where
  reach n s h := by simp [World.new] at h
  owner clientID n h := by simp [World.new, newBroker] at h

variable {w : World δ}

theorem Coherent.busy (h : w.Coherent) : w.mailboxes.busy = w.broker.started := by
  rw [Bool.eq_iff_iff, h.steady.started]
  constructor
  · intro hbusy hempty
    simp only [Mailboxes.busy, mailboxes, List.any_map, List.any_eq_true, Function.comp_apply]
      at hbusy
    obtain ⟨s, hs, hleft⟩ := hbusy
    obtain ⟨n, hn⟩ := List.mem_iff_getElem?.mp hs
    have hreach := h.mapped.reach n s hn (by cases hl : s.left <;> simp_all)
    simp [hempty] at hreach
  · intro hsubs
    obtain ⟨⟨clientID, n⟩, hmem⟩ : ∃ entry, entry ∈ w.broker.subs.entries := by
      apply List.exists_mem_of_ne_nil
      intro hnil
      exact hsubs (AList.ext hnil)
    obtain ⟨s, hs, hleft, -⟩ := h.mapped.owner clientID n (Go.Map.mem_entries.mp hmem)
    simp only [Mailboxes.busy, mailboxes, List.any_map, List.any_eq_true, Function.comp_apply]
    exact ⟨s, List.mem_of_getElem? hs, by simp [hleft]⟩

theorem Mapped.register (h : w.Mapped) {clientID : String}
    (hfree : Free clientID w.subscribers) : (w.register clientID).Mapped := by
  have hold : ∀ (n : ℕ) (s : Subscriber δ), w.subscribers[n]? = some s → s.left = false →
      s.clientID ≠ clientID := fun n s hn hleft ↦
    hfree s (List.mem_of_getElem? hn) hleft
  refine ⟨fun n s hn hleft ↦ ?_, fun id n hget ↦ ?_⟩
  · simp only [World.register, Go.Map.get_insert] at hn ⊢
    rw [List.getElem?_append] at hn
    split at hn
    · rw [if_neg (hold n s hn hleft)]
      exact h.reach n s hn hleft
    · have hlast : n = w.subscribers.length ∧ s = ⟨clientID, [], false⟩ := by
        rw [List.getElem?_singleton] at hn
        split at hn
        · cases hn
          exact ⟨by omega, rfl⟩
        · cases hn
      rw [if_pos (by rw [hlast.2]), hlast.1]
  · simp only [World.register, Go.Map.get_insert] at hget ⊢
    split at hget
    next hid =>
      cases hget
      exact ⟨⟨clientID, [], false⟩, List.getElem?_concat_length, rfl, hid.symm⟩
    next hid =>
      obtain ⟨s, hs, hleft, heq⟩ := h.owner id n hget
      have hlt := (List.getElem?_eq_some_iff.mp hs).1
      exact ⟨s, (List.getElem?_append_left hlt).trans hs, hleft, heq⟩

theorem Mapped.subscribe (h : w.Mapped) {clientID : String}
    (hfree : Free clientID w.subscribers) (err : Option String) :
    (w.subscribe clientID err).2.Mapped := by
  have hmap := h.register hfree
  unfold World.subscribe
  split
  · exact hmap
  · cases err with
    | some e => exact ⟨h.reach, h.owner⟩
    | none => exact ⟨hmap.reach, hmap.owner⟩

theorem unsubscribe_subs (w : World δ) (clientID : String) :
    (w.unsubscribe clientID).broker.subs = w.broker.subs.erase clientID := by
  unfold unsubscribe
  dsimp only
  split <;> rfl

theorem unsubscribe_subscribers (w : World δ) (clientID : String) :
    (w.unsubscribe clientID).subscribers = w.subscribers := by
  unfold unsubscribe
  dsimp only
  split <;> rfl

/-- A call by somebody who is not there, or is no longer there. -/
theorem Mapped.unsubscribe (h : w.Mapped) {clientID : String}
    (hfree : Free clientID w.subscribers) : (w.unsubscribe clientID).Mapped := by
  refine ⟨fun n s hn hleft ↦ ?_, fun id n hget ↦ ?_⟩
  · rw [unsubscribe_subscribers] at hn
    rw [unsubscribe_subs, Go.Map.get_erase, if_neg (hfree s (List.mem_of_getElem? hn) hleft)]
    exact h.reach n s hn hleft
  · rw [unsubscribe_subs, Go.Map.get_erase] at hget
    rw [unsubscribe_subscribers]
    split at hget
    · cases hget
    · exact h.owner id n hget

theorem Mapped.leave (h : w.Mapped) {n : ℕ} (hown : w.OwnIds (.leave n)) : (w.leave n).Mapped := by
  unfold World.leave
  split
  · exact h
  next s hn =>
    have hfree : Free s.clientID (w.subscribers.set n { s with left := true }) := hown s hn
    refine ⟨fun m t hm hleft ↦ ?_, fun id m hget ↦ ?_⟩
    · rw [unsubscribe_subscribers] at hm
      have hne := hfree t (List.mem_of_getElem? hm) hleft
      rw [unsubscribe_subs, Go.Map.get_erase, if_neg hne]
      rw [List.getElem?_set] at hm
      split at hm
      next hnm =>
        split at hm
        · cases hm
          cases hleft
        · cases hm
      · exact h.reach m t hm hleft
    · rw [unsubscribe_subs, Go.Map.get_erase] at hget
      split at hget
      · cases hget
      next hne =>
        obtain ⟨t, hm, hleft, hid⟩ := h.owner id m hget
        have hnm : n ≠ m := by
          intro heq
          subst heq
          rw [hn] at hm
          cases hm
          exact hne hid.symm
        refine ⟨t, ?_, hleft, hid⟩
        rw [unsubscribe_subscribers, List.getElem?_set_ne hnm]
        exact hm

/-- What does not touch the ids does not touch the map. -/
theorem Mapped.of_channels (h : w.Mapped) {w' : World δ}
    (hsubs : w'.broker.subs = w.broker.subs) (f : ℕ → Subscriber δ → Subscriber δ)
    (hf : ∀ n s, (f n s).clientID = s.clientID ∧ (f n s).left = s.left)
    (hw' : ∀ n, w'.subscribers[n]? = w.subscribers[n]?.map (f n)) : w'.Mapped := by
  refine ⟨fun n s hn hleft ↦ ?_, fun id n hget ↦ ?_⟩
  · rw [hw', Option.map_eq_some_iff] at hn
    obtain ⟨t, ht, rfl⟩ := hn
    rw [hsubs, (hf n t).1]
    exact h.reach n t ht ((hf n t).2 ▸ hleft)
  · rw [hsubs] at hget
    obtain ⟨t, ht, hleft, hid⟩ := h.owner id n hget
    exact ⟨f n t, by rw [hw', ht]; rfl, (hf n t).2.trans hleft, (hf n t).1.trans hid⟩

theorem send_subscribers (e : Event δ) (w : World δ) (n : ℕ) :
    (w.send e n).subscribers = w.subscribers.modify n (Subscriber.offer e) := by
  unfold send
  split
  next hn =>
    rw [List.modify_eq_self (List.getElem?_eq_none_iff.mp hn)]
  next s hn =>
    have : Inhabited (Subscriber δ) := ⟨s⟩
    obtain ⟨hlt, hs⟩ := List.getElem?_eq_some_iff.mp hn
    rw [List.modify_eq_set, hn, Option.getD_some]
    split
    next hroom => simp [Subscriber.offer, Sse.offer, hroom]
    next hfull =>
      have hsame : s.offer e = s := by simp [Subscriber.offer, Sse.offer, hfull]
      rw [hsame, ← hs]
      exact (List.set_getElem_self hlt).symm

theorem send_subs (e : Event δ) (w : World δ) (n : ℕ) :
    (w.send e n).broker.subs = w.broker.subs := by
  unfold send
  split
  · rfl
  · split <;> rfl

theorem foldl_send_subs (e : Event δ) (w : World δ) (snap : List ℕ) :
    (snap.foldl (send e) w).broker.subs = w.broker.subs := by
  induction snap generalizing w with
  | nil => rfl
  | cons n snap ih => exact (ih _).trans (send_subs e w n)

theorem foldl_send_subscribers (e : Event δ) (w : World δ) {snap : List ℕ} (hsnap : snap.Nodup)
    (m : ℕ) : (snap.foldl (send e) w).subscribers[m]? =
      w.subscribers[m]?.map fun s ↦ if m ∈ snap then s.offer e else s := by
  induction snap generalizing w with
  | nil => simp
  | cons n snap ih =>
    obtain ⟨hn, hsnap⟩ := List.nodup_cons.mp hsnap
    rw [List.foldl_cons, ih _ hsnap, send_subscribers, List.getElem?_modify]
    by_cases hm : n = m
    · subst hm
      cases h : w.subscribers[n]? <;> simp [hn]
    · simp [hm, Ne.symm hm]

/-- The channels that `Publish` writes to, each of them once. -/
theorem Mapped.snapshot (h : w.Mapped) (order : Go.RangeOrder ℕ) :
    ((order.visit w.broker.subs.entries).map fun entry ↦ entry.2).Nodup ∧
      ∀ n s, w.subscribers[n]? = some s →
        (n ∈ (order.visit w.broker.subs.entries).map (fun entry ↦ entry.2) ↔ s.left = false) := by
  have hperm := (order.perm w.broker.subs.entries).map fun entry ↦ entry.2
  refine ⟨hperm.nodup_iff.mpr ?_, fun n s hn ↦ ?_⟩
  · refine List.Nodup.map_on (fun a ha b hb hab ↦ ?_) w.broker.subs.nodupKeys.nodup
    obtain ⟨ida, na⟩ := a
    obtain ⟨idb, nb⟩ := b
    obtain ⟨s, hs, -, rfl⟩ := h.owner ida na (Go.Map.mem_entries.mp ha)
    obtain ⟨t, ht, -, rfl⟩ := h.owner idb nb (Go.Map.mem_entries.mp hb)
    cases hab
    rw [hs] at ht
    cases ht
    rfl
  · rw [hperm.mem_iff]
    constructor
    · intro hmem
      obtain ⟨⟨id, m⟩, hentry, rfl⟩ := List.mem_map.mp hmem
      obtain ⟨t, ht, hleft, -⟩ := h.owner id m (Go.Map.mem_entries.mp hentry)
      rw [hn] at ht
      cases ht
      exact hleft
    · intro hleft
      exact List.mem_map.mpr ⟨_, Go.Map.mem_entries.mpr (h.reach n s hn hleft), rfl⟩

theorem Mapped.publish_subscribers (h : w.Mapped) (order : Go.RangeOrder ℕ) (e : Event δ) (n : ℕ) :
    (w.publish order e).subscribers[n]? =
      w.subscribers[n]?.map fun s ↦ if s.left then s else s.offer e := by
  obtain ⟨hnodup, hmem⟩ := h.snapshot order
  unfold publish
  rw [foldl_send_subscribers e w hnodup]
  cases hn : w.subscribers[n]? with
  | none => rfl
  | some s =>
    have hn := hmem n s hn
    simp only [Option.map_some, hn]
    cases s.left <;> rfl

theorem Mapped.served (h : w.Mapped) : w.Served := by
  intro n s hn hleft order e
  rw [h.publish_subscribers, hn]
  simp [hleft]

theorem Coherent.step (h : w.Coherent) {op : Op δ} (hown : w.OwnIds op) : (w.step op).Coherent := by
  refine ⟨h.steady.step op, ?_⟩
  cases op with
  | subscribe clientID err => exact h.mapped.subscribe hown err
  | leave n => exact h.mapped.leave hown
  | unsubscribe clientID => exact h.mapped.unsubscribe hown
  | publish order e =>
    refine h.mapped.of_channels (foldl_send_subs e w _)
      (fun _ s ↦ if s.left then s else s.offer e) (fun n s ↦ ?_) (h.mapped.publish_subscribers order e)
    split <;> exact ⟨rfl, rfl⟩
  | receive n =>
    refine h.mapped.of_channels rfl
      (fun m s ↦ if n = m then { s with channel := s.channel.tail } else s) (fun m s ↦ ?_)
      (fun m ↦ List.getElem?_modify _ _ _ _)
    split <;> exact ⟨rfl, rfl⟩

theorem mailboxes_register (w : World δ) (clientID : String) :
    (w.register clientID).mailboxes = w.mailboxes ++ [some []] := by
  simp [mailboxes, World.register]

/-- The broker does what the subscribers are promised. -/
theorem Coherent.mailboxes_step (h : w.Coherent) {op : Op δ} :
    (w.step op).mailboxes = w.mailboxes.step op := by
  cases op with
  | subscribe clientID err =>
    simp only [World.step, World.subscribe, Mailboxes.step, h.busy]
    split
    next hs => rw [if_pos (.inl hs), mailboxes_register]
    next hs =>
      cases err with
      | some e => rw [if_neg (by simp [hs])]; rfl
      | none => rw [if_pos (.inr rfl)]; exact mailboxes_register _ _
  | leave n =>
    simp only [World.step, World.leave, Mailboxes.step]
    split
    next hn =>
      rw [List.set_eq_of_length_le]
      simpa [mailboxes] using List.getElem?_eq_none_iff.mp hn
    next s hn =>
      unfold mailboxes
      rw [unsubscribe_subscribers, List.map_set]
      rfl
  | unsubscribe clientID =>
    simp only [World.step, mailboxes, unsubscribe_subscribers, Mailboxes.step]
  | publish order e =>
    apply List.ext_getElem?
    intro n
    simp only [World.step, mailboxes, Mailboxes.step, List.getElem?_map,
      h.mapped.publish_subscribers order e n, Option.map_map]
    congr 1
    funext s
    cases hleft : s.left <;> simp [hleft, Subscriber.offer]
  | receive n =>
    apply List.ext_getElem?
    intro m
    simp only [World.step, World.receive, mailboxes, Mailboxes.step, List.getElem?_map,
      List.getElem?_modify]
    cases hm : w.subscribers[m]? with
    | none => rfl
    | some s =>
      by_cases hnm : n = m <;> cases hleft : s.left <;> simp [hnm, hleft]

theorem coherent (topic : String) {ops : List (Op δ)}
    (hown : Run.Guarded step OwnIds (new topic) ops) :
    ∀ w ∈ Run.states step (new topic) ops, w.Coherent :=
  Run.invariant (fun _ _ h hop ↦ h.step hop) ⟨.new topic, .new topic⟩ hown

theorem mailboxes_run (h : w.Coherent) {ops : List (Op δ)} (hown : Run.Guarded step OwnIds w ops) :
    (ops.foldl step w).mailboxes = ops.foldl Mailboxes.step w.mailboxes := by
  induction ops generalizing w with
  | nil => rfl
  | cons op ops ih =>
    rw [List.foldl_cons, List.foldl_cons, ih (h.step hown.1) hown.2, h.mailboxes_step]

theorem subscribers_are_served (topic : String) (ops : List (Op δ))
    (hown : Run.Guarded step OwnIds (new topic) ops) :
    (ops.foldl step (new topic)).mailboxes = ops.foldl Mailboxes.step [] ∧
      ∀ w ∈ Run.states step (new topic) ops,
        w.Served ∧ (w.mailboxes.busy = true → w.running = true) := by
  refine ⟨mailboxes_run ⟨.new topic, .new topic⟩ hown, fun w hw ↦ ?_⟩
  have h := coherent topic hown w hw
  refine ⟨h.mapped.served, fun hbusy ↦ ?_⟩
  rw [h.steady.running, ← h.busy]
  exact hbusy

theorem subscribers_are_served_two :
    let ops : List (Op Unit) := [.subscribe "a" none, .subscribe "b" (some "timeout"),
      .publish (.asStored ℕ) ⟨"log", (), ""⟩, .leave 0, .publish (.asStored ℕ) ⟨"log", (), ""⟩]
    (ops.foldl step (new "1:log:all")).mailboxes =
      [none, some [⟨"log", (), ""⟩, ⟨"log", (), ""⟩]] :=
  (subscribers_are_served "1:log:all" _ (by decide)).1.trans (by decide)

/-- The second of two subscribers with one id takes the events of the first, and the backend
with it when it leaves. -/
theorem subscribers_with_one_id :
    let w : World Unit :=
      [.subscribe "a" none, .subscribe "a" none].foldl step (new "1:log:all")
    ¬w.Served ∧ (w.leave 1).mailboxes.busy = true ∧ (w.leave 1).running = false := by
  refine ⟨fun hserved ↦ ?_, by decide, by decide⟩
  have hfirst := hserved 0 ⟨"a", [], false⟩ (by decide) rfl (.asStored ℕ) ⟨"log", (), ""⟩
  revert hfirst
  decide

end World

end Rosmon.Sse
