import Mathlib.Data.Fintype.Basic
import Rosmon.Devices.Manager
import Rosmon.Library.Sequences
import Rosmon.Library.Pool

namespace Rosmon.Devices

open Library Program
open Handler (Response)
open Streams (ClientSet)

/-- What a request has on its hands: the row it has read, the entry of a device that it has
deleted, a connection that it has dialled, or one that it has taken out of the active map. -/
inductive Stage
  | resting
  | read (id : ℕ) (d : MikrotikDevice)
  | deleting (id : ℕ)
  | dialled (clients : ClientSet)
  | removed (clients : ClientSet)
  deriving DecidableEq

namespace Stage

/-- The connection that is to be registered or closed. -/
def hand : Stage → Option ClientSet
  | dialled clients => some clients
  | removed clients => some clients
  | _ => none

/-- The device whose entry is to be removed. -/
def debt : Stage → Option ℕ
  | deleting id => some id
  | _ => none

def Idle (m : Stage) : Prop := m.hand = none ∧ m.debt = none

end Stage

def observer : Monitor Call Call.Reply Stage where
  allows m c := match m, c with
    | .read id _, .delete id' => id' = id
    | _, .delete _ => False
    | .deleting id, .unregister id' => id' = id
    | .deleting _, _ => False
    | .dialled clients, .register clients' => clients' = clients
    | .dialled _, _ => False
    | .removed clients, .close clients' _ => clients' = clients
    | .removed _, .onDeviceRemoved _ => True
    | .removed _, _ => False
    | _, .register _ => False
    | _, .close _ _ => False
    | _, _ => True
  next m c r := match c, r with
    | .get id, .ok d => .read id d
    | .delete _, .ok _ => match m with
      | .read _ d => .deleting d.id
      | _ => m
    | .dial _, .ok clients => .dialled clients
    | .unregister _, some clients => .removed clients
    | .unregister _, none => .resting
    | .register _, _ => .resting
    | .close _ _, _ => .resting
    | _, _ => m

theorem next_deleted (id id' : ℕ) (d : MikrotikDevice) :
    observer.next (.read id d) (.delete id') (.ok ()) = .deleting d.id := rfl

theorem next_dialled (m : Stage) (d : MikrotikDevice) (clients : ClientSet) :
    observer.next m (.dial d) (.ok clients) = .dialled clients := rfl

theorem next_unregistered (m : Stage) (id : ℕ) (clients : ClientSet) :
    observer.next m (.unregister id) (some clients) = .removed clients := rfl

theorem next_absent (m : Stage) (id : ℕ) : observer.next m (.unregister id) none = .resting := rfl

theorem persistStatus_follows (id : ℕ) (status errMsg : String) :
    (persistStatus id status errMsg).Follows observer (fun m _ ↦ m = .resting) .resting :=
  ⟨trivial, fun _ ↦ rfl⟩

theorem connect_follows (d : MikrotikDevice) :
    (connect d).Follows observer (fun m _ ↦ m = .resting) .resting := by
  refine ⟨trivial, fun r ↦ ?_⟩
  cases r with
  | error err =>
    refine (persistStatus_follows _ _ _).bind fun m _ hm ↦ ?_
    exact hm
  | ok clients =>
    refine ⟨rfl, fun _ ↦ ?_⟩
    refine (persistStatus_follows _ _ _).bind fun m _ hm ↦ ?_
    subst hm
    refine ⟨trivial, fun zone ↦ ?_⟩
    cases zone with
    | none => exact ⟨trivial, fun _ ↦ rfl⟩
    | some timeZone =>
      change Follows observer _ _ (if timeZone = "" then _ else _)
      split
      · exact ⟨trivial, fun _ ↦ rfl⟩
      · exact ⟨trivial, fun _ ↦ ⟨trivial, fun _ ↦ rfl⟩⟩

theorem removeInternal_follows (id : ℕ) (wait : Bool) {m : Stage}
    (hm : observer.allows m (.unregister id)) :
    (removeInternal id wait).Follows observer (fun m _ ↦ m = .resting) m := by
  refine ⟨hm, fun r ↦ ?_⟩
  cases r with
  | none => rfl
  | some clients => exact ⟨trivial, fun _ ↦ ⟨rfl, fun _ ↦ rfl⟩⟩

theorem prog_follows (req : Request) :
    req.prog.Follows observer (fun m _ ↦ m.Idle) .resting := by
  cases req with
  | create req =>
    refine ⟨trivial, fun r ↦ ?_⟩
    cases r with
    | error failure => exact ⟨rfl, rfl⟩
    | ok d =>
      refine (connect_follows d).bind fun m r hm ↦ ?_
      subst hm
      cases r <;> exact ⟨rfl, rfl⟩
  | update id req =>
    refine ⟨trivial, fun r ↦ ?_⟩
    cases r with
    | error failure => exact ⟨rfl, rfl⟩
    | ok existing =>
      refine ⟨trivial, fun r ↦ ?_⟩
      cases r with
      | error failure => exact ⟨rfl, rfl⟩
      | ok _ =>
        have hremove := removeInternal_follows (req.apply existing).id true
          (m := .read id existing) trivial
        refine hremove.bind fun m _ hm ↦ ?_
        subst hm
        refine (connect_follows _).bind fun m r hm ↦ ?_
        subst hm
        cases r <;> exact ⟨rfl, rfl⟩
  | delete id =>
    refine ⟨trivial, fun r ↦ ?_⟩
    cases r with
    | error failure => exact ⟨rfl, rfl⟩
    | ok d =>
      refine ⟨rfl, fun r ↦ ?_⟩
      cases r with
      | error failure => exact ⟨rfl, rfl⟩
      | ok _ =>
        have hremove := removeInternal_follows d.id false (m := .deleting d.id) rfl
        refine hremove.bind fun m _ hm ↦ ?_
        subst hm
        exact ⟨rfl, rfl⟩

namespace World

/-- There is a row of the device that is not deleted. -/
def Live (id : ℕ) (w : World) : Prop := ∃ d ∈ w.devices, live id d = true

instance (id : ℕ) (w : World) : Decidable (w.Live id) :=
  inferInstanceAs (Decidable (∃ d ∈ w.devices, live id d = true))

end World

variable {ι : Type} [DecidableEq ι]

/-- A connection is registered for a device that has no entry, and that has not been deleted
unless the one who did so has yet to remove the entry; a hook is called for the first change
of the entry for which none has been. -/
def InOrder (w : World) (m : ι → Stage) (_ : ι) : Call → Prop
  | .register clients => w.active clients.device = none ∧
      (w.Live clients.device ∨ ∃ i, (m i).debt = some clients.device)
  | .onDeviceConnected d => (w.changes d.id)[(w.hooks d.id).length]? = some true
  | .onDeviceRemoved id => (w.changes id)[(w.hooks id).length]? = some false
  | _ => True

/-- The connections that are open are the ones that are registered or on somebody's hands. -/
structure Held (active : ℕ → Option ClientSet) (opened : List ClientSet) (dialled : ℕ)
    (hand : ι → Option ClientSet) : Prop where
  keyed : ∀ id clients, active id = some clients → clients.device = id
  reached : ∀ clients ∈ opened,
    active clients.device = some clients ∨ ∃ i, hand i = some clients
  activeOpen : ∀ id clients, active id = some clients → clients ∈ opened
  handOpen : ∀ i clients, hand i = some clients → clients ∈ opened
  handFree : ∀ i clients, hand i = some clients → active clients.device ≠ some clients
  handOnce : ∀ i j clients, hand i = some clients → hand j = some clients → i = j
  fresh : ∀ clients ∈ opened, clients.serial < dialled

section Connections

variable {active : ℕ → Option ClientSet} {opened : List ClientSet} {dialled : ℕ}
variable {hand : ι → Option ClientSet} {i : ι} {clients : ClientSet}

/-- Whoever has a connection on his hands still has it when another one's hands change. -/
theorem exists_hand_update (hi : hand i ≠ some clients) (v : Option ClientSet)
    (h : ∃ j, hand j = some clients) : ∃ j, Function.update hand i v j = some clients := by
  obtain ⟨j, hj⟩ := h
  have hne : j ≠ i := by
    intro heq
    exact hi (heq ▸ hj)
  exact ⟨j, by rw [Function.update_of_ne hne, hj]⟩

/-- A new connection is on the hands of the one who has dialled it. -/
theorem Held.dial (h : Held active opened dialled hand) (hi : hand i = none) (id : ℕ) :
    Held active (⟨id, dialled⟩ :: opened) (dialled + 1)
      (Function.update hand i (some ⟨id, dialled⟩)) := by
  have hnew : (⟨id, dialled⟩ : ClientSet) ∉ opened := fun hmem ↦
    absurd (h.fresh _ hmem) (Nat.lt_irrefl _)
  obtain ⟨hkeyed, hreached, hactive, hopen, hfree, honce, hfresh⟩ := h
  refine ⟨hkeyed, fun c hc ↦ ?_, ?_, ?_, ?_, ?_, ?_⟩
  · obtain rfl | hc := List.mem_cons.mp hc
    · exact .inr ⟨i, Function.update_self ..⟩
    · exact (hreached c hc).imp_right (exists_hand_update (by simp [hi]) _)
  all_goals grind [Function.update_apply]

theorem Held.register (h : Held active opened dialled hand) (hi : hand i = some clients)
    (hnone : active clients.device = none) :
    Held (Function.update active clients.device (some clients)) opened dialled
      (Function.update hand i none) := by
  obtain ⟨hkeyed, hreached, hactive, hopen, hfree, honce, hfresh⟩ := h
  refine ⟨?_, fun c hc ↦ ?_, ?_, ?_, ?_, ?_, hfresh⟩
  · grind [Function.update_apply]
  · by_cases heq : c = clients
    · subst heq
      exact .inl (Function.update_self ..)
    · obtain hc | hc := hreached c hc
      · refine .inl ?_
        have hne : c.device ≠ clients.device := by
          intro hdevice
          rw [hdevice, hnone] at hc
          cases hc
        rwa [Function.update_of_ne hne]
      · exact .inr (exists_hand_update (by rw [hi]; simpa using Ne.symm heq) _ hc)
  all_goals grind [Function.update_apply]

theorem Held.unregister (h : Held active opened dialled hand) (hi : hand i = none) {id : ℕ}
    (hsome : active id = some clients) :
    Held (Function.update active id none) opened dialled
      (Function.update hand i (some clients)) := by
  obtain ⟨hkeyed, hreached, hactive, hopen, hfree, honce, hfresh⟩ := h
  refine ⟨?_, fun c hc ↦ ?_, ?_, ?_, ?_, ?_, hfresh⟩
  · grind [Function.update_apply]
  · by_cases heq : c = clients
    · subst heq
      exact .inr ⟨i, Function.update_self ..⟩
    · obtain hc | hc := hreached c hc
      · refine .inl ?_
        have hne : c.device ≠ id := by
          intro hdevice
          rw [hdevice, hsome] at hc
          exact heq (Option.some.inj hc).symm
        rwa [Function.update_of_ne hne]
      · exact .inr (exists_hand_update (by simp [hi]) _ hc)
  all_goals grind [Function.update_apply]

theorem Held.close (h : Held active opened dialled hand) (hi : hand i = some clients) :
    Held active (opened.filter (· ≠ clients)) dialled (Function.update hand i none) := by
  obtain ⟨hkeyed, hreached, hactive, hopen, hfree, honce, hfresh⟩ := h
  refine ⟨hkeyed, fun c hc ↦ ?_, ?_, ?_, ?_, ?_, ?_⟩
  · obtain ⟨hc, hne⟩ := List.mem_filter.mp hc
    have hne : c ≠ clients := of_decide_eq_true hne
    exact (hreached c hc).imp_right (exists_hand_update (by rw [hi]; simpa using Ne.symm hne) _)
  all_goals grind [Function.update_apply]

end Connections

/-- The entries of the active map come and go in turn, and so do the hooks that have been
called. `starts` says which devices were registered at first. -/
structure Announced (starts : ℕ → Bool) (w : World) : Prop where
  alternating : ∀ id, Alternates (starts id) (w.changes id)
  last : ∀ id, (w.changes id).getLastD (starts id) = (w.active id).isSome
  hooks : ∀ id, w.hooks id <+: w.changes id

section Hooks

variable {starts : ℕ → Bool} {w : World}

theorem Announced.of_eq (h : Announced starts w) {w' : World} (hactive : w'.active = w.active)
    (hchanges : w'.changes = w.changes) (hhooks : w'.hooks = w.hooks) : Announced starts w' := by
  refine ⟨fun id ↦ ?_, fun id ↦ ?_, fun id ↦ ?_⟩
  · rw [hchanges]
    exact h.alternating id
  · rw [hchanges, hactive]
    exact h.last id
  · rw [hchanges, hhooks]
    exact h.hooks id

/-- An entry comes where there was none, or goes where there was one. -/
theorem Announced.setActive (h : Announced starts w) {id : ℕ} {clients : Option ClientSet}
    (hclients : clients.isSome = !(w.active id).isSome) :
    Announced starts (w.setActive id clients) := by
  refine ⟨fun id' ↦ ?_, fun id' ↦ ?_, fun id' ↦ ?_⟩
  · by_cases hid : id' = id
    · subst hid
      simp only [World.setActive, Function.update_self]
      rw [alternates_append, h.last, hclients]
      exact ⟨h.alternating id', rfl⟩
    · simpa only [World.setActive, Function.update_of_ne hid] using h.alternating id'
  · by_cases hid : id' = id
    · subst hid
      simp only [World.setActive, Function.update_self, List.getLastD_concat]
    · simpa only [World.setActive, Function.update_of_ne hid] using h.last id'
  · by_cases hid : id' = id
    · subst hid
      simp only [World.setActive, Function.update_self]
      exact (h.hooks id').trans (List.prefix_append _ _)
    · simpa only [World.setActive, Function.update_of_ne hid] using h.hooks id'

/-- The next hook in turn is called. -/
theorem Announced.callHook (h : Announced starts w) {id : ℕ} {connected : Bool}
    (hturn : (w.changes id)[(w.hooks id).length]? = some connected) :
    Announced starts (w.callHook id connected) := by
  refine ⟨h.alternating, h.last, fun id' ↦ ?_⟩
  by_cases hid : id' = id
  · subst hid
    obtain ⟨rest, hrest⟩ := h.hooks id'
    simp only [World.callHook, Function.update_self]
    cases rest with
    | nil =>
      rw [List.append_nil] at hrest
      rw [← hrest, List.getElem?_eq_none (Nat.le_refl _)] at hturn
      cases hturn
    | cons c rest =>
      rw [← hrest, List.getElem?_append_right (Nat.le_refl _), Nat.sub_self] at hturn
      cases hturn
      exact ⟨rest, by rw [← hrest, List.append_assoc, List.singleton_append]⟩
  · simpa only [World.callHook, Function.update_of_ne hid] using h.hooks id'

end Hooks

section Rows

variable {w : World}

theorem live_update {devices : Table MikrotikDevice} {p : MikrotikDevice → Bool}
    {f : MikrotikDevice → MikrotikDevice} [KeepsKey f] (hf : ∀ d, (f d).deleted = d.deleted)
    {id : ℕ} (h : ∃ d ∈ devices, World.live id d = true) :
    ∃ d ∈ devices.update p f, World.live id d = true := by
  obtain ⟨d, hd, hlive⟩ := h
  refine ⟨_, Table.mem_update.mpr ⟨d, hd, rfl⟩, ?_⟩
  have hid : (f d).id = d.id := KeepsKey.key_eq (f := f) d
  split
  · simpa only [World.live, hid, hf] using hlive
  · exact hlive

end Rows

/-- What holds between any two calls. -/
structure Kept (starts : ℕ → Bool) (w : World) (m : ι → Stage) : Prop where
  read : ∀ i id d, m i = .read id d → d.id = id
  served : ∀ id, w.active id ≠ none → w.Live id ∨ ∃ i, (m i).debt = some id
  held : Held w.active w.opened w.dialled fun i ↦ (m i).hand
  announced : Announced starts w

section Steps

variable {starts : ℕ → Bool} {w w' : World} {m : ι → Stage} {i : ι}

theorem hands_update (m : ι → Stage) (i : ι) (stage : Stage) :
    (fun j ↦ (Function.update m i stage j).hand) =
      Function.update (fun j ↦ (m j).hand) i stage.hand :=
  Function.comp_update Stage.hand m i stage

theorem exists_debt_update {id : ℕ} {stage : Stage} (hi : (m i).debt ≠ some id)
    (h : ∃ j, (m j).debt = some id) : ∃ j, (Function.update m i stage j).debt = some id := by
  obtain ⟨j, hj⟩ := h
  have hne : j ≠ i := by
    intro heq
    exact hi (heq ▸ hj)
  exact ⟨j, by rw [Function.update_of_ne hne, hj]⟩

theorem Kept.read_update (h : Kept starts w m) {stage : Stage}
    (hstage : ∀ id d, stage = .read id d → d.id = id) (j : ι) (id : ℕ) (d : MikrotikDevice)
    (hj : Function.update m i stage j = .read id d) : d.id = id := by
  rw [Function.update_apply] at hj
  split_ifs at hj
  · exact hstage id d hj
  · exact h.read j id d hj

/-- A call that neither opens nor closes a connection nor moves an entry. -/
theorem Kept.of_eq (h : Kept starts w m) {stage : Stage} (hactive : w'.active = w.active)
    (hopened : w'.opened = w.opened) (hdialled : w'.dialled = w.dialled)
    (hannounced : Announced starts w') (hlive : ∀ id, w.Live id → w'.Live id)
    (hhand : stage.hand = (m i).hand) (hdebt : stage.debt = (m i).debt)
    (hread : ∀ id d, stage = .read id d → d.id = id) :
    Kept starts w' (Function.update m i stage) := by
  refine ⟨h.read_update hread, fun id hid ↦ ?_, ?_, hannounced⟩
  · rw [hactive] at hid
    obtain hl | ⟨j, hj⟩ := h.served id hid
    · exact .inl (hlive id hl)
    · refine .inr ⟨j, ?_⟩
      rw [Function.update_apply]
      split_ifs with hji
      · rw [hdebt, ← hji, hj]
      · exact hj
  · rw [hactive, hopened, hdialled, hands_update, hhand, Function.update_eq_self]
    exact h.held

theorem Kept.same (h : Kept starts w m) : Kept starts w (Function.update m i (m i)) := by
  rwa [Function.update_eq_self]

theorem Kept.rows (h : Kept starts w m) {devices : Table MikrotikDevice}
    (hlive : ∀ id, w.Live id → World.Live id { w with devices }) :
    Kept starts { w with devices } (Function.update m i (m i)) :=
  h.of_eq rfl rfl rfl (h.announced.of_eq rfl rfl rfl) hlive rfl rfl fun id d ↦ h.read i id d

theorem idle_of_get {m : Stage} {id : ℕ} (h : observer.allows m (.get id)) : m.Idle := by
  cases m with
  | resting => exact ⟨rfl, rfl⟩
  | read id d => exact ⟨rfl, rfl⟩
  | deleting id => cases h
  | dialled clients => cases h
  | removed clients => cases h

theorem idle_of_dial {m : Stage} {d : MikrotikDevice} (h : observer.allows m (.dial d)) :
    m.Idle := by
  cases m with
  | resting => exact ⟨rfl, rfl⟩
  | read id d => exact ⟨rfl, rfl⟩
  | deleting id => cases h
  | dialled clients => cases h
  | removed clients => cases h

theorem Kept.get (h : Kept starts w m) {id : ℕ} {e : Env} (hidle : (m i).Idle) :
    Kept starts ((Call.get id).exec e w).2
      (Function.update m i (observer.next (m i) (.get id) ((Call.get id).exec e w).1)) := by
  simp only [Call.exec, orFault]
  cases e.fault with
  | some failure => exact h.same
  | none =>
    cases hd : w.devices.find (World.live id) with
    | none => exact h.same
    | some d =>
      have hid : d.id = id := by
        have hlive := Table.find_sat hd
        simp only [World.live, Bool.and_eq_true, decide_eq_true_eq] at hlive
        exact hlive.1
      refine h.of_eq rfl rfl rfl h.announced (fun _ hl ↦ hl) hidle.1.symm hidle.2.symm ?_
      intro id' d' hread
      cases hread
      exact hid

/-- A statement that changes rows and deletes none. -/
theorem Kept.statement (h : Kept starts w m) {e : Env} {p : MikrotikDevice → Bool}
    {f : MikrotikDevice → MikrotikDevice} [KeepsKey f] (hf : ∀ d, (f d).deleted = d.deleted) :
    Kept starts (orFault e w (.ok (), { w with devices := w.devices.update p f })).2
      (Function.update m i (m i)) := by
  unfold orFault
  split
  · exact h.same
  · exact h.rows fun id hl ↦ live_update hf hl

/-- A deleted row is on the hands of the one who has deleted it. -/
theorem Kept.delete (h : Kept starts w m) {id : ℕ} {e : Env}
    (hc : observer.allows (m i) (.delete id)) :
    Kept starts ((Call.delete id).exec e w).2
      (Function.update m i (observer.next (m i) (.delete id) ((Call.delete id).exec e w).1)) := by
  obtain ⟨d, hm⟩ : ∃ d, m i = .read id d := by
    cases hm : m i with
    | read id' d =>
      rw [hm] at hc
      exact ⟨d, by rw [show id = id' from hc]⟩
    | _ => rw [hm] at hc; cases hc
  simp only [Call.exec, orFault]
  cases e.fault with
  | some failure => exact h.same
  | none =>
    have hd : d.id = id := h.read i id d hm
    rw [hm, next_deleted, hd]
    refine ⟨h.read_update (by simp), fun id' hid ↦ ?_, ?_, h.announced.of_eq rfl rfl rfl⟩
    · by_cases heq : id' = id
      · exact .inr ⟨i, by rw [Function.update_self, heq]; rfl⟩
      · obtain ⟨d', hd', hlive⟩ | hdebt := h.served id' hid
        · refine .inl ⟨_, Table.mem_update.mpr ⟨d', hd', rfl⟩, ?_⟩
          have hkept : World.live id d' = false := by
            simp only [World.live, Bool.and_eq_true, decide_eq_true_eq] at hlive
            simp [World.live, hlive.1, heq]
          rw [hkept]
          exact hlive
        · exact .inr (exists_debt_update (by simp [hm, Stage.debt]) hdebt)
    · have hhand : (Stage.deleting id).hand = (m i).hand := by rw [hm]; rfl
      rw [hands_update, hhand, Function.update_eq_self]
      exact h.held

theorem Kept.dial (h : Kept starts w m) {d : MikrotikDevice} {e : Env} (hidle : (m i).Idle) :
    Kept starts ((Call.dial d).exec e w).2
      (Function.update m i (observer.next (m i) (.dial d) ((Call.dial d).exec e w).1)) := by
  simp only [Call.exec]
  cases e.dialError with
  | some err => exact h.same
  | none =>
    refine ⟨h.read_update (by simp [next_dialled]), fun id hid ↦ ?_, ?_,
      h.announced.of_eq rfl rfl rfl⟩
    · exact (h.served id hid).imp_right (exists_debt_update (by simp [hidle.2]))
    · rw [hands_update]
      exact h.held.dial hidle.1 d.id

theorem Kept.register (h : Kept starts w m) {clients : ClientSet}
    (hc : observer.allows (m i) (.register clients)) (hnone : w.active clients.device = none)
    (hserved : w.Live clients.device ∨ ∃ i, (m i).debt = some clients.device) :
    Kept starts (w.setActive clients.device (some clients)) (Function.update m i .resting) := by
  have hm : m i = .dialled clients := by
    cases hm : m i with
    | dialled clients' => rw [hm] at hc; rw [show clients = clients' from hc]
    | _ => rw [hm] at hc; cases hc
  have hhand : (m i).hand = some clients := by rw [hm]; rfl
  have hdebt : (m i).debt = none := by rw [hm]; rfl
  refine ⟨h.read_update (by simp), fun id hid ↦ ?_, ?_, h.announced.setActive (by simp [hnone])⟩
  · have hlive : w.Live id ∨ ∃ i, (m i).debt = some id := by
      by_cases heq : id = clients.device
      · exact heq ▸ hserved
      · change Function.update w.active clients.device (some clients) id ≠ none at hid
        rw [Function.update_of_ne heq] at hid
        exact h.served id hid
    exact hlive.imp_right (exists_debt_update (by simp [hdebt]))
  · rw [hands_update]
    exact h.held.register hhand hnone

theorem Kept.unregister (h : Kept starts w m) {id : ℕ} {e : Env}
    (hc : observer.allows (m i) (.unregister id)) :
    Kept starts ((Call.unregister id).exec e w).2
      (Function.update m i
        (observer.next (m i) (.unregister id) ((Call.unregister id).exec e w).1)) := by
  have hdebt : ∀ id', id' ≠ id → (m i).debt ≠ some id' := by
    intro id' hne heq
    cases hm : m i with
    | deleting id'' =>
      rw [hm] at hc heq
      exact hne ((Option.some.inj heq).symm.trans (show id = id'' from hc).symm)
    | _ => rw [hm] at heq; cases heq
  have hhand : (m i).hand = none := by
    cases hm : m i with
    | resting => rfl
    | read id d => rfl
    | deleting id => rfl
    | dialled clients => rw [hm] at hc; cases hc
    | removed clients => rw [hm] at hc; cases hc
  simp only [Call.exec]
  cases hactive : w.active id with
  | none =>
    refine ⟨h.read_update (by simp [next_absent]), fun id' hid ↦ ?_, ?_, h.announced⟩
    · have hne : id' ≠ id := by
        intro heq
        exact hid (heq ▸ hactive)
      exact (h.served id' hid).imp_right (exists_debt_update (hdebt id' hne))
    · have hrest : Stage.resting.hand = (m i).hand := hhand.symm
      rw [hands_update]
      change Held w.active w.opened w.dialled (Function.update _ i Stage.resting.hand)
      rw [hrest, Function.update_eq_self]
      exact h.held
  | some clients =>
    refine ⟨h.read_update (by simp [next_unregistered]), fun id' hid ↦ ?_, ?_,
      h.announced.setActive (by simp [hactive])⟩
    · change Function.update w.active id none id' ≠ none at hid
      have hne : id' ≠ id := by
        intro heq
        rw [heq, Function.update_self] at hid
        exact hid rfl
      rw [Function.update_of_ne hne] at hid
      exact (h.served id' hid).imp_right (exists_debt_update (hdebt id' hne))
    · rw [hands_update]
      exact h.held.unregister hhand hactive

theorem Kept.close (h : Kept starts w m) {clients : ClientSet} {wait : Bool}
    (hc : observer.allows (m i) (.close clients wait)) :
    Kept starts { w with opened := w.opened.filter (· ≠ clients) }
      (Function.update m i .resting) := by
  have hm : m i = .removed clients := by
    cases hm : m i with
    | removed clients' => rw [hm] at hc; rw [show clients = clients' from hc]
    | _ => rw [hm] at hc; cases hc
  have hdebt : (m i).debt = none := by rw [hm]; rfl
  refine ⟨h.read_update (by simp), fun id hid ↦ ?_, ?_, h.announced.of_eq rfl rfl rfl⟩
  · exact (h.served id hid).imp_right (exists_debt_update (by simp [hdebt]))
  · rw [hands_update]
    exact h.held.close (by rw [hm]; rfl)

theorem Kept.step (h : Kept starts w m) {c : Call} {e : Env} (hc : observer.allows (m i) c)
    (hg : InOrder w m i c) :
    Kept starts (c.exec e w).2 (Function.update m i (observer.next (m i) c (c.exec e w).1)) := by
  cases c with
  | get id => exact h.get (idle_of_get hc)
  | create d =>
    simp only [Call.exec, orFault]
    cases e.fault with
    | some failure => exact h.same
    | none =>
      refine h.rows fun id hl ↦ ?_
      obtain ⟨d', hd', hlive⟩ := hl
      exact ⟨d', Table.mem_insert.mpr (.inl hd'), hlive⟩
  | update d => exact h.statement (f := d.updates) fun _ ↦ rfl
  | updateStatus id status lastError =>
    exact h.statement (f := fun d ↦ { d with status, lastError }) fun _ ↦ rfl
  | updateTimezone id timeZone => exact h.statement (f := fun d ↦ { d with timeZone }) fun _ ↦ rfl
  | delete id => exact h.delete hc
  | dial d => exact h.dial (idle_of_dial hc)
  | register clients => exact h.register hc hg.1 hg.2
  | unregister id => exact h.unregister hc
  | clock clients => exact h.same
  | onDeviceConnected d =>
    exact h.of_eq rfl rfl rfl (h.announced.callHook hg) (fun _ hl ↦ hl) rfl rfl
      fun id d ↦ h.read i id d
  | onDeviceRemoved id =>
    exact h.of_eq rfl rfl rfl (h.announced.callHook hg) (fun _ hl ↦ hl) rfl rfl
      fun id d ↦ h.read i id d
  | close clients wait => exact h.close hc

end Steps

/-- Where the requests start: the connections that are open are the registered ones. -/
structure World.Consistent (w : World) : Prop where
  keyed : ∀ id clients, w.active id = some clients → clients.device = id
  live : ∀ id, w.active id ≠ none → w.Live id
  opened : ∀ clients, clients ∈ w.opened ↔ w.active clients.device = some clients
  fresh : ∀ clients ∈ w.opened, clients.serial < w.dialled
  unannounced : ∀ id, w.changes id = [] ∧ w.hooks id = []

omit [DecidableEq ι] in
theorem World.Consistent.kept {w : World} (h : w.Consistent) :
    Kept (fun id ↦ (w.active id).isSome) w fun _ : ι ↦ .resting where
  read i id d hi := by cases hi
  served id hid := .inl (h.live id hid)
  held :=
    { keyed := h.keyed
      reached := fun clients hc ↦ .inl ((h.opened clients).mp hc)
      activeOpen := fun id clients hc ↦ (h.opened clients).mpr (by rwa [h.keyed id clients hc])
      handOpen := fun i clients hi ↦ by cases hi
      handFree := fun i clients hi ↦ by cases hi
      handOnce := fun i j clients hi ↦ by cases hi
      fresh := h.fresh }
  announced :=
    { alternating := fun id ↦ by rw [(h.unannounced id).1]; trivial
      last := fun id ↦ by rw [(h.unannounced id).1]; rfl
      hooks := fun id ↦ by rw [(h.unannounced id).2]; exact List.nil_prefix }

/-- The requests at their first call. -/
def pool (w : World) (reqs : ι → Request) :
    Pool ι Call Call.Reply (Response (Option DeviceWriteResponse)) World Stage where
  state := w
  threads i := (reqs i).prog
  marks _ := .resting

section Interleaved

variable (w : World) (reqs : ι → Request) (schedule : List (ι × Env))

def ending : Pool ι Call Call.Reply (Response (Option DeviceWriteResponse)) World Stage :=
  (pool w reqs).run Call.exec observer schedule

/-- Each connection that is open is the registered one of a device that is not deleted, and
the hooks of every device have been called in turn. -/
def World.Orderly (before after : World) : Prop :=
  ∀ id, (after.active id ≠ none → after.Live id) ∧
    (∀ clients ∈ after.opened, clients.device = id → after.active id = some clients) ∧
    Alternates (before.active id).isSome (after.hooks id)

theorem requests_in_order (hw : w.Consistent)
    (hg : (pool w reqs).Guarded Call.exec observer InOrder schedule)
    (hreturned : ∀ i, (ending w reqs schedule).result i ≠ none) :
    w.Orderly (ending w reqs schedule).state := by
  have hstart : (pool w reqs).Sound observer (fun _ m _ ↦ m.Idle)
      (Kept fun id ↦ (w.active id).isSome) := ⟨hw.kept, fun i ↦ prog_follows (reqs i)⟩
  have hend := hstart.run (fun _ ↦ True) (fun _ _ _ _ _ h hc hgc _ ↦ h.step hc hgc) hg
    fun _ _ ↦ trivial
  have hidle : ∀ i, ((ending w reqs schedule).marks i).Idle := by
    intro i
    obtain ⟨r, hr⟩ := Option.ne_none_iff_exists'.mp (hreturned i)
    exact hend.result hr
  obtain ⟨-, hserved, hheld, hannounced⟩ := hend.inv
  refine fun id ↦ ⟨fun hid ↦ ?_, fun clients hc hdevice ↦ ?_, ?_⟩
  · obtain hlive | ⟨i, hi⟩ := hserved id hid
    · exact hlive
    · exact absurd ((hidle i).2.symm.trans hi) (by simp)
  · obtain hactive | ⟨i, hi⟩ := hheld.reached clients hc
    · exact hdevice ▸ hactive
    · exact absurd ((hidle i).1.symm.trans hi) (by simp)
  · exact (hannounced.alternating id).initial (hannounced.hooks id)

instance [Fintype ι] (w : World) (m : ι → Stage) (i : ι) :
    ∀ c, Decidable (InOrder w m i c)
  | .get _ => inferInstanceAs (Decidable True)
  | .create _ => inferInstanceAs (Decidable True)
  | .update _ => inferInstanceAs (Decidable True)
  | .delete _ => inferInstanceAs (Decidable True)
  | .updateStatus _ _ _ => inferInstanceAs (Decidable True)
  | .updateTimezone _ _ => inferInstanceAs (Decidable True)
  | .dial _ => inferInstanceAs (Decidable True)
  | .register _ => inferInstanceAs (Decidable (_ ∧ (_ ∨ ∃ _, _)))
  | .unregister _ => inferInstanceAs (Decidable True)
  | .clock _ => inferInstanceAs (Decidable True)
  | .onDeviceConnected _ => inferInstanceAs (Decidable (_ = _))
  | .onDeviceRemoved _ => inferInstanceAs (Decidable (_ = _))
  | .close _ _ => inferInstanceAs (Decidable True)

end Interleaved

def router : MikrotikDevice where
  id := 1
  displayName := "CCR Pusat"
  host := "10.0.0.1"
  port := 8728
  username := "admin"
  password := "rahasia"
  useTLS := false
  status := "connected"
  lastError := ""
  expiryCheckInterval := "2m"
  timeZone := ""
  active := true
  deleted := false

/-- One device, which is connected. -/
def World.connected : World where
  devices := Table.empty.insert router
  active := Function.update (fun _ ↦ none) 1 (some ⟨1, 0⟩)
  dialled := 1
  opened := [⟨1, 0⟩]
  changes _ := []
  hooks _ := []

theorem World.connected_active {id : ℕ} (hid : id ≠ 1) : World.connected.active id = none := by
  simp only [World.connected, Function.update_of_ne hid]

theorem World.connected_consistent : World.connected.Consistent where
  keyed id clients h := by
    by_cases hid : id = 1
    · subst hid
      cases h
      rfl
    · rw [World.connected_active hid] at h
      cases h
  live id h := by
    by_cases hid : id = 1
    · subst hid
      decide
    · exact absurd (World.connected_active hid) h
  opened clients := by
    rw [show World.connected.opened = [⟨1, 0⟩] from rfl, List.mem_singleton]
    by_cases hid : clients.device = 1
    · rw [hid, show World.connected.active 1 = some ⟨1, 0⟩ from rfl, Option.some_inj, eq_comm]
    · rw [World.connected_active hid]
      refine ⟨fun heq ↦ absurd (heq ▸ rfl) hid, fun heq ↦ by cases heq⟩
  fresh := by decide
  unannounced _ := ⟨rfl, rfl⟩

def renamed : Request := .update 1 ⟨"CCR Cabang", "", none, "", "", none, "", none⟩

def calm : Env := ⟨none, none, none⟩

def turns (order : List Bool) : List (Bool × Env) := order.map fun i ↦ (i, calm)

/-- A device is renamed and then deleted. -/
theorem rename_then_delete :
    World.connected.Orderly (ending World.connected (fun i ↦ if i then renamed else .delete 1)
      (turns (List.replicate 10 true ++ List.replicate 5 false))).state :=
  requests_in_order _ _ _ World.connected_consistent (by decide) (by decide)

/-- A request to rename a device that has been deleted in the meantime connects it again. -/
def deletedMeanwhile : List (Bool × Env) :=
  turns (true :: List.replicate 5 false ++ List.replicate 7 true)

/-- Two requests to rename a device dial before either registers its connection. -/
def dialledTwice : List (Bool × Env) :=
  turns (List.replicate 6 true ++ List.replicate 4 false ++ List.replicate 4 true ++
    List.replicate 4 false)

theorem requests_out_of_order :
    (let after :=
        ending World.connected (fun i ↦ if i then renamed else .delete 1) deletedMeanwhile
     (∀ i, after.result i ≠ none) ∧ ¬World.connected.Orderly after.state) ∧
    let after := ending World.connected (fun _ ↦ renamed) dialledTwice
    (∀ i, after.result i ≠ none) ∧ ¬World.connected.Orderly after.state := by
  refine ⟨⟨by decide, fun h ↦ ?_⟩, by decide, fun h ↦ ?_⟩
  · have hlive := (h 1).1 (by decide)
    revert hlive
    decide
  · have hregistered := (h 1).2.1 ⟨1, 1⟩ (by decide) rfl
    revert hregistered
    decide

end Rosmon.Devices
