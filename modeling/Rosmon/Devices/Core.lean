import Rosmon.Devices.Background

namespace Rosmon.Devices

open Library Program Server

/-- What the background services and the devices have to do with each other: of each row its
key and whether it is deleted, and which devices are connected. -/
structure Core where
  marks : List (ℕ × Bool)
  next : ℕ
  connected : ℕ → Bool
  hooked : Bool
  influx : Bool
  expiry : Tasks ℕ
  metrics : Tasks ℕ
  netstream : Netstream

def marks (devices : Table MikrotikDevice) : List (ℕ × Bool) :=
  devices.rows.map fun d ↦ (d.id, d.deleted)

def Server.core (s : Server) : Core where
  marks := marks s.world.devices
  next := s.world.devices.next
  connected id := (s.world.active id).isSome
  hooked := s.hooked
  influx := s.influx
  expiry := s.expiry
  metrics := s.metrics
  netstream := s.netstream

namespace Core

/-- A device is connected, and the hook is called if it is set. -/
def connect (c : Core) (o : Outside) (id : ℕ) : Core :=
  let c := { c with connected := Function.update c.connected id true }
  if c.hooked then
    { c with
      expiry := c.expiry.ensure id
      metrics := if c.influx then c.metrics.ensure id else c.metrics
      netstream := c.netstream.startDevice c.influx o id }
  else c

/-- A device is removed, which does nothing if it is not connected. -/
def remove (c : Core) (id : ℕ) : Core :=
  if c.connected id then
    { c with
      connected := Function.update c.connected id false
      expiry := c.expiry.stop id
      metrics := if c.influx then c.metrics.stop id else c.metrics
      netstream := c.netstream.stopDevice id }
  else c

def create (c : Core) : Core := { c with marks := c.marks ++ [(c.next, false)], next := c.next + 1 }

def delete (c : Core) (id : ℕ) : Core :=
  { c with marks := c.marks.map fun m ↦ if m = (id, false) then (id, true) else m }

/-- A device is dialled, with or without success. -/
inductive Dialled (c : Core) (id : ℕ) : Core → Prop
  | failed : Dialled c id c
  | connected (o : Outside) : Dialled c id (c.connect o id)

theorem Dialled.cases {c c' : Core} {id : ℕ} (h : c.Dialled id c') :
    c' = c ∨ ∃ o, c' = c.connect o id := by
  cases h with
  | failed => exact .inl rfl
  | connected o => exact .inr ⟨o, rfl⟩

/-- What a request does. It is labelled by the device whose row it deletes. -/
inductive Step (c : Core) : Option ℕ → Core → Prop
  | idle : Step c none c
  | create {c' : Core} (h : Dialled c.create c.next c') : Step c none c'
  | update {id : ℕ} {c' : Core} (hlive : (id, false) ∈ c.marks) (h : Dialled (c.remove id) id c') :
    Step c none c'
  | delete {id : ℕ} (hlive : (id, false) ∈ c.marks) : Step c (some id) ((c.delete id).remove id)

end Core

section Refinement

variable {s : Server}

theorem marks_update {devices : Table MikrotikDevice} {p : MikrotikDevice → Bool}
    {f : MikrotikDevice → MikrotikDevice} [KeepsKey f] (hf : ∀ d, (f d).deleted = d.deleted) :
    marks (devices.update p f) = marks devices := by
  change (devices.rows.map fun d ↦ if p d then f d else d).map _ = _
  rw [List.map_map]
  refine List.map_congr_left fun d _ ↦ ?_
  have hid : (f d).id = d.id := KeepsKey.key_eq (f := f) d
  by_cases hp : p d
  · simp [hp, hid, hf]
  · simp [hp]

/-- The calls that neither the list of the devices nor the services take notice of. -/
def Call.Quiet : Call → Prop
  | .create _ | .delete _ | .register _ | .unregister _ => False
  | .onDeviceConnected _ | .onDeviceRemoved _ => False
  | _ => True

theorem core_update (o : Outside) (s : Server) (p : MikrotikDevice → Bool)
    {f : MikrotikDevice → MikrotikDevice} [KeepsKey f] (hf : ∀ d, (f d).deleted = d.deleted) :
    { s with
      world := (orFault o.toEnv s.world (Except.ok (),
        { s.world with devices := s.world.devices.update p f })).2 : Server }.core = s.core := by
  unfold orFault
  cases o.fault with
  | some failure => rfl
  | none => simp only [Server.core, marks_update hf, Table.update_next]

theorem serve_quiet {c : Call} (hc : c.Quiet) (o : Outside) (s : Server) :
    (serve c o s).2.core = s.core := by
  cases c with
  | create | delete | register | unregister | onDeviceConnected | onDeviceRemoved => cases hc
  | get id =>
    simp only [serve, Call.exec, orFault]
    cases o.fault <;> cases s.world.devices.find (World.live id) <;> rfl
  | update d => exact core_update o s _ fun _ ↦ rfl
  | updateStatus id status lastError => exact core_update o s _ fun _ ↦ rfl
  | updateTimezone id tz => exact core_update o s _ fun _ ↦ rfl
  | dial d =>
    simp only [serve, Call.exec]
    cases o.dialError <;> rfl
  | clock clients => rfl
  | close clients wait => rfl

theorem wp_quiet {α : Type} {c : Call} {k : c.Reply → Prog α} {Q : α → Server → Prop}
    {s : Server} (hc : c.Quiet)
    (hk : ∀ reply t, t.core = s.core → (k reply).wp serve (fun _ ↦ True) Q t) :
    (call c k).wp serve (fun _ ↦ True) Q s :=
  fun o _ ↦ hk _ _ (serve_quiet hc o s)

theorem serve_register (clients : Streams.ClientSet) (o : Outside) (s : Server) :
    (serve (.register clients) o s).2.core =
      { s.core with connected := Function.update s.core.connected clients.device true } := by
  simp only [serve, Call.exec, World.setActive, Server.core]
  congr 1
  funext id
  by_cases hid : id = clients.device
  · subst hid
    simp
  · simp [Function.update_of_ne hid]

theorem serve_onDeviceConnected (d : MikrotikDevice) (o : Outside) {s : Server} {c : Core}
    (hc : s.core = { c with connected := Function.update c.connected d.id true }) :
    (serve (.onDeviceConnected d) o s).2.core = c.connect o d.id := by
  have hactive : (s.world.active d.id).isSome = true :=
    (congrFun (congrArg Core.connected hc) d.id).trans (Function.update_self ..)
  have hserve : (serve (.onDeviceConnected d) o s).2.core =
      if s.core.hooked then
        { s.core with
          expiry := s.core.expiry.ensure d.id
          metrics := if s.core.influx then s.core.metrics.ensure d.id else s.core.metrics
          netstream := s.core.netstream.startDevice s.core.influx o d.id }
      else s.core := by
    by_cases hhooked : s.hooked = true
    · simp [serve, Server.core, onDeviceConnected, World.callHook, hactive, hhooked]
    · simp [serve, Server.core, hhooked]
  rw [hserve, hc]
  rfl

theorem serve_dial {d : MikrotikDevice} {o : Outside} {s : Server} {clients : Streams.ClientSet}
    (h : (serve (.dial d) o s).1 = .ok clients) : clients.device = d.id := by
  simp only [serve, Call.exec] at h
  cases herror : o.dialError with
  | some err =>
    rw [herror] at h
    cases h
  | none =>
    rw [herror] at h
    cases h
    rfl

theorem hook_wp (d : MikrotikDevice) {s : Server} {c : Core}
    (hc : s.core = { c with connected := Function.update c.connected d.id true }) :
    (do perform (.onDeviceConnected d); return .ok () : Prog (Except Store.Error Unit)).wp serve
      (fun _ ↦ True) (fun _ t ↦ c.Dialled d.id t.core) s := by
  intro o _
  change c.Dialled d.id (serve (.onDeviceConnected d) o s).2.core
  rw [serve_onDeviceConnected d o hc]
  exact .connected o

theorem connect_wp (d : MikrotikDevice) (s : Server) :
    (connect d).wp serve (fun _ ↦ True) (fun _ t ↦ s.core.Dialled d.id t.core) s := by
  refine wp_of_call (fun reply t ↦ t.core = s.core ∧
    ∀ clients, reply = .ok clients → clients.device = d.id)
    (fun o _ ↦ ⟨serve_quiet (by trivial) o s, fun _ ↦ serve_dial⟩) fun reply t ht ↦ ?_
  obtain ⟨hcore, hdevice⟩ := ht
  cases reply with
  | error err =>
    refine wp_quiet (by trivial) fun _ t ht ↦ ?_
    change s.core.Dialled d.id t.core
    rw [ht, hcore]
    exact .failed
  | ok clients =>
    have hdevice := hdevice clients rfl
    let registered := { s.core with connected := Function.update s.core.connected d.id true }
    refine wp_of_call (fun _ t ↦ t.core = registered) (fun o _ ↦ ?_) fun _ t hregister ↦ ?_
    · rw [serve_register, hcore, hdevice]
    refine wp_quiet (by trivial) fun _ t hstatus ↦ ?_
    refine wp_quiet (by trivial) fun zone t hclock ↦ ?_
    have hcore := hclock.trans (hstatus.trans hregister)
    cases zone with
    | none => exact hook_wp d hcore
    | some timeZone =>
      change wp _ _ _ (if timeZone = "" then _ else _) _
      split
      · exact hook_wp d hcore
      · refine wp_quiet (by trivial) fun _ t ht ↦ ?_
        exact hook_wp { d with timeZone } (ht.trans hcore)

theorem unregister_gone {c : Core} {id : ℕ} (hgone : c.connected id = false) :
    { c with connected := Function.update c.connected id false } = c := by
  rw [← hgone, Function.update_eq_self]

theorem serve_unregister (id : ℕ) (o : Outside) (s : Server) :
    (serve (.unregister id) o s).1.isSome = s.core.connected id ∧
      (serve (.unregister id) o s).2.core =
        { s.core with connected := Function.update s.core.connected id false } := by
  simp only [serve, Call.exec]
  cases hactive : s.world.active id with
  | none =>
    refine ⟨by simp [Server.core, hactive], ?_⟩
    exact (unregister_gone (by simp [Server.core, hactive])).symm
  | some clients =>
    refine ⟨by simp [Server.core, hactive], ?_⟩
    simp only [Server.core, World.setActive]
    congr 1
    funext id'
    by_cases hid : id' = id
    · subst hid
      simp
    · simp [Function.update_of_ne hid]

theorem serve_onDeviceRemoved (id : ℕ) (o : Outside) {s : Server} (hhooked : s.hooked = true) :
    (serve (.onDeviceRemoved id) o s).2.core =
      { s.core with
        expiry := s.core.expiry.stop id
        metrics := if s.core.influx then s.core.metrics.stop id else s.core.metrics
        netstream := s.core.netstream.stopDevice id } := by
  simp [serve, Server.core, onDeviceRemoved, World.callHook, hhooked]

theorem removeInternal_wp (id : ℕ) (wait : Bool) {s : Server} (hhooked : s.hooked = true) :
    (removeInternal id wait).wp serve (fun _ ↦ True) (fun _ t ↦ t.core = s.core.remove id) s := by
  let unregistered := { s.core with connected := Function.update s.core.connected id false }
  refine wp_of_call (fun reply t ↦ reply.isSome = s.core.connected id ∧ t.core = unregistered)
    (fun o _ ↦ serve_unregister id o s) fun reply t ht ↦ ?_
  obtain ⟨hreply, hcore⟩ := ht
  cases reply with
  | none =>
    change t.core = s.core.remove id
    rw [Core.remove, ← hreply]
    exact hcore.trans (unregister_gone hreply.symm)
  | some clients =>
    have hhooked : t.hooked = true := (congrArg Core.hooked hcore).trans hhooked
    refine wp_of_call (fun _ t ↦ t.core = s.core.remove id) (fun o _ ↦ ?_) fun _ t ht ↦ ?_
    · rw [serve_onDeviceRemoved id o hhooked, hcore, Core.remove, ← hreply]
      rfl
    · exact wp_quiet (by trivial) fun _ t' ht' ↦ ht'.trans ht

theorem removeInternal_run {α : Type} (id : ℕ) (wait : Bool) (a : α) {s : Server}
    (hhooked : s.hooked = true) (env : ℕ → Outside) :
    ((do removeInternal id wait; return a : Prog α).run serve env s).2.core = s.core.remove id := by
  have hwp : (do removeInternal id wait; return a : Prog α).wp serve (fun _ ↦ True)
      (fun _ t ↦ t.core = s.core.remove id) s :=
    (wp_bind _ _ _).mpr (wp_mono (removeInternal_wp id wait hhooked) fun _ _ ht ↦ ht)
  exact run_of_wp hwp env fun _ ↦ trivial

theorem serve_create {d : MikrotikDevice} (hd : d.deleted = false) (o : Outside) (s : Server) :
    (∃ failure, (serve (.create d) o s).1 = .error failure ∧
      (serve (.create d) o s).2.core = s.core) ∨
    ∃ d', (serve (.create d) o s).1 = .ok d' ∧ d'.id = s.core.next ∧
      (serve (.create d) o s).2.core = s.core.create := by
  simp only [serve, Call.exec, orFault]
  cases o.fault with
  | some failure => exact .inl ⟨failure, rfl, rfl⟩
  | none =>
    refine .inr ⟨_, rfl, rfl, ?_⟩
    simp only [Server.core, Core.create, marks, Table.insert, List.map_append, List.map_cons,
      List.map_nil, Row.withKey, hd]

theorem create_wp (req : DeviceCreateRequest) (s : Server) :
    (create req).wp serve (fun _ ↦ True)
      (fun _ t ↦ t.core = s.core ∨ s.core.create.Dialled s.core.next t.core) s := by
  refine wp_of_call (fun reply t ↦ (∃ failure, reply = .error failure ∧ t.core = s.core) ∨
    ∃ d, reply = .ok d ∧ d.id = s.core.next ∧ t.core = s.core.create)
    (fun o _ ↦ serve_create rfl o s) fun reply t ht ↦ ?_
  rcases ht with ⟨failure, rfl, hcore⟩ | ⟨d, rfl, hid, hcore⟩
  · exact .inl hcore
  · rw [← hid, ← hcore]
    change wp _ _ _ (connect d >>= _) _
    refine (wp_bind _ _ _).mpr (wp_mono (connect_wp d t) fun r t' ht ↦ ?_)
    cases r with
    | error err => exact .inr ht
    | ok _ => exact .inr ht

theorem mem_marks {s : Server} {id : ℕ} :
    (id, false) ∈ s.core.marks ↔ ∃ d ∈ s.world.devices, World.live id d = true := by
  simp [Server.core, marks, World.live, Table.mem_iff]

theorem serve_get (id : ℕ) (o : Outside) (s : Server) :
    (∃ failure, (serve (.get id) o s).1 = .error failure) ∧
        ¬(o.fault = none ∧ (id, false) ∈ s.core.marks) ∨
      ∃ d, (serve (.get id) o s).1 = .ok d ∧ d.id = id ∧ o.fault = none ∧
        (id, false) ∈ s.core.marks := by
  simp only [serve, Call.exec, orFault]
  cases hfault : o.fault with
  | some failure => exact .inl ⟨⟨failure, rfl⟩, by simp⟩
  | none =>
    rw [mem_marks]
    cases hfind : s.world.devices.find (World.live id) with
    | none =>
      refine .inl ⟨⟨_, rfl⟩, ?_⟩
      rintro ⟨-, d, hd, hlive⟩
      rw [Table.find_eq_none.mp hfind d hd] at hlive
      cases hlive
    | some d =>
      have hlive := Table.find_sat hfind
      refine .inr ⟨d, rfl, ?_, rfl, d, Table.mem_of_find hfind, hlive⟩
      simp only [World.live, Bool.and_eq_true, decide_eq_true_eq] at hlive
      exact hlive.1

theorem update_wp (id : ℕ) (req : DeviceUpdateRequest) {s : Server} (hhooked : s.hooked = true) :
    (update id req).wp serve (fun _ ↦ True) (fun _ t ↦ t.core = s.core ∨
      (id, false) ∈ s.core.marks ∧ (s.core.remove id).Dialled id t.core) s := by
  refine wp_of_call (fun reply t ↦ t.core = s.core ∧ ((∃ failure, reply = .error failure) ∨
    ∃ d, reply = .ok d ∧ d.id = id ∧ (id, false) ∈ s.core.marks)) (fun o _ ↦ ?_) fun reply t ht ↦ ?_
  · refine ⟨serve_quiet (by trivial) o s, (serve_get id o s).imp And.left ?_⟩
    exact fun ⟨d, hd, hid, _, hlive⟩ ↦ ⟨d, hd, hid, hlive⟩
  obtain ⟨hget, ⟨failure, rfl⟩ | ⟨d, rfl, hid, hlive⟩⟩ := ht
  · exact .inl hget
  refine wp_quiet (by trivial) fun reply t hupdate ↦ ?_
  have hcore := hupdate.trans hget
  cases reply with
  | error failure => exact .inl hcore
  | ok _ =>
    have hhooked : t.hooked = true := (congrArg Core.hooked hcore).trans hhooked
    have hid : (req.apply d).id = id := hid
    rw [← hcore, ← hid]
    change wp _ _ _ (removeInternal _ true >>= _) _
    refine (wp_bind _ _ _).mpr (wp_mono (removeInternal_wp _ true hhooked) fun _ t' ht' ↦ ?_)
    refine (wp_bind _ _ _).mpr (wp_mono (connect_wp _ t') fun r t'' ht'' ↦ ?_)
    rw [ht'] at ht''
    cases r with
    | error err => exact .inr ⟨by rwa [hcore, hid], ht''⟩
    | ok _ => exact .inr ⟨by rwa [hcore, hid], ht''⟩

theorem serve_delete (id : ℕ) {o : Outside} (ho : o.fault = none) (s : Server) :
    (serve (.delete id) o s).1 = .ok () ∧ (serve (.delete id) o s).2.core = s.core.delete id := by
  simp only [serve, Call.exec, orFault, ho]
  refine ⟨rfl, ?_⟩
  simp only [Server.core, Core.delete, marks, Table.update,
    List.map_map]
  congr 1
  refine List.map_congr_left fun d _ ↦ ?_
  by_cases hlive : World.live id d = true
  · simp only [World.live, Bool.and_eq_true, decide_eq_true_eq, Bool.not_eq_true'] at hlive
    simp [World.live, hlive]
  · have hne : (d.id, d.deleted) ≠ (id, false) := by
      intro heq
      obtain ⟨hid, hdeleted⟩ := Prod.mk.inj heq
      simp [World.live, hid, hdeleted] at hlive
    simp [hlive, hne]

theorem delete_run (id : ℕ) (env : ℕ → Outside) {s : Server} (hhooked : s.hooked = true) :
    Deletes s (.delete id, env) id ∧
        ((delete id).run serve env s).2.core = (s.core.delete id).remove id ∨
      ¬Deletes s (.delete id, env) id ∧ ((delete id).run serve env s).2.core = s.core := by
  have hget : (serve (.get id) (env 0) s).2.core = s.core :=
    serve_quiet (c := .get id) trivial _ _
  simp only [delete, perform, perform_bind, run_call]
  rcases serve_get id (env 0) s with ⟨⟨failure, hfailure⟩, hnot⟩ | ⟨d, hd, hid, hnone, hlive⟩
  · simp only [hfailure]
    refine .inr ⟨?_, hget⟩
    rintro ⟨-, hnone, -, hlive⟩
    exact hnot ⟨hnone, mem_marks.mpr hlive⟩
  · simp only [hd, run_call]
    cases hfault : (env 1).fault with
    | some failure =>
      refine .inr ⟨?_, ?_⟩
      · rintro ⟨-, -, hnone, -⟩
        cases hfault.symm.trans hnone
      · simp only [serve, Call.exec, orFault, hfault] at hget ⊢
        exact hget
    | none =>
      obtain ⟨hdelete, hcore⟩ := serve_delete id hfault (serve (.get id) (env 0) s).2
      refine .inl ⟨⟨rfl, hnone, hfault, mem_marks.mp hlive⟩, ?_⟩
      rw [hget] at hcore
      have hhooked := (congrArg Core.hooked hcore).trans hhooked
      simp only [hdelete, hid]
      rw [← hcore]
      exact removeInternal_run id false _ hhooked _

/-- A request is a step of the core, and it deletes the row of just the device it is labelled by. -/
theorem handle_step (a : Request × (ℕ → Outside)) (hhooked : s.hooked = true) :
    ∃ label, s.core.Step label (s.handle a).core ∧ ∀ id, Deletes s a id ↔ label = some id := by
  obtain ⟨req, env⟩ := a
  have hnever {id : ℕ} (hreq : req ≠ .delete id) : Deletes s (req, env) id ↔ none = some id :=
    iff_of_false (fun h ↦ hreq h.1) (by simp)
  cases req with
  | create req =>
    refine ⟨none, ?_, fun id ↦ hnever (by simp)⟩
    rcases run_of_wp (create_wp req s) env fun _ ↦ trivial with hcore | hcore
    · exact hcore ▸ .idle
    · exact .create hcore
  | update id req =>
    refine ⟨none, ?_, fun id ↦ hnever (by simp)⟩
    rcases run_of_wp (update_wp id req hhooked) env fun _ ↦ trivial with hcore | ⟨hlive, hcore⟩
    · exact hcore ▸ .idle
    · exact .update hlive hcore
  | delete id =>
    rcases delete_run id env hhooked with ⟨hdeletes, hcore⟩ | ⟨hnot, hcore⟩
    · refine ⟨some id, ?_, fun id' ↦ ⟨fun h ↦ ?_, fun h ↦ ?_⟩⟩
      · have hstep := Core.Step.delete (mem_marks.mpr hdeletes.2.2.2)
        exact hcore ▸ hstep
      · obtain ⟨rfl⟩ : id = id' := Request.delete.inj h.1
        rfl
      · cases h
        exact hdeletes
    · refine ⟨none, ?_, fun id' ↦ ⟨fun h ↦ ?_, fun h ↦ by cases h⟩⟩
      · exact hcore ▸ .idle
      · obtain ⟨rfl⟩ : id = id' := Request.delete.inj h.1
        exact absurd h hnot

end Refinement

end Rosmon.Devices
