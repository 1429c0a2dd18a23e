import Rosmon.Devices.Core
import Rosmon.Library.Run

namespace Rosmon.Devices

open Library Program Server

/-- Tasks that run only for what is connected. -/
structure Within (connected : ℕ → Bool) (t : Tasks ℕ) : Prop where
  kept : t.Kept
  connected : ∀ id, (t.handles id).isSome → connected id = true

namespace Within

variable {connected : ℕ → Bool} {t : Tasks ℕ} {id id' : ℕ}

theorem update_true (h : id' = id ∨ connected id' = true) :
    Function.update connected id true id' = true := by
  rw [Function.update_apply]
  split_ifs with hid
  · rfl
  · exact h.resolve_left hid

theorem of_update_true (h : Function.update connected id true id' = true) :
    id' = id ∨ connected id' = true := by
  rw [Function.update_apply] at h
  split_ifs at h with hid
  · exact .inl hid
  · exact .inr h

theorem handles_eq_none (h : Within connected t) (hgone : ¬connected id = true) :
    t.handles id = none := by
  rw [← Option.not_isSome_iff_eq_none]
  exact mt (h.connected id) hgone

theorem connect (h : Within connected t) (id : ℕ) : Within (Function.update connected id true) t :=
  ⟨h.kept, fun id' hid ↦ update_true (.inr (h.connected id' hid))⟩

theorem ensure (h : Within connected t) :
    Within (Function.update connected id true) (t.ensure id) :=
  ⟨h.kept.ensure, fun id' hid ↦ update_true ((Tasks.isSome_ensure.mp hid).imp_right (h.connected id'))⟩

theorem attempt (h : Within connected t) (hgone : ¬connected id = true) (starts : Bool) :
    Within (Function.update connected id true) (t.attempt starts id) :=
  ⟨h.kept.attempt (h.handles_eq_none hgone),
    fun id' hid ↦ update_true ((Tasks.isSome_attempt hid).imp_right (h.connected id'))⟩

theorem stop (h : Within connected t) (id : ℕ) :
    Within (Function.update connected id false) (t.stop id) := by
  refine ⟨h.kept.stop, fun id' hid ↦ ?_⟩
  obtain ⟨hne, hid⟩ := Tasks.isSome_stop.mp hid
  rw [Function.update_of_ne hne]
  exact h.connected id' hid

end Within

namespace Core

/-- What is connected has a row and a checker, and only it has collectors and subscribers. -/
structure Sound (c : Core) : Prop where
  hooked : c.hooked = true
  unique : (c.marks.map (·.1)).Nodup
  fresh : ∀ m ∈ c.marks, m.1 < c.next
  live : ∀ id, c.connected id = true → (id, false) ∈ c.marks
  expiry : c.expiry.Kept
  checked : ∀ id, c.connected id = true → (c.expiry.handles id).isSome
  metrics : Within c.connected c.metrics
  silent : c.influx = false → ∀ id, c.metrics.handles id = none
  queue : Within c.connected c.netstream.queue
  iface : Within c.connected c.netstream.iface

/-- A checker runs for a device whose row has been deleted. -/
def Orphaned (c : Core) (id : ℕ) : Prop := (id, true) ∈ c.marks ∧ (c.expiry.handles id).isSome

section Steps

variable {c c' : Core} {id : ℕ} {o : Outside}

theorem Sound.not_both (h : Sound c) (hlive : (id, false) ∈ c.marks) : (id, true) ∉ c.marks := by
  intro hdeleted
  cases List.inj_on_of_nodup_map h.unique hlive hdeleted rfl

theorem Sound.connect (h : Sound c) (hlive : (id, false) ∈ c.marks)
    (hgone : ¬c.connected id = true) : Sound (c.connect o id) := by
  simp only [Core.connect, h.hooked, if_true]
  refine ⟨rfl, h.unique, h.fresh, ?_, h.expiry.ensure, ?_, ?_, ?_, ?_, ?_⟩
  · intro id' hconnected
    rcases Within.of_update_true hconnected with rfl | hconnected
    · exact hlive
    · exact h.live id' hconnected
  · intro id' hconnected
    exact Tasks.isSome_ensure.mpr ((Within.of_update_true hconnected).imp_right (h.checked id'))
  · dsimp only
    split_ifs
    · exact h.metrics.ensure
    · exact h.metrics.connect id
  · intro hsilent
    have hoff : ¬c.influx = true := by simp [show c.influx = false from hsilent]
    dsimp only
    rw [if_neg hoff]
    exact h.silent hsilent
  · simp only [Netstream.startDevice]
    split_ifs
    · exact h.queue.attempt hgone _
    · exact h.queue.connect id
  · simp only [Netstream.startDevice]
    split_ifs
    · exact h.iface.attempt hgone _
    · exact h.iface.connect id

theorem remove_gone (hgone : ¬c.connected id = true) : c.remove id = c := if_neg hgone

theorem remove_connected (hconnected : c.connected id = true) : c.remove id =
    { c with
      connected := Function.update c.connected id false
      expiry := c.expiry.stop id
      metrics := if c.influx then c.metrics.stop id else c.metrics
      netstream := c.netstream.stopDevice id } := if_pos hconnected

theorem not_connected_remove : ¬(c.remove id).connected id = true := by
  by_cases hconnected : c.connected id = true
  · rw [remove_connected hconnected]
    simp
  · rwa [remove_gone hconnected]

theorem marks_remove : (c.remove id).marks = c.marks := by
  unfold remove
  split_ifs <;> rfl

theorem Sound.remove (h : Sound c) : Sound (c.remove id) := by
  by_cases hconnected : c.connected id = true
  · rw [remove_connected hconnected]
    refine ⟨h.hooked, h.unique, h.fresh, ?_, h.expiry.stop, ?_, ?_, ?_, h.queue.stop id,
      h.iface.stop id⟩
    · intro id' hid
      dsimp only at hid
      rw [Function.update_apply] at hid
      split_ifs at hid
      exact h.live id' hid
    · intro id' hid
      dsimp only at hid
      rw [Function.update_apply] at hid
      split_ifs at hid with hne
      exact Tasks.isSome_stop.mpr ⟨hne, h.checked id' hid⟩
    · dsimp only
      split_ifs with hinflux
      · exact h.metrics.stop id
      · have hsilent := h.silent (by simpa using hinflux)
        exact ⟨h.metrics.kept, fun id' hid ↦ by simp [hsilent id'] at hid⟩
    · intro hsilent
      have hoff : ¬c.influx = true := by simp [show c.influx = false from hsilent]
      dsimp only
      rw [if_neg hoff]
      exact h.silent hsilent
  · rw [remove_gone hconnected]
    exact h

theorem Sound.create (h : Sound c) : Sound c.create := by
  refine ⟨h.hooked, ?_, ?_, fun id hid ↦ ?_, h.expiry, h.checked, h.metrics, h.silent, h.queue,
    h.iface⟩
  · simp only [Core.create, List.map_append, List.map_cons, List.map_nil]
    refine List.nodup_append.mpr ⟨h.unique, List.nodup_singleton _, fun a ha b hb ↦ ?_⟩
    obtain ⟨m, hm, rfl⟩ := List.mem_map.mp ha
    rw [List.mem_singleton.mp hb]
    exact (h.fresh m hm).ne
  · intro m hm
    rcases List.mem_append.mp hm with hm | hm
    · exact Nat.lt_succ_of_lt (h.fresh m hm)
    · rw [List.mem_singleton.mp hm]
      exact Nat.lt_succ_self _
  · exact List.mem_append_left _ (h.live id hid)

theorem delete_remove :
    (c.delete id).remove id = { c.remove id with marks := (c.delete id).marks } := by
  by_cases hconnected : c.connected id = true
  · rw [remove_connected hconnected, remove_connected (c := c.delete id) hconnected]
    rfl
  · rw [remove_gone hconnected, remove_gone (c := c.delete id) hconnected]
    rfl

theorem mem_delete {m : ℕ × Bool} : m ∈ (c.delete id).marks ↔
    m ≠ (id, false) ∧ m ∈ c.marks ∨ m = (id, true) ∧ (id, false) ∈ c.marks := by
  simp only [delete, List.mem_map]
  constructor
  · rintro ⟨m', hm', rfl⟩
    split_ifs with hm
    · exact .inr ⟨rfl, hm ▸ hm'⟩
    · exact .inl ⟨hm, hm'⟩
  · rintro (⟨hne, hm⟩ | ⟨rfl, hm⟩)
    · exact ⟨m, hm, if_neg hne⟩
    · exact ⟨_, hm, if_pos rfl⟩

theorem keys_delete : (c.delete id).marks.map (·.1) = c.marks.map (·.1) := by
  simp only [delete, List.map_map]
  refine List.map_congr_left fun m _ ↦ ?_
  simp only [Function.comp_apply]
  split_ifs with hm
  · rw [hm]
  · rfl

theorem Sound.delete (h : Sound c) : Sound ((c.delete id).remove id) := by
  have hremove : Sound (c.remove id) := h.remove
  rw [delete_remove]
  refine { hremove with unique := ?_, fresh := ?_, live := ?_ }
  · rw [keys_delete]
    exact h.unique
  · intro m hm
    have hkey : m.1 ∈ c.marks.map (·.1) := keys_delete ▸ List.mem_map_of_mem hm
    obtain ⟨m', hm', hkey⟩ := List.mem_map.mp hkey
    have hfresh := hremove.fresh m' (by rwa [marks_remove])
    dsimp only
    rwa [← hkey]
  · intro id' hid
    have hne : id' ≠ id := by
      rintro rfl
      exact not_connected_remove hid
    have hlive := hremove.live id' hid
    rw [marks_remove] at hlive
    refine mem_delete.mpr (.inl ⟨fun heq ↦ hne (Prod.mk.inj heq).1, hlive⟩)

theorem Dialled.sound (h : Sound c) (hlive : (id, false) ∈ c.marks)
    (hgone : ¬c.connected id = true) (hdialled : c.Dialled id c') : Sound c' := by
  cases hdialled with
  | failed => exact h
  | connected o => exact h.connect hlive hgone

theorem next_not_mem (h : Sound c) (b : Bool) : (c.next, b) ∉ c.marks :=
  fun hm ↦ Nat.lt_irrefl _ (h.fresh _ hm)

theorem Step.sound {label : Option ℕ} (h : Sound c) (hstep : c.Step label c') : Sound c' := by
  cases hstep with
  | idle => exact h
  | create hdialled =>
    refine hdialled.sound h.create (List.mem_append_right _ (List.mem_singleton_self _)) fun hid ↦ ?_
    exact next_not_mem h false (h.live _ hid)
  | update hlive hdialled =>
    exact hdialled.sound h.remove (by rwa [marks_remove]) not_connected_remove
  | delete hlive => exact h.delete

theorem isSome_connect (h : Sound c) {id' : ℕ} :
    ((c.connect o id).expiry.handles id').isSome ↔ id' = id ∨ (c.expiry.handles id').isSome := by
  simp only [Core.connect, h.hooked, if_true]
  exact Tasks.isSome_ensure

theorem marks_connect : (c.connect o id).marks = c.marks := by
  unfold Core.connect
  dsimp only
  split_ifs <;> rfl

theorem isSome_remove {id' : ℕ} (hne : id' ≠ id) :
    ((c.remove id).expiry.handles id').isSome ↔ (c.expiry.handles id').isSome := by
  by_cases hconnected : c.connected id = true
  · rw [remove_connected hconnected]
    exact Tasks.isSome_stop.trans (and_iff_right hne)
  · rw [remove_gone hconnected]

theorem isSome_remove_self : ((c.remove id).expiry.handles id).isSome ↔
    ¬c.connected id = true ∧ (c.expiry.handles id).isSome := by
  by_cases hconnected : c.connected id = true
  · rw [remove_connected hconnected]
    exact iff_of_false (fun h ↦ (Tasks.isSome_stop.mp h).1 rfl) fun h ↦ h.1 hconnected
  · rw [remove_gone hconnected]
    exact (and_iff_right hconnected).symm

/-- A device that is dialled has a row, so it is not an orphan. -/
theorem Dialled.orphaned (h : Sound c) (hlive : (id, false) ∈ c.marks)
    (hdialled : c.Dialled id c') (id' : ℕ) : c'.Orphaned id' ↔ c.Orphaned id' := by
  cases hdialled with
  | failed => exact Iff.rfl
  | connected o =>
    unfold Orphaned
    rw [marks_connect, isSome_connect h]
    refine and_congr_right fun hdeleted ↦ or_iff_right ?_
    rintro rfl
    exact h.not_both hlive hdeleted

/-- An orphan comes from the deletion of a device that is not connected and has a checker, and it
stays one. -/
theorem Step.orphaned {label : Option ℕ} (h : Sound c) (hstep : c.Step label c') (id : ℕ) :
    c'.Orphaned id ↔ c.Orphaned id ∨
      label = some id ∧ ¬c.connected id = true ∧ (c.expiry.handles id).isSome := by
  cases hstep with
  | idle => simp
  | create hdialled =>
    rw [hdialled.orphaned h.create (List.mem_append_right _ (List.mem_singleton_self _))]
    simp [Orphaned, Core.create]
  | @update id' _ hlive hdialled =>
    rw [hdialled.orphaned h.remove (by rwa [marks_remove])]
    have hother : (c.remove id').Orphaned id ↔ c.Orphaned id := by
      unfold Orphaned
      rw [marks_remove]
      refine and_congr_right fun hdeleted ↦ isSome_remove ?_
      rintro rfl
      exact h.not_both hlive hdeleted
    simpa using hother
  | @delete id' hlive =>
    rw [delete_remove]
    unfold Orphaned
    rw [mem_delete]
    by_cases hid : id = id'
    · subst hid
      have hnot : (id, true) ∉ c.marks := h.not_both hlive
      dsimp only
      rw [isSome_remove_self]
      simp [hnot, hlive]
    · dsimp only
      rw [isSome_remove hid]
      simp [hid, Ne.symm hid]

theorem Sound.reads_inStep {s : Server} (h : Sound s.core) :
    s.InStep ↔ ∀ id, ¬s.core.Orphaned id := by
  have hcollects : ∀ d ∈ s.world.devices, d.deleted = true → ¬s.core.connected d.id = true := by
    intro d hd hdeleted hconnected
    refine h.not_both (h.live d.id hconnected) ?_
    rw [← hdeleted]
    exact List.mem_map.mpr ⟨d, hd, rfl⟩
  have hnone {t : Tasks ℕ} (ht : Within s.core.connected t) {d : MikrotikDevice}
      (hd : d ∈ s.world.devices) (hdeleted : d.deleted = true) : t.count d.id = 0 :=
    ht.kept.count_eq_zero.mpr fun hsome ↦ hcollects d hd hdeleted (ht.connected d.id hsome)
  constructor
  · rintro hstep id ⟨hmark, hsome⟩
    obtain ⟨d, hd, heq⟩ := List.mem_map.mp hmark
    obtain ⟨rfl, hdeleted⟩ := Prod.mk.inj heq
    have hzero := (hstep.ended d hd hdeleted).1
    exact h.expiry.count_eq_zero.mp hzero hsome
  · intro horphans
    refine ⟨fun id hconnected ↦ ?_, fun id ↦ ?_, fun d hd hdeleted ↦ ⟨?_, ?_⟩⟩
    · exact (h.expiry.count_eq id).trans (if_pos (h.checked id hconnected))
    · rw [show s.expiry.count id = _ from h.expiry.count_eq id]
      split_ifs <;> omega
    · refine h.expiry.count_eq_zero.mpr fun hsome ↦ horphans d.id ⟨?_, hsome⟩
      rw [← hdeleted]
      exact List.mem_map.mpr ⟨d, hd, rfl⟩
    · exact ⟨hnone h.metrics hd hdeleted, hnone h.queue hd hdeleted, hnone h.iface hd hdeleted⟩

end Steps

end Core

section Boot

variable {influx : Bool} {devices : Table MikrotikDevice} {s : Server}

/-- What makes a row one of the list. -/
def flags (devices : Table MikrotikDevice) : List (ℕ × Bool × Bool) :=
  devices.rows.map fun d ↦ (d.id, d.active, d.deleted)

theorem flags_update {devices : Table MikrotikDevice} {p : MikrotikDevice → Bool}
    {f : MikrotikDevice → MikrotikDevice} [KeepsKey f]
    (hf : ∀ d, (f d).active = d.active ∧ (f d).deleted = d.deleted) :
    flags (devices.update p f) = flags devices := by
  change (devices.rows.map fun d ↦ if p d then f d else d).map _ = _
  rw [List.map_map]
  refine List.map_congr_left fun d _ ↦ ?_
  have hid : (f d).id = d.id := KeepsKey.key_eq (f := f) d
  by_cases hp : p d
  · simp [hp, hid, hf]
  · simp [hp]

theorem connect_flags (d : MikrotikDevice) (s : Server) : (connect d).wp serve (fun _ ↦ True)
    (fun _ t ↦ flags t.world.devices = flags s.world.devices) s := by
  refine (connect_only d).wp (I := fun (t : Server) ↦ flags t.world.devices = flags s.world.devices)
    (fun c o t hc _ ht ↦ Eq.trans ?_ ht) rfl
  cases c with
  | get | create | update | delete | unregister | onDeviceRemoved | close => cases hc
  | dial d =>
    simp only [serve, Call.exec]
    cases o.dialError <;> rfl
  | onDeviceConnected d =>
    simp only [serve]
    split_ifs <;> rfl
  | register | clock => rfl
  | updateStatus id status lastError =>
    simp only [serve, Call.exec, orFault]
    cases o.fault with
    | some failure => rfl
    | none => exact flags_update fun _ ↦ ⟨rfl, rfl⟩
  | updateTimezone id tz =>
    simp only [serve, Call.exec, orFault]
    cases o.fault with
    | some failure => rfl
    | none => exact flags_update fun _ ↦ ⟨rfl, rfl⟩

theorem mem_ids_list {s : Server} {id : ℕ} :
    id ∈ s.list.map (·.id) ↔ (id, true, false) ∈ flags s.world.devices := by
  simp [Server.list, flags, and_assoc, and_comm, and_left_comm]

theorem nodup_ids (devices : Table MikrotikDevice) : (devices.rows.map (·.id)).Nodup :=
  List.pairwise_map.mpr (devices.sorted.imp Nat.ne_of_lt)

/-- While `main` dials, only devices of the list get connected. -/
structure Booting (influx : Bool) (devices : Table MikrotikDevice) (s : Server) : Prop where
  core : s.core = { (initial influx devices).core with connected := s.core.connected }
  rows : flags s.world.devices = flags devices
  listed : ∀ id, s.core.connected id = true → (id, true, false) ∈ flags devices

theorem Booting.connect {d : MikrotikDevice} (h : Booting influx devices s)
    (hd : (d.id, true, false) ∈ flags devices) {t : Server}
    (hflags : flags t.world.devices = flags s.world.devices)
    (hdialled : s.core.Dialled d.id t.core) : Booting influx devices t := by
  rcases hdialled.cases with hsame | ⟨o, hconnect⟩
  · refine ⟨?_, hflags.trans h.rows, fun id hid ↦ h.listed id (by rwa [hsame] at hid)⟩
    rw [hsame]
    exact h.core
  · have hhooked : ¬s.core.hooked = true := by
      rw [h.core]
      exact Bool.false_ne_true
    rw [Core.connect, if_neg hhooked] at hconnect
    refine ⟨?_, hflags.trans h.rows, fun id hid ↦ ?_⟩
    · rw [hconnect, h.core]
    · rw [hconnect] at hid
      rcases Within.of_update_true hid with rfl | hid
      · exact hd
      · exact h.listed id hid

theorem startManager_wp (influx : Bool) (devices : Table MikrotikDevice) :
    (startManager (initial influx devices).list).wp serve (fun _ ↦ True)
      (fun _ t ↦ Booting influx devices t) (initial influx devices) := by
  have hstart : Booting influx devices (initial influx devices) := ⟨rfl, rfl, fun _ hid ↦ by cases hid⟩
  refine wp_mono (wp_forM (fun xs t ↦ (∀ d ∈ xs, d ∈ (initial influx devices).list) ∧
    Booting influx devices t) (fun d xs t ht ↦ ?_) ⟨fun _ hd ↦ hd, hstart⟩) fun _ _ ht ↦ ht.2
  obtain ⟨hlist, hbooting⟩ := ht
  have hd : (d.id, true, false) ∈ flags devices :=
    mem_ids_list.mp (List.mem_map_of_mem (hlist d List.mem_cons_self))
  refine (wp_bind _ _ _).mpr (wp_mono (wp_and (connect_flags d t) (connect_wp d t)) ?_)
  intro _ t' h
  exact ⟨fun d' hd' ↦ hlist d' (List.mem_cons_of_mem _ hd'), hbooting.connect hd h.1 h.2⟩

theorem startDevices (ids : List ℕ) (n : Netstream) (subscribes : ℕ → Outside) :
    ids.foldl (fun n id ↦ n.startDevice influx (subscribes id) id) n =
      if influx then
        ⟨ids.foldl (fun t id ↦ t.attempt (subscribes id).queueSubscribes id) n.queue,
          ids.foldl (fun t id ↦ t.attempt (subscribes id).ifaceSubscribes id) n.iface⟩
      else n := by
  induction ids generalizing n with
  | nil => simp
  | cons id ids ih =>
    rw [List.foldl_cons, ih]
    cases influx <;> rfl

theorem within_empty (connected : ℕ → Bool) : Within connected .empty :=
  ⟨.empty, fun _ hid ↦ by cases hid⟩

theorem within_attemptAll {connected : ℕ → Bool} (starts : ℕ → Bool) {ids : List ℕ}
    (hids : ids.Nodup) (hconnected : ∀ id ∈ ids, connected id = true) :
    Within connected (ids.foldl (fun t id ↦ t.attempt (starts id) id) .empty) := by
  obtain ⟨hkept, hall⟩ := Tasks.Kept.empty.attemptAll starts hids fun _ _ ↦ rfl
  exact ⟨hkept, fun id hid ↦ hconnected id ((hall id hid).resolve_right (by simp [Tasks.empty]))⟩

/-- What `main` starts after it has dialled the devices of the list. -/
theorem Booting.sound (h : Booting influx devices s) (subscribes : ℕ → Outside) :
    let booted := { s.startExpiry.startMetrics.startNetstream subscribes with hooked := true }
    booted.core.Sound ∧ ∀ id, ¬booted.core.Orphaned id := by
  intro booted
  have hmarks : s.core.marks = marks devices := congrArg Core.marks h.core
  have hnext : s.core.next = devices.next := congrArg Core.next h.core
  have hexpiry : s.expiry = .empty := congrArg Core.expiry h.core
  have hmetrics : s.metrics = .empty := congrArg Core.metrics h.core
  have hnetstream : s.netstream = ⟨.empty, .empty⟩ := congrArg Core.netstream h.core
  have hids : (s.list.map (·.id)).Nodup := (nodup_ids s.world.devices).sublist
    (List.filter_sublist.map _)
  have hactive : s.listActive.Nodup := (nodup_ids s.world.devices).filter _
  have hconnected : ∀ id ∈ s.listActive, s.core.connected id = true :=
    fun id hid ↦ (List.mem_filter.mp hid).2
  have hchecked (id : ℕ) :
      (booted.core.expiry.handles id).isSome ↔ (id, true, false) ∈ flags devices := by
    rw [← h.rows, ← mem_ids_list]
    refine Tasks.isSome_startAll.trans (or_iff_left ?_)
    simp [hexpiry, Tasks.empty]
  have hmark {id : ℕ} (hid : (id, true, false) ∈ flags devices) : (id, false) ∈ s.core.marks := by
    rw [hmarks]
    obtain ⟨d, hd, heq⟩ := List.mem_map.mp hid
    obtain ⟨rfl, -, hdeleted⟩ := Prod.mk.inj heq |>.imp_right Prod.mk.inj
    exact List.mem_map.mpr ⟨d, hd, by rw [hdeleted]⟩
  have hstream : booted.core.netstream = if s.influx then
      ⟨s.listActive.foldl (fun t id ↦ t.attempt (subscribes id).queueSubscribes id) .empty,
        s.listActive.foldl (fun t id ↦ t.attempt (subscribes id).ifaceSubscribes id) .empty⟩
      else ⟨.empty, .empty⟩ := by
    refine (startDevices _ _ _).trans ?_
    dsimp only [startMetrics, startExpiry]
    rw [hnetstream]
    rfl
  have hsound : booted.core.Sound := by
    refine ⟨rfl, ?_, ?_, fun id hid ↦ hmark (h.listed id hid), ?_,
      fun id hid ↦ (hchecked id).mpr (h.listed id hid), ?_, fun hsilent id ↦ ?_, ?_, ?_⟩
    · change (s.core.marks.map (·.1)).Nodup
      rw [hmarks, marks, List.map_map]
      exact nodup_ids devices
    · change ∀ m ∈ s.core.marks, m.1 < s.core.next
      rw [hmarks, hnext]
      intro m hm
      obtain ⟨d, hd, rfl⟩ := List.mem_map.mp hm
      exact devices.fresh d hd
    · change ((s.list.map (·.id)).foldl Tasks.start s.expiry).Kept
      rw [hexpiry]
      exact Tasks.Kept.empty.startAll hids fun _ _ ↦ rfl
    · change Within _ (if s.influx then s.listActive.foldl Tasks.start s.metrics else s.metrics)
      rw [hmetrics]
      split_ifs
      · exact within_attemptAll (fun _ ↦ true) hactive hconnected
      · exact within_empty _
    · have hoff : ¬s.influx = true := by simp [show s.influx = false from hsilent]
      change (if s.influx then s.listActive.foldl Tasks.start s.metrics else s.metrics).handles id = _
      rw [if_neg hoff, hmetrics]
      rfl
    · rw [hstream]
      split_ifs
      · exact within_attemptAll _ hactive hconnected
      · exact within_empty _
    · rw [hstream]
      split_ifs
      · exact within_attemptAll _ hactive hconnected
      · exact within_empty _
  refine ⟨hsound, fun id horphaned ↦ ?_⟩
  exact hsound.not_both (hmark ((hchecked id).mp horphaned.2)) horphaned.1

end Boot

section Result

theorem boot_sound (influx : Bool) (devices : Table MikrotikDevice) (env subscribes : ℕ → Outside) :
    (boot influx devices env subscribes).core.Sound ∧
      ∀ id, ¬(boot influx devices env subscribes).core.Orphaned id :=
  (run_of_wp (startManager_wp influx devices) env fun _ ↦ trivial).sound subscribes

theorem handle_sound {s : Server} (h : s.core.Sound) (a : Request × (ℕ → Outside)) :
    (s.handle a).core.Sound := by
  obtain ⟨label, hstep, -⟩ := handle_step a h.hooked
  exact hstep.sound h

/-- A request makes no orphan just if it does not delete a row of the wrong kind. -/
theorem handle_orphaned {s : Server} (h : s.core.Sound) (a : Request × (ℕ → Outside)) :
    (∀ id, ¬(s.handle a).core.Orphaned id) ↔ (∀ id, ¬s.core.Orphaned id) ∧ s.Parted a := by
  obtain ⟨label, hstep, hlabel⟩ := handle_step a h.hooked
  simp only [hstep.orphaned h, not_or, forall_and]
  refine and_congr_right fun _ ↦ forall_congr' fun id ↦ ?_
  have hcount : s.expiry.count id = 0 ↔ ¬(s.core.expiry.handles id).isSome :=
    h.expiry.count_eq_zero
  rw [hlabel, hcount, not_and, not_and]
  exact imp_congr_right fun _ ↦ Classical.or_iff_not_imp_left.symm

/-- The background follows the devices just if no request deletes a device that is not connected
and has a checker, as one of the list has that has never been dialled with success. -/
theorem inStep_iff (influx : Bool) (devices : Table MikrotikDevice) (env subscribes : ℕ → Outside)
    (requests : List (Request × (ℕ → Outside))) :
    InStep (requests.foldl handle (boot influx devices env subscribes)) ↔
      Run.Guarded handle Parted (boot influx devices env subscribes) requests := by
  obtain ⟨hsound, hnone⟩ := boot_sound influx devices env subscribes
  have hlast : (requests.foldl handle (boot influx devices env subscribes)).core.Sound :=
    Run.always (I := fun (s : Server) ↦ s.core.Sound) (fun s a h ↦ handle_sound h a) hsound _
      (Run.foldl_mem_states _ _)
  rw [hlast.reads_inStep]
  refine Iff.trans (Run.foldl_iff_guarded (I := fun (s : Server) ↦ ∀ id, ¬s.core.Orphaned id)
    (J := fun (s : Server) ↦ s.core.Sound) (fun s a h ↦ handle_sound h a) (fun s a h ↦ handle_orphaned h a)
    hsound) (and_iff_right hnone)

/-- A device of the list. -/
def lostRouter : MikrotikDevice where
  id := 1
  displayName := "Router"
  host := "10.0.0.1"
  port := 8728
  username := "admin"
  password := "secret"
  useTLS := false
  status := "disconnected"
  lastError := ""
  expiryCheckInterval := "2m"
  timeZone := ""
  active := true
  deleted := false

def unreachable : Outside := ⟨⟨none, some (.new "i/o timeout"), none⟩, true, true⟩

def oneRouter : Table MikrotikDevice := Table.empty.insert lostRouter

/-- A router that cannot be reached is deleted, and its checker goes on. -/
theorem checker_outlives_router : ¬InStep ([(Request.delete 1, fun _ ↦ unreachable)].foldl handle
    (boot false oneRouter (fun _ ↦ unreachable) fun _ ↦ unreachable)) := by
  intro h
  have hended := h.ended { lostRouter with status := "error", lastError := "i/o timeout", deleted := true }
    (by decide +kernel) rfl
  revert hended
  decide +kernel

end Result

end Rosmon.Devices
