import Rosmon.Devices.Manager
import Rosmon.Written.Profiles

namespace Rosmon.Written

open Library Store Program Devices
open Profiles (ProfileTable Texts createHotspot createPPP)

section Body

/-- The body of a request to update a device: a field that it leaves out is `none`. -/
structure DeviceUpdateBody where
  displayName : Option String
  host : Option String
  port : Option ℤ
  username : Option String
  password : Option String
  useTLS : Option Bool
  expiryCheckInterval : Option String
  active : Option Bool

def DeviceUpdateBody.bind (b : DeviceUpdateBody) : DeviceUpdateRequest where
  displayName := b.displayName.getD ""
  host := b.host.getD ""
  port := b.port
  username := b.username.getD ""
  password := b.password.getD ""
  useTLS := b.useTLS
  expiryCheckInterval := b.expiryCheckInterval.getD ""
  active := b.active

/-- The fields that the request sets read back. -/
structure DeviceUpdateBody.Kept (b : DeviceUpdateBody) (row : MikrotikDevice) : Prop where
  displayName : Reads b.displayName row.displayName
  host : Reads b.host row.host
  port : Reads b.port row.port
  username : Reads b.username row.username
  password : Reads b.password row.password
  useTLS : Reads b.useTLS row.useTLS
  expiryCheckInterval : Reads b.expiryCheckInterval row.expiryCheckInterval
  active : Reads b.active row.active

/-- A field is set to its zero value only where it has it already. -/
structure DeviceUpdateBody.Plain (b : DeviceUpdateBody) (stored : MikrotikDevice) : Prop where
  displayName : b.displayName = some "" → stored.displayName = ""
  host : b.host = some "" → stored.host = ""
  port : b.port = some 0 → stored.port = 0
  username : b.username = some "" → stored.username = ""
  password : b.password = some "" → stored.password = ""
  useTLS : b.useTLS = some false → stored.useTLS = false
  expiryCheckInterval : b.expiryCheckInterval = some "" → stored.expiryCheckInterval = ""
  active : b.active = some false → stored.active = false

end Body

section Updates

variable {α : Type} [DecidableEq α] {zero old : α}

/-- A field that `Apply` and `Updates` both skip when it is zero. -/
theorem reads_twice_iff (sent : Option α) (zero old : α) :
    Reads sent (if (if sent.getD zero ≠ zero then sent.getD zero else old) ≠ zero then
      (if sent.getD zero ≠ zero then sent.getD zero else old) else old) ↔
      (sent = some zero → old = zero) := by
  rw [← reads_old_iff]
  by_cases h : sent.getD zero ≠ zero
  · simp only [if_pos h]
  · simp only [if_neg h, ite_self]

/-- A field that only `Updates` skips. -/
theorem reads_pointer_iff (sent : Option α) (zero old : α) :
    Reads sent (if sent.getD old ≠ zero then sent.getD old else old) ↔
      (sent = some zero → old = zero) := by
  cases sent with
  | none => simp [Reads]
  | some v =>
    change Reads (some v) (if (some v).getD zero ≠ zero then (some v).getD zero else old) ↔ _
    exact reads_old_iff

theorem reads_flag_iff (sent : Option Bool) (old : Bool) :
    Reads sent (sent.getD old || old) ↔ (sent = some false → old = false) := by
  cases sent with
  | none => simp [Reads]
  | some v => cases v <;> simp [Reads]

theorem DeviceUpdateBody.kept_iff {b : DeviceUpdateBody} {stored : MikrotikDevice} :
    b.Kept ((b.bind.apply stored).updates stored) ↔ b.Plain stored := by
  constructor
  · intro h
    exact
      { displayName := (reads_twice_iff _ _ _).mp h.displayName
        host := (reads_twice_iff _ _ _).mp h.host
        port := (reads_pointer_iff _ _ _).mp h.port
        username := (reads_twice_iff _ _ _).mp h.username
        password := (reads_twice_iff _ _ _).mp h.password
        useTLS := (reads_flag_iff _ _).mp h.useTLS
        expiryCheckInterval := (reads_twice_iff _ _ _).mp h.expiryCheckInterval
        active := (reads_flag_iff _ _).mp h.active }
  · intro h
    exact
      { displayName := (reads_twice_iff _ _ _).mpr h.displayName
        host := (reads_twice_iff _ _ _).mpr h.host
        port := (reads_pointer_iff _ _ _).mpr h.port
        username := (reads_twice_iff _ _ _).mpr h.username
        password := (reads_twice_iff _ _ _).mpr h.password
        useTLS := (reads_flag_iff _ _).mpr h.useTLS
        expiryCheckInterval := (reads_twice_iff _ _ _).mpr h.expiryCheckInterval
        active := (reads_flag_iff _ _).mpr h.active }

/-- The two rows are set up alike. -/
def SameSettings (d row : MikrotikDevice) : Prop :=
  ∃ status lastError timeZone, row = { d with status, lastError, timeZone }

theorem DeviceUpdateBody.kept_congr {b : DeviceUpdateBody} {d row : MikrotikDevice}
    (h : SameSettings d row) : b.Kept row ↔ b.Kept d := by
  obtain ⟨status, lastError, timeZone, rfl⟩ := h
  exact ⟨fun ⟨h₁, h₂, h₃, h₄, h₅, h₆, h₇, h₈⟩ ↦ ⟨h₁, h₂, h₃, h₄, h₅, h₆, h₇, h₈⟩,
    fun ⟨h₁, h₂, h₃, h₄, h₅, h₆, h₇, h₈⟩ ↦ ⟨h₁, h₂, h₃, h₄, h₅, h₆, h₇, h₈⟩⟩

end Updates

section Handler

/-- The row of the device is found, and is set up like `d`. -/
def Found (id : ℕ) (d : MikrotikDevice) (w : Devices.World) : Prop :=
  ∃ row, w.devices.find (World.live id) = some row ∧ SameSettings d row

/-- The call changes no more of a row than the state of its connection. -/
def KeepsSettings : Devices.Call → Prop
  | .create _ | .update _ | .delete _ => False
  | _ => True

theorem Found.update {id : ℕ} {d : MikrotikDevice} {devices : Table MikrotikDevice}
    {p : MikrotikDevice → Bool} {f : MikrotikDevice → MikrotikDevice} [KeepsKey f]
    (hf : ∀ r, SameSettings r (f r)) {row : MikrotikDevice}
    (hrow : devices.find (World.live id) = some row) (h : SameSettings d row) :
    ∃ row', (devices.update p f).find (World.live id) = some row' ∧ SameSettings d row' := by
  rw [Table.find_update, hrow]
  · refine ⟨_, rfl, ?_⟩
    change SameSettings d (if p row = true then f row else row)
    split
    · obtain ⟨status, lastError, timeZone, hsame⟩ := hf row
      obtain ⟨status', lastError', timeZone', rfl⟩ := h
      exact ⟨status, lastError, timeZone, hsame⟩
    · exact h
  · intro r
    obtain ⟨status, lastError, timeZone, hsame⟩ := hf r
    rw [hsame]
    rfl

theorem Found.exec {id : ℕ} {d : MikrotikDevice} {c : Devices.Call} (hc : KeepsSettings c)
    (e : Devices.Env) {w : Devices.World} (h : Found id d w) : Found id d (c.exec e w).2 := by
  obtain ⟨row, hrow, hsame⟩ := h
  cases c with
  | create | update | delete => cases hc
  | updateStatus id status lastError =>
    unfold Devices.Call.exec Devices.orFault
    dsimp only
    split
    · exact ⟨row, hrow, hsame⟩
    · exact Found.update (fun r ↦ ⟨status, lastError, r.timeZone, rfl⟩) hrow hsame
  | updateTimezone id timeZone =>
    unfold Devices.Call.exec Devices.orFault
    dsimp only
    split
    · exact ⟨row, hrow, hsame⟩
    · exact Found.update (fun r ↦ ⟨r.status, r.lastError, timeZone, rfl⟩) hrow hsame
  | get id =>
    unfold Devices.Call.exec Devices.orFault
    dsimp only
    split
    · exact ⟨row, hrow, hsame⟩
    · cases w.devices.find (World.live id) <;> exact ⟨row, hrow, hsame⟩
  | dial d =>
    unfold Devices.Call.exec
    dsimp only
    split <;> exact ⟨row, hrow, hsame⟩
  | unregister id =>
    unfold Devices.Call.exec
    dsimp only
    split <;> exact ⟨row, hrow, hsame⟩
  | register | clock | onDeviceConnected | onDeviceRemoved | close => exact ⟨row, hrow, hsame⟩

theorem removeInternal_keeps (id : ℕ) (wait : Bool) :
    (removeInternal id wait).Only KeepsSettings := by
  refine ⟨trivial, fun r ↦ ?_⟩
  cases r with
  | none => trivial
  | some clients => exact ⟨trivial, fun _ ↦ ⟨trivial, fun _ ↦ trivial⟩⟩

theorem connect_keeps (d : MikrotikDevice) : (connect d).Only KeepsSettings := by
  refine (connect_only d).mono fun c hc ↦ ?_
  cases c with
  | create | update | delete => cases hc
  | _ => trivial

theorem Found.keep {α : Type} {p : Devices.Prog α} (hp : p.Only KeepsSettings) {id : ℕ}
    {d : MikrotikDevice} {w : Devices.World} (h : Found id d w) :
    p.wp Devices.Call.exec (fun _ ↦ True) (fun _ w' ↦ Found id d w') w :=
  hp.wp (fun _ e _ hc _ hs ↦ hs.exec hc e) h

/-- `Get` finds the row of the device, or fails. -/
theorem exec_get (id : ℕ) (e : Devices.Env) (w : Devices.World) :
    (∃ failure, (Devices.Call.get id).exec e w = (.error failure, w)) ∨
      ∃ d, w.devices.find (World.live id) = some d ∧
        (Devices.Call.get id).exec e w = (.ok d, w) := by
  unfold Devices.Call.exec Devices.orFault
  dsimp only
  cases e.fault with
  | some failure => exact .inl ⟨failure, rfl⟩
  | none =>
    cases w.devices.find (World.live id) with
    | none => exact .inl ⟨_, rfl⟩
    | some d => exact .inr ⟨d, rfl, rfl⟩

/-- `Update` writes the row, or fails. -/
theorem exec_update (d : MikrotikDevice) (e : Devices.Env) (w : Devices.World) :
    (∃ failure, (Devices.Call.update d).exec e w = (.error failure, w)) ∨
      (Devices.Call.update d).exec e w =
        (.ok (), { w with devices := w.devices.update (World.live d.id) d.updates }) := by
  unfold Devices.Call.exec Devices.orFault
  dsimp only
  cases e.fault with
  | some failure => exact .inl ⟨failure, rfl⟩
  | none => exact .inr rfl

theorem update_wp (id : ℕ) (b : DeviceUpdateBody) (w : Devices.World) :
    (Devices.update id b.bind).wp Devices.Call.exec (fun _ ↦ True) (fun out w' ↦
      ∀ res, out = .success 200 res → ∃ stored row, w.devices.find (World.live id) = some stored ∧
        w'.devices.find (World.live id) = some row ∧ (b.Kept row ↔ b.Plain stored)) w := by
  intro e _
  obtain ⟨failure, h⟩ | ⟨stored, hstored, h⟩ := exec_get id e w
  · rw [h]
    exact fun res hres ↦ absurd hres (writeErr_ne_success failure.err)
  rw [h]
  intro e _
  have hid : (b.bind.apply stored).id = id := by
    have hlive := Table.find_sat hstored
    rw [World.live, Bool.and_eq_true, decide_eq_true_eq] at hlive
    exact hlive.1
  obtain ⟨failure, h⟩ | h := exec_update (b.bind.apply stored) e w
  · rw [h]
    exact fun res hres ↦ absurd hres (ite_failure_ne (writeErr_ne_success failure.err))
  rw [h, hid]
  have hfound : Found id ((b.bind.apply stored).updates stored)
      { w with devices := w.devices.update (World.live id) (b.bind.apply stored).updates } := by
    have hrow := Table.find_update (p := World.live id) (f := (b.bind.apply stored).updates)
      w.devices (q := World.live id) fun _ ↦ rfl
    rw [hstored, Option.map_some, if_pos (Table.find_sat hstored)] at hrow
    exact ⟨_, hrow, _, _, _, rfl⟩
  have hend : ∀ w', Found id ((b.bind.apply stored).updates stored) w' →
      ∃ stored row, w.devices.find (World.live id) = some stored ∧
        w'.devices.find (World.live id) = some row ∧ (b.Kept row ↔ b.Plain stored) := by
    rintro w' ⟨row, hrow, hsame⟩
    exact ⟨stored, row, hstored, hrow,
      (DeviceUpdateBody.kept_congr hsame).trans DeviceUpdateBody.kept_iff⟩
  change (removeInternal id true >>= _ : Devices.Prog _).wp _ _ _ _
  rw [wp_bind]
  refine wp_mono (hfound.keep (removeInternal_keeps _ true)) fun _ w' hw' ↦ ?_
  rw [wp_bind]
  refine wp_mono (hw'.keep (connect_keeps _)) fun r w'' hw'' ↦ ?_
  cases r with
  | error err => exact fun _ _ ↦ hend w'' hw''
  | ok _ => exact fun _ _ ↦ hend w'' hw''

end Handler

section Result

variable (s : Auth.Service) (isEmail : String → Bool) (texts : Texts)

/-- The fields that a request sets explicitly read back just if none of them is set to a value that
is trimmed, normalised or given up for a default or the old value: a user is not created inactive,
a profile is only where a deleted row of its name is used again, and the device fields are set to
zero only where they are zero. -/
theorem written_is_read_iff :
    (∀ (b : UserCreateBody) (env : ℕ → Auth.Env) (w : Auth.World) (u : Auth.User),
      ((create s isEmail b).run (Call.exec s) env w).1 = .success 201 u →
        ((create s isEmail b).run (Call.exec s) env w).2.user u.id = some u ∧
          (b.Kept s u ↔ b.Plain)) ∧
    (∀ (deviceID : ℕ) (b : HotspotProfileBody) (env : ℕ → Profiles.Env) (w : Profiles.World) res,
      ((createHotspot texts deviceID b.bind).run Profiles.Call.exec env w).1 = .success 201 res →
        ProfileTable.get res.profile.id
            ((createHotspot texts deviceID b.bind).run Profiles.Call.exec env w).2.hotspot =
          .ok res.profile ∧
        (b.Kept res.profile ↔ b.Plain texts (Revived w.hotspot deviceID b.bind.name))) ∧
    (∀ (deviceID : ℕ) (b : PPPProfileBody) (env : ℕ → Profiles.Env) (w : Profiles.World) res,
      ((createPPP deviceID b.bind).run Profiles.Call.exec env w).1 = .success 201 res →
        ProfileTable.get res.profile.id
            ((createPPP deviceID b.bind).run Profiles.Call.exec env w).2.ppp = .ok res.profile ∧
        (b.Kept res.profile ↔ (b.active = some false → Revived w.ppp deviceID b.bind.name))) ∧
    ∀ (id : ℕ) (b : DeviceUpdateBody) (env : ℕ → Devices.Env) (w : Devices.World) res,
      ((Devices.update id b.bind).run Devices.Call.exec env w).1 = .success 200 res →
        ∃ stored row, w.devices.find (World.live id) = some stored ∧
          ((Devices.update id b.bind).run Devices.Call.exec env w).2.devices.find
            (World.live id) = some row ∧
          (b.Kept row ↔ b.Plain stored) := by
  refine ⟨fun b env w u hu ↦ ?_, fun deviceID b env w ↦ ?_, fun deviceID b env w ↦ ?_,
    fun id b env w ↦ ?_⟩
  · have hcreated := run_of_wp (create_wp s isEmail b w) env (fun _ ↦ trivial) u hu
    exact ⟨hcreated.found, UserCreateBody.kept_iff hcreated⟩
  · exact run_of_wp (createHotspot_wp texts deviceID b w) env fun _ ↦ trivial
  · exact run_of_wp (createPPP_wp deviceID b w) env fun _ ↦ trivial
  · exact run_of_wp (update_wp id b w) env fun _ ↦ trivial

def salted : Auth.Service := ⟨900, 86400, fun salt p ↦ .ok (salt ++ p), fun h p ↦ .ok (h = p)⟩

def noUsers : Auth.World := ⟨.empty, .empty, fun t ht ↦ absurd ht (Table.not_mem_empty t)⟩

/-- A user that is to be created inactive. -/
def sari : UserCreateBody := ⟨some "sari", none, some "rahasia99", some "viewer", some false⟩

/-- The user is created, and is active. -/
theorem sari_is_active : ∃ u,
    ((create salted (fun _ ↦ true) sari).run (Call.exec salted)
      (fun _ ↦ ⟨none, 0, "salt", .ok ""⟩) noUsers).1 = .success 201 u ∧ ¬sari.Kept salted u := by
  refine ⟨⟨1, "sari", "", "saltrahasia99", "viewer", true, none⟩, by decide +kernel, fun h ↦ ?_⟩
  exact absurd h.active (by decide)

end Result

end Rosmon.Written
