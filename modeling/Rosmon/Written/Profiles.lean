import Rosmon.Profiles.Config
import Rosmon.Profiles.Upsert
import Rosmon.Written.Users

namespace Rosmon.Written

open Go Library Store Program Handler Profiles UniqueTable

section Table

variable {κ : Type} [Columns κ] {t : ProfileTable κ} {p row : ProfileRow κ}

/-- A deleted row of the name is used again. -/
def Revived (t : ProfileTable κ) (deviceID : ℕ) (name : String) : Prop :=
  ∃ existing ∈ (bearing t deviceID name).head?, ¬existing.live

instance (t : ProfileTable κ) (deviceID : ℕ) (name : String) :
    Decidable (Revived t deviceID name) :=
  inferInstanceAs (Decidable (∃ existing ∈ _, _))

theorem get_of_live (hrow : t.rows.get row.id = some row) (hlive : row.live) :
    ProfileTable.get row.id t = .ok row := by
  unfold ProfileTable.get
  cases hfind : t.rows.find fun r ↦ r.live && r.id == row.id with
  | none =>
    have hnot := Table.find_eq_none.mp hfind row (Table.get_eq_some.mp hrow).1
    simp [hlive] at hnot
  | some q =>
    have hsat := Table.find_sat hfind
    rw [Bool.and_eq_true, beq_iff_eq] at hsat
    rw [Table.eq_of_key (Table.mem_of_find hfind) (Table.get_eq_some.mp hrow).1
      hsat.2, found_some]

theorem insert_ok {now : Time} (hdeleted : p.deletedAt = none)
    (h : (t.insert now p).1 = .ok row) :
    ProfileTable.get row.id (t.insert now p).2 = .ok row ∧ row.name = p.name ∧
      row.columns = Columns.created p.columns := by
  unfold ProfileTable.insert at h ⊢
  split at h
  · cases h
  · rename_i hfree
    obtain rfl := Except.ok.inj h
    rw [dif_neg hfree]
    have hlive : (ProfileTable.inserted now p).live := decide_eq_true hdeleted
    refine ⟨get_of_live ?_ hlive, rfl, rfl⟩
    exact Table.get_insert_self t.rows (ProfileTable.inserted now p)

theorem save_ok {now : Time} {r : ProfileRow κ} (hr : t.rows.get p.id = some r)
    (hdeleted : p.deletedAt = none) (h : (t.save now p).1 = .ok row) :
    ProfileTable.get row.id (t.save now p).2 = .ok row ∧ row.name = p.name ∧
      row.columns = p.columns := by
  obtain ⟨err, hfails⟩ | ⟨hfree, hdone⟩ := ProfileTable.save_cases now p t
  · rw [hfails] at h
    cases h
  · rw [hdone] at h ⊢
    obtain rfl := Except.ok.inj h
    have hlive : (p.stamp now).live := decide_eq_true hdeleted
    exact ⟨get_of_live (get_put_self hfree hr) hlive, rfl, rfl⟩

/-- What `Create` answers with is the row that is read back. -/
theorem create_ok {now : Time} (hdeleted : p.deletedAt = none)
    (h : (t.create now p).1 = .ok row) :
    ProfileTable.get row.id (t.create now p).2 = .ok row ∧ row.name = p.name ∧
      row.columns = if Revived t p.deviceID p.name then p.columns else Columns.created p.columns := by
  have hfind : t.rows.find (ProfileRow.named p.deviceID p.name) =
      (bearing t p.deviceID p.name).head? := find_named
  unfold ProfileTable.create at h ⊢
  rw [hfind] at h ⊢
  cases hhead : (bearing t p.deviceID p.name).head? with
  | none =>
    have hnew : ¬Revived t p.deviceID p.name := by
      rintro ⟨existing, hexisting, -⟩
      rw [hhead] at hexisting
      cases hexisting
    rw [hhead] at h
    rw [if_neg hnew]
    exact insert_ok hdeleted h
  | some existing =>
    rw [hhead] at h
    dsimp only at h ⊢
    by_cases hlive : existing.live = true
    · have hnew : ¬Revived t p.deviceID p.name := by
        rintro ⟨first, hfirst, hdead⟩
        obtain rfl := Option.some.inj (hhead.symm.trans hfirst)
        exact hdead hlive
      rw [if_pos hlive] at h
      rw [if_pos hlive, if_neg hnew]
      exact insert_ok hdeleted h
    · rw [if_neg hlive] at h
      rw [if_neg hlive, if_pos ⟨existing, hhead, hlive⟩]
      have hexisting := (mem_bearing.mp (List.mem_of_head? hhead)).1
      exact save_ok (r := existing) (Table.get_eq_some.mpr ⟨hexisting, rfl⟩) rfl h

end Table

section Bodies

/-- The body of a request to create a hotspot profile: a field that it leaves out is `none`. -/
structure HotspotProfileBody where
  name : Option String
  role : Option String
  rateLimit : Option String
  addressPool : Option String
  sharedUsers : Option ℤ
  statusAutorefresh : Option String
  parentQueue : Option String
  priceMonthly : Option ℤ
  expiryMode : Option String
  validity : Option String
  price : Option ℤ
  sellPrice : Option ℤ
  lockMAC : Option Bool
  description : Option String
  active : Option Bool
  isPublic : Option Bool

def HotspotProfileBody.bind (b : HotspotProfileBody) : HotspotProfileCreateRequest where
  name := b.name.getD ""
  role := b.role.getD ""
  rateLimit := b.rateLimit.getD ""
  addressPool := b.addressPool.getD ""
  sharedUsers := b.sharedUsers.getD 0
  statusAutorefresh := b.statusAutorefresh.getD ""
  parentQueue := b.parentQueue.getD ""
  priceMonthly := b.priceMonthly.getD 0
  expiryMode := b.expiryMode.getD ""
  validity := b.validity.getD ""
  price := b.price.getD 0
  sellPrice := b.sellPrice.getD 0
  lockMAC := b.lockMAC.getD false
  description := b.description.getD ""
  active := b.active
  isPublic := b.isPublic

/-- The fields that the request sets read back. -/
structure HotspotProfileBody.Kept (b : HotspotProfileBody) (row : HotspotProfile) : Prop where
  name : Reads b.name row.name
  role : Reads b.role row.columns.role
  rateLimit : Reads b.rateLimit row.columns.rateLimit
  addressPool : Reads b.addressPool row.columns.addressPool
  sharedUsers : Reads b.sharedUsers row.columns.sharedUsers
  statusAutorefresh : Reads b.statusAutorefresh row.columns.statusAutorefresh
  parentQueue : Reads b.parentQueue row.columns.parentQueue
  priceMonthly : Reads b.priceMonthly row.columns.priceMonthly
  expiryMode : Reads b.expiryMode row.columns.expiryMode
  validity : Reads b.validity row.columns.validity
  price : Reads b.price row.columns.price
  sellPrice : Reads b.sellPrice row.columns.sellPrice
  lockMAC : Reads b.lockMAC row.columns.lockMAC
  description : Reads b.description row.columns.description
  active : Reads b.active row.columns.active
  isPublic : Reads b.isPublic row.columns.isPublic

/-- No field is set to a value that gives way to a default, or to another text. -/
structure HotspotProfileBody.Plain (texts : Texts) (revived : Prop) (b : HotspotProfileBody) :
    Prop where
  sharedUsers : b.sharedUsers ≠ some 0
  statusAutorefresh : b.statusAutorefresh ≠ some ""
  expiryMode : b.expiryMode ≠ some ""
  validity : b.role = some "voucher" → ∀ v ∈ b.validity, v ≠ "" →
    texts.normalizeDuration v = .ok v
  active : b.active = some false → revived

structure PPPProfileBody where
  name : Option String
  rateLimit : Option String
  localAddress : Option String
  remoteAddress : Option String
  sessionTimeout : Option String
  idleTimeout : Option String
  parentQueue : Option String
  priceMonthly : Option ℤ
  description : Option String
  active : Option Bool
  isPublic : Option Bool

def PPPProfileBody.bind (b : PPPProfileBody) : PPPProfileCreateRequest where
  name := b.name.getD ""
  rateLimit := b.rateLimit.getD ""
  localAddress := b.localAddress.getD ""
  remoteAddress := b.remoteAddress.getD ""
  sessionTimeout := b.sessionTimeout.getD ""
  idleTimeout := b.idleTimeout.getD ""
  parentQueue := b.parentQueue.getD ""
  priceMonthly := b.priceMonthly.getD 0
  description := b.description.getD ""
  active := b.active
  isPublic := b.isPublic

structure PPPProfileBody.Kept (b : PPPProfileBody) (row : PPPProfile) : Prop where
  name : Reads b.name row.name
  rateLimit : Reads b.rateLimit row.columns.rateLimit
  localAddress : Reads b.localAddress row.columns.localAddress
  remoteAddress : Reads b.remoteAddress row.columns.remoteAddress
  sessionTimeout : Reads b.sessionTimeout row.columns.sessionTimeout
  idleTimeout : Reads b.idleTimeout row.columns.idleTimeout
  parentQueue : Reads b.parentQueue row.columns.parentQueue
  priceMonthly : Reads b.priceMonthly row.columns.priceMonthly
  description : Reads b.description row.columns.description
  active : Reads b.active row.columns.active
  isPublic : Reads b.isPublic row.columns.isPublic

end Bodies

section Fields

theorem reads_active_iff (revived : Prop) [Decidable revived] (sent : Option Bool) :
    Reads sent (if revived then sent.getD true else orDefault false true (sent.getD true)) ↔
      (sent = some false → revived) := by
  split_ifs with h
  · exact iff_of_true (reads_getD sent true) fun _ ↦ h
  · rw [reads_orDefault_iff Bool.noConfusion]
    exact ⟨fun hne hfalse ↦ absurd hfalse hne, fun himp hfalse ↦ h (himp hfalse)⟩

variable {texts : Texts} {b : HotspotProfileBody} {row : HotspotProfile} {validity : String}
variable {revived : Prop} [Decidable revived]

theorem reads_validity_iff (hvalidity : (if b.bind.role = "voucher" ∧ b.bind.validity ≠ "" then
      texts.normalizeDuration b.bind.validity else .ok b.bind.validity) = .ok validity) :
    Reads b.validity validity ↔ (b.role = some "voucher" → ∀ v ∈ b.validity, v ≠ "" →
      texts.normalizeDuration v = .ok v) := by
  have hrole : b.bind.role = "voucher" ↔ b.role = some "voucher" := by
    unfold HotspotProfileBody.bind
    cases b.role <;> simp
  cases hsent : b.validity with
  | none => simp [Reads]
  | some v =>
    have hbind : b.bind.validity = v := by simp [HotspotProfileBody.bind, hsent]
    simp only [hbind, hrole] at hvalidity
    simp only [Reads, Option.mem_some_iff, forall_eq']
    split_ifs at hvalidity with hcase
    · rw [hvalidity, Except.ok.injEq]
      exact ⟨fun h _ _ ↦ h, fun h ↦ h hcase.1 hcase.2⟩
    · obtain rfl := Except.ok.inj hvalidity
      exact iff_of_true rfl fun hvoucher hne ↦ absurd ⟨hvoucher, hne⟩ hcase

theorem HotspotProfileBody.created_columns (hvalid : b.bind.valid) (validity : String) :
    Columns.created (b.bind.columns validity) =
      { b.bind.columns validity with active := orDefault false true (b.active.getD true) } := by
  have hrole : b.bind.role ≠ "" := by
    intro h
    simp [HotspotProfileCreateRequest.valid, h] at hvalid
  have hshared : (b.bind.columns validity).sharedUsers ≠ 0 := by
    unfold HotspotProfileCreateRequest.columns
    dsimp only
    split_ifs with h <;> omega
  have hexpiry : (b.bind.columns validity).expiryMode ≠ "" := by
    unfold HotspotProfileCreateRequest.columns
    dsimp only
    split_ifs with h
    · decide
    · exact h
  simp only [Columns.created, orDefault, if_neg hshared, if_neg hexpiry]
  rw [if_neg (show (b.bind.columns validity).role ≠ "" from hrole)]
  rfl

theorem HotspotProfileBody.kept_iff (hvalid : b.bind.valid)
    (hvalidity : (if b.bind.role = "voucher" ∧ b.bind.validity ≠ "" then
      texts.normalizeDuration b.bind.validity else .ok b.bind.validity) = .ok validity)
    (hname : row.name = b.bind.name)
    (hcolumns : row.columns = if revived then b.bind.columns validity
      else Columns.created (b.bind.columns validity)) : b.Kept row ↔ b.Plain texts revived := by
  have hrow : row.columns = { b.bind.columns validity with
      active := if revived then b.active.getD true
        else orDefault false true (b.active.getD true) } := by
    rw [hcolumns, created_columns hvalid]
    split_ifs <;> rfl
  have hshared : Reads b.sharedUsers row.columns.sharedUsers ↔ b.sharedUsers ≠ some 0 := by
    have hpos : 0 ≤ b.bind.sharedUsers := by
      by_contra h
      simp [HotspotProfileCreateRequest.valid, h] at hvalid
    have hstored : row.columns.sharedUsers = orDefault 0 1 (b.sharedUsers.getD 0) := by
      rw [hrow]
      exact if_congr (Int.le_antisymm_iff.trans (and_iff_left hpos)).symm rfl rfl
    rw [hstored]
    exact reads_orDefault_iff one_ne_zero 0
  have hstatus : Reads b.statusAutorefresh row.columns.statusAutorefresh ↔
      b.statusAutorefresh ≠ some "" := by
    rw [hrow]
    exact reads_orDefault_iff (show "1m" ≠ "" by decide) ""
  have hexpiry : Reads b.expiryMode row.columns.expiryMode ↔ b.expiryMode ≠ some "" := by
    rw [hrow]
    exact reads_orDefault_iff (show "0" ≠ "" by decide) ""
  have hnormal := reads_validity_iff hvalidity
  have hsame : validity = row.columns.validity := by rw [hrow]; rfl
  rw [hsame] at hnormal
  have hactive : Reads b.active row.columns.active ↔ (b.active = some false → revived) := by
    rw [hrow]
    exact reads_active_iff revived b.active
  constructor
  · exact fun h ↦ ⟨hshared.mp h.sharedUsers, hstatus.mp h.statusAutorefresh,
      hexpiry.mp h.expiryMode, hnormal.mp h.validity, hactive.mp h.active⟩
  · intro h
    refine ⟨?_, ?_, ?_, ?_, hshared.mpr h.sharedUsers, hstatus.mpr h.statusAutorefresh, ?_, ?_,
      hexpiry.mpr h.expiryMode, hnormal.mpr h.validity, ?_, ?_, ?_, ?_, hactive.mpr h.active, ?_⟩
    · rw [hname]
      exact reads_getD b.name ""
    all_goals
      rw [hrow]
      exact reads_getD _ _

theorem PPPProfileBody.kept_iff {b : PPPProfileBody} {row : PPPProfile}
    (hname : row.name = b.bind.name)
    (hcolumns : row.columns = if revived then b.bind.columns else Columns.created b.bind.columns) :
    b.Kept row ↔ (b.active = some false → revived) := by
  have hrow : row.columns = { b.bind.columns with
      active := if revived then b.active.getD true
        else orDefault false true (b.active.getD true) } := by
    rw [hcolumns]
    split_ifs <;> rfl
  have hactive : Reads b.active row.columns.active ↔ (b.active = some false → revived) := by
    rw [hrow]
    exact reads_active_iff revived b.active
  refine ⟨fun h ↦ hactive.mp h.active, fun h ↦ ?_⟩
  refine ⟨?_, ?_, ?_, ?_, ?_, ?_, ?_, ?_, ?_, hactive.mpr h, ?_⟩
  · rw [hname]
    exact reads_getD b.name ""
  all_goals
    rw [hrow]
    exact reads_getD _ _

end Fields

section Handlers

theorem propagateAdd_onRouter (menu : Menu) (name : String) (pairs : List (String × String)) :
    (propagateAdd menu name pairs).Only Profiles.Call.onRouter := by
  refine ⟨trivial, fun online ↦ ?_⟩
  cases online with
  | false => trivial
  | true => exact ⟨trivial, fun _ ↦ trivial⟩

variable {w : Profiles.World}

theorem onRouter_wp {α : Type} {p : Profiles.Prog α} (hp : p.Only Profiles.Call.onRouter)
    (w : Profiles.World) : p.wp Profiles.Call.exec (fun _ ↦ True)
      (fun _ w' ↦ w'.hotspot = w.hotspot ∧ w'.ppp = w.ppp) w := by
  refine hp.wp (fun c e s hc _ hs ↦ ?_) ⟨rfl, rfl⟩
  obtain ⟨hhotspot, hppp⟩ := Profiles.Call.exec_onRouter hc e s
  rwa [hhotspot, hppp]

/-- The row that `Create` stores of `p`. -/
structure Stored {κ : Type} [Columns κ] (t : ProfileTable κ) (p row : ProfileRow κ)
    (t' : ProfileTable κ) : Prop where
  found : ProfileTable.get row.id t' = .ok row
  name : row.name = p.name
  columns : row.columns =
    if Revived t p.deviceID p.name then p.columns else Columns.created p.columns

/-- `Create` answers with the row that is read back, or fails. -/
theorem exec_create {κ : Type} [Columns κ] (e : Profiles.Env) (t : ProfileTable κ)
    {p : ProfileRow κ} (hp : p.deletedAt = none) :
    ∃ r t', Profiles.orFault e t ((StoreCall.create p).exec e.now t) = (r, t') ∧
      ∀ row, r = .ok row → Stored t p row t' := by
  unfold Profiles.orFault
  refine ⟨_, _, rfl, fun row hrow ↦ ?_⟩
  cases hfault : e.fault with
  | some err =>
    rw [hfault] at hrow
    cases hrow
  | none =>
    rw [hfault] at hrow
    obtain ⟨hfound, hname, hcolumns⟩ := create_ok hp hrow
    exact ⟨hfound, hname, hcolumns⟩

theorem duplicateOr_ne_success {α : Type} (err : Error) (status : ℕ) (body : α) :
    (duplicateOr err : Response α) ≠ .success status body :=
  ite_failure_ne (writeErr_ne_success err)

theorem createHotspot_wp (texts : Texts) (deviceID : ℕ) (b : HotspotProfileBody)
    (w : Profiles.World) : (createHotspot texts deviceID b.bind).wp Profiles.Call.exec
      (fun _ ↦ True) (fun out w' ↦ ∀ res, out = .success 201 res →
        ProfileTable.get res.profile.id w'.hotspot = .ok res.profile ∧
          (b.Kept res.profile ↔ b.Plain texts (Revived w.hotspot deviceID b.bind.name))) w := by
  unfold createHotspot
  by_cases hvalid : b.bind.valid = true
  · rw [if_neg (not_not.mpr hvalid)]
    cases hvalidity : if b.bind.role = "voucher" ∧ b.bind.validity ≠ "" then
        texts.normalizeDuration b.bind.validity else .ok b.bind.validity with
    | error err => exact fun res h ↦ absurd h failure_ne_success
    | ok validity =>
      intro e _
      obtain ⟨r, t, hexec, hstored⟩ := exec_create e w.hotspot
        (p := newRow deviceID b.bind.name (b.bind.columns validity)) rfl
      rw [Profiles.Call.exec, hexec]
      cases r with
      | error err => exact fun res h ↦ absurd h (duplicateOr_ne_success err 201 res)
      | ok p =>
        have hp := hstored p rfl
        have hend : ∀ (w' : Profiles.World) (warning : String)
            (res : ProfileWriteResponse HotspotColumns), w'.hotspot = t →
            Response.success 201 ⟨p, warning⟩ = .success 201 res →
            ProfileTable.get res.profile.id w'.hotspot = .ok res.profile ∧
              (b.Kept res.profile ↔ b.Plain texts (Revived w.hotspot deviceID b.bind.name)) := by
          intro w' warning res hsame hres
          obtain ⟨-, rfl⟩ := Response.success.inj hres
          rw [hsame]
          exact ⟨hp.found, HotspotProfileBody.kept_iff hvalid hvalidity hp.name hp.columns⟩
        change (propagateAdd .hotspot p.name (hotspotAddPairs p) >>= _ : Profiles.Prog _).wp _ _ _ _
        rw [wp_bind]
        refine wp_mono (onRouter_wp (propagateAdd_onRouter _ _ _) _) fun warning w' hsame ↦ ?_
        split
        · rw [wp_bind]
          refine wp_mono (onRouter_wp (tryInjectOnLogin_onRouter texts p) w') fun _ w'' hsame' ↦ ?_
          exact fun res ↦ hend w'' warning res (hsame'.1.trans hsame.1)
        · exact fun res ↦ hend w' warning res hsame.1
  · rw [if_pos hvalid]
    exact fun res h ↦ absurd h failure_ne_success

theorem createPPP_wp (deviceID : ℕ) (b : PPPProfileBody) (w : Profiles.World) :
    (createPPP deviceID b.bind).wp Profiles.Call.exec (fun _ ↦ True)
      (fun out w' ↦ ∀ res, out = .success 201 res →
        ProfileTable.get res.profile.id w'.ppp = .ok res.profile ∧
          (b.Kept res.profile ↔ (b.active = some false → Revived w.ppp deviceID b.bind.name))) w := by
  unfold createPPP
  by_cases hvalid : b.bind.valid = true
  · rw [if_neg (not_not.mpr hvalid)]
    intro e _
    obtain ⟨r, t, hexec, hstored⟩ := exec_create e w.ppp
      (p := newRow deviceID b.bind.name b.bind.columns) rfl
    rw [Profiles.Call.exec, hexec]
    cases r with
    | error err => exact fun res h ↦ absurd h (duplicateOr_ne_success err 201 res)
    | ok p =>
      have hp := hstored p rfl
      change (propagateAdd .ppp p.name (pppAddPairs p) >>= _ : Profiles.Prog _).wp _ _ _ _
      rw [wp_bind]
      refine wp_mono (onRouter_wp (propagateAdd_onRouter _ _ _) _) fun warning w' hsame res hres ↦ ?_
      obtain ⟨-, rfl⟩ := Response.success.inj hres
      rw [hsame.2]
      exact ⟨hp.found, PPPProfileBody.kept_iff hp.name hp.columns⟩
  · rw [if_pos hvalid]
    exact fun res h ↦ absurd h failure_ne_success

end Handlers

end Rosmon.Written
