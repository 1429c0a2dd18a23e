import Rosmon.Profiles.Handlers

namespace Rosmon.Profiles

open Library Store Program Handler

section Frame

/-- No call fails. -/
def Env.Quiet (e : Env) : Prop := e.fault = none

theorem orFault_quiet {α σ : Type} {e : Env} (he : e.Quiet) (s : σ) (r : Except Error α × σ) :
    orFault e s r = r := by
  simp only [orFault, Env.Quiet.eq_1 e ▸ he]

/-- The call does not write to the hotspot profiles. -/
def Call.keepsHotspot : Call → Prop
  | .hotspot (.get _) | .hotspot (.getByName ..) => True
  | .hotspot _ => False
  | _ => True

theorem Call.exec_keepsHotspot {c : Call} (hc : c.keepsHotspot) (e : Env) (w : World) :
    (c.exec e w).2.hotspot = w.hotspot := by
  cases c with
  | hotspot c =>
    cases c with
    | get | getByName =>
      simp only [Call.exec, orFault]
      split <;> rfl
    | create | update | upsert => cases hc
  | ppp | listByDevice | online | router => rfl

/-- Without faults, a call on the hotspot profiles does what it does to their table. -/
theorem exec_hotspot {e : Env} (he : e.Quiet) (c : StoreCall HotspotColumns) (w : World) :
    (Call.hotspot c).exec e w =
      ((c.exec e.now w.hotspot).1, { w with hotspot := (c.exec e.now w.hotspot).2 }) := by
  simp only [Call.exec, orFault_quiet he]

/-- The call is to the router, or asks whether it is connected. -/
def Call.onRouter : Call → Prop
  | .online | .router .. => True
  | _ => False

theorem Call.exec_onRouter {c : Call} (hc : c.onRouter) (e : Env) (w : World) :
    (c.exec e w).2.hotspot = w.hotspot ∧ (c.exec e w).2.ppp = w.ppp := by
  cases c with
  | online | router => exact ⟨rfl, rfl⟩
  | hotspot | ppp | listByDevice => cases hc

theorem Call.keepsHotspot_of_onRouter {c : Call} (hc : c.onRouter) : c.keepsHotspot := by
  cases c with
  | online | router => trivial
  | hotspot | ppp | listByDevice => cases hc

variable (texts : Texts)

theorem injectOnLoginScript_onRouter (p : HotspotProfile) :
    (injectOnLoginScript texts p).Only Call.onRouter := by
  unfold injectOnLoginScript
  split
  · trivial
  simp only [perform_bind, only_call]
  refine ⟨trivial, fun r ↦ ?_⟩
  cases r with
  | error err => trivial
  | ok rp =>
    dsimp only
    split
    · trivial
    · refine ⟨trivial, fun r ↦ ?_⟩
      cases r <;> trivial

theorem tryInjectOnLogin_onRouter (p : HotspotProfile) :
    (tryInjectOnLogin texts p).Only Call.onRouter := by
  refine ⟨trivial, fun online ↦ ?_⟩
  cases online with
  | false => trivial
  | true => exact (injectOnLoginScript_onRouter texts p).bind fun _ ↦ trivial

theorem injectOnLoginScript_keeps (p : HotspotProfile) :
    (injectOnLoginScript texts p).Only Call.keepsHotspot :=
  (injectOnLoginScript_onRouter texts p).mono fun _ ↦ Call.keepsHotspot_of_onRouter

theorem tryInjectOnLogin_keeps (p : HotspotProfile) :
    (tryInjectOnLogin texts p).Only Call.keepsHotspot :=
  (tryInjectOnLogin_onRouter texts p).mono fun _ ↦ Call.keepsHotspot_of_onRouter

theorem answerConfig_keeps (deviceID : ℕ) (name : String) (status : ℕ) :
    (answerConfig texts deviceID name status).Only Call.keepsHotspot := by
  refine ⟨trivial, fun r ↦ ?_⟩
  cases r with
  | error err => trivial
  | ok persisted => exact (tryInjectOnLogin_keeps texts persisted).bind fun _ ↦ trivial

end Frame

variable {texts : Texts} {w : World} {r : HotspotProfile} {req : ProfileConfigUpsertRequest}
variable {validity : String}

/-- The live row of the name becomes the one of the request. -/
theorem upsertConfig_wp (hr : r ∈ w.hotspot.rows) (hlive : r.live) (hvalid : req.valid)
    (hvalidity : texts.normalizeDuration req.validity = .ok validity) :
    (upsertConfig texts r.deviceID r.name req).wp Call.exec Env.Quiet (fun _ s ↦ ∃ now h,
      s.hotspot = w.hotspot.put
        { configRow r.deviceID r.name req validity with id := r.id, updatedAt := now } h) w := by
  unfold upsertConfig
  rw [if_neg (by simp [hvalid]), hvalidity]
  intro e he
  have hfound : (StoreCall.getByName r.deviceID r.name).exec e.now w.hotspot =
      (.ok r, w.hotspot) := by
    rw [StoreCall.exec, ProfileTable.getByName_eq hr hlive]
  rw [exec_hotspot he, hfound]
  intro e he
  obtain ⟨h, hsaved⟩ := ProfileTable.save_of_live e.now
    (p := { configRow r.deviceID r.name req validity with id := r.id }) hr hlive rfl
    (ProfileRow.named_iff.mpr ⟨rfl, rfl⟩)
  rw [exec_hotspot he, StoreCall.exec, hsaved]
  refine (answerConfig_keeps texts _ _ _).wp (fun c e s hc _ hs ↦ ?_) ⟨e.now, h, rfl⟩
  rwa [Call.exec_keepsHotspot hc]

/-- The row is as `ProfileConfig.Upsert` makes one: a voucher profile with nothing but what the
request sets. -/
def Bare (r : HotspotProfile) : Prop :=
  r.columns =
    { HotspotColumns.zero with
      role := "voucher"
      expiryMode := r.columns.expiryMode
      validity := r.columns.validity
      price := r.columns.price
      sellPrice := r.columns.sellPrice
      lockMAC := r.columns.lockMAC } ∧ r.createdAt = zeroTime

instance (r : HotspotProfile) : Decidable (Bare r) := inferInstanceAs (Decidable (_ ∧ _))

/-- The request changes its own columns of the row, and no other row. -/
def OnlyConfigured (req : ProfileConfigUpsertRequest) (validity : String) (r : HotspotProfile)
    (t t' : ProfileTable HotspotColumns) : Prop :=
  (∃ now, t'.rows.get r.id = some
    { r with
      columns :=
        { r.columns with
          expiryMode := req.expiryMode
          validity
          price := req.price
          sellPrice := req.sellPrice
          lockMAC := req.lockMAC }
      updatedAt := now }) ∧
    ∀ id, id ≠ r.id → t'.rows.get id = t.rows.get id

theorem OnlyConfigured.role {t t' : ProfileTable HotspotColumns}
    (h : OnlyConfigured req validity r t t') :
    (t'.rows.get r.id).map (·.columns.role) = some r.columns.role := by
  obtain ⟨⟨now, hrow⟩, -⟩ := h
  rw [hrow]
  rfl

theorem configRow_iff (hlive : r.live) (now now' : Time) :
    { configRow r.deviceID r.name req validity with id := r.id, updatedAt := now } =
      { r with
        columns :=
          { r.columns with
            expiryMode := req.expiryMode
            validity
            price := req.price
            sellPrice := req.sellPrice
            lockMAC := req.lockMAC }
        updatedAt := now' } ↔ Bare r ∧ now = now' := by
  obtain ⟨id, deviceID, name, columns, createdAt, updatedAt, deletedAt⟩ := r
  obtain rfl : deletedAt = none := by simpa [ProfileRow.live] using hlive
  obtain ⟨⟩ := columns
  simp only [configRow, newRow, HotspotColumns.zero, Bare, ProfileRow.mk.injEq,
    HotspotColumns.mk.injEq]
  grind

/-- `ProfileConfig.Upsert` leaves the other columns of a live row alone just if they have the
values it makes up for them. -/
theorem upsertConfig_only_configured_iff {env : ℕ → Env} (hquiet : ∀ n, (env n).Quiet)
    (hr : r ∈ w.hotspot.rows) (hlive : r.live) (hvalid : req.valid)
    (hvalidity : texts.normalizeDuration req.validity = .ok validity) :
    OnlyConfigured req validity r w.hotspot
      ((upsertConfig texts r.deviceID r.name req).run Call.exec env w).2.hotspot ↔ Bare r := by
  obtain ⟨now, h, hfinal⟩ := run_of_wp (upsertConfig_wp hr hlive hvalid hvalidity) env hquiet
  have hget := Table.get_eq_some.mpr ⟨hr, rfl⟩
  rw [hfinal]
  constructor
  · rintro ⟨⟨now', hrow⟩, -⟩
    have hsaved := (UniqueTable.get_put_self h hget).symm.trans hrow
    exact ((configRow_iff hlive now now').mp (Option.some.inj hsaved)).1
  · intro hbare
    refine ⟨⟨now, ?_⟩, fun id hid ↦ UniqueTable.get_put_of_ne h hid⟩
    exact (UniqueTable.get_put_self h hget).trans
      (congrArg some ((configRow_iff hlive now now).mpr ⟨hbare, rfl⟩))

def plainTexts : Texts := ⟨.ok, fun _ ↦ .ok ""⟩

/-- One hotspot profile of the device 1. -/
def World.one (name : String) (columns : HotspotColumns) : World where
  hotspot := .single (newRow 1 name columns)
  ppp := .empty
  online := false
  router := fun _ ↦ .empty

def thirtyDays : ProfileConfigUpsertRequest := ⟨"remc", "30d", 5000, 6000, true⟩

def bareVoucher : HotspotColumns := { HotspotColumns.zero with role := "voucher" }

theorem bare_voucher_configured :
    OnlyConfigured thirtyDays "30d" { newRow 1 "1jam" bareVoucher with id := 1 }
      (World.one "1jam" bareVoucher).hotspot
      ((upsertConfig plainTexts 1 "1jam" thirtyDays).run Call.exec (fun _ ↦ Env.calm 0)
        (World.one "1jam" bareVoucher)).2.hotspot := by
  have hquiet : ∀ n : ℕ, ((fun _ ↦ Env.calm 0 : ℕ → Env) n).Quiet := fun _ ↦ rfl
  refine (upsertConfig_only_configured_iff hquiet ?_ rfl (by decide) rfl).mpr ?_
  · decide +kernel
  · decide +kernel

def monthly : HotspotColumns :=
  { HotspotColumns.zero with
    role := "permanent"
    rateLimit := "10M/10M"
    sharedUsers := 1
    priceMonthly := 150000
    active := true
    isPublic := true }

/-- A monthly package becomes an inactive voucher without a price. -/
theorem monthly_rewritten :
    ¬OnlyConfigured thirtyDays "30d" { newRow 1 "paket-10M" monthly with id := 1 }
      (World.one "paket-10M" monthly).hotspot
      ((upsertConfig plainTexts 1 "paket-10M" thirtyDays).run Call.exec (fun _ ↦ Env.calm 0)
        (World.one "paket-10M" monthly)).2.hotspot := by
  intro h
  have hrole := h.role
  revert hrole
  decide +kernel

end Rosmon.Profiles
