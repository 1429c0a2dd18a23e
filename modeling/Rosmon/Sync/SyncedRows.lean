import Rosmon.Sync.Serving

namespace Rosmon.Sync

open Library Store Mikrotik Program Job

/-- What a request asks for: the account of its subscription is to be such. -/
def Asks (w : World) (sub : Subscription) (a : Option Account) : Prop :=
  match sub.syncStatus with
  | .pendingCreate => ∃ b, a = some b ∧ b.profile = w.normalName sub
  | .pendingProfileChange => ∃ b, a = some b ∧ b.profile = w.targetName sub
  | .pendingEnable => ∃ b, a = some b ∧ b.profile = w.targetName sub ∧ b.disabled = false
  | .pendingDisable => ∀ b, a = some b → b.disabled = true
  | .pendingDelete => a = none
  | .synced | .error => True

/-- After a `Run` that only routers can get in the way of, a request that counts as
synced has been carried out, and one for a device that is offline is still there. -/
def Truthful (w : World) : Prop :=
  ∀ env : ℕ → Env, (∀ n, (env n).Honest) →
    ∀ sub ∈ w.subscriptions, sub.live → sub.syncStatus.pending →
      ∀ sub' ∈ (outboxRun.run execCommands env w).2.subscriptions, sub'.id = sub.id →
        (sub'.syncStatus = .synced →
          Asks w sub ((outboxRun.run execCommands env w).2.account sub.login)) ∧
        (sub.deviceID ∉ w.connected → sub'.syncStatus = sub.syncStatus)

/-- The device is online, and the request either is refused by the router or finds
there what it needs: a record to change, or a named profile to give it. -/
def Servable (w : World) (sub : Subscription) : Prop :=
  sub.deviceID ∈ w.connected ∧ (sub.mikrotikUsername = "" ∨
    match sub.syncStatus with
    | .pendingCreate => (w.account sub.login).isSome ∨ w.normalName sub ≠ ""
    | .pendingProfileChange | .pendingEnable =>
      ∃ a, w.account sub.login = some a ∧ (w.targetName sub ≠ "" ∨ a.profile = "")
    | _ => True)

section Requests

variable {w : World} {sub : Subscription}

theorem withProfile_profile_iff (a : Account) (profile : String) :
    (a.withProfile profile).profile = profile ↔ profile ≠ "" ∨ a.profile = "" := by
  by_cases h : profile = "" <;> simp [Account.withProfile, orDefault, h]

/-- A request that the router takes leads to what it asks for just if it is servable. -/
theorem asks_fulfil_iff (hdevice : sub.deviceID ∈ w.connected) :
    (∀ a, w.fulfil sub (w.account sub.login) = some a → Asks w sub a) ↔ Servable w sub := by
  by_cases hname : sub.mikrotikUsername = ""
  · have hservable : Servable w sub := ⟨hdevice, .inl hname⟩
    simp only [hservable, iff_true]
    intro a ha
    cases hs : sub.syncStatus <;> simp_all [World.fulfil, forRecord, Asks]
  · simp only [Servable, hdevice, hname, false_or, true_and]
    cases hs : sub.syncStatus with
    | pendingCreate =>
      cases ha : w.account sub.login with
      | some a => simp [World.fulfil, hs]
      | none =>
        by_cases hprofile : w.normalName sub = "" <;>
          simp [World.fulfil, hs, hname, Asks, orDefault, hprofile]
    | pendingProfileChange =>
      cases ha : w.account sub.login with
      | none => simp [World.fulfil, hs, hname, forRecord, Asks]
      | some a => simp [World.fulfil, hs, hname, forRecord, Asks, withProfile_profile_iff]
    | pendingEnable =>
      cases ha : w.account sub.login with
      | none => simp [World.fulfil, hs, hname, forRecord, Asks]
      | some a => simp [World.fulfil, hs, hname, forRecord, Asks, withProfile_profile_iff]
    | pendingDisable =>
      cases ha : w.account sub.login <;> simp [World.fulfil, hs, hname, forRecord, Asks]
    | pendingDelete =>
      cases ha : w.account sub.login <;> simp [World.fulfil, hs, hname, forRecord, Asks]
    | synced | error => simp [World.fulfil, hs, Asks]

end Requests

/-- Rows that satisfy `p` come first. -/
def Arrangement.first {ρ : Type} (p : ρ → Bool) : Arrangement ρ :=
  ⟨fun l ↦ l.filter p ++ l.filter (fun r ↦ !p r), List.filter_append_perm p⟩

/-- Nothing fails, and one subscription is the first of every list. -/
def Env.favouring (id : ℕ) (now : Time) : Env :=
  { Env.calm now with subscriptionOrder := Arrangement.first (·.id == id) }

theorem mem_batch_favouring {w : World} {sub : Subscription} (now : Time)
    (h : sub ∈ pendingRows w.subscriptions) : sub ∈ batch (Env.favouring sub.id now) w := by
  have hmem : sub ∈ (pendingRows w.subscriptions).filter (·.id == sub.id) := by
    simpa using h
  have honly : ∀ s ∈ (pendingRows w.subscriptions).filter (·.id == sub.id), s = sub := by
    intro s hs
    obtain ⟨hs, hid⟩ := List.mem_filter.mp hs
    exact Table.eq_of_key (mem_pendingRows.mp hs).1 (mem_pendingRows.mp h).1 (of_decide_eq_true hid)
  cases hfirst : (pendingRows w.subscriptions).filter (·.id == sub.id) with
  | nil => simp [hfirst] at hmem
  | cons s ss =>
    have hs : s = sub := honly s (by simp [hfirst])
    simp [batch, Env.favouring, Arrangement.first, hfirst, hs, outboxBatchSize]

theorem Asks.congr {w w' : World} (h : SameTerms w w') (sub : Subscription) (a : Option Account) :
    Asks w' sub a ↔ Asks w sub a := by
  simp only [Asks, h.normalName, h.targetName]

/-- `Run` tells the truth about the requests just if every one of them is servable. -/
theorem truthful_iff (w : World) (hw : w.Sane) : Truthful w ↔
    ∀ sub ∈ w.subscriptions, sub.live → sub.syncStatus.pending → Servable w sub := by
  constructor
  · intro h sub hsub hlive hpending
    -- A `Run` that meets with no failure and has this row in its batch.
    let e := Env.favouring sub.id 0
    let ok (e' : Env) : Prop := e' = e
    have hhonest : ∀ e', ok e' → e'.Honest := by
      rintro _ rfl err hf
      cases hf
    have hfaulty : ¬Faulty ok := by
      rintro ⟨_, rfl, hf⟩
      exact hf rfl
    have hstops : ¬Stops ok := by
      rintro ⟨_, rfl, hstop⟩
      cases hstop
    obtain ⟨_, rfl, hworked⟩ := run_of_wp (outboxRun_worked hhonest hw) (fun _ ↦ e) fun _ ↦ rfl
    have hout := hworked.outcome sub
      (mem_batch_favouring 0 (mem_pendingRows.mpr ⟨hsub, hlive, hpending⟩))
    obtain ⟨sub', hrow⟩ := hout.row_some
    obtain ⟨hmem, -, hid⟩ := row_iff.mp hrow
    obtain ⟨hsynced, hkept⟩ :=
      h (fun _ ↦ e) (fun _ ↦ hhonest e rfl) sub hsub hlive hpending sub' hmem hid
    have hdevice : sub.deviceID ∈ w.connected := by
      by_contra hdevice
      have hrow' := Option.some.inj (hrow.symm.trans (hout.quiet_offline hstops hdevice))
      rw [← hkept hdevice, hrow'] at hpending
      cases hpending
    refine (asks_fulfil_iff hdevice).mp fun a ha ↦ ?_
    obtain ⟨hrow', ho⟩ := hout.quiet_served hfaulty hstops hdevice ha
    have hasks := hsynced (by rw [Option.some.inj (hrow.symm.trans hrow')]; rfl)
    rwa [World.account, ho] at hasks
  · intro h env henv sub hsub hlive hpending sub' hsub' hid
    have hservable := h sub hsub hlive hpending
    refine ⟨fun hsynced ↦ ?_, fun hoff ↦ absurd hservable.1 hoff⟩
    obtain ⟨e, -, hworked⟩ := run_of_wp
      (outboxRun_worked (fun e (he : e.Honest) ↦ he) hw) env henv
    have hrow := hworked.row_of_mem hsub hlive hsub' hid
    by_cases hbatch : sub ∈ batch e w
    · have hout := hworked.outcome sub hbatch
      rw [hrow] at hout
      obtain ⟨-, hf⟩ := (hout.synced hpending hsynced).resolve_left fun h ↦ h hservable.1
      exact (asks_fulfil_iff hservable.1).mpr hservable _ hf
    · have hother : ∀ s ∈ batch e w, s.id ≠ sub.id := by
        intro s hs heq
        obtain ⟨hmem, -⟩ := mem_pendingRows.mp (mem_of_batch hs)
        exact hbatch (Table.eq_of_key hmem hsub heq ▸ hs)
      rw [hworked.rows _ hother, row_of_mem hsub hlive] at hrow
      rw [Option.some.inj hrow, hsynced] at hpending
      cases hpending

/-- One active subscription with a request, and what its router knows of it. -/
def requesting (syncStatus : SyncStatus) (router : Router) : World :=
  { World.oneInvoice 150000 .active with
    subscriptions := (World.oneInvoice 150000 .active).subscriptions.update
      (Subscription.liveAt 1) (Subscription.setSyncStatus syncStatus "")
    routers := fun _ ↦ router }

/-- A router on which the subscription has been provisioned. -/
def provisionedRouter : Router :=
  (RouterCall.exec .pppoe (.add ⟨"budi", "rahasia", "pppoe", "paket-10M", false⟩) .blank).2

theorem requesting_sane (syncStatus : SyncStatus) {router : Router} (h : router.WellFormed) :
    (requesting syncStatus router).Sane := by
  refine ⟨fun _ ↦ h, ?_⟩
  refine UniqueLogins.update ?_ _ fun r hr ↦ ⟨hr, rfl⟩
  unfold UniqueLogins
  decide

/-- The request of a subscription that is on its router is served as it says. -/
theorem provisioned_truthful : Truthful (requesting .pendingProfileChange provisionedRouter) :=
  (truthful_iff _ (requesting_sane _
    (RouterCall.exec_wellFormed Router.blank_wellFormed _ _))).mpr (by
      intro sub hsub _ _
      obtain rfl : sub = _ := List.mem_singleton.mp hsub
      exact ⟨by decide, .inr ⟨_, rfl, .inl (by decide)⟩⟩)

/-- A request for a device that is offline, and one for a record that does not exist,
both count as synced. -/
theorem unserved_not_truthful :
    ¬Truthful { requesting .pendingProfileChange provisionedRouter with connected := [] } ∧
      ¬Truthful (requesting .pendingProfileChange .blank) := by
  have hhonest : ∀ n : ℕ, ((fun _ ↦ Env.calm 0 : ℕ → Env) n).Honest := by
    intro n err hf
    cases hf
  constructor
  · intro h
    have hkept := fun sub hsub hlive hpending sub' hsub' hid ↦
      (h _ hhonest sub hsub hlive hpending sub' hsub' hid).2
    revert hkept
    decide +kernel
  · intro h
    have hpresent : ∀ sub ∈ (requesting .pendingProfileChange .blank).subscriptions, sub.live →
        sub.syncStatus = .pendingProfileChange → ∀ sub' ∈ (outboxRun.run execCommands
          (fun _ ↦ Env.calm 0) (requesting .pendingProfileChange .blank)).2.subscriptions,
            sub'.id = sub.id → sub'.syncStatus = .synced →
              ((outboxRun.run execCommands (fun _ ↦ Env.calm 0)
                (requesting .pendingProfileChange .blank)).2.account sub.login).isSome := by
      intro sub hsub hlive hs sub' hsub' hid hsynced
      have hasks := (h _ hhonest sub hsub hlive (by rw [hs]; rfl) sub' hsub' hid).1 hsynced
      simp only [Asks, hs] at hasks
      obtain ⟨b, hb, -⟩ := hasks
      rw [hb]
      rfl
    revert hpresent
    decide +kernel

end Rosmon.Sync
