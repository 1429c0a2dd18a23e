import Rosmon.Sync.Drain
import Rosmon.Sync.SyncedRows

namespace Rosmon.Sync

open Library Store Mikrotik Program Run Service Job

/-- The record exists and is enabled, or it does not let a suspended subscription in. -/
def Flagged (sub : Subscription) (a : Option Account) : Prop :=
  if sub.status = .suspended then ∀ b, a = some b → b.disabled = true
  else ∃ b, a = some b ∧ b.disabled = false

instance (sub : Subscription) (a : Option Account) : Decidable (Flagged sub a) :=
  inferInstanceAs (Decidable (if sub.status = .suspended then ∀ b ∈ a, b.disabled = true
    else ∃ b ∈ a, b.disabled = false))

/-- `w'` is what reconciling `w` was for: whatever counted as synced is as the reconciler
wants it, and another `ReconcilerJob.Run` has nothing to report. -/
structure Repaired (w w' : World) : Prop where
  flagged : ∀ id sub, w.row id = some sub → sub.syncStatus = .synced →
    sub.status ∈ [.active, .isolir, .suspended] → Flagged sub (w'.account sub.login)
  settled : ∀ env : ℕ → Env, (∀ n, (env n).Quiet) →
    ∀ id, (reconcilerRun.run Call.exec env w').2.row id = w'.row id

/-- One `ReconcilerJob.Run`, and as many of `OutboxJob.Run`. -/
def reconciledAndServed (env : ℕ → Env) (envs : ℕ → ℕ → Env) (n : ℕ) (w : World) : World :=
  outboxRuns envs n (reconcilerRun.run Call.exec env w).2

/-- The requests run out, and then everything is repaired. -/
def Converges (w : World) : Prop :=
  ∀ (env : ℕ → Env) (envs : ℕ → ℕ → Env), (∀ n, (env n).Quiet) → (∀ i n, (envs i n).Quiet) →
    (∃ n, Drained (reconciledAndServed env envs n w)) ∧
      ∀ n, Drained (reconciledAndServed env envs n w) →
        Repaired w (reconciledAndServed env envs n w)

/-- The reconciler finds nothing to do, and the request that is there, if the router
takes it, gives it nothing to do. -/
def Reconcilable (w : World) (sub : Subscription) : Prop :=
  sub.status ∈ [.active, .isolir, .suspended] →
    match sub.syncStatus with
    | .synced => Flagged sub (w.account sub.login)
    | .error => True
    | .pendingCreate =>
      sub.mikrotikUsername = "" ∨ (w.account sub.login).isSome ∨ sub.status ≠ .suspended
    | .pendingProfileChange => sub.mikrotikUsername = "" ∨ Flagged sub (w.account sub.login)
    | .pendingDisable | .pendingDelete => sub.mikrotikUsername = "" ∨ sub.status = .suspended
    | .pendingEnable =>
      sub.mikrotikUsername = "" ∨ (sub.status = .suspended ↔ w.account sub.login = none)

section Flags

variable {w : World} {sub : Subscription}

theorem flagged_withProfile (a : Option Account) (profile : String) :
    Flagged sub (a.bind fun b ↦ some (b.withProfile profile)) ↔ Flagged sub a := by
  cases a <;> simp [Flagged]

theorem flagged_congr {sub' : Subscription} (h : sub'.status = sub.status) (a : Option Account) :
    Flagged sub' a ↔ Flagged sub a := by
  simp only [Flagged, h]

theorem missing_ne_empty (service : ServiceType) : missing service ≠ "" := by
  cases service <;> decide

/-- What the reconciler calls drift. -/
theorem drift_eq_empty_iff (hdevice : sub.deviceID ∈ w.connected)
    (hstatus : sub.status ∈ [.active, .isolir, .suspended]) :
    w.drift sub = "" ↔ sub.mikrotikUsername = "" ∨ Flagged sub (w.account sub.login) := by
  by_cases hname : sub.mikrotikUsername = ""
  · simp [World.drift, hname]
  · simp only [World.drift, hdevice, hname, not_true_eq_false, or_self, if_false, false_or]
    simp only [List.mem_cons, List.not_mem_nil, or_false] at hstatus
    cases ha : w.account sub.login with
    | none =>
      rcases hstatus with h | h | h <;> simp [Flagged, h, missing_ne_empty]
    | some a =>
      rcases hstatus with h | h | h <;> cases hd : a.disabled <;> simp [Flagged, h, hd] <;> decide

theorem reconciled_eq_iff : w.reconciled sub = sub ↔ (sub.syncStatus = .synced →
    sub.status ∈ [.active, .isolir, .suspended] → w.drift sub = "") := by
  unfold World.reconciled
  split_ifs with h
  · simp only [true_iff]
    intro hsynced hstatus
    exact (h.resolve_left fun hne ↦ hne hsynced).resolve_left fun hnot ↦ hnot hstatus
  · rw [not_or, not_or, not_not, not_not] at h
    constructor
    · intro heq
      have hs := congrArg Subscription.syncStatus heq
      rw [h.1] at hs
      cases hs
    · intro hdrift
      exact absurd (hdrift h.1 h.2.1) h.2.2

theorem reconciled_status (w : World) (sub : Subscription) :
    (w.reconciled sub).status = sub.status := by
  unfold World.reconciled
  split_ifs <;> rfl

theorem reconciled_login (w : World) (sub : Subscription) :
    (w.reconciled sub).login = sub.login := by
  unfold World.reconciled
  split_ifs <;> rfl

theorem reconciled_id (w : World) (sub : Subscription) : (w.reconciled sub).id = sub.id := by
  unfold World.reconciled
  split_ifs <;> rfl

end Flags

/-- The `sync_status` of a row once the reconciler has been there and no request is left. -/
def finalSync (w : World) (sub : Subscription) : SyncStatus :=
  if (w.reconciled sub).syncStatus.pending then w.answered (w.reconciled sub)
  else (w.reconciled sub).syncStatus

section Fates

variable {w : World} {sub : Subscription} (hw : w.Sane) (hdevice : sub.deviceID ∈ w.connected)

/-- A request gives the reconciler nothing to do just if the router refuses it or the
flag is right afterwards. -/
theorem reconcilable_request_iff (hpending : sub.syncStatus.pending)
    (hstatus : sub.status ∈ [.active, .isolir, .suspended]) : Reconcilable w sub ↔
      ∀ a, w.fulfil sub (w.account sub.login) = some a → Flagged sub a := by
  by_cases hname : sub.mikrotikUsername = ""
  · have hnone : w.fulfil sub (w.account sub.login) = none := by
      cases hs : sub.syncStatus <;> simp_all [World.fulfil, forRecord, SyncStatus.pending]
    cases hs : sub.syncStatus <;> simp_all [Reconcilable, SyncStatus.pending]
  · simp only [Reconcilable, hstatus, hname, forall_const, false_or]
    cases hs : sub.syncStatus with
    | pendingCreate =>
      cases ha : w.account sub.login <;> simp [World.fulfil, hs, hname, Flagged]
    | pendingProfileChange =>
      simp only [World.fulfil, hs, forRecord, hname, if_false, Option.some.injEq, forall_eq']
      exact (flagged_withProfile _ _).symm
    | pendingDisable | pendingDelete =>
      cases ha : w.account sub.login <;> simp [World.fulfil, hs, hname, forRecord, Flagged]
    | pendingEnable =>
      cases ha : w.account sub.login <;> simp [World.fulfil, hs, hname, forRecord, Flagged]
    | synced | error => simp [hs, SyncStatus.pending] at hpending

include hdevice

/-- A request that only changes the profile leaves everything amiss that was. -/
theorem flagged_delivered_iff (hsynced : sub.syncStatus = .synced)
    (hstatus : sub.status ∈ [.active, .isolir, .suspended]) :
    Flagged sub (w.delivered (w.reconciled sub)) ↔ Flagged sub (w.account sub.login) := by
  by_cases hdrift : w.drift sub = ""
  · have hsame : w.reconciled sub = sub := reconciled_eq_iff.mpr fun _ _ ↦ hdrift
    rw [hsame]
    simp [World.delivered, hdevice, World.fulfil, hsynced]
  · have hname : sub.mikrotikUsername ≠ "" := fun hname ↦
      hdrift ((drift_eq_empty_iff hdevice hstatus).mpr (.inl hname))
    have hrequest : w.reconciled sub = sub.setSyncStatus .pendingProfileChange
        ("reconciler detected drift: " ++ w.drift sub) := by
      simp only [World.reconciled, hsynced, hstatus, hdrift, ne_eq, not_true_eq_false, or_self,
        if_false]
    have hlogin : (w.reconciled sub).login = sub.login := reconciled_login w sub
    have hdevice' : (w.reconciled sub).deviceID ∈ w.connected := by
      rwa [deviceID_of_login hlogin]
    have hname' : (w.reconciled sub).mikrotikUsername ≠ "" := by
      rwa [username_of_login hlogin]
    have hs : (w.reconciled sub).syncStatus = .pendingProfileChange := by rw [hrequest]; rfl
    simp only [World.delivered, hdevice', if_true, World.fulfil, hs, forRecord, hname', if_false,
      Option.getD_some, hlogin]
    exact flagged_withProfile _ _

include hw

/-- What the two halves of the repair come to for one row. -/
theorem reconcilable_iff : Reconcilable w sub ↔
    (sub.syncStatus = .synced → sub.status ∈ [.active, .isolir, .suspended] →
      Flagged sub (w.delivered (w.reconciled sub))) ∧
    (finalSync w sub = .synced → sub.status ∈ [.active, .isolir, .suspended] →
      sub.mikrotikUsername = "" ∨ Flagged sub (w.delivered (w.reconciled sub))) := by
  by_cases hstatus : sub.status ∈ [.active, .isolir, .suspended]
  swap
  · simp only [Reconcilable, hstatus, false_implies, implies_true, and_self]
  simp only [hstatus, forall_const]
  by_cases hsynced : sub.syncStatus = .synced
  · rw [flagged_delivered_iff hdevice hsynced hstatus]
    simp only [Reconcilable, hstatus, hsynced, forall_const]
    constructor
    · intro h
      exact ⟨h, fun _ ↦ .inr h⟩
    · intro h
      exact h.1
  have hsame : w.reconciled sub = sub := reconciled_eq_iff.mpr fun h ↦ absurd h hsynced
  simp only [hsynced, false_implies, true_and, finalSync, hsame]
  by_cases hpending : sub.syncStatus.pending
  · rw [reconcilable_request_iff hpending hstatus, if_pos hpending]
    have hnone : sub.mikrotikUsername = "" → w.account sub.login = none :=
      account_of_no_name hw.routers
    cases hf : w.fulfil sub (w.account sub.login) with
    | none => simp [World.answered, hdevice, hf]
    | some a =>
      have hname : sub.mikrotikUsername ≠ "" := by
        intro hname
        cases hs : sub.syncStatus <;> simp_all [World.fulfil, forRecord, SyncStatus.pending]
      simp [World.answered, World.delivered, hdevice, hf, hname]
  · rw [if_neg hpending]
    simp only [hsynced, false_implies, iff_true]
    cases hs : sub.syncStatus <;> simp_all [Reconcilable, SyncStatus.pending]

end Fates

section Runs

variable {w : World} {env : ℕ → Env} {envs : ℕ → ℕ → Env} (henv : ∀ n, (env n).Quiet)
  (henvs : ∀ i n, (envs i n).Quiet) (hw : w.Sane)

include henv henvs hw

/-- What is known of a row in the end. -/
theorem reconciledAndServed_row {n : ℕ} (hdrained : Drained (reconciledAndServed env envs n w))
    {id : ℕ} {sub : Subscription} (hrow : w.row id = some sub) :
    ∃ sub', (reconciledAndServed env envs n w).row id = some sub' ∧
      sub'.login = sub.login ∧ sub'.status = sub.status ∧ sub'.syncStatus = finalSync w sub ∧
      (reconciledAndServed env envs n w).account sub.login = w.delivered (w.reconciled sub) := by
  have hrows := reconcilerRun_run (w := w) henv
  have hw₁ : (reconcilerRun.run Call.exec env w).2.Sane := run_sane _ env hw
  obtain ⟨-, -, rfl⟩ := row_iff.mp hrow
  have hrow₁ : (reconcilerRun.run Call.exec env w).2.row (w.reconciled sub).id =
      some (w.reconciled sub) := by
    rw [reconciled_id, hrows.rows, hrow, Option.map_some]
  have hprogress := outboxRuns_progress henvs hw₁ hrow₁ n
  obtain ⟨sub', hrow'⟩ := hprogress.row
  obtain ⟨hcore, haccount⟩ := hprogress.finished hrow' (hdrained _ _ hrow')
  rw [reconciled_id] at hrow'
  rw [reconciled_login, delivered_congr hrows.terms rfl (hrows.account _)] at haccount
  rw [answered_congr hrows.terms rfl (hrows.account _)] at hcore
  refine ⟨sub', hrow', ?_, ?_, ?_, haccount⟩
  · rw [← reconciled_login w sub]
    have h := core_login hcore
    split_ifs at h <;> exact h
  · rw [← reconciled_status w sub]
    have h := core_status hcore
    split_ifs at h <;> exact h
  · have h := core_syncStatus hcore
    unfold finalSync
    split_ifs at h ⊢ <;> exact h

theorem repaired_iff (honline : ∀ id sub, w.row id = some sub → sub.deviceID ∈ w.connected) {n : ℕ}
    (hdrained : Drained (reconciledAndServed env envs n w)) :
    Repaired w (reconciledAndServed env envs n w) ↔
      ∀ id sub, w.row id = some sub → Reconcilable w sub := by
  have hrows := reconcilerRun_run (w := w) henv
  have hw₁ : (reconcilerRun.run Call.exec env w).2.Sane := run_sane _ env hw
  have hterms : SameTerms w (reconciledAndServed env envs n w) :=
    hrows.terms.trans (outboxRuns_keeps henvs hw₁ n).2
  -- One row, and what the next `ReconcilerJob.Run` makes of it.
  have hrow_iff : ∀ id sub, w.row id = some sub → (Reconcilable w sub ↔
      (sub.syncStatus = .synced → sub.status ∈ [.active, .isolir, .suspended] →
        Flagged sub ((reconciledAndServed env envs n w).account sub.login)) ∧
      ∀ env' : ℕ → Env, (∀ n, (env' n).Quiet) →
        (reconcilerRun.run Call.exec env' (reconciledAndServed env envs n w)).2.row id =
          (reconciledAndServed env envs n w).row id) := by
    intro id sub hrow
    have hdevice := honline id sub hrow
    obtain ⟨sub', hrow', hlogin, hstatus, hsync, haccount⟩ :=
      reconciledAndServed_row henv henvs hw hdrained hrow
    have hdevice' : sub'.deviceID ∈ (reconciledAndServed env envs n w).connected := by
      rwa [hterms.connected, deviceID_of_login hlogin]
    have hname := username_of_login hlogin
    rw [reconcilable_iff hw hdevice, haccount]
    refine and_congr_right fun _ ↦ ?_
    have hagain : ∀ env' : ℕ → Env, (∀ n, (env' n).Quiet) →
        ((reconcilerRun.run Call.exec env' (reconciledAndServed env envs n w)).2.row id =
          (reconciledAndServed env envs n w).row id ↔
            (reconciledAndServed env envs n w).reconciled sub' = sub') := by
      intro env' henv'
      rw [(reconcilerRun_run henv').rows, hrow', Option.map_some, Option.some.injEq]
    have hquiet : (∀ env' : ℕ → Env, (∀ n, (env' n).Quiet) →
        (reconcilerRun.run Call.exec env' (reconciledAndServed env envs n w)).2.row id =
          (reconciledAndServed env envs n w).row id) ↔
            (reconciledAndServed env envs n w).reconciled sub' = sub' := by
      constructor
      · intro h
        exact (hagain env henv).mp (h env henv)
      · intro h env' henv'
        exact (hagain env' henv').mpr h
    rw [hquiet, reconciled_eq_iff, hsync, hstatus]
    refine forall_congr' fun _ ↦ forall_congr' fun hin ↦ ?_
    rw [drift_eq_empty_iff hdevice' (hstatus ▸ hin), hname, hlogin, haccount,
      flagged_congr hstatus]
  constructor
  · intro h id sub hrow
    exact (hrow_iff id sub hrow).mpr ⟨h.flagged id sub hrow, fun env' henv' ↦ h.settled env' henv' id⟩
  · intro h
    refine ⟨fun id sub hrow ↦ ((hrow_iff id sub hrow).mp (h id sub hrow)).1, fun env' henv' id ↦ ?_⟩
    cases hrow : w.row id with
    | some sub => exact ((hrow_iff id sub hrow).mp (h id sub hrow)).2 env' henv'
    | none =>
      have hnone : (reconcilerRun.run Call.exec env w).2.row id = none := by
        rw [hrows.rows, hrow, Option.map_none]
      have hnone' : (reconciledAndServed env envs n w).row id = none :=
        outboxRuns_none henvs hw₁ hnone n
      rw [(reconcilerRun_run henv').rows, hnone', Option.map_none]

end Runs

/-- Reconciliation repairs just what was in order or is put in order by a request that
was there already. -/
theorem converges_iff (w : World) (hw : w.Sane)
    (honline : ∀ id sub, w.row id = some sub → sub.deviceID ∈ w.connected) :
    Converges w ↔ ∀ id sub, w.row id = some sub → Reconcilable w sub := by
  constructor
  · intro h
    have hcalm : ∀ n : ℕ, ((fun _ ↦ Env.calm 0 : ℕ → Env) n).Quiet := fun _ ↦ Env.calm_quiet 0
    have hcalms : ∀ i n : ℕ, ((fun _ _ ↦ Env.calm 0 : ℕ → ℕ → Env) i n).Quiet :=
      fun _ _ ↦ Env.calm_quiet 0
    obtain ⟨⟨n, hn⟩, hrepaired⟩ := h _ _ hcalm hcalms
    exact (repaired_iff hcalm hcalms hw honline hn).mp (hrepaired n hn)
  · intro h env envs henv henvs
    exact ⟨outboxRuns_drain henvs (run_sane _ env hw),
      fun n hn ↦ (repaired_iff henv henvs hw honline hn).mpr h⟩

/-- A subscription that is in order stays so. -/
theorem provisioned_converges : Converges (requesting .synced provisionedRouter) :=
  (converges_iff _ (requesting_sane _ (RouterCall.exec_wellFormed Router.blank_wellFormed _ _))
    (by
      intro id sub hrow
      obtain ⟨hmem, -, -⟩ := row_iff.mp hrow
      obtain rfl : sub = _ := List.mem_singleton.mp hmem
      decide)).mpr (by
        intro id sub hrow _
        obtain ⟨hmem, -, -⟩ := row_iff.mp hrow
        obtain rfl : sub = _ := List.mem_singleton.mp hmem
        show Flagged _ _
        decide +kernel)

/-- A router on which somebody has disabled the subscription. -/
def disabledRouter : Router :=
  (RouterCall.exec .pppoe (.add ⟨"budi", "rahasia", "pppoe", "paket-10M", true⟩) .blank).2

/-- The request for a drift changes the profile of a record that exists: it neither
creates the record that is missing nor enables the one that is disabled. -/
theorem drift_not_repaired :
    ¬Converges (requesting .synced .blank) ∧ ¬Converges (requesting .synced disabledRouter) := by
  have hcalm : ∀ n : ℕ, ((fun _ ↦ Env.calm 0 : ℕ → Env) n).Quiet := fun _ ↦ Env.calm_quiet 0
  have hcalms : ∀ i n : ℕ, ((fun _ _ ↦ Env.calm 0 : ℕ → ℕ → Env) i n).Quiet :=
    fun _ _ ↦ Env.calm_quiet 0
  constructor <;> intro h
  · have hrepaired := (h _ _ hcalm hcalms).2 1 (by decide +kernel)
    exact absurd (hrepaired.flagged 1 _ rfl rfl (by decide)) (by decide +kernel)
  · have hrepaired := (h _ _ hcalm hcalms).2 1 (by decide +kernel)
    exact absurd (hrepaired.flagged 1 _ rfl rfl (by decide)) (by decide +kernel)

end Rosmon.Sync
