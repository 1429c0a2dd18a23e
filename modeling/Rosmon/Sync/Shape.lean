import Rosmon.Handler.Subscriptions
import Rosmon.Library.Run
import Rosmon.Sync.Quiet
import Rosmon.Sync.SyncedRows

namespace Rosmon.Sync

open Library Store Mikrotik Program Run Service Job Handler

/-- The profile and the flag that the status of a row demands of its record. -/
def demanded (w : World) (sub : Subscription) : String × Bool :=
  profileForStatus sub.status (w.normalName sub) w.isolirName

/-- The router holds one record for the username, and it is as the status demands. -/
def InShape (w : World) (sub : Subscription) : Prop :=
  ∃ row, ((w.routers sub.deviceID).records sub.serviceType).filter
      (·.name = sub.mikrotikUsername) = [row] ∧ (row.profile, row.disabled) = demanded w sub

instance (w : World) (sub : Subscription) : Decidable (InShape w sub) :=
  match h : ((w.routers sub.deviceID).records sub.serviceType).filter
      (·.name = sub.mikrotikUsername) with
  | [row] => decidable_of_iff ((row.profile, row.disabled) = demanded w sub) (by simp [InShape, h])
  | [] => isFalse (by simp [InShape, h])
  | _ :: _ :: _ => isFalse (by simp [InShape, h])

/-- A subscription that counts as synced is in shape. -/
def InShapeWhenSynced (id : ℕ) (w : World) : Prop :=
  ∀ sub, w.row id = some sub → sub.syncStatus = .synced → InShape w sub

instance (id : ℕ) (w : World) : Decidable (InShapeWhenSynced id w) :=
  inferInstanceAs (Decidable (∀ sub ∈ w.row id, sub.syncStatus = .synced → InShape w sub))

/-- The runs that act on a subscription without anybody asking for it. -/
inductive Activity
  | suspensionCheck
  | settle (p : Payment)
  | outbox

/-- A whole run, and what the outside world offers to its calls. -/
abbrev Step := Activity × (ℕ → Env)

def exec (w : World) (a : Step) : World :=
  match a.1 with
  | .suspensionCheck => (suspensionCheck.run Call.exec a.2 w).2
  | .settle p => ((applySettlement p).run Call.exec a.2 w).2
  | .outbox => (outboxRun.run Call.exec a.2 w).2

/-- The subscription is in shape in every state that the runs pass through. -/
def StaysInShape (id : ℕ) (w : World) (steps : List Step) : Prop :=
  ∀ w' ∈ states exec w steps, InShapeWhenSynced id w'

instance (id : ℕ) (w : World) (steps : List Step) : Decidable (StaysInShape id w steps) :=
  inferInstanceAs (Decidable (∀ w' ∈ states exec w steps, InShapeWhenSynced id w'))

/-- The router refuses the request of a row, or the record is already such that the
request supplies all that is missing. -/
def Complements (w : World) (sub : Subscription) : Prop :=
  sub.mikrotikUsername = "" ∨ match sub.syncStatus, w.account sub.login with
    | .pendingCreate, some _ => True
    | .pendingCreate, none =>
      orDefault (w.normalName sub) "default" = (demanded w sub).1 ∧ (demanded w sub).2 = false
    | .pendingProfileChange, some a =>
      (w.targetName sub ≠ "" ∨ a.profile = "") ∧ a.disabled = (demanded w sub).2
    | .pendingDisable, some a => a.profile = (demanded w sub).1 ∧ (demanded w sub).2 = true
    | .pendingEnable, some a =>
      (w.targetName sub ≠ "" ∨ a.profile = "") ∧ (demanded w sub).2 = false
    | _, _ => False

instance (w : World) (sub : Subscription) : Decidable (Complements w sub) := by
  unfold Complements
  split <;> infer_instance

/-- Where the outbox takes up the request of the subscription, the request is enough. -/
def Enough (id : ℕ) (w : World) (a : Step) : Prop :=
  match a.1, w.row id with
  | .outbox, some sub => sub ∈ batch (a.2 0) w → Complements w sub
  | _, _ => True

instance (id : ℕ) (w : World) (a : Step) : Decidable (Enough id w a) := by
  unfold Enough
  split <;> infer_instance

section Shapes

variable {w w' : World} {sub : Subscription}

theorem demanded_fst (w : World) (sub : Subscription) : (demanded w sub).1 = w.targetName sub := by
  cases h : sub.status <;> simp [demanded, profileForStatus, World.targetName, h]

theorem demanded_congr (h : SameTerms w w') {sub' : Subscription}
    (hstatus : sub'.status = sub.status) (hname : w.normalName sub' = w.normalName sub) :
    demanded w' sub' = demanded w sub := by
  simp only [demanded, h.normalName, h.isolirName, hstatus, hname]

theorem inShape_iff (hw : w.Sane) : InShape w sub ↔
    ∃ a, w.account sub.login = some a ∧ (a.profile, a.disabled) = demanded w sub := by
  have hfilter := ((hw.routers sub.deviceID).tidy sub.serviceType).filter_eq sub.mikrotikUsername
  have hrecord : w.record sub.login = ((w.routers sub.deviceID).records sub.serviceType).find?
    (·.name = sub.mikrotikUsername) := rfl
  unfold InShape World.account
  rw [hfilter, ← hrecord]
  cases w.record sub.login <;> simp [Record.account]

/-- The request is enough just if it leads to what the status demands. -/
theorem complements_iff (hpending : sub.syncStatus.pending) : Complements w sub ↔
    ∀ o, w.fulfil sub (w.account sub.login) = some o →
      ∃ a, o = some a ∧ (a.profile, a.disabled) = demanded w sub := by
  by_cases hname : sub.mikrotikUsername = ""
  · have hnone : w.fulfil sub (w.account sub.login) = none := by
      cases hs : sub.syncStatus <;> simp_all [World.fulfil, forRecord, SyncStatus.pending]
    simp [Complements, hname, hnone]
  · simp only [Complements, hname, false_or, Prod.ext_iff, demanded_fst]
    cases hs : sub.syncStatus with
    | pendingCreate =>
      cases w.account sub.login <;> simp [World.fulfil, hs, hname]
    | pendingProfileChange | pendingEnable =>
      cases w.account sub.login with
      | none => simp [World.fulfil, hs, hname, forRecord]
      | some a =>
        simp [World.fulfil, hs, hname, forRecord, withProfile_profile_iff]
    | pendingDisable =>
      cases w.account sub.login <;> simp [World.fulfil, hs, hname, forRecord]
    | pendingDelete =>
      cases w.account sub.login <;> simp [World.fulfil, hs, hname, forRecord]
    | synced | error => simp [hs, SyncStatus.pending] at hpending

end Shapes

section Steps

variable {w : World} {id : ℕ}

/-- The rows are sound, and the device of the subscription is online. -/
def Online (id : ℕ) (w : World) : Prop :=
  w.Sane ∧ ∃ sub, w.row id = some sub ∧ sub.deviceID ∈ w.connected

theorem exec_sane (hw : w.Sane) (a : Step) : (exec w a).Sane := by
  obtain ⟨activity, env⟩ := a
  cases activity <;> exact run_sane _ env hw

theorem demote_cases (eligible : List SubscriptionStatus) (status : SubscriptionStatus)
    (syncStatus : SyncStatus) (syncNotes : String) (sub : Subscription) :
    demote eligible status syncStatus syncNotes sub = sub ∨
      demote eligible status syncStatus syncNotes sub = sub.demand status syncStatus syncNotes := by
  unfold demote
  split_ifs
  · exact .inr rfl
  · exact .inl rfl

/-- What is not a request afterwards has not been touched. -/
theorem checked_of_synced {now : Time} {n : ℕ} {sub : Subscription}
    (h : (w.checked now n sub).syncStatus = .synced) : w.checked now n sub = sub := by
  unfold World.checked at h ⊢
  split_ifs at h ⊢
  · rcases demote_cases [.active, .isolir] .suspended .pendingDisable _ sub with heq | heq
    · exact heq
    · rw [heq] at h
      cases h
  · rcases demote_cases [.active] .isolir .pendingProfileChange _ sub with heq | heq
    · exact heq
    · rw [heq] at h
      cases h
  · rfl

theorem settled_of_synced {p : Payment} {now : Time} {n : ℕ} {sub : Subscription}
    (h : (w.settled p now n sub).syncStatus = .synced) : w.settled p now n sub = sub := by
  unfold World.settled only restore at h ⊢
  split at h
  · split_ifs at h ⊢
    · cases hs : sub.status <;> simp_all [Subscription.setSyncStatus]
    · rfl
  · rfl

/-- Where the rows are merely given requests, what counts as synced stays in shape. -/
theorem inShape_of_rows {g : ℕ → Subscription → Subscription} {w' : World}
    (h : RowsBecome g w w') (hw : w.Sane) (hw' : w'.Sane)
    (hg : ∀ n s, (g n s).syncStatus = .synced → g n s = s) (hshape : InShapeWhenSynced id w) :
    InShapeWhenSynced id w' := by
  intro sub' hrow' hsynced
  rw [h.rows] at hrow'
  obtain ⟨sub, hrow, rfl⟩ := Option.map_eq_some_iff.mp hrow'
  have hsame := hg id sub hsynced
  rw [hsame] at hsynced ⊢
  obtain ⟨a, ha, hdemanded⟩ := (inShape_iff hw).mp (hshape sub hrow hsynced)
  refine (inShape_iff hw').mpr ⟨a, (h.account _).trans ha, ?_⟩
  rw [demanded_congr h.terms rfl rfl]
  exact hdemanded

/-- The outbox is the one that completes a request, and it leaves the subscription in
shape just if the request is enough. -/
theorem outbox_inShape_iff {env : ℕ → Env} (henv : ∀ n, (env n).Quiet) (hw : w.Sane)
    {sub : Subscription} (hrow : w.row id = some sub) (hdevice : sub.deviceID ∈ w.connected)
    (hshape : InShapeWhenSynced id w) :
    InShapeWhenSynced id (outboxRun.run Call.exec env w).2 ↔
      (sub ∈ batch (env 0) w → Complements w sub) := by
  have hworked := outboxRun_run henv hw
  have hw' : (outboxRun.run Call.exec env w).2.Sane := run_sane _ env hw
  obtain ⟨-, -, rfl⟩ := row_iff.mp hrow
  by_cases hbatch : sub ∈ batch (env 0) w
  · have hpending := (mem_pendingRows.mp (mem_of_batch hbatch)).2.2
    have hout := hworked.outcome sub hbatch
    rw [complements_iff hpending]
    cases hf : w.fulfil sub (w.account sub.login) with
    | none =>
      obtain ⟨⟨err, hrow'⟩, -⟩ :=
        hout.quiet_refused quiet_not_faulty quiet_not_stops hdevice hf
      refine ⟨fun _ _ a ha ↦ (nomatch ha), fun _ sub' hsub' hsynced ↦ ?_⟩
      rw [hrow'] at hsub'
      obtain rfl := Option.some.inj hsub'
      rcases failedSync_syncStatus sub err with h | h
      · rw [← h, hsynced] at hpending
        cases hpending
      · rw [h] at hsynced
        cases hsynced
    | some a =>
      obtain ⟨hrow', ho⟩ := hout.quiet_served quiet_not_faulty quiet_not_stops hdevice hf
      have hdemanded : demanded _ (sub.setSyncStatus .synced "") = demanded w sub :=
        demanded_congr hworked.terms rfl rfl
      have haccount : (outboxRun.run Call.exec env w).2.account
        (sub.setSyncStatus .synced "").login = a := ho
      have hiff : InShapeWhenSynced sub.id (outboxRun.run Call.exec env w).2 ↔
          InShape (outboxRun.run Call.exec env w).2 (sub.setSyncStatus .synced "") := by
        constructor
        · intro h
          exact h _ hrow' rfl
        · intro h sub' hsub' _
          rw [hrow'] at hsub'
          exact Option.some.inj hsub' ▸ h
      rw [hiff, inShape_iff hw', haccount, hdemanded]
      simp [hbatch]
  · obtain ⟨hrow', hrecord⟩ := hworked.kept hw hrow hbatch
    refine ⟨fun _ h ↦ absurd h hbatch, fun _ sub' hsub' hsynced ↦ ?_⟩
    rw [hrow'] at hsub'
    obtain rfl := Option.some.inj hsub'
    obtain ⟨a, ha, hd⟩ := (inShape_iff hw).mp (hshape sub hrow hsynced)
    refine (inShape_iff hw').mpr ⟨a, ?_, ?_⟩
    · rw [World.account, hrecord]
      exact ha
    · rw [demanded_congr hworked.terms rfl rfl]
      exact hd

theorem Online.exec (h : Online id w) {a : Step} (ha : ∀ n, (a.2 n).Quiet) :
    Online id (exec w a) := by
  obtain ⟨hw, sub, hrow, hdevice⟩ := h
  refine ⟨exec_sane hw a, ?_⟩
  obtain ⟨activity, env⟩ := a
  have hrows {g : ℕ → Subscription → Subscription} {w' : World} (h : RowsBecome g w w')
      (hg : ∀ n s, (g n s).deviceID = s.deviceID) :
      ∃ sub, w'.row id = some sub ∧ sub.deviceID ∈ w'.connected := by
    refine ⟨g id sub, ?_, ?_⟩
    · rw [h.rows, hrow, Option.map_some]
    · rwa [hg, h.terms.connected]
  cases activity with
  | suspensionCheck => exact hrows (suspensionCheck_run ha) fun n s ↦ checked_deviceID w _ n s
  | settle p =>
    obtain ⟨now, h⟩ := applySettlement_run_rows ha p
    exact hrows h fun n s ↦ settled_deviceID w p now n s
  | outbox =>
    have hworked := outboxRun_run ha hw
    by_cases hbatch : sub ∈ batch (env 0) w
    · have hout := hworked.outcome sub hbatch
      obtain ⟨sub', hrow'⟩ := hout.row_some
      obtain ⟨-, -, rfl⟩ := row_iff.mp hrow
      rw [hrow'] at hout
      have hsame := deviceID_of_login hout.login
      exact ⟨sub', hrow', hworked.terms.connected.symm ▸ hsame.symm ▸ hdevice⟩
    · exact ⟨sub, (hworked.kept hw hrow hbatch).1, hworked.terms.connected.symm ▸ hdevice⟩

end Steps

/-- A subscription stays in shape through a run just if every request that the outbox
takes up on the way is enough. -/
theorem in_shape_iff_requests_enough (w : World) (id : ℕ) (sub : Subscription) (hw : w.Sane)
    (hrow : w.row id = some sub) (hdevice : sub.deviceID ∈ w.connected)
    (hstart : sub.syncStatus = .synced ∧ InShape w sub ∨
      sub.status = .active ∧ sub.syncStatus = .pendingCreate)
    (steps : List Step) (hsteps : ∀ a ∈ steps, ∀ n, (a.2 n).Quiet) :
    StaysInShape id w steps ↔ Guarded exec (Enough id) w steps := by
  have hshape : InShapeWhenSynced id w := by
    intro sub' hrow' hsynced
    rw [hrow] at hrow'
    obtain rfl := Option.some.inj hrow'
    rcases hstart with h | h
    · exact h.2
    · rw [hsynced] at h
      cases h.2
  refine states_iff_guarded (J := Online id)
    (fun w a (ha : ∀ n, (a.2 n).Quiet) h ↦ h.exec ha) ?_ hsteps ⟨hw, sub, hrow, hdevice⟩ hshape
  intro u a ha hu hshape
  obtain ⟨hsane, s, hs, hd⟩ := hu
  obtain ⟨activity, env⟩ := a
  cases activity with
  | suspensionCheck =>
    simp only [Enough, iff_true]
    exact inShape_of_rows (suspensionCheck_run ha) hsane (exec_sane hsane _)
      (fun _ _ ↦ checked_of_synced) hshape
  | settle p =>
    simp only [Enough, iff_true]
    obtain ⟨now, h⟩ := applySettlement_run_rows ha p
    exact inShape_of_rows h hsane (exec_sane hsane (.settle p, env))
      (fun _ _ ↦ settled_of_synced) hshape
  | outbox =>
    simp only [Enough, hs]
    exact outbox_inShape_iff ha hsane hs hd hshape

/-- The check isolates the subscription and the outbox follows, then it is paid for, and
the outbox follows again. -/
theorem isolated_and_restored_in_shape :
    StaysInShape 1 (requesting .synced provisionedRouter)
      [(.suspensionCheck, fun _ ↦ Env.calm (12 * day)), (.outbox, fun _ ↦ Env.calm (12 * day)),
        (.settle (manualPayment ⟨1, 1, 150000, "cash", "", "", "", ""⟩),
          fun _ ↦ Env.calm (13 * day)), (.outbox, fun _ ↦ Env.calm (13 * day))] :=
  (in_shape_iff_requests_enough _ 1 _
    (requesting_sane .synced (RouterCall.exec_wellFormed Router.blank_wellFormed _ _)) rfl
    (by decide) (.inl (by decide +kernel)) _ (by
      intro a ha n
      simp only [List.mem_cons, List.not_mem_nil, or_false] at ha
      rcases ha with rfl | rfl | rfl | rfl <;> exact Env.calm_quiet _)).mpr (by decide +kernel)

/-- A request to create the record is overwritten by one to change it, and a subscription
that has been isolated is suspended with the wrong profile. -/
theorem overwritten_request_out_of_shape :
    ¬StaysInShape 1 (requesting .pendingCreate .blank)
      [(.suspensionCheck, fun _ ↦ Env.calm (12 * day)), (.outbox, fun _ ↦ Env.calm (12 * day))] ∧
    ¬StaysInShape 1 (requesting .synced provisionedRouter)
      [(.suspensionCheck, fun _ ↦ Env.calm (12 * day)), (.outbox, fun _ ↦ Env.calm (12 * day)),
        (.suspensionCheck, fun _ ↦ Env.calm (22 * day)),
        (.outbox, fun _ ↦ Env.calm (22 * day))] := by
  constructor <;> decide +kernel

end Rosmon.Sync
