import Mathlib.Data.List.Dedup
import Rosmon.Sync.Serving

namespace Rosmon

open Library Store Mikrotik Program Service Job

/-- A row that a job has given a new status and a request for the router. -/
def Store.Subscription.demand (sub : Subscription) (status : SubscriptionStatus)
    (syncStatus : SyncStatus) (syncNotes : String) : Subscription :=
  { sub with status, syncStatus, syncNotes }

/-- The row after `downgrade`. -/
def demote (eligible : List SubscriptionStatus) (status : SubscriptionStatus)
    (syncStatus : SyncStatus) (syncNotes : String) (sub : Subscription) : Subscription :=
  if sub.status ∈ eligible then sub.demand status syncStatus syncNotes else sub

/-- The row after `restoreSubscription`. -/
def restore (now : Time) (sub : Subscription) : Subscription :=
  match sub.status with
  | .isolir => (sub.setStatus .active none none now).setSyncStatus .pendingProfileChange
    "payment settled — restore profile"
  | .suspended => (sub.setStatus .active none none now).setSyncStatus .pendingEnable
    "payment settled — re-enable"
  | _ => sub

/-- Every live row is rewritten by `g`, and the routers are left alone. -/
structure RowsBecome (g : ℕ → Subscription → Subscription) (w w' : World) : Prop where
  routers : w'.routers = w.routers
  terms : SameTerms w w'
  rows : ∀ n, w'.row n = (w.row n).map (g n)
  dead : ∀ r, r.live = false → (r ∈ w'.subscriptions ↔ r ∈ w.subscriptions)

/-- One of the rows is rewritten. -/
def only (id : ℕ) (f : Subscription → Subscription) (n : ℕ) (sub : Subscription) : Subscription :=
  if n = id then f sub else sub

namespace RowsBecome

variable {g g' : ℕ → Subscription → Subscription} {u v w w' : World} {id : ℕ}

theorem of_subscriptions (hr : w'.routers = w.routers) (ht : SameTerms w w')
    (hs : w'.subscriptions = w.subscriptions) : RowsBecome (fun _ s ↦ s) w w' := by
  refine ⟨hr, ht, fun n ↦ ?_, fun r _ ↦ by rw [hs]⟩
  simp only [World.row, hs, Option.map_id']

theorem trans (h : RowsBecome g u v) (h' : RowsBecome g' v w) :
    RowsBecome (fun n s ↦ g' n (g n s)) u w := by
  refine ⟨h'.routers.trans h.routers, h.terms.trans h'.terms, fun n ↦ ?_, fun r hr ↦ (h'.dead r hr).trans (h.dead r hr)⟩
  rw [h'.rows, h.rows, Option.map_map]
  rfl

theorem congr (h : RowsBecome g w w') (hg : ∀ n s, w.row n = some s → g n s = g' n s) :
    RowsBecome g' w w' := by
  refine ⟨h.routers, h.terms, fun n ↦ ?_, h.dead⟩
  rw [h.rows]
  cases hn : w.row n with
  | none => rfl
  | some s => rw [Option.map_some, Option.map_some, hg n s hn]

theorem of_writes {f : Subscription → Subscription} {sub : Subscription} (hrow : w.row id = some sub)
    (h : Writes id (f sub) w w') : RowsBecome (only id f) w w' := by
  refine ⟨h.routers, ?_, fun n ↦ ?_, h.dead⟩
  · rw [h.rest]
    exact ⟨rfl, rfl, rfl, rfl⟩
  by_cases hn : n = id
  · subst hn
    rw [h.here, hrow, Option.map_some]
    simp [only]
  · rw [h.elsewhere n hn]
    cases w.row n <;> simp [only, hn]

theorem of_none {f : Subscription → Subscription} (hrow : w.row id = none) :
    RowsBecome (only id f) w w := by
  refine (of_subscriptions rfl ⟨rfl, rfl, rfl, rfl⟩ rfl).congr fun n s hs ↦ ?_
  have hn : n ≠ id := by
    rintro rfl
    rw [hrow] at hs
    cases hs
  simp [only, hn]

end RowsBecome

section Rules

variable {α : Type} {ok : Env → Prop} {Q : α → World → Prop} {w : World}

theorem wp_getRow {id : ℕ} {k : Except Error Subscription → Prog α}
    (hnone : w.row id = none → ∀ err, (k (.error err)).wp execCommands ok Q w)
    (hsome : ∀ sub, w.row id = some sub → (k (.ok sub)).wp execCommands ok Q w) :
    (Program.call (.subscriptions (.get id)) k).wp execCommands ok Q w := by
  refine wp_subscriptions fun e he ↦ ?_
  unfold World.row at hnone hsome
  cases hrow : w.subscriptions.find (Subscription.liveAt id) with
  | none => simpa [SubscriptionCall.exec, hrow] using hnone hrow _
  | some sub => simpa [SubscriptionCall.exec, hrow] using hsome sub hrow

theorem wp_updateStatus {id : ℕ} {status : SubscriptionStatus} {activatedAt terminatedAt : Option Time}
    {sub : Subscription} (hrow : w.row id = some sub) {k : Except Error Unit → Prog α}
    (h : ∀ e w', ok e → Writes id (sub.setStatus status activatedAt terminatedAt e.now) w w' →
      (k (.ok ())).wp execCommands ok Q w') :
    (Program.call (.subscriptions (.updateStatus id status activatedAt terminatedAt)) k).wp
      execCommands ok Q w := by
  refine wp_subscriptions fun e he ↦ ?_
  have hfind : w.subscriptions.find (Subscription.liveAt id) = some sub := hrow
  simp only [SubscriptionCall.exec, updated, hfind, Option.isSome_some, if_true]
  exact h e _ he (.of_update hrow fun _ ↦ rfl)

theorem Writes.logged {id : ℕ} {sub : Subscription} {u v w : World} (h : Writes id sub u v)
    (hw : ∃ sent entries, w = { v with outgoing := sent, auditLogs := entries }) :
    Writes id sub u w := by
  obtain ⟨sent, entries, rfl⟩ := hw
  exact h.trans ⟨rfl, h.here, fun _ _ ↦ rfl, fun _ _ ↦ Iff.rfl⟩

/-- An entry in the log and what may follow it. -/
theorem wp_audit_reminds {userID : Option ℕ} {action entityType : String} {entityID : ℕ}
    {p : Prog α} (hp : p.Only reminds) :
    (audit userID action entityType entityID >>= fun _ ↦ p).wp execCommands ok
      (fun _ w' ↦ ∃ sent entries, w' = { w with outgoing := sent, auditLogs := entries }) w := by
  intro e he
  refine wp_mono (wp_reminds hp) ?_
  rintro _ _ ⟨sent, rfl⟩
  exact ⟨sent, _, rfl⟩

end Rules

section Specs

variable {ok : Env → Prop} {w : World}

/-- `downgrade`, to a status and a request other than the best ones. -/
theorem downgrade_rows {eligible : List SubscriptionStatus} {status : SubscriptionStatus}
    {syncStatus : SyncStatus} {syncNotes slug : String} (id : ℕ) (hstatus : status ≠ .active)
    (hsync : syncStatus ≠ .synced) :
    (downgrade eligible status syncStatus syncNotes slug id).wp execCommands ok
      (fun _ w' ↦ RowsBecome (only id (demote eligible status syncStatus syncNotes)) w w') w := by
  simp only [downgrade, perform_bind]
  refine wp_getRow (fun hnone err ↦ .of_none hnone) fun sub hrow ↦ ?_
  dsimp only
  by_cases heligible : sub.status ∈ eligible
  · simp only [heligible, not_true_eq_false, if_false]
    refine wp_updateStatus hrow fun e v he hv ↦ wp_updateSyncStatus hv.here fun v' hv' ↦ ?_
    refine wp_mono (wp_audit_reminds
      ((notifyCustomer_informs _ _ _).mono fun _ ↦ reminds_of_informs)) fun _ w' hw' ↦ ?_
    have hdemoted : demote eligible status syncStatus syncNotes sub =
        (sub.setStatus status none none e.now).setSyncStatus syncStatus syncNotes := by
      simp [demote, heligible, Subscription.demand, Subscription.setStatus,
        Subscription.setSyncStatus, hstatus, hsync]
    exact .of_writes hrow (hdemoted ▸ (hv.trans hv').logged hw')
  · simp only [heligible, not_false_eq_true, if_true, pure_eq, wp_ret]
    have hsame : demote eligible status syncStatus syncNotes sub = sub := by
      simp only [demote, heligible, if_false]
    exact .of_writes hrow (hsame.symm ▸ .refl hrow)

theorem isolir_rows (suspend : List ℕ) (id : ℕ) (w : World) : (isolir suspend id).wp execCommands ok
    (fun _ w' ↦ RowsBecome (only id fun s ↦ if id ∈ suspend then s else
      demote [.active] .isolir .pendingProfileChange "auto-isolir: overdue invoice" s) w w') w := by
  unfold isolir
  split_ifs
  · exact (RowsBecome.of_subscriptions rfl ⟨rfl, rfl, rfl, rfl⟩ rfl).congr fun n s _ ↦ by simp [only]
  · exact downgrade_rows id (by simp) (by simp)

theorem hardSuspend_rows (id : ℕ) (w : World) : (hardSuspend id).wp execCommands ok
    (fun _ w' ↦ RowsBecome (only id
      (demote [.active, .isolir] .suspended .pendingDisable "auto-suspend: overdue invoice"))
        w w') w :=
  downgrade_rows id (by simp) (by simp)

/-- A loop over different ids that rewrites the row under each of them. -/
theorem forM_rows {f : ℕ → Prog Unit} {g : ℕ → Subscription → Subscription} {ids : List ℕ}
    (hids : ids.Nodup) (hf : ∀ id w, (f id).wp execCommands ok
      (fun _ w' ↦ RowsBecome (only id (g id)) w w') w) (w : World) :
    (ids.forM f).wp execCommands ok
      (fun _ w' ↦ RowsBecome (fun n s ↦ if n ∈ ids then g n s else s) w w') w := by
  induction ids generalizing w with
  | nil => exact (RowsBecome.of_subscriptions rfl ⟨rfl, rfl, rfl, rfl⟩ rfl).congr fun n s _ ↦ by simp
  | cons id ids ih =>
    obtain ⟨hid, hids⟩ := List.nodup_cons.mp hids
    refine (wp_bind _ _ _).mpr (wp_mono (hf id w) fun _ u hu ↦ ?_)
    refine wp_mono (ih hids u) fun _ w' hw' ↦ (hu.trans hw').congr fun n s _ ↦ ?_
    by_cases hn : n = id
    · subst hn
      simp [only, hid]
    · simp [only, hn]

end Specs

/-! What the suspension check goes by. -/

/-- `settingInt` of the jobs when no read fails. -/
def World.settingInt (w : World) (key : String) (dflt : ℤ) : ℤ :=
  match w.settings.lookup key with
  | none => dflt
  | some v => (Go.atoi v).getD dflt

def World.isolirAfter (w : World) : ℤ := w.settingInt "billing.isolir_after_days" 3

def World.hardSuspendAfter (w : World) : ℤ := w.settingInt "billing.hard_suspend_after_days" 14

def World.overdueInvoices (w : World) (now : Time) : List Invoice :=
  w.invoices.rows.filter (Invoice.overdueAt now)

def World.toSuspend (w : World) (now : Time) : List ℕ :=
  suspendCandidates now w.hardSuspendAfter (w.overdueInvoices now)

def World.toIsolate (w : World) (now : Time) : List ℕ :=
  isolirCandidates now w.isolirAfter w.hardSuspendAfter (w.overdueInvoices now)

/-- The row under an id after the suspension check. -/
def World.checked (w : World) (now : Time) (n : ℕ) (sub : Subscription) : Subscription :=
  if n ∈ w.toSuspend now then
    demote [.active, .isolir] .suspended .pendingDisable "auto-suspend: overdue invoice" sub
  else if n ∈ w.toIsolate now then
    demote [.active] .isolir .pendingProfileChange "auto-isolir: overdue invoice" sub
  else sub

theorem checked_deviceID (w : World) (now : Time) (n : ℕ) (sub : Subscription) :
    (w.checked now n sub).deviceID = sub.deviceID := by
  unfold World.checked demote
  split_ifs <;> rfl

section Check

variable {α : Type} {ok : Env → Prop} {Q : α → World → Prop} {w : World}

theorem wp_settingInt {key : String} {dflt : ℤ} {k : ℤ → Prog α}
    (h : (k (w.settingInt key dflt)).wp execCommands ok Q w) :
    (Job.settingInt key dflt >>= k).wp execCommands ok Q w := by
  intro e _
  unfold World.settingInt at h
  simp only [execCommands, Call.isCommand, Call.exec, orFault]
  cases hv : w.settings.lookup key with
  | none =>
    rw [hv] at h
    exact h
  | some v =>
    rw [hv] at h
    exact h

theorem markOverdue_wp (inv : Invoice) : (markOverdue inv).wp execCommands ok
    (fun _ w' ↦ ∃ invs sent, w' = { w with invoices := invs, outgoing := sent }) w := by
  unfold markOverdue
  split_ifs
  · exact ⟨_, _, rfl⟩
  · intro e he
    generalize hr : execCommands _ e w = r
    obtain ⟨invs, hw⟩ : ∃ invs, r.2 = { w with invoices := invs } := by
      rw [← hr]
      exact orFault_keeps (P := fun v ↦ ∃ invs, v = { w with invoices := invs }) ⟨_, rfl⟩ ⟨_, rfl⟩
    rw [hw]
    cases r.1 with
    | error err => exact ⟨_, _, rfl⟩
    | ok =>
      refine wp_mono (wp_reminds ((notifyCustomer_informs _ _ _).mono fun _ ↦ reminds_of_informs)) ?_
      rintro _ _ ⟨sent, rfl⟩
      exact ⟨_, _, rfl⟩

theorem mem_suspendCandidates {now : Time} {hardSuspendAfter : ℤ} {invs : List Invoice} {n : ℕ} :
    n ∈ suspendCandidates now hardSuspendAfter invs ↔
      ∃ inv ∈ invs, inv.subscriptionID = n ∧ hardSuspendAfter ≤ daysPastDue now inv := by
  simp only [suspendCandidates, List.mem_dedup, List.mem_map, List.mem_filter, decide_eq_true_eq]
  constructor
  · rintro ⟨inv, ⟨hinv, hdays⟩, hid⟩
    exact ⟨inv, hinv, hid, hdays⟩
  · rintro ⟨inv, hinv, hid, hdays⟩
    exact ⟨inv, ⟨hinv, hdays⟩, hid⟩

theorem mem_isolirCandidates {now : Time} {isolirAfter hardSuspendAfter : ℤ} {invs : List Invoice}
    {n : ℕ} : n ∈ isolirCandidates now isolirAfter hardSuspendAfter invs ↔
      ∃ inv ∈ invs, inv.subscriptionID = n ∧ daysPastDue now inv < hardSuspendAfter ∧
        isolirAfter ≤ daysPastDue now inv := by
  simp only [isolirCandidates, List.mem_dedup, List.mem_map, List.mem_filter, Bool.and_eq_true,
    decide_eq_true_eq]
  constructor
  · rintro ⟨inv, ⟨hinv, hdays⟩, hid⟩
    exact ⟨inv, hinv, hid, hdays⟩
  · rintro ⟨inv, hinv, hid, hdays⟩
    exact ⟨inv, ⟨hinv, hdays⟩, hid⟩

theorem suspendCandidates_nodup (now : Time) (hardSuspendAfter : ℤ) (invs : List Invoice) :
    (suspendCandidates now hardSuspendAfter invs).Nodup := List.nodup_dedup _

theorem isolirCandidates_nodup (now : Time) (isolirAfter hardSuspendAfter : ℤ)
    (invs : List Invoice) : (isolirCandidates now isolirAfter hardSuspendAfter invs).Nodup :=
  List.nodup_dedup _

theorem wp_listOverdue {now : Time} {k : Except Error (List Invoice) → Prog α}
    (h : ∀ e, ok e → (k (.ok (e.invoiceOrder.order (w.overdueInvoices now)))).wp
      execCommands ok Q w) :
    (Program.call (.invoices (.listOverdue now)) k).wp execCommands ok Q w := fun e he ↦ h e he

theorem wp_rangeKeys {keys : List ℕ} {k : List ℕ → Prog α}
    (h : ∀ e, ok e → (k (e.keyOrder.order keys)).wp execCommands ok Q w) :
    (Program.call (.rangeKeys keys) k).wp execCommands ok Q w := fun e he ↦ h e he

/-- The second and the third step of the check. -/
theorem sweep_rows {isolate suspend : List ℕ} (hi : isolate.Nodup) (hs : suspend.Nodup)
    (w : World) : Program.wp execCommands ok
      (fun _ w' ↦ RowsBecome (fun n s ↦
        if n ∈ suspend then
          demote [.active, .isolir] .suspended .pendingDisable "auto-suspend: overdue invoice" s
        else if n ∈ isolate then
          demote [.active] .isolir .pendingProfileChange "auto-isolir: overdue invoice" s
        else s) w w')
      (do
        let order ← perform (.rangeKeys isolate)
        order.forM (isolir suspend)
        let order ← perform (.rangeKeys suspend)
        order.forM hardSuspend
        return (.ok () : Except Error Unit)) w := by
  simp only [perform_bind]
  refine wp_rangeKeys fun e _ ↦ ?_
  have hisolir : ((e.keyOrder.order isolate).forM (isolir suspend)).wp execCommands ok _ w :=
    forM_rows ((e.keyOrder.perm _).nodup_iff.mpr hi) (isolir_rows suspend) w
  refine (wp_bind _ _ _).mpr (wp_mono hisolir fun _ u hu ↦ wp_rangeKeys fun e' _ ↦ ?_)
  have hsuspend : ((e'.keyOrder.order suspend).forM hardSuspend).wp execCommands ok _ u :=
    forM_rows ((e'.keyOrder.perm _).nodup_iff.mpr hs) hardSuspend_rows u
  refine (wp_bind _ _ _).mpr (wp_mono hsuspend fun _ w' hw' ↦ ?_)
  refine (hu.trans hw').congr fun n s _ ↦ ?_
  simp only [e.keyOrder.mem_order, e'.keyOrder.mem_order]
  split_ifs <;> rfl

/-- `SuspensionCheckJob.Run`, from the moment it has read the clock. -/
theorem suspensionCheck_wp (w : World) : ∃ k, suspensionCheck = .call .now k ∧
    ∀ now, (k now).wp execCommands ok (fun _ w' ↦ RowsBecome (w.checked now) w w') w := by
  refine ⟨_, rfl, fun now ↦ wp_settingInt (wp_settingInt ?_)⟩
  simp only [perform_bind]
  refine (wp_bind _ _ _).mpr (wp_mono (wp_reminds (sendReminders_reminds now)) ?_)
  rintro _ _ ⟨sent, rfl⟩
  refine wp_listOverdue fun e _ ↦ ?_
  refine (wp_bind _ _ _).mpr (wp_mono (wp_forM (fun _ v ↦ ∃ invs sent,
    v = { w with invoices := invs, outgoing := sent }) ?_ ⟨_, _, rfl⟩) ?_)
  · rintro inv _ _ ⟨invs, sent, rfl⟩
    refine wp_mono (markOverdue_wp inv) ?_
    rintro _ _ ⟨invs, sent, rfl⟩
    exact ⟨_, _, rfl⟩
  rintro _ _ ⟨invs, sent, rfl⟩
  refine wp_mono (sweep_rows
    (isolirCandidates_nodup now w.isolirAfter w.hardSuspendAfter
      (e.invoiceOrder.order (w.overdueInvoices now)))
    (suspendCandidates_nodup now w.hardSuspendAfter
      (e.invoiceOrder.order (w.overdueInvoices now))) _) fun _ w' hw' ↦ ?_
  have hstart : RowsBecome (fun _ s ↦ s) w { w with invoices := invs, outgoing := sent } :=
    .of_subscriptions rfl ⟨rfl, rfl, rfl, rfl⟩ rfl
  refine (hstart.trans hw').congr fun n s _ ↦ ?_
  simp only [World.checked, World.toSuspend, World.toIsolate, mem_suspendCandidates,
    mem_isolirCandidates, e.invoiceOrder.mem_order]

end Check

section Settlement

variable {ok : Env → Prop}

theorem restoreSubscription_rows (id : ℕ) (w : World) : (restoreSubscription id).wp execCommands ok
    (fun _ w' ↦ ∃ now, RowsBecome (only id (restore now)) w w') w := by
  simp only [restoreSubscription, perform_bind]
  refine wp_getRow (fun hnone err ↦ ⟨0, .of_none hnone⟩) fun sub hrow ↦ ?_
  obtain ⟨-, -, rfl⟩ := row_iff.mp hrow
  dsimp only
  split
  next hs =>
    refine wp_updateStatus hrow fun e v _ hv ↦ wp_updateSyncStatus hv.here fun w' hw' ↦ ?_
    refine ⟨e.now, .of_writes hrow ?_⟩
    simpa only [restore, hs] using hv.trans hw'
  next hs =>
    refine wp_updateStatus hrow fun e v _ hv ↦ wp_updateSyncStatus hv.here fun w' hw' ↦ ?_
    refine ⟨e.now, .of_writes hrow ?_⟩
    simpa only [restore, hs] using hv.trans hw'
  next h₁ h₂ =>
    refine ⟨0, .of_writes hrow ?_⟩
    have hsame : restore 0 sub = sub := by
      unfold restore
      split <;> first | rfl | contradiction
    rw [hsame]
    exact .refl hrow

/-- The row under an id after a settlement. -/
def World.settled (w : World) (p : Payment) (now : Time) (n : ℕ) (sub : Subscription) :
    Subscription :=
  match w.invoices.get p.invoiceID with
  | some inv => only inv.subscriptionID (restore now) n sub
  | none => sub

theorem settled_deviceID (w : World) (p : Payment) (now : Time) (n : ℕ) (sub : Subscription) :
    (w.settled p now n sub).deviceID = sub.deviceID := by
  unfold World.settled only restore
  split
  · split_ifs
    · split <;> rfl
    · rfl
  · rfl

theorem get_settled (t : Table Invoice) (id : ℕ) (f : Invoice → Invoice) [KeepsKey f] :
    (t.update (·.id == id) f).get id = (t.get id).map f := by
  rw [Table.get_update]
  cases h : t.get id with
  | none => rfl
  | some inv => simp [(Invoice.get_iff.mp h).2]

theorem applySettlement_rows (p : Payment) (w : World) : (applySettlement p).wp execCommands ok
    (fun _ w' ↦ ∃ now, RowsBecome (w.settled p now) w w') w := by
  simp only [applySettlement, restoreService, perform_bind]
  refine wp_clock fun e _ ↦ wp_invoices fun e' _ ↦ wp_invoices fun _ _ ↦ ?_
  simp only [InvoiceCall.exec, updated, get_settled]
  cases hinv : w.invoices.get p.invoiceID with
  | none =>
    have hsame : w.settled p 0 = fun _ s ↦ s := by
      funext n s
      simp only [World.settled, hinv]
    exact ⟨0, hsame ▸ .of_subscriptions rfl ⟨rfl, rfl, rfl, rfl⟩ rfl⟩
  | some inv =>
    refine (wp_bind _ _ _).mpr (wp_mono (restoreSubscription_rows _ _) ?_)
    rintro restored u ⟨now, hu⟩
    refine wp_mono (wp_reminds ((notifyPaid_informs _ _).mono fun _ ↦ reminds_of_informs)) ?_
    rintro _ _ ⟨sent, rfl⟩
    have hsettled : w.settled p now = only inv.subscriptionID (restore now) := by
      funext n s
      simp only [World.settled, hinv]
    have hterms : SameTerms w u :=
      ⟨hu.terms.pppProfiles, hu.terms.hotspotProfiles, hu.terms.settings, hu.terms.connected⟩
    exact ⟨now, hsettled ▸ ⟨hu.routers, ⟨hterms.pppProfiles, hterms.hotspotProfiles,
      hterms.settings, hterms.connected⟩, hu.rows, hu.dead⟩⟩

end Settlement

/-! What the reconciler goes by. -/

/-- What `checkDrift` finds when no call fails; an empty text is no drift. -/
def World.drift (w : World) (sub : Subscription) : String :=
  if sub.deviceID ∉ w.connected ∨ sub.mikrotikUsername = "" then ""
  else match w.account sub.login with
  | none =>
    if sub.status = .active ∨ sub.status = .isolir then missing sub.serviceType else ""
  | some a =>
    let expectedDisabled := sub.status == .suspended
    if a.disabled ≠ expectedDisabled then
      s!"disabled mismatch: router={a.disabled} expected={expectedDisabled}"
    else ""

/-- A row after the reconciler. -/
def World.reconciled (w : World) (sub : Subscription) : Subscription :=
  if sub.syncStatus ≠ .synced ∨ sub.status ∉ [.active, .isolir, .suspended] ∨ w.drift sub = "" then
    sub
  else sub.setSyncStatus .pendingProfileChange ("reconciler detected drift: " ++ w.drift sub)

theorem RowsBecome.record {g : ℕ → Subscription → Subscription} {w w' : World}
    (h : RowsBecome g w w') (l : Login) : w'.record l = w.record l := by
  simp only [World.record, h.routers]

theorem RowsBecome.account {g : ℕ → Subscription → Subscription} {w w' : World}
    (h : RowsBecome g w w') (l : Login) : w'.account l = w.account l := by
  simp only [World.account, h.record]

theorem RowsBecome.reconciled {g : ℕ → Subscription → Subscription} {w w' : World}
    (h : RowsBecome g w w') : w'.reconciled = w.reconciled := by
  funext sub
  simp only [World.reconciled, World.drift, h.account, h.terms.connected]

section Reconciler

variable {ok : Env → Prop} (hok : ∀ e, ok e → e.fault = none) {w : World}

include hok

theorem checkDrift_wp (sub : Subscription) :
    (checkDrift sub).wp execCommands ok (fun r w' ↦ r = w.drift sub ∧ w' = w) w := by
  have hhonest : ∀ e, ok e → e.Honest := by
    intro e he err hf
    rw [hok e he] at hf
    cases hf
  have hfaulty : ¬Faulty ok := by
    rintro ⟨e, he, hf⟩
    exact hf (hok e he)
  simp only [checkDrift, checkRecordDrift, perform_bind, pure_eq]
  intro e _
  by_cases hdevice : sub.deviceID ∈ w.connected
  · simp only [execCommands, Call.exec, hdevice, if_true]
    refine wp_byName (l := sub.login) hhonest ?_ ?_ ?_
    · intro err herr hr
      have hname : sub.mikrotikUsername = "" := hr.resolve_left hfaulty
      simp [herr, World.drift, hname]
    · intro hname hrow
      have hname' : sub.mikrotikUsername ≠ "" := hname
      simp [World.drift, hdevice, hname', World.account, hrow, Error.is, Error.of]
    · intro row hname hrow
      have hname' : sub.mikrotikUsername ≠ "" := hname
      simp [World.drift, hdevice, hname', World.account, hrow, Record.account]
  · simp only [execCommands, Call.exec, hdevice, if_false]
    simp [World.drift, hdevice]

theorem reconcile_rows {sub : Subscription} (hrow : w.row sub.id = some sub) :
    (reconcile sub).wp execCommands ok
      (fun _ w' ↦ RowsBecome (only sub.id w.reconciled) w w') w := by
  have hsame (h : w.reconciled sub = sub) : RowsBecome (only sub.id w.reconciled) w w :=
    .of_writes hrow (h.symm ▸ .refl hrow)
  unfold reconcile
  by_cases hsync : sub.syncStatus = .synced
  swap
  · simp only [hsync, ne_eq, not_false_eq_true, if_true, pure_eq, wp_ret]
    exact hsame (by simp [World.reconciled, hsync])
  by_cases hstatus : sub.status ∈ [.active, .isolir, .suspended]
  swap
  · simp only [hsync, hstatus, ne_eq, not_true_eq_false, not_false_eq_true, if_false, if_true,
      pure_eq, wp_ret]
    exact hsame (by simp only [World.reconciled, hstatus, not_false_eq_true, true_or, or_true,
      if_true])
  simp only [hsync, hstatus, ne_eq, not_true_eq_false, if_false]
  refine (wp_bind _ _ _).mpr (wp_mono (checkDrift_wp hok sub) ?_)
  intro drift w' h
  rw [h.1, h.2]
  split_ifs with hdrift
  · exact hsame (by simp only [World.reconciled, hdrift, or_true, if_true])
  · simp only [perform_bind]
    refine wp_updateSyncStatus hrow fun v hv e _ ↦ .of_writes hrow ?_
    have hreconciled : w.reconciled sub = sub.setSyncStatus .pendingProfileChange
        ("reconciler detected drift: " ++ w.drift sub) := by
      simp only [World.reconciled, hsync, hstatus, hdrift, ne_eq, not_true_eq_false, or_self,
        if_false]
    rw [hreconciled]
    exact hv.logged ⟨_, _, rfl⟩

/-- The loop, by induction on the list. -/
theorem reconcilerLoop_rows (hstops : ¬Stops ok) (subs : List Subscription)
    (hids : subs.Pairwise fun a b ↦ a.id ≠ b.id)
    (hrows : ∀ sub ∈ subs, w.row sub.id = some sub) :
    (reconcilerLoop subs).wp execCommands ok (fun _ w' ↦
      RowsBecome (fun n s ↦ if n ∈ subs.map (·.id) then w.reconciled s else s) w w') w := by
  induction subs generalizing w with
  | nil =>
    exact (RowsBecome.of_subscriptions rfl (.refl w) rfl).congr fun n s _ ↦ by simp
  | cons sub subs ih =>
    obtain ⟨hapart, hids⟩ := List.pairwise_cons.mp hids
    simp only [reconcilerLoop, perform_bind]
    intro e he
    have hstop : e.stopping = false := by
      by_contra hstop
      exact hstops ⟨e, he, by simpa using hstop⟩
    simp only [execCommands, Call.isCommand, Call.exec, hstop]
    refine (wp_bind _ _ _).mpr (wp_mono (reconcile_rows hok (hrows sub (by simp))) fun _ u hu ↦ ?_)
    have hrest : ∀ s ∈ subs, u.row s.id = some s := by
      intro s hs
      rw [hu.rows, hrows s (List.mem_cons_of_mem _ hs), Option.map_some, only,
        if_neg (hapart s hs).symm]
    refine wp_mono (ih hids hrest) fun _ w' hw' ↦ (hu.trans hw').congr fun n s _ ↦ ?_
    simp only [hu.reconciled, List.map_cons, List.mem_cons, only]
    by_cases hn : n = sub.id
    · have hnot : n ∉ subs.map (·.id) := by
        intro hmem
        obtain ⟨t, ht, hid⟩ := List.mem_map.mp hmem
        exact hapart t ht (hid.trans hn).symm
      simp only [hn, true_or, if_true]
      rw [if_neg (hn ▸ hnot)]
    · simp only [hn, false_or, if_false]

/-- `ReconcilerJob.Run`. -/
theorem reconcilerRun_rows (hstops : ¬Stops ok) : reconcilerRun.wp execCommands ok
    (fun _ w' ↦ RowsBecome (fun _ ↦ w.reconciled) w w') w := by
  simp only [reconcilerRun, perform_bind]
  refine wp_subscriptions fun e _ ↦ ?_
  have hmem : ∀ s, s ∈ e.subscriptionOrder.order (w.subscriptions.rows.filter Subscription.live) ↔
      s ∈ w.subscriptions ∧ s.live := by
    intro s
    rw [e.subscriptionOrder.mem_order, List.mem_filter, Table.mem_iff]
  have hids : (e.subscriptionOrder.order
      (w.subscriptions.rows.filter Subscription.live)).Pairwise fun a b ↦ a.id ≠ b.id := by
    refine ((e.subscriptionOrder.perm _).pairwise_iff fun h ↦ h.symm).mpr ?_
    exact (w.subscriptions.sorted.sublist List.filter_sublist).imp fun h ↦ Nat.ne_of_lt h
  refine wp_mono (reconcilerLoop_rows hok hstops _ hids fun s hs ↦ ?_) fun _ w' hw' ↦ ?_
  · exact row_of_mem ((hmem s).mp hs).1 ((hmem s).mp hs).2
  · refine hw'.congr fun n s hs ↦ if_pos ?_
    obtain ⟨hin, hlive, rfl⟩ := row_iff.mp hs
    exact List.mem_map.mpr ⟨s, (hmem s).mpr ⟨hin, hlive⟩, rfl⟩

end Reconciler

end Rosmon
