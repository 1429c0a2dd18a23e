import Rosmon.Go.Hours
import Rosmon.Sync.Marking

namespace Rosmon.Sync

open Library Store Program Service Job

/-- Some unpaid invoice of a subscription is at least so many days past due. -/
def PastDue (w : World) (now : Time) (id : ℕ) (days : ℤ) : Prop :=
  ∃ inv ∈ w.invoices, inv.subscriptionID = id ∧ inv.overdueAt now ∧ days ≤ daysPastDue now inv

instance (w : World) (now : Time) (id : ℕ) (days : ℤ) : Decidable (PastDue w now id days) :=
  inferInstanceAs (Decidable (∃ inv ∈ w.invoices, _))

/-- The status that the invoices of a subscription call for. -/
def statusDue (w : World) (now : Time) (id : ℕ) (status : SubscriptionStatus) :
    SubscriptionStatus :=
  if status ∈ [.active, .isolir] ∧ PastDue w now id w.hardSuspendAfter then .suspended
  else if status = .active ∧ PastDue w now id w.isolirAfter then .isolir
  else status

/-- How far a subscription is out of service. -/
def severity : SubscriptionStatus → ℕ
  | .isolir => 1
  | .suspended => 2
  | _ => 0

section Statuses

variable {w : World} {now : Time} {id : ℕ}

theorem mem_toSuspend : id ∈ w.toSuspend now ↔ PastDue w now id w.hardSuspendAfter := by
  simp only [World.toSuspend, mem_suspendCandidates, World.overdueInvoices, List.mem_filter,
    PastDue, Table.mem_iff]
  constructor
  · intro h
    obtain ⟨inv, ⟨hinv, hoverdue⟩, hid, hdays⟩ := h
    exact ⟨inv, hinv, hid, hoverdue, hdays⟩
  · intro h
    obtain ⟨inv, hinv, hid, hoverdue, hdays⟩ := h
    exact ⟨inv, ⟨hinv, hoverdue⟩, hid, hdays⟩

/-- Which of the two sets an invoice goes to makes no difference to what is not to be suspended. -/
theorem mem_toIsolate (hsuspend : id ∉ w.toSuspend now) :
    id ∈ w.toIsolate now ↔ PastDue w now id w.isolirAfter := by
  simp only [World.toIsolate, mem_isolirCandidates, World.overdueInvoices, List.mem_filter,
    PastDue, Table.mem_iff]
  constructor
  · intro h
    obtain ⟨inv, ⟨hinv, hoverdue⟩, hid, -, hdays⟩ := h
    exact ⟨inv, hinv, hid, hoverdue, hdays⟩
  · intro h
    obtain ⟨inv, hinv, hid, hoverdue, hdays⟩ := h
    have hbelow : daysPastDue now inv < w.hardSuspendAfter := by
      by_contra hlong
      exact hsuspend (mem_toSuspend.mpr ⟨inv, hinv, hid, hoverdue, Int.not_lt.mp hlong⟩)
    exact ⟨inv, ⟨hinv, hoverdue⟩, hid, hbelow, hdays⟩

theorem checked_status (sub : Subscription) :
    (w.checked now id sub).status = statusDue w now id sub.status := by
  unfold World.checked statusDue
  by_cases hsuspend : id ∈ w.toSuspend now
  · have hdue := mem_toSuspend.mp hsuspend
    by_cases hstatus : sub.status ∈ [.active, .isolir]
    · simp only [hsuspend, hdue, hstatus, demote, Subscription.demand, and_self, if_true]
    · have hactive : sub.status ≠ .active := fun h ↦ hstatus (h ▸ List.mem_cons_self)
      simp only [hsuspend, hstatus, hactive, demote, false_and, if_true, if_false]
  · have hdue := mt mem_toSuspend.mpr hsuspend
    simp only [hsuspend, hdue, and_false, if_false, mem_toIsolate hsuspend]
    by_cases hisolate : PastDue w now id w.isolirAfter
    · by_cases hactive : sub.status = .active
      · simp [hisolate, hactive, demote, Subscription.demand]
      · simp [hisolate, hactive, demote]
    · simp only [hisolate, and_false, if_false]

theorem checked_eq_of_status {sub : Subscription}
    (h : statusDue w now id sub.status = sub.status) : w.checked now id sub = sub := by
  rw [← checked_status] at h
  unfold World.checked demote at h ⊢
  split_ifs at h ⊢ with hsuspend hstatus hisolate hactive
  · simp only [Subscription.demand] at h
    simp [← h] at hstatus
  · rfl
  · simp only [Subscription.demand] at h
    simp [← h] at hactive
  · rfl
  · rfl

/-- The check takes a subscription out of service or leaves it. -/
theorem severity_statusDue (w : World) (now : Time) (id : ℕ) (status : SubscriptionStatus) :
    severity status ≤ severity (statusDue w now id status) := by
  unfold statusDue
  split_ifs with hsuspend hisolate
  · cases status <;> decide
  · rw [hisolate.1]
    decide
  · exact Nat.le_refl _

theorem statusDue_of_suspend (h : PastDue w now id w.hardSuspendAfter)
    (status : SubscriptionStatus) : statusDue w now id status ∉ [.active, .isolir] := by
  unfold statusDue
  by_cases hstatus : status ∈ [.active, .isolir]
  · simp [hstatus, h]
  · have hactive : status ≠ .active := fun hs ↦ hstatus (hs ▸ List.mem_cons_self)
    simpa only [hstatus, hactive, false_and, if_false] using hstatus

theorem statusDue_of_isolate (h : PastDue w now id w.isolirAfter) (status : SubscriptionStatus) :
    statusDue w now id status ≠ .active := by
  unfold statusDue
  split_ifs with hsuspend hisolate
  · decide
  · decide
  · exact fun hactive ↦ hisolate ⟨hactive, h⟩

/-- What is past due stays so. -/
theorem PastDue.mono {now' : Time} (h : now ≤ now') {days : ℤ} (hdue : PastDue w now id days) :
    PastDue w now' id days := by
  obtain ⟨inv, hinv, hid, hoverdue, hdays⟩ := hdue
  simp only [Invoice.overdueAt, Bool.and_eq_true, decide_eq_true_eq] at hoverdue
  have hoverdue' : inv.overdueAt now' := by
    simp only [Invoice.overdueAt, Bool.and_eq_true, decide_eq_true_eq]
    exact ⟨hoverdue.1.trans_le h, hoverdue.2⟩
  refine ⟨inv, hinv, hid, hoverdue', hdays.trans ?_⟩
  exact Go.wholeDays_mono (Go.timeSub_nonneg hoverdue.1.le) (Go.timeSub_mono h _)
    (Go.timeSub_lt _ _)

theorem severity_mono {now' : Time} (h : now ≤ now') (status : SubscriptionStatus) :
    severity (statusDue w now id status) ≤ severity (statusDue w now' id status) := by
  unfold statusDue
  by_cases hsuspend : status ∈ [.active, .isolir] ∧ PastDue w now id w.hardSuspendAfter
  · have hlater := hsuspend.2.mono h
    simp only [hsuspend, hlater, and_self, if_true, le_refl]
  · rw [if_neg hsuspend]
    by_cases hisolate : status = .active ∧ PastDue w now id w.isolirAfter
    · have hlater := hisolate.2.mono h
      simp only [hisolate, hlater, and_self, if_true]
      split_ifs <;> decide
    · rw [if_neg hisolate]
      exact severity_statusDue w now' id status

end Statuses

theorem overdueAt_lapse (now : Time) (inv : Invoice) (h : inv.overdueAt now) :
    inv.lapse.overdueAt now := by
  simp only [Invoice.overdueAt, Bool.and_eq_true] at h ⊢
  exact ⟨h.1, rfl⟩

/-- A run of the check. -/
def checkRun (w : World) (env : ℕ → Env) : World := (suspensionCheck.run Call.exec env w).2

theorem run_of_faultless {α : Type} {Q : α → World → Prop} {p : Prog α} {w : World}
    (h : p.wp execCommands Env.Faultless Q w) {env : ℕ → Env} (henv : ∀ n, (env n).Faultless) :
    Q (p.run Call.exec env w).1 (p.run Call.exec env w).2 :=
  run_of_wp (wp_congr (fun c _ w he ↦ execCommands_quiet he c w) h) env henv

section Runs

variable {w : World} {env env' : ℕ → Env} (henv : ∀ n, (env n).Faultless)

include henv

theorem checkRun_rows : RowsBecome (w.checked (env 0).now) w (checkRun w env) := by
  obtain ⟨k, hk, hwp⟩ : ∃ k, suspensionCheck = .call .now k ∧ ∀ now,
      (k now).wp execCommands Env.Faultless (fun _ w' ↦ RowsBecome (w.checked now) w w') w :=
    suspensionCheck_wp w
  have hrun := run_of_faultless (hwp (env 0).now) fun n ↦ henv (n + 1)
  unfold checkRun
  rw [hk]
  exact hrun

theorem checkRun_invoices : (checkRun w env).invoices =
    w.invoices.update (Invoice.overdueAt (env 0).now) Invoice.lapse := by
  have hmarks := suspensionCheck_marks (fun t ↦ t) w henv
  rwa [execCutoff_id] at hmarks

theorem checkRun_status {id : ℕ} {sub : Subscription} (hrow : w.row id = some sub) :
    ∃ sub' ∈ (checkRun w env).row id, sub'.status = statusDue w (env 0).now id sub.status ∧
      (sub'.status = sub.status → sub' = sub) := by
  have hrows := (checkRun_rows henv (w := w)).rows id
  rw [hrow, Option.map_some] at hrows
  refine ⟨_, hrows, checked_status sub, fun h ↦ ?_⟩
  rw [checked_status] at h
  exact checked_eq_of_status h

/-- What is past due is so after the run as well. -/
theorem checkRun_pastDue (id : ℕ) (days : ℤ) :
    PastDue (checkRun w env) (env 0).now id days ↔ PastDue w (env 0).now id days := by
  unfold PastDue
  rw [checkRun_invoices henv]
  constructor
  · intro h
    obtain ⟨inv', hinv', hid, hoverdue, hdays⟩ := h
    obtain ⟨inv, hinv, rfl⟩ := Table.mem_update.mp hinv'
    split_ifs at hid hoverdue hdays with hbefore
    · exact ⟨inv, hinv, hid, hbefore, hdays⟩
    · exact absurd hoverdue hbefore
  · intro h
    obtain ⟨inv, hinv, hid, hoverdue, hdays⟩ := h
    exact ⟨inv.lapse, Table.mem_update_of hinv hoverdue, hid, overdueAt_lapse _ inv hoverdue, hdays⟩

theorem checkRun_settings : (checkRun w env).settings = w.settings :=
  (checkRun_rows henv).terms.settings

end Runs

/-- Nothing is left to do for the check. -/
structure Settled (w : World) (now : Time) : Prop where
  marked : ∀ inv ∈ w.invoices, inv.overdueAt now → inv.status = .overdue
  suspended : ∀ id ∈ w.toSuspend now, ∀ sub ∈ w.row id, sub.status ∉ [.active, .isolir]
  isolated : ∀ id ∈ w.toIsolate now, id ∉ w.toSuspend now → ∀ sub ∈ w.row id, sub.status ≠ .active

section Again

variable {w : World} {now : Time} {sent : List Notification}

theorem markOverdue_idle {ok : Env → Prop} {inv : Invoice} (h : inv.status = .overdue) :
    (markOverdue inv).wp execCommands ok (fun _ w' ↦ w' = w) w := by
  simp [markOverdue, h]

/-- A row in none of these states is not taken down. -/
theorem downgrade_idle {ok : Env → Prop} {eligible : List SubscriptionStatus}
    {status : SubscriptionStatus} {syncStatus : SyncStatus} {syncNotes slug : String} {id : ℕ}
    (h : ∀ sub ∈ w.row id, sub.status ∉ eligible) :
    (downgrade eligible status syncStatus syncNotes slug id).wp execCommands ok
      (fun _ w' ↦ w' = w) w := by
  simp only [downgrade, perform_bind]
  refine wp_getRow (fun _ _ ↦ rfl) fun sub hrow ↦ ?_
  have hstatus := h sub hrow
  simp [hstatus]

theorem suspensionCheck_idle {ok : Env → Prop} (h : Settled w now) :
    ∃ k, suspensionCheck = .call .now k ∧ (k now).wp execCommands ok
      (fun _ w' ↦ ∃ sent, w' = { w with outgoing := sent }) w := by
  refine ⟨_, rfl, wp_settingInt (wp_settingInt ?_)⟩
  simp only [perform_bind]
  refine (wp_bind _ _ _).mpr (wp_mono (wp_reminds (sendReminders_reminds now)) ?_)
  intro _ u hu
  obtain ⟨sent, rfl⟩ := hu
  refine wp_listOverdue fun e _ ↦ ?_
  refine (wp_bind _ _ _).mpr (wp_mono (wp_forM
    (fun invs v ↦ (∀ inv ∈ invs, inv.status = .overdue) ∧ v = { w with outgoing := sent })
    ?_ ⟨?_, rfl⟩) ?_)
  · intro inv invs v hv
    obtain ⟨hstatus, rfl⟩ := hv
    refine wp_mono (markOverdue_idle (hstatus inv List.mem_cons_self)) fun _ u hu ↦ ?_
    exact ⟨fun r hr ↦ hstatus r (List.mem_cons_of_mem _ hr), hu⟩
  · intro inv hinv
    rw [e.invoiceOrder.mem_order, World.overdueInvoices, List.mem_filter] at hinv
    exact h.marked inv hinv.1 hinv.2
  intro _ u hu
  obtain ⟨-, rfl⟩ := hu
  have hsuspend : ∀ id, id ∈ suspendCandidates now w.hardSuspendAfter
      (e.invoiceOrder.order (w.overdueInvoices now)) ↔ id ∈ w.toSuspend now := by
    intro id
    simp only [World.toSuspend, mem_suspendCandidates, e.invoiceOrder.mem_order]
  have hisolate : ∀ id, id ∈ isolirCandidates now w.isolirAfter w.hardSuspendAfter
      (e.invoiceOrder.order (w.overdueInvoices now)) ↔ id ∈ w.toIsolate now := by
    intro id
    simp only [World.toIsolate, mem_isolirCandidates, e.invoiceOrder.mem_order]
  refine wp_rangeKeys fun e₁ _ ↦ ?_
  refine (wp_bind _ _ _).mpr (wp_mono (wp_forM
    (fun ids v ↦ (∀ id ∈ ids, id ∈ w.toIsolate now) ∧ v = { w with outgoing := sent })
    ?_ ⟨?_, rfl⟩) ?_)
  · intro id ids v hv
    obtain ⟨hids, rfl⟩ := hv
    have hrest : ∀ n ∈ ids, n ∈ w.toIsolate now := fun n hn ↦ hids n (List.mem_cons_of_mem _ hn)
    unfold isolir
    split_ifs with hmem
    · exact ⟨hrest, rfl⟩
    · refine wp_mono (downgrade_idle fun sub hrow ↦ ?_) fun _ _ hu ↦ ⟨hrest, hu⟩
      rw [List.mem_singleton]
      exact h.isolated id (hids id List.mem_cons_self) (mt (hsuspend id).mpr hmem) sub hrow
  · intro id hid
    exact (hisolate id).mp ((e₁.keyOrder.mem_order).mp hid)
  intro _ u hu
  obtain ⟨-, rfl⟩ := hu
  refine wp_rangeKeys fun e₂ _ ↦ ?_
  refine (wp_bind _ _ _).mpr (wp_mono (wp_forM
    (fun ids v ↦ (∀ id ∈ ids, id ∈ w.toSuspend now) ∧ v = { w with outgoing := sent })
    ?_ ⟨?_, rfl⟩) fun _ _ hu ↦ ⟨sent, hu.2⟩)
  · intro id ids v hv
    obtain ⟨hids, rfl⟩ := hv
    refine wp_mono (downgrade_idle fun sub hrow ↦ ?_) fun _ _ hu ↦
      ⟨fun n hn ↦ hids n (List.mem_cons_of_mem _ hn), hu⟩
    exact h.suspended id (hids id List.mem_cons_self) sub hrow
  · intro id hid
    exact (hsuspend id).mp ((e₂.keyOrder.mem_order).mp hid)

end Again

section Law

variable {w : World} {env : ℕ → Env} (henv : ∀ n, (env n).Faultless)

include henv

theorem checkRun_settled : Settled (checkRun w env) (env 0).now := by
  have hsettings := checkRun_settings henv (w := w)
  have hhard : (checkRun w env).hardSuspendAfter = w.hardSuspendAfter := by
    simp only [World.hardSuspendAfter, World.settingInt, hsettings]
  have hsoft : (checkRun w env).isolirAfter = w.isolirAfter := by
    simp only [World.isolirAfter, World.settingInt, hsettings]
  have hrow (id : ℕ) (sub : Subscription) (h : (checkRun w env).row id = some sub) :
      ∃ status, sub.status = statusDue w (env 0).now id status := by
    rw [(checkRun_rows henv).rows id] at h
    obtain ⟨s, -, rfl⟩ := Option.map_eq_some_iff.mp h
    exact ⟨s.status, checked_status s⟩
  refine ⟨?_, ?_, ?_⟩
  · intro inv hinv hoverdue
    rw [checkRun_invoices henv] at hinv
    obtain ⟨r, -, rfl⟩ := Table.mem_update.mp hinv
    split_ifs at hoverdue ⊢ with hbefore
    · rfl
    · exact absurd hoverdue hbefore
  · intro id hid sub hsub
    rw [mem_toSuspend, hhard, checkRun_pastDue henv] at hid
    obtain ⟨status, hstatus⟩ := hrow id sub hsub
    rw [hstatus]
    exact statusDue_of_suspend hid status
  · intro id hid hnot sub hsub
    rw [mem_toIsolate hnot, hsoft, checkRun_pastDue henv] at hid
    obtain ⟨status, hstatus⟩ := hrow id sub hsub
    rw [hstatus]
    exact statusDue_of_isolate hid status

end Law

theorem mem_of_rowsBecome {g : ℕ → Subscription → Subscription} {w u v : World}
    (hu : RowsBecome g w u) (hv : RowsBecome g w v) (r : Subscription) :
    r ∈ u.subscriptions ↔ r ∈ v.subscriptions := by
  by_cases hlive : r.live
  · have hmem (x : World) : r ∈ x.subscriptions ↔ x.row r.id = some r := by
      rw [row_iff]
      simp [hlive]
    rw [hmem, hmem, hu.rows, hv.rows]
  · have hdead : r.live = false := by simpa using hlive
    rw [hu.dead r hdead, hv.dead r hdead]

/-- What holds of a run of the check, and of it beside another run: on the same rows at the same
time or later, and once more on the rows that it leaves. -/
structure CheckLaw (w : World) (env : ℕ → Env) : Prop where
  status : ∀ id sub, w.row id = some sub → ∃ sub' ∈ (checkRun w env).row id,
    sub'.status = statusDue w (env 0).now id sub.status ∧ (sub'.status = sub.status → sub' = sub)
  deleted : ∀ r, r.live = false → (r ∈ (checkRun w env).subscriptions ↔ r ∈ w.subscriptions)
  order : ∀ env', (∀ n, (env' n).Faultless) → (env' 0).now = (env 0).now →
    (∀ r, r ∈ (checkRun w env').subscriptions ↔ r ∈ (checkRun w env).subscriptions) ∧
      (checkRun w env').invoices = (checkRun w env).invoices
  again : ∀ env', (∀ n, (env' n).Faultless) → (env' 0).now = (env 0).now →
    ∃ sent, checkRun (checkRun w env) env' = { checkRun w env with outgoing := sent }
  notMilder : ∀ id, ∀ sub ∈ w.row id, ∃ sub' ∈ (checkRun w env).row id,
    severity sub.status ≤ severity sub'.status
  later : ∀ env', (∀ n, (env' n).Faultless) → (env 0).now ≤ (env' 0).now → ∀ id,
    ∀ sub ∈ (checkRun w env).row id, ∃ sub' ∈ (checkRun w env').row id,
      severity sub.status ≤ severity sub'.status

/-- The check suspends and isolates just what is past due for so long, whatever the order in which
it meets it; a second run at the same time changes nothing, and a later one takes nothing back. -/
theorem suspension_check (w : World) (env : ℕ → Env) (henv : ∀ n, (env n).Faultless) :
    CheckLaw w env := by
  refine ⟨fun id sub hrow ↦ checkRun_status henv hrow, (checkRun_rows henv).dead, ?_, ?_, ?_, ?_⟩
  · intro env' henv' hnow
    have hrows' := checkRun_rows henv' (w := w)
    rw [hnow] at hrows'
    refine ⟨mem_of_rowsBecome hrows' (checkRun_rows henv), ?_⟩
    rw [checkRun_invoices henv', checkRun_invoices henv, hnow]
  · intro env' henv' hnow
    obtain ⟨k, hk, hwp⟩ : ∃ k, suspensionCheck = .call .now k ∧
        (k (env 0).now).wp execCommands Env.Faultless
          (fun _ w' ↦ ∃ sent, w' = { checkRun w env with outgoing := sent }) (checkRun w env) :=
      suspensionCheck_idle (checkRun_settled henv)
    have hrun := run_of_faultless hwp fun n ↦ henv' (n + 1)
    unfold checkRun at hrun ⊢
    rw [hk, run_call]
    rw [hk, run_call, ← hnow] at hrun
    exact hrun
  · intro id sub hrow
    obtain ⟨sub', hrow', hstatus, -⟩ := checkRun_status henv hrow
    exact ⟨sub', hrow', hstatus ▸ severity_statusDue w _ id _⟩
  · intro env' henv' hlater id sub' hrow'
    rw [Option.mem_def, (checkRun_rows henv).rows id] at hrow'
    obtain ⟨sub, hrow, rfl⟩ := Option.map_eq_some_iff.mp hrow'
    obtain ⟨sub', hrow', hstatus, -⟩ := checkRun_status henv' hrow
    refine ⟨sub', hrow', ?_⟩
    rw [hstatus, checked_status]
    exact severity_mono hlater _

/-- An active subscription whose only invoice is five days late. -/
theorem late_invoice_checked :
    CheckLaw (World.oneInvoice 150000 .active) (fun _ ↦ Env.calm (12 * day)) ∧
      statusDue (World.oneInvoice 150000 .active) (12 * day) 1 .active = .isolir :=
  ⟨suspension_check _ _ fun _ ↦ rfl, by decide +kernel⟩

end Rosmon.Sync
