import Mathlib.Algebra.Order.BigOperators.Group.Finset
import Rosmon.Library.Run
import Rosmon.Sync.Quiet

namespace Rosmon

open Library Store Mikrotik Program Run Service Job

/-- The row without what the outbox notes about its attempts. -/
def Store.Subscription.core (sub : Subscription) : Subscription :=
  { sub with syncNotes := "", syncRetryCount := 0 }

/-- The account once a request has been dealt with, taken or refused. -/
def World.delivered (w : World) (sub : Subscription) : Option Account :=
  if sub.deviceID ∈ w.connected then
    (w.fulfil sub (w.account sub.login)).getD (w.account sub.login)
  else w.account sub.login

/-- What becomes of a request: the router takes it or refuses it to the last. An
offline device takes everything. -/
def World.answered (w : World) (sub : Subscription) : SyncStatus :=
  if sub.deviceID ∈ w.connected ∧ w.fulfil sub (w.account sub.login) = none then .error
  else .synced

/-- What outbox runs have made of a row so far: it waits for its turn or has been dealt
with. -/
inductive Progress (w : World) (sub : Subscription) (w' : World) : Prop
  | waiting {sub' : Subscription} (hrow : w'.row sub.id = some sub') (hcore : sub'.core = sub.core)
      (haccount : w'.account sub.login = w.account sub.login)
  | done {sub' : Subscription} (hrow : w'.row sub.id = some sub')
      (hpending : sub.syncStatus.pending)
      (hcore : sub'.core = { sub with syncStatus := w.answered sub }.core)
      (haccount : w'.account sub.login = w.delivered sub)

/-- No live row has a request. -/
def Drained (w : World) : Prop :=
  ∀ id sub, w.row id = some sub → sub.syncStatus.pending = false

theorem drained_iff {w : World} : Drained w ↔
    ∀ sub ∈ w.subscriptions, sub.live → sub.syncStatus.pending = false := by
  constructor
  · intro h sub hsub hlive
    exact h _ sub (row_of_mem hsub hlive)
  · intro h id sub hrow
    obtain ⟨hmem, hlive, -⟩ := row_iff.mp hrow
    exact h sub hmem hlive

instance (w : World) : Decidable (Drained w) := decidable_of_iff' _ drained_iff

/-- `OutboxJob.Run`, again and again. -/
def outboxRuns (envs : ℕ → ℕ → Env) (n : ℕ) (w : World) : World :=
  after (fun i w ↦ (outboxRun.run Call.exec (envs i) w).2) n w

section Rows

variable {sub sub' : Subscription}

theorem core_syncStatus (h : sub'.core = sub.core) : sub'.syncStatus = sub.syncStatus := by
  have h' := congrArg Subscription.syncStatus h
  exact h'

theorem core_status (h : sub'.core = sub.core) : sub'.status = sub.status := by
  have h' := congrArg Subscription.status h
  exact h'

theorem core_id (h : sub'.core = sub.core) : sub'.id = sub.id := by
  have h' := congrArg Subscription.id h
  exact h'

theorem core_login (h : sub'.core = sub.core) : sub'.login = sub.login := by
  have h' := congrArg Subscription.login h
  exact h'

theorem fulfil_core (w : World) (sub : Subscription) : w.fulfil sub.core = w.fulfil sub := rfl

theorem fulfil_congr {w w' : World} (h : SameTerms w w') (hcore : sub'.core = sub.core) :
    w'.fulfil sub' = w.fulfil sub := by
  rw [← fulfil_core, hcore, fulfil_core]
  simp only [World.fulfil, h.normalName, h.targetName]

theorem answered_not_pending (w : World) (sub : Subscription) :
    (w.answered sub).pending = false := by
  unfold World.answered
  split_ifs <;> rfl

theorem failedSync_core (sub : Subscription) (err : Error) :
    (sub.failedSync err).core = sub.core ∨
      (sub.failedSync err).core = { sub with syncStatus := .error }.core := by
  simp only [Subscription.failedSync]
  split
  · exact .inr rfl
  · exact .inl rfl

end Rows

section Step

variable {w w' : World} {sub sub' : Subscription} {env : ℕ → Env}

theorem answered_congr (h : SameTerms w w') (hcore : sub'.core = sub.core)
    (haccount : w'.account sub.login = w.account sub.login) : w'.answered sub' = w.answered sub := by
  have hdevice := deviceID_of_login (core_login hcore)
  simp only [World.answered, fulfil_congr h hcore, core_login hcore, haccount, hdevice, h.connected]

theorem delivered_congr (h : SameTerms w w') (hcore : sub'.core = sub.core)
    (haccount : w'.account sub.login = w.account sub.login) :
    w'.delivered sub' = w.delivered sub := by
  have hdevice := deviceID_of_login (core_login hcore)
  simp only [World.delivered, fulfil_congr h hcore, core_login hcore, haccount, hdevice,
    h.connected]

/-- A run deals with a request of its batch or puts it off. -/
theorem Outcome.progress {r : Option Subscription} {o : Option Record}
    (h : Outcome Env.Quiet w sub r o) :
    ∃ sub', r = some sub' ∧ (sub'.core = { sub with syncStatus := w.answered sub }.core ∧
        o.map Record.account = w.delivered sub ∨
      sub'.core = sub.core ∧ o.map Record.account = w.account sub.login) := by
  have hsynced : w.answered sub = .synced →
      (sub.setSyncStatus .synced "").core = { sub with syncStatus := w.answered sub }.core := by
    intro h
    rw [h]
    rfl
  cases h with
  | untouched h => exact absurd h quiet_not_stops
  | offline h =>
    refine ⟨_, rfl, .inl ⟨hsynced ?_, ?_⟩⟩
    · simp [World.answered, h]
    · simp [World.delivered, h, World.account]
  | served h hf =>
    refine ⟨_, rfl, .inl ⟨hsynced ?_, ?_⟩⟩
    · simp [World.answered, hf]
    · simp [World.delivered, h, hf]
  | failed err h hr =>
    obtain ⟨hf, rfl⟩ := hr.resolve_left quiet_not_faulty
    rcases failedSync_core sub err with hcore | hcore
    · exact ⟨_, rfl, .inr ⟨hcore, rfl⟩⟩
    · refine ⟨_, rfl, .inl ⟨?_, ?_⟩⟩
      · rw [hcore, World.answered, if_pos ⟨h, hf⟩]
      · rw [World.delivered, if_pos h, hf, Option.getD_none, World.account]

theorem Progress.refl (hrow : w.row sub.id = some sub) : Progress w sub w := .waiting hrow rfl rfl

/-- One more run. -/
theorem Progress.step (h : Progress w sub w') (hterms : SameTerms w w') (hw' : w'.Sane)
    (henv : ∀ n, (env n).Quiet) : Progress w sub (outboxRun.run Call.exec env w').2 := by
  have hworked := outboxRun_run henv hw'
  have hkept {sub' : Subscription} (hrow : w'.row sub.id = some sub')
      (hlogin : sub'.login = sub.login) (hbatch : sub' ∉ batch (env 0) w') :
      (outboxRun.run Call.exec env w').2.row sub.id = some sub' ∧
        (outboxRun.run Call.exec env w').2.account sub.login = w'.account sub.login := by
    obtain ⟨hrow', hrecord⟩ := hworked.kept hw' hrow hbatch
    rw [hlogin] at hrecord
    exact ⟨hrow', congrArg (Option.map Record.account) hrecord⟩
  cases h with
  | @done sub' hrow hpending hcore haccount =>
    have hlogin : sub'.login = sub.login := by
      have h := core_login hcore
      exact h
    have hanswered : sub'.syncStatus = w.answered sub := by
      have h := core_syncStatus hcore
      exact h
    obtain ⟨hrow', haccount'⟩ := hkept hrow hlogin fun hbatch ↦ by
      have hpending' := (mem_pendingRows.mp (mem_of_batch hbatch)).2.2
      rw [hanswered, answered_not_pending] at hpending'
      cases hpending'
    exact .done hrow' hpending hcore (haccount'.trans haccount)
  | @waiting sub' hrow hcore haccount =>
    by_cases hbatch : sub' ∈ batch (env 0) w'
    · have hpending := (mem_pendingRows.mp (mem_of_batch hbatch)).2.2
      rw [core_syncStatus hcore] at hpending
      have hout := hworked.outcome sub' hbatch
      rw [core_id hcore, core_login hcore] at hout
      obtain ⟨sub'', hrow', ⟨hcore', haccount'⟩ | ⟨hcore', haccount'⟩⟩ := hout.progress
      · refine .done hrow' hpending ?_ (haccount'.trans (delivered_congr hterms hcore haccount))
        rw [hcore', answered_congr hterms hcore haccount]
        exact congrArg (fun s : Subscription ↦ { s with syncStatus := w.answered sub }) hcore
      · rw [core_login hcore] at haccount'
        exact .waiting hrow' (hcore'.trans hcore) (haccount'.trans haccount)
    · obtain ⟨hrow', haccount'⟩ := hkept hrow (core_login hcore) hbatch
      exact .waiting hrow' hcore (haccount'.trans haccount)

end Step

section Runs

variable {w : World} {envs : ℕ → ℕ → Env} (henvs : ∀ i n, (envs i n).Quiet)

include henvs

theorem outboxRuns_keeps (hw : w.Sane) (n : ℕ) :
    (outboxRuns envs n w).Sane ∧ SameTerms w (outboxRuns envs n w) := by
  refine after_keeps (J := fun w' ↦ w'.Sane ∧ SameTerms w w') ?_ ⟨hw, .refl w⟩ n
  intro i w' h
  exact ⟨run_sane _ _ h.1, h.2.trans (outboxRun_run (henvs i) h.1).terms⟩

/-- However many runs there are, and whichever rows are in their batches. -/
theorem outboxRuns_progress (hw : w.Sane) {sub : Subscription} (hrow : w.row sub.id = some sub)
    (n : ℕ) : Progress w sub (outboxRuns envs n w) := by
  have hstep : ∀ i w', w'.Sane ∧ SameTerms w w' ∧ Progress w sub w' →
      (outboxRun.run Call.exec (envs i) w').2.Sane ∧
        SameTerms w (outboxRun.run Call.exec (envs i) w').2 ∧
        Progress w sub (outboxRun.run Call.exec (envs i) w').2 := by
    intro i w' h
    exact ⟨run_sane _ _ h.1, h.2.1.trans (outboxRun_run (henvs i) h.1).terms,
      h.2.2.step h.2.1 h.1 (henvs i)⟩
  exact (after_keeps (J := fun w' ↦ w'.Sane ∧ SameTerms w w' ∧ Progress w sub w') hstep
    ⟨hw, .refl w, .refl hrow⟩ n).2.2

end Runs

/-! Why the requests run out. -/

/-- A bound on the runs that still take up a row. -/
def Store.Subscription.attempts (sub : Subscription) : ℕ :=
  if sub.syncStatus.pending then 1 + (outboxEscalationThreshold - sub.syncRetryCount).toNat else 0

/-- The bounds of the rows with small ids, added up. -/
def World.load (N : ℕ) (w : World) : ℕ :=
  ∑ n ∈ Finset.range N, (w.row n).elim 0 Subscription.attempts

section Load

variable {w w' : World} {sub : Subscription}

theorem failedSync_attempts (hpending : sub.syncStatus.pending) (err : Error) :
    (sub.failedSync err).attempts < sub.attempts := by
  have hretry : (sub.bumpRetry err.text).syncRetryCount = sub.syncRetryCount + 1 := rfl
  have hstatus : (sub.bumpRetry err.text).syncStatus = sub.syncStatus := rfl
  simp only [Subscription.failedSync, hretry]
  split_ifs with hthreshold
  · have hzero : ((sub.bumpRetry err.text).setSyncStatus .error err.text).attempts = 0 := rfl
    rw [hzero, Subscription.attempts, if_pos hpending]
    omega
  · simp only [Subscription.attempts, hretry, hstatus, hpending, if_true]
    omega

theorem Outcome.attempts_lt {r : Option Subscription} {o : Option Record}
    (h : Outcome Env.Quiet w sub r o) (hpending : sub.syncStatus.pending) :
    r.elim 0 Subscription.attempts < sub.attempts := by
  have hpos : 0 < sub.attempts := by
    rw [Subscription.attempts, if_pos hpending]
    omega
  cases h with
  | untouched h => exact absurd h quiet_not_stops
  | offline | served => exact hpos
  | failed err => exact failedSync_attempts hpending err

/-- No row appears. -/
theorem Worked.row_none {ok : Env → Prop} {e : Env} (h : Worked ok w (batch e w) w') {n : ℕ}
    (hnone : w.row n = none) : w'.row n = none := by
  rw [← hnone]
  refine h.rows n fun sub hsub hid ↦ ?_
  obtain ⟨hmem, hlive, -⟩ := mem_pendingRows.mp (mem_of_batch hsub)
  have hrow := Rosmon.row_of_mem hmem hlive
  rw [hid, hnone] at hrow
  cases hrow

/-- Every run that finds a request makes progress. -/
theorem Worked.load_lt {e : Env} (h : Worked Env.Quiet w (batch e w) w') {N : ℕ}
    (hN : ∀ n, N ≤ n → w.row n = none) (hload : w.load N ≠ 0) : w'.load N < w.load N := by
  have hbatch : ∀ n, (∃ sub ∈ batch e w, sub.id = n) → (w'.row n).elim 0 Subscription.attempts <
      (w.row n).elim 0 Subscription.attempts := by
    rintro _ ⟨sub, hsub, rfl⟩
    obtain ⟨hmem, hlive, hpending⟩ := mem_pendingRows.mp (mem_of_batch hsub)
    rw [Rosmon.row_of_mem hmem hlive]
    exact (h.outcome sub hsub).attempts_lt hpending
  have hrest : ∀ n, (¬∃ sub ∈ batch e w, sub.id = n) → w'.row n = w.row n := by
    intro n hn
    refine h.rows n fun sub hsub hid ↦ hn ⟨sub, hsub, hid⟩
  -- Where there is a request, the batch is not empty.
  obtain ⟨n, hn, hattempts⟩ := Finset.exists_ne_zero_of_sum_ne_zero hload
  obtain ⟨sub, hrow⟩ : ∃ sub, w.row n = some sub := by
    cases hrow : w.row n with
    | none => simp [hrow] at hattempts
    | some sub => exact ⟨sub, rfl⟩
  have hpending : sub.syncStatus.pending := by
    by_contra hpending
    simp [hrow, Subscription.attempts, hpending] at hattempts
  obtain ⟨hmem, hlive, -⟩ := row_iff.mp hrow
  have hne : batch e w ≠ [] := by
    have hin := e.subscriptionOrder.mem_order.mpr (mem_pendingRows.mpr ⟨hmem, hlive, hpending⟩)
    intro hnil
    rcases List.take_eq_nil_iff.mp hnil with h | h
    · exact absurd h (by decide)
    · rw [h] at hin
      cases hin
  obtain ⟨first, hfirst⟩ := List.exists_mem_of_ne_nil _ hne
  refine Finset.sum_lt_sum (fun n _ ↦ ?_) ⟨first.id, ?_, hbatch _ ⟨first, hfirst, rfl⟩⟩
  · by_cases hn : ∃ sub ∈ batch e w, sub.id = n
    · exact (hbatch n hn).le
    · rw [hrest n hn]
  · rw [Finset.mem_range]
    by_contra hle
    obtain ⟨hmem, hlive, -⟩ := mem_pendingRows.mp (mem_of_batch hfirst)
    have hrow := Rosmon.row_of_mem hmem hlive
    rw [hN _ (by omega)] at hrow
    cases hrow

theorem drained_of_load {N : ℕ} (hN : ∀ n, N ≤ n → w.row n = none) (hload : w.load N = 0) :
    Drained w := by
  intro id sub hrow
  have hid : id ∈ Finset.range N := by
    rw [Finset.mem_range]
    by_contra hle
    rw [hN id (by omega)] at hrow
    cases hrow
  have hzero := (Finset.sum_eq_zero_iff.mp hload) id hid
  rw [hrow] at hzero
  by_contra hpending
  simp [Subscription.attempts, hpending] at hzero

theorem row_of_next (w : World) {n : ℕ} (hn : w.subscriptions.next ≤ n) : w.row n = none := by
  cases hrow : w.row n with
  | none => rfl
  | some sub =>
    obtain ⟨hmem, -, rfl⟩ := row_iff.mp hrow
    exact absurd (w.subscriptions.fresh sub hmem) (Nat.not_lt.mpr hn)

/-- The outbox needs only so many runs to deal with every request. -/
theorem outboxRuns_drain {envs : ℕ → ℕ → Env} (henvs : ∀ i n, (envs i n).Quiet) (hw : w.Sane) :
    ∃ n, Drained (outboxRuns envs n w) := by
  let N := w.subscriptions.next
  let J (w' : World) : Prop := w'.Sane ∧ ∀ n, N ≤ n → w'.row n = none
  have hJ : ∀ i w', J w' → J (outboxRun.run Call.exec (envs i) w').2 := by
    intro i w' h
    exact ⟨run_sane _ _ h.1, fun n hn ↦ (outboxRun_run (henvs i) h.1).row_none (h.2 n hn)⟩
  have hstart : J w := ⟨hw, fun n hn ↦ row_of_next w hn⟩
  obtain ⟨n, hn⟩ := exists_after_zero (J := J) (μ := World.load N) hJ
    (fun i w' h hload ↦ (outboxRun_run (henvs i) h.1).load_lt h.2 hload) hstart
  exact ⟨n, drained_of_load (after_keeps hJ hstart n).2 hn⟩

theorem outboxRuns_none {envs : ℕ → ℕ → Env} (henvs : ∀ i n, (envs i n).Quiet) (hw : w.Sane)
    {id : ℕ} (hnone : w.row id = none) (n : ℕ) : (outboxRuns envs n w).row id = none := by
  refine (after_keeps (J := fun w' : World ↦ w'.Sane ∧ w'.row id = none) ?_ ⟨hw, hnone⟩ n).2
  intro i w' h
  exact ⟨run_sane _ _ h.1, (outboxRun_run (henvs i) h.1).row_none h.2⟩

end Load

/-- What is known of a row that has no request any more. -/
theorem Progress.finished {w w' : World} {sub sub' : Subscription} (h : Progress w sub w')
    (hrow' : w'.row sub.id = some sub') (hpending' : sub'.syncStatus.pending = false) :
    sub'.core = (if sub.syncStatus.pending then { sub with syncStatus := w.answered sub }
      else sub).core ∧ w'.account sub.login = w.delivered sub := by
  cases h with
  | done hrow hpending hcore haccount =>
    rw [hrow] at hrow'
    obtain rfl := Option.some.inj hrow'
    exact ⟨by rwa [if_pos hpending], haccount⟩
  | waiting hrow hcore haccount =>
    rw [hrow] at hrow'
    obtain rfl := Option.some.inj hrow'
    rw [core_syncStatus hcore] at hpending'
    refine ⟨?_, haccount.trans ?_⟩
    · simpa [hpending'] using hcore
    · cases hs : sub.syncStatus <;> simp_all [World.delivered, World.fulfil, SyncStatus.pending]

theorem Progress.row {w w' : World} {sub : Subscription} (h : Progress w sub w') :
    ∃ sub', w'.row sub.id = some sub' := by
  cases h with
  | done hrow | waiting hrow => exact ⟨_, hrow⟩

end Rosmon
