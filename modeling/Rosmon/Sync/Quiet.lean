import Rosmon.Sync.Jobs

namespace Rosmon

open Library Store Mikrotik Program Service Job

/-- No call fails, and nobody stops the server. -/
def Env.Quiet (e : Env) : Prop := e.fault = none ∧ e.stopping = false

instance (e : Env) : Decidable e.Quiet := inferInstanceAs (Decidable (_ ∧ _))

theorem Env.calm_quiet (now : Time) : (Env.calm now).Quiet := ⟨rfl, rfl⟩

theorem quiet_honest {e : Env} (h : e.Quiet) : e.Honest := by
  intro err hf
  rw [h.1] at hf
  cases hf

theorem quiet_not_faulty : ¬Faulty Env.Quiet := by
  intro h
  obtain ⟨e, he, hf⟩ := h
  exact hf he.1

theorem quiet_not_stops : ¬Stops Env.Quiet := by
  intro h
  obtain ⟨e, he, hstop⟩ := h
  rw [he.2] at hstop
  cases hstop

/-- When nothing fails, it makes no difference which calls could. -/
theorem run_of_quiet {α : Type} {Q : α → World → Prop} {p : Prog α} {w : World}
    (h : p.wp execCommands Env.Quiet Q w) {env : ℕ → Env} (henv : ∀ n, (env n).Quiet) :
    Q (p.run Call.exec env w).1 (p.run Call.exec env w).2 :=
  run_of_wp (wp_congr (fun c _ w he ↦ execCommands_quiet he.1 c w) h) env henv

section Runs

variable {w : World} {env : ℕ → Env} (henv : ∀ n, (env n).Quiet)

include henv

/-- The check goes by the time at which it starts. -/
theorem suspensionCheck_run : RowsBecome (w.checked (env 0).now) w
    (suspensionCheck.run Call.exec env w).2 := by
  obtain ⟨k, hk, hwp⟩ := suspensionCheck_wp w
  have hrun := run_of_quiet (hwp (env 0).now) fun n ↦ henv (n + 1)
  rw [hk]
  exact hrun

theorem applySettlement_run_rows (p : Payment) : ∃ now, RowsBecome (w.settled p now) w
    ((applySettlement p).run Call.exec env w).2 :=
  run_of_quiet (applySettlement_rows p w) henv

theorem reconcilerRun_run : RowsBecome (fun _ ↦ w.reconciled) w
    (reconcilerRun.run Call.exec env w).2 :=
  run_of_quiet (reconcilerRun_rows (fun _ he ↦ he.1) quiet_not_stops) henv

/-- The batch is the one of the first call. -/
theorem outboxRun_run (hw : w.Sane) : Worked Env.Quiet w (batch (env 0) w)
    (outboxRun.run Call.exec env w).2 := by
  have hbatch := batch_worked (fun e (he : e.Quiet) ↦ quiet_honest he) hw (env 0)
  have hrun := run_of_quiet hbatch fun n ↦ henv (n + 1)
  have hcall : (Call.subscriptions (.listPendingSync outboxBatchSize)).exec (env 0) w =
      (.ok (batch (env 0) w), w) := by
    simp only [Call.exec, orFault, (henv 0).1]
    rfl
  simp only [outboxRun, perform_bind, run_call]
  rw [hcall]
  exact hrun

end Runs

/-- A live row outside the batch is left alone, and so is its record. -/
theorem Worked.kept {ok : Env → Prop} {e : Env} {w w' : World} (h : Worked ok w (batch e w) w')
    (hw : w.Sane) {id : ℕ} {sub : Subscription} (hrow : w.row id = some sub)
    (hbatch : sub ∉ batch e w) : w'.row id = some sub ∧ w'.record sub.login = w.record sub.login := by
  obtain ⟨hmem, hlive, rfl⟩ := row_iff.mp hrow
  constructor
  · rw [← hrow]
    refine h.rows _ fun s hs hid ↦ hbatch ?_
    obtain ⟨hsmem, -⟩ := mem_pendingRows.mp (mem_of_batch hs)
    rwa [← Table.eq_of_key hsmem hmem hid]
  · refine h.records _ fun s hs hlogin ↦ hbatch ?_
    obtain ⟨hsmem, hslive, -⟩ := mem_pendingRows.mp (mem_of_batch hs)
    rwa [← hw.logins s hsmem sub hmem hslive hlive hlogin]

end Rosmon
