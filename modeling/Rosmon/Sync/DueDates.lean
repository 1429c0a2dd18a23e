import Rosmon.Go.Hours
import Rosmon.Go.Duration
import Rosmon.Sync.Marking

namespace Rosmon.Sync

open Go Library Store Program Service Job

/-- How the database reads the time that a date is compared with: as it is, or as its date. -/
inductive Comparison
  | instants
  | dates
  deriving DecidableEq

def Comparison.cutoff (comparison : Comparison) (zone : Zone) (now : Time) : Time :=
  match comparison with
  | .instants => now
  | .dates => zone.date now * day

/-- A run at `now` marks an invoice as overdue only on a later date than its due date, and counts
the calendar days between the two. -/
def CountsDays (comparison : Comparison) (zone : Zone) (w : World) (now : Time) (inv : Invoice) :
    Prop :=
  (∀ env : ℕ → Env, (env 0).now = now → inv.status = .issued →
    (∃ inv' ∈ (suspensionCheck.run (execCutoff (comparison.cutoff zone)) env w).2.invoices,
      inv'.id = inv.id ∧ inv'.status = .overdue) → inv.dueDate / day < zone.date now) ∧
  (inv.overdueAt (comparison.cutoff zone now) →
    daysPastDue now inv = zone.date now - inv.dueDate / day)

/-- By how much the count of days is off on the calendar of UTC: hours that are nearly whole are
rounded up, and a duration does not exceed 292 years. -/
def miscount (now due : ℤ) : ℤ :=
  if now - due < 2 ^ 63 then
    if 23 * hour ≤ now % day ∧ hoursRoundUp (now - due) then 1 else 0
  else 106751 - (now - due) / day

/-- An invoice is not found by the query, or it is found after its due date and on the same date in
UTC as at the server, up to the miscount. -/
def OnSameDate (comparison : Comparison) (zone : Zone) (now : Time) (inv : Invoice) : Prop :=
  inv.overdueAt (comparison.cutoff zone now) →
    (inv.status = .issued → inv.dueDate / day < zone.date now) ∧
      zone.date now = now / day + miscount now inv.dueDate

/-- The days that the job counts, for a due date at midnight. -/
theorem wholeDays_since {now due : ℤ} (hdate : due % day = 0) (hpast : due ≤ now) :
    wholeDays (timeSub now due) = now / day - due / day + miscount now due := by
  unfold miscount
  split_ifs with hrange hround
  · have hsub : timeSub now due = now - due := by
      unfold timeSub
      omega
    rw [hsub, wholeDays_eq (by omega) hrange, if_pos hround.2]
    have hlast := hround.1
    simp only [day, hour] at hdate hlast ⊢
    omega
  · have hsub : timeSub now due = now - due := by
      unfold timeSub
      omega
    rw [hsub, wholeDays_eq (by omega) hrange]
    split_ifs with hup
    · have hlast : ¬23 * hour ≤ now % day := fun h ↦ hround ⟨h, hup⟩
      simp only [day, hour] at hdate hlast ⊢
      omega
    · simp only [day, hour] at hdate ⊢
      omega
  · have hsub : timeSub now due = 2 ^ 63 - 1 := by
      unfold timeSub
      omega
    have hmost : wholeDays (2 ^ 63 - 1) = 106751 := by
      rw [wholeDays_eq (by decide) (by decide)]
      decide
    rw [hsub, hmost]
    simp only [day] at hdate ⊢
    omega

/-- What the query finds is past its due date in UTC as well. -/
theorem due_le_of_overdueAt {comparison : Comparison} {zone : Zone} {now : Time} {inv : Invoice}
    (hdate : inv.dueDate % day = 0) (h : inv.overdueAt (comparison.cutoff zone now)) :
    inv.dueDate ≤ now := by
  simp only [Invoice.overdueAt, Bool.and_eq_true, decide_eq_true_eq] at h
  have hpast := h.1
  cases comparison with
  | instants => exact hpast.le
  | dates =>
    exact zone.le_of_lt_date hdate hpast

theorem calm_faultless (now : Time) : ∀ n : ℕ, ((fun _ ↦ Env.calm now : ℕ → Env) n).Faultless :=
  fun _ ↦ rfl

/-- The job counts on the calendar of UTC, and from the midnight at which the due day begins. -/
theorem counts_days_iff (comparison : Comparison) (zone : Zone) (w : World) (now : Time)
    (inv : Invoice) (hinv : inv ∈ w.invoices) (hdate : inv.dueDate % day = 0) :
    CountsDays comparison zone w now inv ↔ OnSameDate comparison zone now inv := by
  have hdays (hlisted : inv.overdueAt (comparison.cutoff zone now)) : daysPastDue now inv =
      now / day - inv.dueDate / day + miscount now inv.dueDate :=
    wholeDays_since hdate (due_le_of_overdueAt hdate hlisted)
  constructor
  · intro h hlisted
    obtain ⟨hmarks, hcounts⟩ := h
    constructor
    · intro hissued
      refine hmarks (fun _ ↦ Env.calm now) rfl hissued ?_
      rw [suspensionCheck_marks _ w (calm_faultless now)]
      exact ⟨inv.lapse, Table.mem_update_of hinv hlisted, rfl, rfl⟩
    · have hcount := hcounts hlisted
      rw [hdays hlisted] at hcount
      linarith
  · intro h
    constructor
    · intro env hnow hissued hmarked
      obtain ⟨inv', hinv', hid, hoverdue⟩ := hmarked
      obtain ⟨r, hr, hrid, hfound⟩ := suspensionCheck_marked _ w env inv' hinv' hoverdue
      obtain rfl := Table.eq_of_key hr hinv (hrid.trans hid)
      rw [hnow] at hfound
      have hlisted := hfound.resolve_left (by rw [hissued]; decide)
      exact (h hlisted).1 hissued
    · intro hlisted
      rw [hdays hlisted, (h hlisted).2]
      ring

/-- The invoice of the sample, which is due on the seventh day. -/
def sampleInvoice : Invoice :=
  { id := 1, invoiceNumber := "INV-1", customerID := 1, subscriptionID := 1, amount := 150000
    periodStart := 0, periodEnd := 30 * day, dueDate := 7 * day, status := .issued
    paymentCode := "ABCD1234", issuedAt := some 0, paidAt := none, notes := "" }

theorem sampleInvoice_mem : sampleInvoice ∈ (World.oneInvoice 150000 .active).invoices := by
  decide

/-- On the twelfth day in the morning, at a server in UTC. -/
theorem five_days_counted :
    CountsDays .dates .utc (World.oneInvoice 150000 .active) (12 * day + 9 * hour) sampleInvoice :=
  (counts_days_iff .dates .utc _ _ _ sampleInvoice_mem (by decide)).mpr (by
    unfold OnSameDate
    decide)

/-- At the same time of day ten hours east of it, where one day is lost; and on the due date. -/
theorem days_miscounted :
    ¬CountsDays .dates (.fixed 36000 (by decide)) (World.oneInvoice 150000 .active)
        (12 * day - hour) sampleInvoice ∧
      ¬CountsDays .instants (.fixed 36000 (by decide)) (World.oneInvoice 150000 .active)
        (12 * day - hour) sampleInvoice ∧
      ¬CountsDays .instants .utc (World.oneInvoice 150000 .active) (7 * day + 9 * hour)
        sampleInvoice := by
  refine ⟨fun h ↦ ?_, fun h ↦ ?_, fun h ↦ ?_⟩
  · have hfour := h.2 (by decide)
    exact absurd hfour (by decide +kernel)
  · have hfour := h.2 (by decide)
    exact absurd hfour (by decide +kernel)
  · have hmarked := h.1 (fun _ ↦ Env.calm (7 * day + 9 * hour)) rfl rfl (by
      rw [suspensionCheck_marks _ _ (calm_faultless _)]
      decide)
    exact absurd hmarked (by decide)

end Rosmon.Sync
