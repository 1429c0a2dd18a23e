import Rosmon.Billing.Schedule

namespace Rosmon.Billing

open Go Library Library.Calendar Store Program Service Job Handler

/-- Each calendar month from the first to the last one has just one of the days. -/
def EveryMonthOnce (starts : List Time) (first last : ℤ) : Prop :=
  ∀ m, first ≤ m → m ≤ last → (starts.map monthOf).count m = 1

/-- The month of the installation, or a later one whose billing day has come. -/
def Installation.Reaches (i : Installation) (day : Time) (m : ℤ) : Prop :=
  m = monthOf i.today ∨ monthOf i.today < m ∧ midnight m i.billingDay ≤ day

section Months

variable {today : Time} (billingDay : ℤ) {m d : ℤ}

theorem monthOf_startDate_succ (hd : 1 ≤ d ∧ d ≤ monthLength m) (htoday : today = midnight m d)
    (j : ℕ) : monthOf (startDate today billingDay (j + 1)) = monthAfter m d + j := by
  have hstart := startDate_succ billingDay hd htoday j
  rw [← add_zero (midnight _ _)] at hstart
  exact monthOf_midnight (clampBillingDay_le _ _) zero_bounds hstart

theorem monthOf_startDate_strictMono (hd : 1 ≤ d ∧ d ≤ monthLength m)
    (htoday : today = midnight m d) (hmonth : monthOf today = m) :
    StrictMono fun j ↦ monthOf (startDate today billingDay j) := by
  refine strictMono_nat_of_lt_succ fun j ↦ ?_
  have hafter := monthAfter_bounds m d
  cases j with
  | zero =>
    rw [monthOf_startDate_succ billingDay hd htoday, startDate, hmonth, Nat.cast_zero]
    omega
  | succ j =>
    rw [monthOf_startDate_succ _ hd htoday, monthOf_startDate_succ _ hd htoday, Nat.cast_succ]
    omega

/-- No month comes twice among the first of the dates. -/
theorem count_months {f : ℕ → ℤ} (hf : StrictMono f) (k : ℕ) (m : ℤ) :
    ((List.range k).map f).count m = 1 ↔ ∃ j < k, f j = m := by
  have hnodup : ((List.range k).map f).Nodup := List.nodup_range.map hf.injective
  have hmem : m ∈ (List.range k).map f ↔ ∃ j < k, f j = m := by simp
  rw [← hmem]
  constructor
  · intro hcount
    exact List.count_pos_iff.mp (hcount ▸ Nat.one_pos)
  · exact List.count_eq_one_of_mem hnodup

variable {w : World} {sub : Subscription} {k : ℕ} {s : Time × World}

/-- A date that has come has been billed. -/
theorem Billed.lt_of_le (h : Billed w sub today k s) (hwhole : Time.truncateDay today = today) {j : ℕ}
    (hj : startDate today (w.billingDay sub) j ≤ s.1) : j < k + 1 :=
  (startDate_strictMono (w.billingDay sub) hwhole).lt_iff_lt.mp (hj.trans_lt h.ahead)

/-- The months of the invoices are those of the dates that have come. -/
theorem Billed.everyMonthOnce_iff (h : Billed w sub today k s) (hd : 1 ≤ d ∧ d ≤ monthLength m)
    (htoday : today = midnight m d) (hmonth : monthOf today = m) (last : ℤ) :
    EveryMonthOnce ((s.2.periodsOf w.invoices.next sub.id).map Prod.fst) m last ↔
      ∀ n, m ≤ n → n ≤ last →
        ∃ j < k + 1, monthOf (startDate today (w.billingDay sub) j) = n := by
  have hstarts : ((s.2.periodsOf w.invoices.next sub.id).map Prod.fst).map monthOf =
      (List.range (k + 1)).map fun j ↦ monthOf (startDate today (w.billingDay sub) j) := by
    rw [h.periods, List.map_map, List.map_map]
    rfl
  have hmono := monthOf_startDate_strictMono (w.billingDay sub) hd htoday hmonth
  simp only [EveryMonthOnce, hstarts, count_months hmono]

end Months

/-- Billed on each fifth from 5 January on. -/
def onTheFifth : Installation := installation 5 1 5 (by decide +kernel)

/-- Installed on 31 January and billed on each first. -/
def endOfJanuary : Installation := installation 1 1 31 (by decide +kernel)

end Rosmon.Billing
