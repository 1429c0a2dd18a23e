import Rosmon.Go.Stamp
import Rosmon.Library.Listing
import Rosmon.Sync.DueDates

namespace Rosmon.Reports

open Go Library Store Sync

/-- `time.Time{}` -/
def noTime : Time := date 1 1 1

/-- A range of due dates; a time that is zero is no bound. -/
structure AgingRange where
  label : String
  start : Time
  stop : Time

section Aging

variable (comparison : Comparison) (zone : Zone) (asOf : Time) (invoices : List Invoice)

/-- `asOf.AddDate(0, 0, -days)` -/
def cut (days : ℤ) : Time := zone.resolve (addDate (zone.clock asOf) 0 0 (-days))

def agingRanges : List AgingRange :=
  [⟨"0-7 hari", cut zone asOf 7, asOf⟩,
    ⟨"8-14 hari", cut zone asOf 14, cut zone asOf 7⟩,
    ⟨"15-30 hari", cut zone asOf 30, cut zone asOf 14⟩,
    ⟨">30 hari", noTime, cut zone asOf 30⟩]

/-- The conditions of the query for a range. -/
def AgingRange.selects (range : AgingRange) (inv : Invoice) : Bool :=
  inv.overdueAt (comparison.cutoff zone asOf) &&
    (range.start = noTime || comparison.cutoff zone range.start ≤ inv.dueDate) &&
    (range.stop = noTime || inv.dueDate < comparison.cutoff zone range.stop)

/-- `AgingBuckets`: a range without invoices has no bucket. -/
def agingBuckets : List (String × Figures) :=
  ((agingRanges zone asOf).map fun range ↦ (range.label,
    figures (·.amount) (invoices.filter (range.selects comparison zone asOf)))).filter
      fun bucket ↦ 0 < bucket.2.count

/-- `CountOverdue` at a time. -/
def countOverdue (now : Time) : Figures :=
  figures (·.amount) (invoices.filter (Invoice.overdueAt (comparison.cutoff zone now)))

/-- The age of an invoice in days. -/
def age (inv : Invoice) : ℤ := zone.date asOf - inv.dueDate / day

/-- The ages that the labels name. -/
def namedAges : List (ℤ → Bool) :=
  [fun age ↦ 0 ≤ age && age ≤ 7, fun age ↦ 8 ≤ age && age ≤ 14, fun age ↦ 15 ≤ age && age ≤ 30,
    fun age ↦ 30 < age]

/-- Each invoice that is past due is in one bucket, that of its age, and the buckets add up. -/
structure AgingPartition : Prop where
  named : ∀ inv ∈ invoices, inv.overdueAt (comparison.cutoff zone asOf) →
    (agingRanges zone asOf).map (·.selects comparison zone asOf inv) =
      namedAges.map (· (age zone asOf inv))
  once : ∀ inv ∈ invoices, inv.overdueAt (comparison.cutoff zone asOf) →
    (agingRanges zone asOf).countP (·.selects comparison zone asOf inv) = 1
  total : sumOf (agingBuckets comparison zone asOf invoices) =
    countOverdue comparison zone invoices asOf

/-- No limit is the zero time, and the due date is before the limit of so many days just if it is
before the day that many days before `asOf`. -/
def WithinLimits (inv : Invoice) : Prop :=
  inv.dueDate / day ≤ zone.date asOf ∧ ∀ days ∈ [7, 14, 30], cut zone asOf days ≠ noTime ∧
    (inv.dueDate < comparison.cutoff zone (cut zone asOf days) ↔
      inv.dueDate < (zone.date asOf - days) * day)

variable {comparison zone asOf invoices} {inv : Invoice}

theorem lt_day_iff (due date days : ℤ) : due < (date - days) * day ↔ days < date - due / day := by
  unfold day
  omega

theorem zero_le_age : 0 ≤ age zone asOf inv ↔ inv.dueDate / day ≤ zone.date asOf := sub_nonneg

theorem selects_of_not_overdue (h : inv.overdueAt (comparison.cutoff zone asOf) = false)
    (range : AgingRange) : range.selects comparison zone asOf inv = false := by
  rw [AgingRange.selects, h]
  rfl

/-- When the four ranges select by the ages that they name. A limit that is zero makes two ranges
select too much, whatever the ages are. -/
theorem limits_iff (zero7 zero14 zero30 before7 before14 before30 : Prop) (age : ℤ) :
    ((zero7 ∨ ¬before7 ↔ 0 ≤ age ∧ age ≤ 7) ∧
      ((zero14 ∨ ¬before14) ∧ (zero7 ∨ before7) ↔ 8 ≤ age ∧ age ≤ 14) ∧
      ((zero30 ∨ ¬before30) ∧ (zero14 ∨ before14) ↔ 15 ≤ age ∧ age ≤ 30) ∧
      (zero30 ∨ before30 ↔ 30 < age)) ↔
    0 ≤ age ∧ (¬zero7 ∧ (before7 ↔ 7 < age)) ∧ (¬zero14 ∧ (before14 ↔ 14 < age)) ∧
      (¬zero30 ∧ (before30 ↔ 30 < age)) := by
  constructor
  · grind
  · grind

/-- An invoice is where its age belongs just if it is within the limits. -/
theorem named_iff (h : inv.overdueAt (comparison.cutoff zone asOf)) :
    (agingRanges zone asOf).map (·.selects comparison zone asOf inv) =
      namedAges.map (· (age zone asOf inv)) ↔ WithinLimits comparison zone asOf inv := by
  have hpast : inv.dueDate < comparison.cutoff zone asOf := by
    rw [Invoice.overdueAt, Bool.and_eq_true, decide_eq_true_eq] at h
    exact h.1
  have hdays (days : ℤ) : inv.dueDate < (zone.date asOf - days) * day ↔
      days < age zone asOf inv := lt_day_iff _ _ _
  have hlimits := limits_iff (cut zone asOf 7 = noTime) (cut zone asOf 14 = noTime)
    (cut zone asOf 30 = noTime) (inv.dueDate < comparison.cutoff zone (cut zone asOf 7))
    (inv.dueDate < comparison.cutoff zone (cut zone asOf 14))
    (inv.dueDate < comparison.cutoff zone (cut zone asOf 30)) (age zone asOf inv)
  simp only [WithinLimits, List.forall_mem_cons, hdays, ← zero_le_age]
  simp only [List.not_mem_nil, false_implies, implies_true, and_true, ← hlimits, ne_eq]
  have hselected : ∀ a b c d a' b' c' d' : Bool, [a, b, c, d] = [a', b', c', d'] ↔
      (a = true ↔ a' = true) ∧ (b = true ↔ b' = true) ∧ (c = true ↔ c' = true) ∧
        (d = true ↔ d' = true) := by
    decide
  simp only [agingRanges, namedAges, List.map_cons, List.map_nil, hselected]
  simp only [AgingRange.selects, h, hpast, Bool.and_eq_true, Bool.or_eq_true, decide_eq_true_eq,
    or_true, true_or, true_and, and_true, not_lt]

/-- The ages that are named are those from zero on, and none is named twice. -/
theorem countP_namedAges {n : ℤ} (h : 0 ≤ n) : namedAges.countP (· n) = 1 := by
  simp only [namedAges, List.countP_cons, List.countP_nil, Bool.and_eq_true, decide_eq_true_eq]
  split_ifs <;> omega

theorem sum_of_empty : ∀ bucket ∈ (agingRanges zone asOf).map fun range ↦ (range.label,
    figures (·.amount) (invoices.filter (range.selects comparison zone asOf))),
    bucket.2.count = 0 → bucket.2.sum = 0 := by
  refine List.forall_mem_map.mpr fun range _ hcount ↦ ?_
  have hnone : invoices.filter (range.selects comparison zone asOf) = [] :=
    List.length_eq_zero_iff.mp hcount
  rw [hnone]
  rfl

theorem agingPartition_of_limits (h : ∀ inv ∈ invoices,
    inv.overdueAt (comparison.cutoff zone asOf) → WithinLimits comparison zone asOf inv) :
    AgingPartition comparison zone asOf invoices := by
  have hnamed : ∀ inv ∈ invoices, inv.overdueAt (comparison.cutoff zone asOf) →
      (agingRanges zone asOf).map (·.selects comparison zone asOf inv) =
        namedAges.map (· (age zone asOf inv)) :=
    fun inv hinv hdue ↦ (named_iff hdue).mpr (h inv hinv hdue)
  have honce : ∀ inv ∈ invoices, inv.overdueAt (comparison.cutoff zone asOf) →
      (agingRanges zone asOf).countP (·.selects comparison zone asOf inv) = 1 := by
    intro inv hinv hdue
    have hcount := congrArg (List.countP id) (hnamed inv hinv hdue)
    rw [List.countP_map, List.countP_map] at hcount
    exact hcount.trans (countP_namedAges (zero_le_age.mpr (h inv hinv hdue).1))
  refine ⟨hnamed, honce, ?_⟩
  rw [agingBuckets, sumOf_filter sum_of_empty]
  refine sumOf_parts fun inv hinv ↦ ?_
  cases hdue : inv.overdueAt (comparison.cutoff zone asOf) with
  | true => exact honce inv hinv hdue
  | false =>
    refine List.countP_eq_zero.mpr fun range _ ↦ ?_
    rw [selects_of_not_overdue hdue]
    exact Bool.false_ne_true

end Aging

section Zones

variable {zone : Zone} {asOf : Time} {invoices : List Invoice} {inv : Invoice}

theorem addDate_days (t days : ℤ) : addDate t 0 0 days = t + days * day := by
  obtain ⟨m, d, c, hd, hc, ht⟩ := exists_midnight t
  rw [addDate_midnight hd hc ht, ht]
  unfold midnight day hour
  rw [add_zero]
  ring

/-- A zone that keeps its distance from UTC has every time of day on every date. -/
theorem date_cut_fixed (offset : ℤ) (h : -86400 < offset ∧ offset < 86400) (asOf days : ℤ) :
    (Zone.fixed offset h).date (cut (.fixed offset h) asOf days) =
      (Zone.fixed offset h).date asOf - days := by
  have hcut : cut (.fixed offset h) asOf days = asOf - days * day := by
    rw [cut, addDate_days]
    simp only [Zone.resolve, Zone.clock, Zone.fixed]
    ring
  rw [hcut]
  simp only [Zone.date, Zone.clock, Zone.fixed, hour, day]
  omega

/-- A due date before the date of `asOf` is within the limits if these are on their dates. -/
theorem withinLimits_of_dates (hdue : inv.overdueAt (zone.date asOf * day))
    (hcut : ∀ days ∈ [7, 14, 30], cut zone asOf days ≠ noTime ∧
      zone.date (cut zone asOf days) = zone.date asOf - days) :
    WithinLimits .dates zone asOf inv := by
  have hpast : inv.dueDate < (zone.date asOf - 0) * day := by
    rw [Invoice.overdueAt, Bool.and_eq_true, decide_eq_true_eq] at hdue
    rw [sub_zero]
    exact hdue.1
  refine ⟨(sub_nonneg.mp ((lt_day_iff _ _ _).mp hpast).le), fun days hdays ↦ ?_⟩
  obtain ⟨hzero, hdate⟩ := hcut days hdays
  refine ⟨hzero, ?_⟩
  rw [Comparison.cutoff, hdate]

/-- Where the database compares dates and the server never changes its clocks, the buckets are a
partition at every time whose limits are not zero. -/
theorem agingPartition_of_fixed (offset : ℤ) (h : -86400 < offset ∧ offset < 86400)
    (hcut : ∀ days ∈ [7, 14, 30], cut (.fixed offset h) asOf days ≠ noTime) :
    AgingPartition .dates (.fixed offset h) asOf invoices :=
  agingPartition_of_limits fun _ _ hdue ↦
    withinLimits_of_dates hdue fun days hdays ↦ ⟨hcut days hdays, date_cut_fixed offset h _ _⟩

end Zones

/-- The buckets are a partition if and only if each invoice that is past due is within the
limits. -/
theorem agingPartition_iff (comparison : Comparison) (zone : Zone) (asOf : Time)
    (invoices : List Invoice) : AgingPartition comparison zone asOf invoices ↔
      ∀ inv ∈ invoices, inv.overdueAt (comparison.cutoff zone asOf) →
        WithinLimits comparison zone asOf inv :=
  ⟨fun h inv hinv hdue ↦ (named_iff hdue).mp (h.named inv hinv hdue), agingPartition_of_limits⟩

/-- The clocks of this zone go from midnight to one on the fourth of November. -/
def skippedMidnight : Zone where
  offset t := if t < 1541300400 then -10800 else -7200
  near t := by split_ifs <;> decide

/-- A week after that, half an hour past midnight, an invoice of eight days is in the first bucket;
and where the limit of a week is the zero time, an invoice is in two buckets. -/
theorem aging_miscounted :
    ¬AgingPartition .dates skippedMidnight (date 2018 11 11 + 5 * (hour / 2))
        [{ sampleInvoice with dueDate := date 2018 11 3 }] ∧
      ∀ comparison, ¬AgingPartition comparison .utc (date 1 1 8)
        [{ sampleInvoice with dueDate := date 1 1 3 }] := by
  refine ⟨fun h ↦ ?_, fun comparison h ↦ ?_⟩
  · have hnamed := h.named _ (List.mem_singleton_self _) (by decide +kernel)
    exact absurd hnamed (by decide +kernel)
  · cases comparison with
    | instants | dates =>
      have honce := h.once _ (List.mem_singleton_self _) (by decide +kernel)
      exact absurd honce (by decide +kernel)

end Rosmon.Reports
