import Rosmon.Service.Billing

namespace Rosmon.Billing

open Go Store Service Library.Calendar

/-- The calendar month of a time, counted from January of the year 0. -/
def monthOf (t : Time) : ℤ := 12 * year t + month t - 1

/-- One month after a day, where a day that the next month does not have is one of the
month after that. -/
def monthAfter (m d : ℤ) : ℤ := if d ≤ monthLength (m + 1) then m + 1 else m + 2

theorem clampBillingDay_bounds (billingDay : ℤ) :
    1 ≤ clampBillingDay billingDay ∧ clampBillingDay billingDay ≤ 28 := by
  unfold clampBillingDay
  split_ifs <;> omega

/-- Every month has the billing day. -/
theorem clampBillingDay_le (billingDay m : ℤ) :
    1 ≤ clampBillingDay billingDay ∧ clampBillingDay billingDay ≤ monthLength m := by
  have hday := clampBillingDay_bounds billingDay
  have hlength := monthLength_bounds m
  omega

theorem monthAfter_bounds (m d : ℤ) : m + 1 ≤ monthAfter m d ∧ monthAfter m d ≤ m + 2 := by
  unfold monthAfter
  split_ifs <;> omega

/-- A day that every month has is followed by the same day of the next month. -/
theorem monthAfter_clampBillingDay (m billingDay : ℤ) :
    monthAfter m (clampBillingDay billingDay) = m + 1 := by
  rw [monthAfter, if_pos (clampBillingDay_le billingDay (m + 1)).2]

theorem truncateDay_truncateDay (t : ℤ) :
    Time.truncateDay (Time.truncateDay t) = Time.truncateDay t := by
  unfold Time.truncateDay
  simp

/-- Between a midnight and the next one there is none. -/
theorem add_day_le {t u : ℤ} (ht : Time.truncateDay t = t) (hu : Time.truncateDay u = u)
    (h : t < u) : t + day ≤ u := by
  have ht' : t % day = 0 := sub_eq_self.mp ht
  have hu' : u % day = 0 := sub_eq_self.mp hu
  unfold day at *
  omega

section Midnight

variable {m m' d d' c t : ℤ}

theorem midnight_lt (hm : m < m') (hd : d ≤ monthLength m) (hd' : 1 ≤ d') :
    midnight m d < midnight m' d' := by
  have hstart : monthStart (m + 1) ≤ monthStart m' := monthStart_strictMono.monotone hm
  rw [monthStart_succ] at hstart
  unfold midnight hour
  omega

/-- Midnights are ordered as their months are, and within a month as their days. -/
theorem midnight_le_iff (hd : 1 ≤ d ∧ d ≤ monthLength m) (hd' : 1 ≤ d' ∧ d' ≤ monthLength m') :
    midnight m d ≤ midnight m' d' ↔ m < m' ∨ m = m' ∧ d ≤ d' := by
  rcases lt_trichotomy m m' with h | rfl | h
  · simp only [h, true_or, iff_true]
    exact (midnight_lt h hd.2 hd'.1).le
  · simp only [lt_irrefl, false_or, true_and]
    unfold midnight hour
    omega
  · have hlt := midnight_lt h hd'.2 hd.1
    constructor
    · intro hle
      omega
    · intro hle
      omega

theorem truncateDay_midnight (hc : 0 ≤ c ∧ c < 24 * hour) (ht : t = midnight m d + c) :
    Time.truncateDay t = midnight m d := by
  have hday : day = 24 * hour := rfl
  rw [Time.truncateDay, hday, (dayNumber_eq hc ht).2, ht, add_sub_cancel_right]

theorem monthOf_midnight (hd : 1 ≤ d ∧ d ≤ monthLength m) (hc : 0 ≤ c ∧ c < 24 * hour)
    (ht : t = midnight m d + c) : monthOf t = m := by
  obtain ⟨hyear, hmonth, -⟩ := civil_midnight hd hc ht
  rw [monthOf, hyear, hmonth]
  omega

/-- The time of day of the first date is lost. -/
theorem nextInvoiceDate_midnight (hd : 1 ≤ d ∧ d ≤ monthLength m) (hc : 0 ≤ c ∧ c < 24 * hour)
    (ht : t = midnight m d + c) (billingDay : ℤ) :
    nextInvoiceDate t billingDay = midnight (monthAfter m d) (clampBillingDay billingDay) := by
  have hadd := addDate_midnight hd hc ht 1 0
  rw [add_zero] at hadd
  have hlength := monthLength_bounds (m + 2)
  have hlength' := monthLength_bounds (m + 1)
  have hlength'' := monthLength_bounds m
  obtain ⟨hyear, hmonth⟩ : year (addDate t 0 1 0) = monthAfter m d / 12 ∧
      month (addDate t 0 1 0) = monthAfter m d % 12 + 1 := by
    unfold monthAfter
    split_ifs with hshort
    · obtain ⟨hyear, hmonth, -⟩ := civil_midnight ⟨hd.1, hshort⟩ hc hadd
      exact ⟨hyear, hmonth⟩
    · rw [midnight_carry, add_assoc m 1 1, one_add_one_eq_two] at hadd
      obtain ⟨hyear, hmonth, -⟩ := civil_midnight ⟨by omega, by omega⟩ hc hadd
      exact ⟨hyear, hmonth⟩
  have hm : 12 * (monthAfter m d / 12) + (monthAfter m d % 12 + 1) - 1 = monthAfter m d := by omega
  simp only [nextInvoiceDate, date, hyear, hmonth, hm]

end Midnight

theorem zero_bounds : (0 : ℤ) ≤ 0 ∧ 0 < 24 * hour := by
  unfold hour
  omega

/-- The date goes up. -/
theorem lt_nextInvoiceDate (t : Time) (billingDay : ℤ) :
    Time.truncateDay t < nextInvoiceDate t billingDay := by
  obtain ⟨m, d, c, hd, hc, ht⟩ := exists_midnight t
  have hmonth := monthAfter_bounds m d
  rw [truncateDay_midnight hc ht, nextInvoiceDate_midnight hd hc ht]
  exact midnight_lt (by omega) hd.2 (clampBillingDay_bounds billingDay).1

/-- The date is one of midnight. -/
theorem truncateDay_nextInvoiceDate (t : Time) (billingDay : ℤ) :
    Time.truncateDay (nextInvoiceDate t billingDay) = nextInvoiceDate t billingDay := by
  obtain ⟨m, d, c, hd, hc, ht⟩ := exists_midnight t
  rw [nextInvoiceDate_midnight hd hc ht]
  exact truncateDay_midnight zero_bounds (add_zero _).symm

end Rosmon.Billing
