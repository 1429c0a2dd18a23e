import Rosmon.Go.Duration
import Rosmon.Library.Calendar
import Mathlib.Tactic.Ring

namespace Rosmon.Go

open Library.Calendar

section Civil

/-- The year of a day within its cycle of 400 years. -/
theorem yearOfEra {g q i doy doe : ℤ} (hg : 0 ≤ g ∧ g < 4) (hq : 0 ≤ q ∧ q < 25)
    (hi : 0 ≤ i ∧ i < 4) (hdoy : 0 ≤ doy ∧ doy ≤ 365)
    (hleap : doy = 365 → i = 3 ∧ (q = 24 → g = 3))
    (hdoe : doe = 36524 * g + 1461 * q + 365 * i + doy) :
    (doe - doe / 1460 + doe / 36524 - doe / 146096) / 365 = 100 * g + 4 * q + i := by
  by_cases hlast : doe = 146096
  · omega
  have hera : doe / 146096 = 0 := by omega
  have hcentury : doe / 36524 = g := by omega
  have hquarter : doe / 1460 = 25 * g + q + (24 * g + q + 365 * i + doy) / 1460 := by omega
  have hturn : (24 * g + q + 365 * i + doy) / 1460 = 0 ∨
    (24 * g + q + 365 * i + doy) / 1460 = 1 := by omega
  rw [hera, hcentury, hquarter]
  by_cases hd : doy = 365
  · have hl := hleap hd
    omega
  · rcases hturn with h | h <;> rw [h] <;> omega

theorem exists_parts (y : ℤ) : ∃ e g q i, y = 400 * e + 100 * g + 4 * q + i ∧
    (0 ≤ g ∧ g < 4) ∧ (0 ≤ q ∧ q < 25) ∧ 0 ≤ i ∧ i < 4 :=
  ⟨y / 400, y % 400 / 100, y % 100 / 4, y % 4, by omega, by omega, by omega, by omega⟩

theorem civil_of_parts {n e g q i doy month : ℤ} (hg : 0 ≤ g ∧ g < 4) (hq : 0 ≤ q ∧ q < 25)
    (hi : 0 ≤ i ∧ i < 4) (hdoy : 0 ≤ doy ∧ doy ≤ 365)
    (hleap : doy = 365 → i = 3 ∧ (q = 24 → g = 3)) (hmonth : (5 * doy + 2) / 153 = month)
    (hn : n + 719468 = 146097 * e + (36524 * g + 1461 * q + 365 * i + doy)) :
    civil n = (doy - (153 * month + 2) / 5 + 1, if month < 10 then month + 3 else month - 9,
      if (if month < 10 then month + 3 else month - 9) ≤ 2 then 400 * e + 100 * g + 4 * q + i + 1
      else 400 * e + 100 * g + 4 * q + i) := by
  obtain ⟨doe, hdoe⟩ : ∃ doe, doe = 36524 * g + 1461 * q + 365 * i + doy := ⟨_, rfl⟩
  rw [← hdoe] at hn
  have hrange : 0 ≤ doe ∧ doe < 146097 := by omega
  have hera : (n + 719468) / 146097 = e := by clear hleap hmonth hdoe; omega
  have hdoe' : (n + 719468) % 146097 = doe := by clear hleap hmonth hdoe; omega
  have hyoe := yearOfEra hg hq hi hdoy hleap hdoe
  have hfour : (100 * g + 4 * q + i) / 4 = 25 * g + q := by clear hleap hmonth hyoe hdoe; omega
  have hcentury : (100 * g + 4 * q + i) / 100 = g := by clear hleap hmonth hyoe hdoe; omega
  have hdoy' : doe - (365 * (100 * g + 4 * q + i) + (25 * g + q) - g) = doy := by
    rw [hdoe]
    ring
  have hyear : 100 * g + 4 * q + i + e * 400 = 400 * e + 100 * g + 4 * q + i := by ring
  simp only [civil, hera, hdoe', hyoe, hfour, hcentury, hdoy', hmonth, hyear]

/-- A day of a month within the year that starts in March. -/
theorem dayOfYear {m r : ℤ} (h0 : 0 ≤ r) (hr : r < monthLength m) :
    0 ≤ (153 * ((m - 2) % 12) + 2) / 5 + r ∧ (153 * ((m - 2) % 12) + 2) / 5 + r ≤ 365 ∧
      ((153 * ((m - 2) % 12) + 2) / 5 + r = 365 → Leap ((m - 2) / 12 + 1)) ∧
      (5 * ((153 * ((m - 2) % 12) + 2) / 5 + r) + 2) / 153 = (m - 2) % 12 := by
  have hmonth : m % 12 = 0 ∨ m % 12 = 1 ∨ m % 12 = 2 ∨ m % 12 = 3 ∨ m % 12 = 4 ∨ m % 12 = 5 ∨
    m % 12 = 6 ∨ m % 12 = 7 ∨ m % 12 = 8 ∨ m % 12 = 9 ∨ m % 12 = 10 ∨ m % 12 = 11 := by omega
  by_cases hfeb : m % 12 = 1
  · have hyear : (m - 2) / 12 + 1 = m / 12 := by omega
    have hmp : (m - 2) % 12 = 11 := by omega
    simp only [monthLength, hfeb, if_true] at hr
    rw [hyear, hmp]
    split_ifs at hr with hleap
    · exact ⟨by omega, by omega, fun _ ↦ hleap, by omega⟩
    · exact ⟨by omega, by omega, fun _ ↦ by omega, by omega⟩
  · have hlength : monthLength m = if m % 12 = 3 ∨ m % 12 = 5 ∨ m % 12 = 8 ∨ m % 12 = 10 then 30
        else 31 := by
      simp only [monthLength, hfeb, if_false]
    rw [hlength] at hr
    rcases hmonth with h | h | h | h | h | h | h | h | h | h | h | h <;> simp [h] at hr hfeb <;>
      exact ⟨by omega, by omega, fun _ ↦ by omega, by omega⟩

/-- `civil` finds the day, the month and the year. -/
theorem civil_eq {m r : ℤ} (h0 : 0 ≤ r) (hr : r < monthLength m) :
    civil (monthStart m + r) = (r + 1, m % 12 + 1, m / 12) := by
  obtain ⟨hdoy0, hdoy, hleap, hmonth⟩ := dayOfYear h0 hr
  obtain ⟨y, hy⟩ : ∃ y, y = (m - 2) / 12 := ⟨_, rfl⟩
  obtain ⟨doy, hd⟩ : ∃ doy, doy = (153 * ((m - 2) % 12) + 2) / 5 + r := ⟨_, rfl⟩
  rw [← hd] at hdoy0 hdoy hleap hmonth
  rw [← hy] at hleap
  obtain ⟨e, g, q, i, hyear, hg, hq, hi⟩ := exists_parts y
  have hfour : y / 4 = 100 * e + 25 * g + q := by omega
  have hcentury : y / 100 = 4 * e + g := by omega
  have hcycle : y / 400 = e := by omega
  have hz : monthStart m + r + 719468 =
      146097 * e + (36524 * g + 1461 * q + 365 * i + doy) := by
    simp only [monthStart, ← hy, hfour, hcentury, hcycle]
    clear hmonth hleap hr
    omega
  have hleap' : doy = 365 → i = 3 ∧ (q = 24 → g = 3) := by
    intro h
    have hl := hleap h
    unfold Leap at hl
    clear hz hmonth hd hr
    omega
  rw [civil_of_parts hg hq hi ⟨hdoy0, hdoy⟩ hleap' hmonth hz, ← hyear]
  clear hz hmonth hleap hleap' hyear hfour hcentury hcycle
  refine Prod.ext_iff.mpr ⟨by simp only; omega, Prod.ext_iff.mpr ⟨?_, ?_⟩⟩
  · simp only
    split_ifs <;> omega
  · simp only
    split_ifs <;> omega

end Civil

section Dates

/-- `t.Year()`, `t.Month()` and `t.Day()`, in UTC. -/
def year (t : ℤ) : ℤ := (civil (t / (24 * hour))).2.2

def month (t : ℤ) : ℤ := (civil (t / (24 * hour))).2.1

def dayOfMonth (t : ℤ) : ℤ := (civil (t / (24 * hour))).1

/-- The midnight that a day of a month starts with. -/
def midnight (m d : ℤ) : ℤ := (monthStart m + d - 1) * (24 * hour)

/-- `time.Date(year, month, day, 0, 0, 0, 0, time.UTC)`. Months that are out of range
carry over to the year, and days to the month. -/
def date (year month day : ℤ) : ℤ := midnight (12 * year + month - 1) day

/-- `t.AddDate(years, months, days)`, which keeps the time of day. -/
def addDate (t years months days : ℤ) : ℤ :=
  date (year t + years) (month t + months) (dayOfMonth t + days) + t % (24 * hour)

/-- A day after the end of a month is one of the next month. -/
theorem midnight_carry (m d : ℤ) : midnight m d = midnight (m + 1) (d - monthLength m) := by
  unfold midnight
  rw [monthStart_succ]
  ring

variable {m d c t : ℤ}

theorem dayNumber_eq (hc : 0 ≤ c ∧ c < 24 * hour) (ht : t = midnight m d + c) :
    t / (24 * hour) = monthStart m + (d - 1) ∧ t % (24 * hour) = c := by
  unfold midnight at ht
  unfold hour at *
  omega

theorem civil_midnight (hd : 1 ≤ d ∧ d ≤ monthLength m) (hc : 0 ≤ c ∧ c < 24 * hour)
    (ht : t = midnight m d + c) : year t = m / 12 ∧ month t = m % 12 + 1 ∧ dayOfMonth t = d := by
  have hcivil := civil_eq (m := m) (r := d - 1) (by omega) (by omega)
  rw [← (dayNumber_eq hc ht).1] at hcivil
  simp only [year, month, dayOfMonth, hcivil, true_and]
  omega

/-- Every time is on one day of one month. -/
theorem exists_midnight (t : ℤ) : ∃ m d c, (1 ≤ d ∧ d ≤ monthLength m) ∧
    (0 ≤ c ∧ c < 24 * hour) ∧ t = midnight m d + c := by
  obtain ⟨m, hlow, hhigh⟩ := exists_month (t / (24 * hour))
  rw [monthStart_succ] at hhigh
  refine ⟨m, t / (24 * hour) - monthStart m + 1, t % (24 * hour), by omega, ?_, ?_⟩
  · unfold hour
    omega
  · unfold midnight hour
    omega

theorem addDate_midnight (hd : 1 ≤ d ∧ d ≤ monthLength m) (hc : 0 ≤ c ∧ c < 24 * hour)
    (ht : t = midnight m d + c) (months days : ℤ) :
    addDate t 0 months days = midnight (m + months) (d + days) + c := by
  obtain ⟨hyear, hmonth, hday⟩ := civil_midnight hd hc ht
  have hm : 12 * (m / 12 + 0) + (m % 12 + 1 + months) - 1 = m + months := by omega
  simp only [addDate, date, hyear, hmonth, hday, hm, (dayNumber_eq hc ht).2]

example : addDate (date 2024 1 31) 0 1 0 = date 2024 3 2 := by decide +kernel

end Dates

end Rosmon.Go
