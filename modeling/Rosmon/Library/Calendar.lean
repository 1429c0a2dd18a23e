import Mathlib

namespace Rosmon.Library.Calendar

/-- Every fourth year, but of the full centuries only every fourth. -/
abbrev Leap (year : ℤ) : Prop := year % 4 = 0 ∧ (year % 100 ≠ 0 ∨ year % 400 = 0)

/-- The length of a month. Months are counted from January of the year 0. -/
def monthLength (m : ℤ) : ℤ :=
  if m % 12 = 1 then if Leap (m / 12) then 29 else 28
  else if m % 12 = 3 ∨ m % 12 = 5 ∨ m % 12 = 8 ∨ m % 12 = 10 then 30 else 31

/-- The first day of a month, where days are counted from 1 January 1970. The years
of the computation start in March, so that a leap day is the last of its year. -/
def monthStart (m : ℤ) : ℤ :=
  let year := (m - 2) / 12
  365 * year + year / 4 - year / 100 + year / 400 + (153 * ((m - 2) % 12) + 2) / 5 - 719468

theorem monthLength_bounds (m : ℤ) : 28 ≤ monthLength m ∧ monthLength m ≤ 31 := by
  unfold monthLength
  split_ifs <;> omega

theorem monthStart_succ (m : ℤ) : monthStart (m + 1) = monthStart m + monthLength m := by
  unfold monthStart monthLength Leap
  by_cases hfeb : m % 12 = 1
  · simp only [hfeb, if_true]
    split_ifs <;> omega
  · have hyear : (m + 1 - 2) / 12 = (m - 2) / 12 := by omega
    have hmonth : m % 12 = 0 ∨ m % 12 = 2 ∨ m % 12 = 3 ∨ m % 12 = 4 ∨ m % 12 = 5 ∨ m % 12 = 6 ∨
      m % 12 = 7 ∨ m % 12 = 8 ∨ m % 12 = 9 ∨ m % 12 = 10 ∨ m % 12 = 11 := by omega
    simp only [hfeb, if_false, hyear]
    rcases hmonth with h | h | h | h | h | h | h | h | h | h | h <;> simp [h] <;> omega

/-- Later months start later. -/
theorem monthStart_strictMono : StrictMono monthStart := by
  refine strictMono_int_of_lt_succ fun m ↦ ?_
  have hlength := monthLength_bounds m
  rw [monthStart_succ]
  omega

/-- The calendar repeats itself every 400 years. -/
theorem monthStart_add_cycles (m k : ℤ) : monthStart (m + 4800 * k) = monthStart m + 146097 * k := by
  have hyear : (m + 4800 * k - 2) / 12 = (m - 2) / 12 + 400 * k := by omega
  have hmonth : (m + 4800 * k - 2) % 12 = (m - 2) % 12 := by omega
  simp only [monthStart, hyear, hmonth]
  omega

/-- A sequence that starts below a number and ends above it passes it. -/
theorem exists_passing {f : ℕ → ℤ} {n : ℤ} {b : ℕ} (h0 : f 0 ≤ n) (hb : n < f b) :
    ∃ k, f k ≤ n ∧ n < f (k + 1) := by
  induction b with
  | zero => omega
  | succ b ih =>
    by_cases h : n < f b
    · exact ih h
    · exact ⟨b, Int.not_lt.mp h, hb⟩

/-- Every day is one of a month. -/
theorem exists_month (n : ℤ) : ∃ m, monthStart m ≤ n ∧ n < monthStart (m + 1) := by
  obtain ⟨k, hk⟩ : ∃ k, k = (n - monthStart 0) / 146097 := ⟨_, rfl⟩
  have hlow : monthStart (4800 * k + (0 : ℕ)) ≤ n := by
    have h := monthStart_add_cycles 0 k
    simp only [zero_add] at h
    simp only [Nat.cast_zero, add_zero, h]
    omega
  have hhigh : n < monthStart (4800 * k + (4800 : ℕ)) := by
    have h := monthStart_add_cycles 4800 k
    have h' := monthStart_add_cycles 0 1
    rw [add_comm (4800 : ℤ)] at h
    simp only [zero_add, mul_one] at h'
    simp only [Nat.cast_ofNat, h, h']
    omega
  obtain ⟨j, hj, hj'⟩ := exists_passing (f := fun j ↦ monthStart (4800 * k + j)) hlow hhigh
  refine ⟨4800 * k + j, hj, ?_⟩
  rw [add_assoc]
  exact_mod_cast hj'

end Rosmon.Library.Calendar
