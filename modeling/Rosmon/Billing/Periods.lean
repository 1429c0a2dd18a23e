import Rosmon.Billing.EveryMonth
import Rosmon.Library.Tiling

namespace Rosmon.Billing

open Go Library Library.Calendar Library.Tiling Store Program Service Job Handler

/-- The number of the first day of a period, counted from 1 January 1970. -/
def firstDay (p : Time × Time) : ℤ := p.1 / day

def lastDay (p : Time × Time) : ℤ := p.2 / day

def NoDayTwice (ps : List (Time × Time)) : Prop :=
  ps.Pairwise fun p q ↦
    ∀ n, firstDay p ≤ n ∧ n ≤ lastDay p → ¬(firstDay q ≤ n ∧ n ≤ lastDay q)

/-- Between the start of a period and the end of another, each day is in one of them. -/
def NoDayLeftOut (ps : List (Time × Time)) : Prop :=
  ∀ p ∈ ps, ∀ q ∈ ps, ∀ n, firstDay p ≤ n → n ≤ lastDay q →
    ∃ r ∈ ps, firstDay r ≤ n ∧ n ≤ lastDay r

section Intervals

variable {f : ℕ → Time × Time} {k : ℕ}

theorem noDayTwice_iff : NoDayTwice ((List.range k).map f) ↔
    Separate (fun j ↦ firstDay (f j)) (fun j ↦ lastDay (f j) + 1) k := by
  rw [NoDayTwice, List.pairwise_map, List.pairwise_iff_getElem]
  simp only [List.length_range, List.getElem_range, Separate, Int.lt_add_one_iff]
  constructor
  · intro h i j hij hj
    exact h i j (hij.trans hj) hj hij
  · intro h i j _ hj hij
    exact h i j hij hj

theorem noDayLeftOut_iff : NoDayLeftOut ((List.range k).map f) ↔
    Gapless (fun j ↦ firstDay (f j)) (fun j ↦ lastDay (f j) + 1) k := by
  simp only [NoDayLeftOut, Gapless, List.mem_map, List.mem_range, Int.lt_add_one_iff]
  constructor
  · intro h i hi j hj n hstart hend
    obtain ⟨-, ⟨l, hl, rfl⟩, hcovers⟩ := h _ ⟨i, hi, rfl⟩ _ ⟨j, hj, rfl⟩ n hstart hend
    exact ⟨l, hl, hcovers⟩
  · intro h p hp q hq n hstart hend
    obtain ⟨i, hi, rfl⟩ := hp
    obtain ⟨j, hj, rfl⟩ := hq
    obtain ⟨l, hl, hcovers⟩ := h i hi j hj n hstart hend
    exact ⟨f l, ⟨l, hl, rfl⟩, hcovers⟩

end Intervals

section Days

variable {m d : ℤ} {today : Time} {billingDay : ℤ}

theorem div_day_lt {a b : ℤ} (h : a + day ≤ b) : a / day < b / day := by
  unfold day at *
  omega

theorem midnight_div (m d : ℤ) : midnight m d / day = monthStart m + d - 1 :=
  Int.mul_ediv_cancel _ (by decide)

theorem firstDay_period (m d : ℤ) : firstDay (period (midnight m d)) = monthStart m + d - 1 :=
  midnight_div m d

/-- A period ends on the day before the one that it starts with. -/
theorem lastDay_period (hd : 1 ≤ d ∧ d ≤ monthLength m) :
    lastDay (period (midnight m d)) + 1 = monthStart (m + 1) + d - 1 := by
  have hend : lastDay (period (midnight m d)) = monthStart (m + 1) + (d + -1) - 1 := by
    rw [lastDay, period, addDate_midnight hd zero_bounds (add_zero _).symm, add_zero, midnight_div]
  omega

theorem period_nonempty (hd : 1 ≤ d ∧ d ≤ monthLength m) :
    firstDay (period (midnight m d)) < lastDay (period (midnight m d)) + 1 := by
  have hlater := monthStart_strictMono (Int.lt_succ m)
  rw [firstDay_period, lastDay_period hd]
  omega

/-- The periods from the second one on follow one another. -/
theorem period_succ (hd : 1 ≤ d ∧ d ≤ monthLength m) (htoday : today = midnight m d) (j : ℕ) :
    lastDay (period (startDate today billingDay (j + 1))) + 1 =
      firstDay (period (startDate today billingDay (j + 2))) := by
  rw [startDate_succ _ hd htoday, startDate_succ _ hd htoday, firstDay_period,
    lastDay_period (clampBillingDay_le _ _), Nat.cast_succ, add_assoc]

/-- The first period is followed by the second one just if the billing day is the day one
month later. -/
theorem period_zero (hd : 1 ≤ d ∧ d ≤ monthLength m) (htoday : today = midnight m d) :
    lastDay (period (startDate today billingDay 0)) + 1 =
      firstDay (period (startDate today billingDay 1)) ↔
        clampBillingDay billingDay = dayOfMonth (addDate today 0 1 0) := by
  have hadd := addDate_midnight hd zero_bounds (htoday.trans (add_zero _).symm) 1 0
  have hlength := monthLength_bounds (m + 2)
  have hlength' := monthLength_bounds (m + 1)
  have hlength'' := monthLength_bounds m
  have hnext := monthStart_succ (m + 1)
  rw [add_assoc m 1 1, one_add_one_eq_two] at hnext
  rw [add_zero d] at hadd
  rw [startDate_succ _ hd htoday, firstDay_period, startDate, Nat.cast_zero, add_zero]
  have hend := lastDay_period hd
  rw [← htoday] at hend
  rw [hend, monthAfter]
  split_ifs with hshort
  · obtain ⟨-, -, hday⟩ := civil_midnight ⟨hd.1, hshort⟩ zero_bounds hadd
    rw [hday]
    omega
  · rw [midnight_carry, add_assoc m 1 1, one_add_one_eq_two] at hadd
    obtain ⟨-, -, hday⟩ := civil_midnight ⟨by omega, by omega⟩ zero_bounds hadd
    rw [hday]
    omega

/-- Each date is a midnight. -/
theorem exists_startDate (hd : 1 ≤ d ∧ d ≤ monthLength m) (htoday : today = midnight m d) (j : ℕ) :
    ∃ m d, (1 ≤ d ∧ d ≤ monthLength m) ∧ startDate today billingDay j = midnight m d := by
  cases j with
  | zero => exact ⟨m, d, hd, htoday⟩
  | succ j => exact ⟨_, _, clampBillingDay_le _ _, startDate_succ _ hd htoday j⟩

theorem firstDay_strictMono (hwhole : Time.truncateDay today = today) :
    StrictMono fun j ↦ firstDay (period (startDate today billingDay j)) := by
  intro i j hij
  exact div_day_lt (add_day_le (startDate_whole _ hwhole i) (startDate_whole _ hwhole j)
    (startDate_strictMono _ hwhole hij))

end Days

/-- Installed on 20 January and billed on each fifth. -/
def afterTheFifth : Installation := installation 5 1 20 (by decide)

/-- Installed on 5 January and billed on each twentieth. -/
def beforeTheTwentieth : Installation := installation 20 1 5 (by decide)

end Rosmon.Billing
