import Mathlib.Data.Nat.Log
import Rosmon.Go.Duration
import Rosmon.Go.Rounding

namespace Rosmon.Go

open Library

theorem roundHalfEven_lt {q : ℚ} {n : ℤ} (h : q < n - 1 / 2) : roundHalfEven q < n := by
  have hfloor : ⌊q⌋ < n := by
    have hlow := Int.floor_le q
    have hlt : (⌊q⌋ : ℚ) < n := by linarith
    exact_mod_cast hlt
  obtain ⟨hq, -⟩ | ⟨hq, hup⟩ := roundHalfEven_cases q
  · omega
  · by_contra hge
    have hn : (⌊q⌋ : ℚ) = n - 1 := by
      have hint : ⌊q⌋ = n - 1 := by omega
      rw [hint]
      push_cast
      rfl
    rw [hn] at hup
    obtain hup | ⟨hup, -⟩ := hup <;> linarith

theorem le_roundHalfEven_iff {q : ℚ} {n : ℤ} (heven : n % 2 = 0) :
    n ≤ roundHalfEven q ↔ n - 1 / 2 ≤ q := by
  constructor
  · intro h
    by_contra hlt
    exact absurd (roundHalfEven_lt (not_le.mp hlt)) (not_lt.mpr h)
  · intro h
    have hcast : n = roundHalfEven ((n : ℚ)) := (roundHalfEven_rounding.cast n).symm
    obtain hlt | hge := lt_or_ge q n
    · have hfloor : ⌊q⌋ = n - 1 := by
        rw [Int.floor_eq_iff]
        push_cast
        constructor <;> linarith
      obtain ⟨hq, hlow⟩ | ⟨hq, -⟩ := roundHalfEven_cases q
      · rw [hfloor] at hlow
        push_cast at hlow
        obtain hlow | ⟨-, hodd⟩ := hlow
        · linarith
        · omega
      · omega
    · rw [hcast]
      exact roundHalfEven_mono hge

section Nearest

variable {q : ℚ} {t : ℤ}

/-- Where the exponent is known: which numbers are rounded to at least an even one. -/
theorem le_nearest_iff (ht : -1074 ≤ t) (hlow : 2 ^ (52 + t) ≤ q) (hhigh : q < 2 ^ (53 + t)) {n : ℤ}
    (heven : n % 2 = 0) : n * 2 ^ t ≤ nearest q ↔ (n - 1 / 2) * 2 ^ t ≤ q := by
  have hround : nearest q = roundHalfEven (q / 2 ^ t) * 2 ^ t :=
    BinaryFormat.round_eq (F := binary64) ht hlow (by convert hhigh using 2; simp [binary64]; ring)
  have hpos : (0 : ℚ) < 2 ^ t := by positivity
  rw [hround, mul_le_mul_iff_left₀ hpos, Int.cast_le, le_roundHalfEven_iff heven, le_div_iff₀ hpos]

/-- What is not rounded to an even number stays below it by a whole step. -/
theorem nearest_le_of_lt (ht : -1074 ≤ t) (hlow : 2 ^ (52 + t) ≤ q) (hhigh : q < 2 ^ (53 + t))
    {n : ℤ} (h : nearest q < n * 2 ^ t) : nearest q ≤ n * 2 ^ t - 2 ^ t := by
  have hround : nearest q = roundHalfEven (q / 2 ^ t) * 2 ^ t :=
    BinaryFormat.round_eq (F := binary64) ht hlow (by convert hhigh using 2; simp [binary64]; ring)
  have hpos : (0 : ℚ) < 2 ^ t := by positivity
  rw [hround, mul_lt_mul_iff_left₀ hpos, Int.cast_lt] at h
  have hle : (roundHalfEven (q / 2 ^ t) : ℚ) ≤ n - 1 := by
    have : roundHalfEven (q / 2 ^ t) ≤ n - 1 := by omega
    exact_mod_cast this
  rw [hround, ← sub_one_mul]
  exact mul_le_mul_of_nonneg_right hle hpos.le

/-- What lies below an integer by more than half a step is not rounded up to it. -/
theorem nearest_lt (hq : 0 < q) (ht : -1074 ≤ t) (ht' : t ≤ 0) (hhigh : q < 2 ^ (53 + t)) {n : ℤ}
    (h : q + 2 ^ t / 2 < n) : nearest q < n := by
  have hexp : binary64.exponent q ≤ t := by
    have hlog := (Int.lt_zpow_iff_log_lt (b := 2) (by decide) hq).mp (by exact_mod_cast hhigh)
    unfold BinaryFormat.exponent
    rw [abs_of_pos hq]
    simp only [binary64]
    omega
  generalize he : binary64.exponent q = e at hexp
  have hpos : (0 : ℚ) < 2 ^ e := by positivity
  have hround : nearest q = roundHalfEven (q / 2 ^ e) * 2 ^ e := by
    unfold nearest BinaryFormat.round
    rw [if_neg hq.ne', he]
  obtain ⟨m, hm⟩ := Int.eq_ofNat_of_zero_le (show 0 ≤ -e by omega)
  have hn : (n : ℚ) = ((n * 2 ^ m : ℤ) : ℚ) * 2 ^ e := by
    have hone : (2 : ℚ) ^ m * 2 ^ e = 1 := by
      rw [← zpow_natCast, ← hm, ← zpow_add₀ two_ne_zero, neg_add_cancel, zpow_zero]
    push_cast
    rw [mul_assoc, hone, mul_one]
  have hstep : (2 : ℚ) ^ e ≤ 2 ^ t := zpow_le_zpow_right₀ one_le_two hexp
  have hbelow : q / 2 ^ e < ((n * 2 ^ m : ℤ) : ℚ) - 1 / 2 := by
    rw [div_lt_iff₀ hpos, sub_mul, ← hn]
    linarith
  have hlt := roundHalfEven_lt hbelow
  have hlt' : (roundHalfEven (q / 2 ^ e) : ℚ) < ((n * 2 ^ m : ℤ) : ℚ) := by exact_mod_cast hlt
  rw [hround, hn]
  exact mul_lt_mul_of_pos_right hlt' hpos

end Nearest

section Duration

theorem has_intCast {n : ℤ} (h : |n| < 2 ^ 53) : binary64.Has n := by
  refine ⟨n, 0, h, by decide, ?_⟩
  rw [zpow_zero, mul_one]

theorem rounded_eq {q : ℚ} (h : |q| ≤ 2 ^ 63) : rounded q = nearest q := by
  obtain ⟨r, hr⟩ := Option.ne_none_iff_exists'.mp (toFloat64_ne_none h)
  rw [rounded, hr, Option.getD_some, nearest_of_toFloat64 hr]

/-- The hours of a duration are rounded up to a whole number of them. -/
def hoursRoundUp (d : ℤ) : Prop :=
  (hour - d % hour) * 2 ^ 54 ≤ hour * (2 ^ (Nat.log 2 (d / hour).toNat + 1) + 1)

instance (d : ℤ) : Decidable (hoursRoundUp d) := inferInstanceAs (Decidable (_ ≤ _))

/-- The part of an hour. -/
theorem fraction_bounds (d : ℤ) :
    0 ≤ nearest ((d % hour : ℤ) / hour) ∧ nearest ((d % hour : ℤ) / hour) < 1 := by
  have hpos : (0 : ℤ) < hour := by decide
  have hlow := Int.emod_nonneg d hpos.ne'
  have hhigh := Int.emod_lt_of_pos d hpos
  have hhour : (0 : ℚ) < hour := by exact_mod_cast hpos
  constructor
  · have hzero : binary64.Has (0 : ℤ) := has_intCast (by decide)
    have hle := BinaryFormat.le_round roundHalfEven_rounding hzero
      (q := (d % hour : ℤ) / hour) (by rw [Int.cast_zero]; positivity)
    rwa [Int.cast_zero] at hle
  · have hbelow : binary64.Has ((2 ^ 53 - 1 : ℤ) * 2 ^ (-53 : ℤ)) :=
      ⟨2 ^ 53 - 1, -53, by decide, by decide, rfl⟩
    have hle := BinaryFormat.round_le roundHalfEven_rounding hbelow
      (q := (d % hour : ℤ) / hour) ?_
    · refine hle.trans_lt ?_
      norm_num
    · rw [div_le_iff₀ hhour]
      have hint : (d % hour : ℤ) ≤ hour - 1 := by omega
      have hcast : ((d % hour : ℤ) : ℚ) ≤ hour - 1 := by exact_mod_cast hint
      refine hcast.trans ?_
      norm_num [hour]

/-- Which part of an hour comes so near to a whole one that the sum with whole hours is rounded. -/
theorem le_fraction_iff (d : ℤ) {L : ℕ} (hL : 1 ≤ L) (hL' : L ≤ 21) :
    1 - 2 ^ (L - 53 : ℤ) ≤ nearest ((d % hour : ℤ) / hour) ↔
      (hour - d % hour) * 2 ^ 54 ≤ hour * (2 ^ (L + 1) + 1) := by
  have hpos : (0 : ℤ) < hour := by decide
  have hhigh := Int.emod_lt_of_pos d hpos
  have hhour : (0 : ℚ) < hour := by exact_mod_cast hpos
  have hbit : (2 : ℚ) ^ (L - 53 : ℤ) = 2 ^ L * 2 ^ (-53 : ℤ) := by
    rw [sub_eq_add_neg, zpow_add₀ two_ne_zero, zpow_natCast]
  have hsmall : (2 : ℤ) ^ (L + 1) ≤ 2 ^ 22 := pow_le_pow_right₀ (by decide) (by omega)
  generalize d % hour = m at hhigh
  obtain hhalf | hhalf := lt_or_ge (2 * m) hour
  · have hleft : nearest ((m : ℤ) / hour) ≤ 2 ^ (-1 : ℤ) := by
      refine BinaryFormat.round_le roundHalfEven_rounding (BinaryFormat.has_zpow (by decide)) ?_
      have hcast : (2 * m : ℚ) < hour := by exact_mod_cast hhalf
      rw [div_le_iff₀ hhour, zpow_neg_one]
      linarith
    have hbelow : (2 : ℚ) ^ (L - 53 : ℤ) ≤ 2 ^ (-2 : ℤ) :=
      zpow_le_zpow_right₀ one_le_two (by omega)
    constructor
    · intro h
      norm_num at hleft hbelow
      linarith
    · intro h
      have hmany : hour * (2 ^ (L + 1) + 1) ≤ hour * (2 ^ 22 + 1) :=
        Int.mul_le_mul_of_nonneg_left (by omega) hpos.le
      omega
  · have heven : (2 ^ 53 - 2 ^ L : ℤ) % 2 = 0 := by
      obtain ⟨n, rfl⟩ : ∃ n, L = n + 1 := ⟨L - 1, by omega⟩
      rw [pow_succ]
      omega
    have hlow : (2 : ℚ) ^ (52 + -53 : ℤ) ≤ (m : ℤ) / hour := by
      have hcast : (hour : ℚ) ≤ 2 * m := by exact_mod_cast hhalf
      rw [le_div_iff₀ hhour]
      norm_num
      linarith
    have hhigh' : ((m : ℤ) : ℚ) / hour < 2 ^ (53 + -53 : ℤ) := by
      have hcast : (m : ℚ) < hour := by exact_mod_cast hhigh
      rw [div_lt_iff₀ hhour]
      simpa using hcast
    have hleft : (1 : ℚ) - 2 ^ (L - 53 : ℤ) = ((2 ^ 53 - 2 ^ L : ℤ) : ℚ) * 2 ^ (-53 : ℤ) := by
      rw [hbit]
      push_cast
      rw [sub_mul]
      norm_num
    rw [hleft, le_nearest_iff (by decide) hlow hhigh' heven, le_div_iff₀ hhour]
    have hscale : ((((2 ^ 53 - 2 ^ L : ℤ) : ℚ) - 1 / 2) * 2 ^ (-53 : ℤ)) * hour * 2 ^ 54 =
        ((2 ^ 54 - 2 ^ (L + 1) - 1) * hour : ℤ) := by
      push_cast
      norm_num
      ring
    have hcast : ((m : ℤ) : ℚ) * 2 ^ 54 = (m * 2 ^ 54 : ℤ) := by push_cast; rfl
    rw [← mul_le_mul_iff_left₀ (by norm_num : (0 : ℚ) < 2 ^ 54), hscale, hcast, Int.cast_le]
    constructor <;> intro h <;> nlinarith

section Hours

variable {d : ℤ} (hd : 0 ≤ d) (hd' : d < 2 ^ 63)

include hd hd'

theorem hour_count_bounds : 0 ≤ d / hour ∧ d / hour < 2 ^ 22 := by
  constructor
  · exact Int.ediv_nonneg hd (by decide)
  · exact Int.ediv_lt_of_lt_mul (by decide) (hd'.trans_le (by decide))

theorem hours_eq : hours d = nearest ((d / hour : ℤ) + nearest ((d % hour : ℤ) / hour)) := by
  obtain ⟨hlow, hhigh⟩ := hour_count_bounds hd hd'
  obtain ⟨hpart, hpart'⟩ := fraction_bounds d
  have hcount : binary64.Has (d / hour : ℤ) := has_intCast (by rw [abs_of_nonneg hlow]; omega)
  have hlow' : (0 : ℚ) ≤ (d / hour : ℤ) := by exact_mod_cast hlow
  have hhigh' : ((d / hour : ℤ) : ℚ) < 2 ^ 22 := by exact_mod_cast hhigh
  have hfraction : |((d % hour : ℤ) : ℚ) / hour| ≤ 2 ^ 63 := by
    have hpos : (0 : ℤ) < hour := by decide
    have hhour : (0 : ℚ) < hour := by exact_mod_cast hpos
    have hlt : ((d % hour : ℤ) : ℚ) < hour := by exact_mod_cast Int.emod_lt_of_pos d hpos
    have hnonneg : (0 : ℚ) ≤ (d % hour : ℤ) := by exact_mod_cast Int.emod_nonneg d hpos.ne'
    rw [abs_of_nonneg (by positivity), div_le_iff₀ hhour]
    linarith
  have hwhole : |((d / hour : ℤ) : ℚ)| ≤ 2 ^ 63 := by
    rw [abs_of_nonneg hlow']
    linarith
  have hsum : |((d / hour : ℤ) : ℚ) + nearest ((d % hour : ℤ) / hour)| ≤ 2 ^ 63 := by
    rw [abs_of_nonneg (by linarith)]
    linarith
  unfold hours
  rw [Int.tdiv_eq_ediv_of_nonneg hd, Int.tmod_eq_emod_of_nonneg hd, rounded_eq hfraction,
    rounded_eq hwhole, nearest_of_has hcount, rounded_eq hsum]

theorem hours_bounds : ((d / hour : ℤ) : ℚ) ≤ hours d ∧ hours d ≤ (d / hour : ℤ) + 1 := by
  obtain ⟨hlow, hhigh⟩ := hour_count_bounds hd hd'
  obtain ⟨hpart, hpart'⟩ := fraction_bounds d
  have hcount : binary64.Has (d / hour : ℤ) := has_intCast (by rw [abs_of_nonneg hlow]; omega)
  have hnext : binary64.Has (d / hour + 1 : ℤ) :=
    has_intCast (by rw [abs_of_nonneg (by omega)]; omega)
  rw [hours_eq hd hd']
  constructor
  · exact BinaryFormat.le_round roundHalfEven_rounding hcount (by linarith)
  · have hle := BinaryFormat.round_le roundHalfEven_rounding hnext
      (q := (d / hour : ℤ) + nearest ((d % hour : ℤ) / hour)) (by push_cast; linarith)
    exact_mod_cast hle

/-- From the second hour on: the hours reach the next whole number, or miss it by a step. -/
theorem hours_next (hcount : 2 ≤ d / hour) :
    (((d / hour : ℤ) : ℚ) + 1 ≤ hours d ↔ hoursRoundUp d) ∧
      (hours d < (d / hour : ℤ) + 1 →
        hours d ≤ (d / hour : ℤ) + 1 - 2 ^ (Nat.log 2 (d / hour).toNat - 52 : ℤ)) := by
  obtain ⟨-, hmany⟩ := hour_count_bounds hd hd'
  obtain ⟨hpart, hpart'⟩ := fraction_bounds d
  rw [hours_eq hd hd']
  unfold hoursRoundUp
  have hcast : ((d / hour).toNat : ℤ) = d / hour := Int.toNat_of_nonneg (by omega)
  have hne : (d / hour).toNat ≠ 0 := by omega
  have hlog := Nat.pow_log_le_self 2 hne
  have hlog' := Nat.lt_pow_succ_log_self (b := 2) (by decide) (d / hour).toNat
  have hL : 1 ≤ Nat.log 2 (d / hour).toNat := by
    by_contra hzero
    rw [show Nat.log 2 (d / hour).toNat = 0 by omega] at hlog'
    omega
  have hL' : Nat.log 2 (d / hour).toNat ≤ 21 := by
    have hlt : Nat.log 2 (d / hour).toNat < 22 := Nat.log_lt_of_lt_pow hne (by omega)
    omega
  rw [← le_fraction_iff d hL hL']
  generalize Nat.log 2 (d / hour).toNat = L at *
  have hlow : (2 : ℚ) ^ L ≤ (d / hour : ℤ) := by
    rw [← hcast]
    exact_mod_cast hlog
  have hhigh : ((d / hour : ℤ) : ℚ) + 1 ≤ 2 ^ (L + 1) := by
    rw [← hcast]
    exact_mod_cast hlog'
  generalize hn : d / hour = n at *
  generalize nearest ((d % hour : ℤ) / hour) = f at *
  have hstep : (2 : ℚ) ^ (L - 52 : ℤ) * 2 ^ (52 - L) = 1 := by
    rw [← zpow_natCast, ← zpow_add₀ two_ne_zero, Nat.cast_sub (by omega)]
    norm_num
  have heven : (n + 1) * 2 ^ (52 - L) % 2 = 0 := by
    rw [show 52 - L = (51 - L) + 1 by omega, pow_succ, ← mul_assoc]
    exact Int.mul_emod_left _ _
  have hleft : ((n : ℤ) : ℚ) + 1 = (((n + 1) * 2 ^ (52 - L) : ℤ) : ℚ) * 2 ^ (L - 52 : ℤ) := by
    push_cast
    rw [mul_assoc, mul_comm (2 ^ (52 - L) : ℚ), hstep, mul_one]
  have hlow' : (2 : ℚ) ^ (52 + (L - 52) : ℤ) ≤ n + f := by
    rw [add_sub_cancel, zpow_natCast]
    linarith
  have hhigh' : (n : ℚ) + f < 2 ^ (53 + (L - 52) : ℤ) := by
    rw [show (53 + (L - 52) : ℤ) = (L + 1 : ℕ) by push_cast; ring, zpow_natCast]
    linarith
  have hhalf : (1 / 2 : ℚ) * 2 ^ (L - 52 : ℤ) = 2 ^ (L - 53 : ℤ) := by
    rw [show (L - 52 : ℤ) = (L - 53) + 1 by ring, zpow_add₀ two_ne_zero, zpow_one]
    ring
  constructor
  · rw [hleft, le_nearest_iff (by omega) hlow' hhigh' heven, sub_mul, ← hleft, hhalf]
    constructor <;> intro h <;> linarith
  · rw [hleft]
    exact nearest_le_of_lt (by omega) hlow' hhigh'

/-- The days of a duration: of the hours that `d.Hours()` has rounded up, if it has. -/
theorem wholeDays_eq : wholeDays d = (d / hour + if hoursRoundUp d then 1 else 0) / 24 := by
  obtain ⟨hcount, hcount'⟩ := hour_count_bounds hd hd'
  obtain ⟨hlow, hhigh⟩ := hours_bounds hd hd'
  have hlow' : (0 : ℚ) ≤ (d / hour : ℤ) := by exact_mod_cast hcount
  have hhigh' : ((d / hour : ℤ) : ℚ) < 2 ^ 22 := by exact_mod_cast hcount'
  have hrange : |hours d / 24| ≤ 2 ^ 63 := by
    rw [abs_of_nonneg (by linarith)]
    linarith
  -- the days are the floor of `W`, which lies between two whole numbers of days
  have hfloor (k : ℤ) (hk : 0 ≤ k) (hk' : k < 2 ^ 22) (hle : (k : ℚ) ≤ nearest (hours d / 24))
      (hlt : nearest (hours d / 24) < ((k + 1 : ℤ) : ℚ)) : wholeDays d = k := by
    have hk0 : (0 : ℚ) ≤ k := by exact_mod_cast hk
    have hfloor : ⌊nearest (hours d / 24)⌋ = k := by
      rw [Int.floor_eq_iff]
      push_cast at hlt
      exact ⟨hle, hlt⟩
    unfold wholeDays int64OfFloat64
    rw [rounded_eq hrange, if_pos (hk0.trans hle), hfloor, if_pos (by omega)]
  have hdays (k : ℤ) (hk : 0 ≤ k) (hk' : k < 2 ^ 22) (hle : ((24 * k : ℤ) : ℚ) ≤ hours d) :
      (k : ℚ) ≤ nearest (hours d / 24) := by
    have hint : binary64.Has k := has_intCast (by rw [abs_of_nonneg hk]; omega)
    push_cast at hle
    exact BinaryFormat.le_round roundHalfEven_rounding hint (by linarith)
  obtain hfew | hmany := lt_or_ge (d / hour) 2
  · have hzero : (d / hour + if hoursRoundUp d then 1 else 0) / 24 = 0 := by
      split_ifs <;> omega
    have hfew' : ((d / hour : ℤ) : ℚ) ≤ 1 := by exact_mod_cast Int.lt_add_one_iff.mp hfew
    have hhalf := BinaryFormat.round_le roundHalfEven_rounding (q := hours d / 24)
      (BinaryFormat.has_zpow (F := binary64) (t := -1) (by decide)) (by norm_num; linarith)
    rw [hzero]
    refine hfloor 0 le_rfl (by decide) (hdays 0 le_rfl (by decide) ?_) (hhalf.trans_lt ?_)
    · push_cast
      linarith
    · norm_num
  obtain ⟨hround, hmiss⟩ := hours_next hd hd' hmany
  have hne : (d / hour).toNat ≠ 0 := by omega
  have hlog' := Nat.lt_pow_succ_log_self (b := 2) (by decide) (d / hour).toNat
  have hL : Nat.log 2 (d / hour).toNat ≤ 21 := by
    have hlt : Nat.log 2 (d / hour).toNat < 22 := Nat.log_lt_of_lt_pow hne (by omega)
    omega
  have hcast : ((d / hour).toNat : ℤ) = d / hour := Int.toNat_of_nonneg hcount
  generalize Nat.log 2 (d / hour).toNat = L at hmiss hlog' hL
  have hlast : ((d / hour : ℤ) : ℚ) + 1 ≤ 2 ^ (L + 1) := by
    rw [← hcast]
    exact_mod_cast hlog'
  have hstep : (2 : ℚ) ^ (L - 52 : ℤ) = 2 ^ (L - 56 : ℤ) * 16 := by
    rw [show (L - 52 : ℤ) = (L - 56) + 4 by ring, zpow_add₀ two_ne_zero]
    norm_num
  have hpos : (0 : ℚ) < 2 ^ (L - 56 : ℤ) := by positivity
  have hmany' : (2 : ℚ) ≤ (d / hour : ℤ) := by exact_mod_cast hmany
  have hbelow (k : ℤ) (hle : hours d ≤ ((24 * (k + 1) : ℤ) : ℚ) - 2 ^ (L - 52 : ℤ)) :
      nearest (hours d / 24) < ((k + 1 : ℤ) : ℚ) := by
    have hbinade : hours d / 24 < 2 ^ (53 + (L - 56) : ℤ) := by
      have hpow : (2 : ℚ) ^ (53 + (L - 56) : ℤ) * 16 = 2 ^ (L + 1) := by
        have hexp : ((L + 1 : ℕ) : ℤ) = (53 + (L - 56)) + 4 := by omega
        have hsixteen : (2 : ℚ) ^ (4 : ℤ) = 16 := by norm_num
        rw [← zpow_natCast, hexp, zpow_add₀ two_ne_zero (53 + (L - 56)), hsixteen]
      linarith
    refine nearest_lt (by linarith) (by omega) (by omega) hbinade ?_
    push_cast at hle ⊢
    linarith
  by_cases hcarry : hoursRoundUp d
  · have hnext := hround.mpr hcarry
    rw [if_pos hcarry]
    have hwhole : ((24 * ((d / hour + 1) / 24) : ℤ) : ℚ) ≤ (d / hour + 1 : ℤ) := by
      exact_mod_cast Int.mul_ediv_self_le (by decide)
    have hrest : ((d / hour + 1 : ℤ) : ℚ) ≤ (24 * ((d / hour + 1) / 24 + 1) - 1 : ℤ) := by
      exact_mod_cast (by omega)
    have hsmall : (2 : ℚ) ^ (L - 52 : ℤ) ≤ 1 := zpow_le_one_of_nonpos₀ one_le_two (by omega)
    push_cast at hwhole hrest
    refine hfloor _ (by omega) (by omega) (hdays _ (by omega) (by omega) ?_) (hbelow _ ?_)
    · push_cast
      linarith
    · push_cast
      linarith
  · have hshort := hmiss (not_le.mp (mt hround.mp hcarry))
    rw [if_neg hcarry, add_zero]
    have hwhole : ((24 * (d / hour / 24) : ℤ) : ℚ) ≤ (d / hour : ℤ) := by
      exact_mod_cast Int.mul_ediv_self_le (by decide)
    have hrest : ((d / hour + 1 : ℤ) : ℚ) ≤ (24 * (d / hour / 24 + 1) : ℤ) := by
      exact_mod_cast (by omega)
    push_cast at hwhole hrest
    refine hfloor _ (by omega) (by omega) (hdays _ (by omega) (by omega) ?_) (hbelow _ ?_)
    · push_cast
      linarith
    · push_cast
      linarith

end Hours

theorem wholeDays_mono {d d' : ℤ} (hd : 0 ≤ d) (h : d ≤ d') (hd' : d' < 2 ^ 63) :
    wholeDays d ≤ wholeDays d' := by
  rw [wholeDays_eq hd (h.trans_lt hd'), wholeDays_eq (hd.trans h) hd']
  have hcount : d / hour ≤ d' / hour := Int.ediv_le_ediv (by decide) h
  refine Int.ediv_le_ediv (by decide) ?_
  obtain hlt | heq := hcount.lt_or_eq
  · split_ifs <;> omega
  · have hround : hoursRoundUp d → hoursRoundUp d' := by
      intro hup
      unfold hoursRoundUp at hup ⊢
      rw [heq] at hup
      refine le_trans ?_ hup
      have hpart := Int.mul_ediv_add_emod d hour
      have hpart' := Int.mul_ediv_add_emod d' hour
      rw [heq] at hpart
      omega
    rw [heq]
    split_ifs with hup hup'
    · exact le_rfl
    · exact absurd (hround hup) hup'
    · omega
    · exact le_rfl

theorem timeSub_nonneg {t u : ℤ} (h : u ≤ t) : 0 ≤ timeSub t u := by
  unfold timeSub
  omega

theorem timeSub_lt (t u : ℤ) : timeSub t u < 2 ^ 63 := by
  unfold timeSub
  omega

theorem timeSub_mono {t t' : ℤ} (h : t ≤ t') (u : ℤ) : timeSub t u ≤ timeSub t' u := by
  unfold timeSub
  omega

end Duration

end Rosmon.Go
