import Mathlib.Algebra.Order.Field.Power
import Mathlib.Data.Int.ConditionallyCompleteOrder
import Mathlib.Data.Int.Log
import Mathlib.Data.Rat.Floor
import Mathlib.Tactic.Linarith
import Mathlib.Tactic.Positivity
import Mathlib.Tactic.Ring

namespace Rosmon.Library

/-- Floating-point numbers to the base two: the length of a fraction in bits, and the exponent of
the least number. -/
structure BinaryFormat where
  bits : ℕ
  least : ℤ

/-- A way to round to an integer. -/
structure IntRounding (ρ : ℚ → ℤ) : Prop where
  mono : Monotone ρ
  cast : ∀ n : ℤ, ρ n = n
  neg : ∀ q, ρ (-q) = -ρ q

namespace BinaryFormat

variable (F : BinaryFormat) (ρ : ℚ → ℤ)

/-- The exponent of the last bit of a number near `q`. -/
def exponent (q : ℚ) : ℤ := max (Int.log 2 |q| - F.bits) F.least

def round (q : ℚ) : ℚ := if q = 0 then 0 else ρ (q / 2 ^ F.exponent q) * 2 ^ F.exponent q

/-- The numbers of the format, of any size. -/
def Has (q : ℚ) : Prop := ∃ k t : ℤ, |k| < 2 ^ (F.bits + 1) ∧ F.least ≤ t ∧ q = k * 2 ^ t

variable {F ρ}

theorem has_zpow {t : ℤ} (h : F.least ≤ t) : F.Has (2 ^ t) :=
  ⟨1, t, by simpa using one_lt_pow₀ (one_lt_two (α := ℤ)) (Nat.succ_ne_zero _), h, by simp⟩

theorem exponent_mono {p q : ℚ} (hp : 0 < p) (h : p ≤ q) : F.exponent p ≤ F.exponent q := by
  have hlog : Int.log 2 |p| ≤ Int.log 2 |q| := by
    rw [abs_of_pos hp, abs_of_pos (hp.trans_le h)]
    exact Int.log_mono_right hp h
  exact max_le_max (by omega) le_rfl

theorem exponent_neg (q : ℚ) : F.exponent (-q) = F.exponent q := by
  unfold exponent
  rw [abs_neg]

theorem div_exponent_lt {q : ℚ} (hq : 0 < q) : q / 2 ^ F.exponent q < 2 ^ (F.bits + 1) := by
  have hlog : q < 2 ^ (Int.log 2 q + 1) := Int.lt_zpow_succ_log_self (b := 2) (by decide) q
  have hexp : Int.log 2 q + 1 ≤ F.exponent q + (F.bits + 1 : ℕ) := by
    have h : Int.log 2 |q| - F.bits ≤ F.exponent q := le_max_left _ _
    rw [abs_of_pos hq] at h
    push_cast
    omega
  rw [div_lt_iff₀ (by positivity), ← zpow_natCast, ← zpow_add₀ two_ne_zero, add_comm]
  exact hlog.trans_le (zpow_le_zpow_right₀ one_le_two hexp)

theorem le_div_exponent {q : ℚ} (hq : 0 < q) (h : F.least < F.exponent q) :
    2 ^ F.bits ≤ q / 2 ^ F.exponent q := by
  have hexp : F.exponent q = Int.log 2 q - F.bits := by
    unfold exponent at h ⊢
    rw [abs_of_pos hq] at h ⊢
    omega
  rw [le_div_iff₀ (by positivity), ← zpow_natCast, ← zpow_add₀ two_ne_zero, hexp,
    add_sub_cancel]
  exact Int.zpow_log_le_self (by decide) hq

/-- A number of the format stays as it is. -/
theorem round_of_has (hρ : IntRounding ρ) {q : ℚ} (h : F.Has q) : F.round ρ q = q := by
  obtain ⟨k, t, hk, ht, rfl⟩ := h
  by_cases h0 : (k : ℚ) * 2 ^ t = 0
  · simp only [round, h0, if_true]
  have hpos : (0 : ℚ) < |(k : ℚ) * 2 ^ t| := abs_pos.mpr h0
  have hexp : F.exponent ((k : ℚ) * 2 ^ t) ≤ t := by
    have hlt : |(k : ℚ) * 2 ^ t| < ((2 : ℕ) : ℚ) ^ ((F.bits + 1 : ℕ) + t) := by
      rw [abs_mul, abs_of_pos (zpow_pos (two_pos : (0 : ℚ) < 2) t), Nat.cast_two,
        zpow_add₀ two_ne_zero, zpow_natCast]
      have hcast : |(k : ℚ)| < 2 ^ (F.bits + 1) := by exact_mod_cast hk
      exact mul_lt_mul_of_pos_right hcast (by positivity)
    have hlog := (Int.lt_zpow_iff_log_lt (by decide) hpos).mp hlt
    push_cast at hlog
    exact max_le (by omega) ht
  obtain ⟨n, hn⟩ := Int.eq_ofNat_of_zero_le (sub_nonneg.mpr hexp)
  have hdiv : (k : ℚ) * 2 ^ t / 2 ^ F.exponent ((k : ℚ) * 2 ^ t) = ((k * 2 ^ n : ℤ) : ℚ) := by
    rw [mul_div_assoc, ← zpow_sub₀ two_ne_zero, hn, zpow_natCast]
    push_cast
    rfl
  unfold round
  rw [if_neg h0, hdiv, hρ.cast, ← hdiv, div_mul_cancel₀ _ (by positivity)]

theorem round_neg (hρ : IntRounding ρ) (q : ℚ) : F.round ρ (-q) = -F.round ρ q := by
  unfold round
  by_cases h0 : q = 0
  · rw [if_pos h0, if_pos (by rw [h0, neg_zero]), neg_zero]
  · rw [if_neg h0, if_neg (neg_ne_zero.mpr h0), exponent_neg, neg_div, hρ.neg]
    push_cast
    ring

theorem round_nonneg (hρ : IntRounding ρ) {q : ℚ} (h : 0 ≤ q) : 0 ≤ F.round ρ q := by
  unfold round
  split_ifs
  · exact le_rfl
  · have hint : ((0 : ℤ) : ℚ) ≤ q / 2 ^ F.exponent q := by
      rw [Int.cast_zero]
      positivity
    have hρ0 := hρ.mono hint
    rw [hρ.cast] at hρ0
    have : (0 : ℚ) ≤ ρ (q / 2 ^ F.exponent q) := by exact_mod_cast hρ0
    positivity

theorem round_mono_of_pos (hρ : IntRounding ρ) {p q : ℚ} (hp : 0 < p) (h : p ≤ q) :
    F.round ρ p ≤ F.round ρ q := by
  have hq := hp.trans_le h
  unfold round
  rw [if_neg hp.ne', if_neg hq.ne']
  obtain hexp | hexp := (F.exponent_mono hp h).lt_or_eq
  · -- between the two lies a power of two that both are rounded towards
    have hlow : ρ (p / 2 ^ F.exponent p) ≤ 2 ^ (F.bits + 1) := by
      have hle := hρ.mono (a := p / 2 ^ F.exponent p) (b := ((2 ^ (F.bits + 1) : ℤ) : ℚ))
        (by push_cast; exact (div_exponent_lt hp).le)
      rwa [hρ.cast] at hle
    have hhigh : 2 ^ F.bits ≤ ρ (q / 2 ^ F.exponent q) := by
      have hleast : F.least < F.exponent q := (le_max_right _ _).trans_lt hexp
      have hle := hρ.mono (a := ((2 ^ F.bits : ℤ) : ℚ)) (b := q / 2 ^ F.exponent q)
        (by push_cast; exact le_div_exponent hq hleast)
      rwa [hρ.cast] at hle
    have hlow' : (ρ (p / 2 ^ F.exponent p) : ℚ) ≤ 2 ^ (F.bits + 1) := by exact_mod_cast hlow
    have hhigh' : (2 : ℚ) ^ F.bits ≤ ρ (q / 2 ^ F.exponent q) := by exact_mod_cast hhigh
    calc (ρ (p / 2 ^ F.exponent p) : ℚ) * 2 ^ F.exponent p
        ≤ 2 ^ (F.bits + 1) * 2 ^ F.exponent p :=
          mul_le_mul_of_nonneg_right hlow' (by positivity)
      _ = 2 ^ F.bits * 2 ^ (F.exponent p + 1) := by
          rw [zpow_add₀ two_ne_zero, pow_succ, zpow_one]
          ring
      _ ≤ 2 ^ F.bits * 2 ^ F.exponent q :=
          mul_le_mul_of_nonneg_left (zpow_le_zpow_right₀ one_le_two hexp) (by positivity)
      _ ≤ ρ (q / 2 ^ F.exponent q) * 2 ^ F.exponent q :=
          mul_le_mul_of_nonneg_right hhigh' (by positivity)
  · rw [hexp]
    have hdiv : p / 2 ^ F.exponent q ≤ q / 2 ^ F.exponent q := by gcongr
    have hle : (ρ (p / 2 ^ F.exponent q) : ℚ) ≤ ρ (q / 2 ^ F.exponent q) := by
      exact_mod_cast hρ.mono hdiv
    exact mul_le_mul_of_nonneg_right hle (by positivity)

theorem round_mono (hρ : IntRounding ρ) : Monotone (F.round ρ) := by
  intro p q h
  obtain hp | hp := lt_or_ge 0 p
  · exact round_mono_of_pos hρ hp h
  obtain hq | hq := le_or_gt 0 q
  · have hneg := round_nonneg (F := F) hρ (neg_nonneg.mpr hp)
    rw [round_neg hρ] at hneg
    exact (neg_nonneg.mp hneg).trans (round_nonneg hρ hq)
  · have hle := round_mono_of_pos (F := F) hρ (neg_pos.mpr hq) (neg_le_neg h)
    rw [round_neg hρ, round_neg hρ] at hle
    exact neg_le_neg_iff.mp hle

variable {q s : ℚ}

theorem round_le (hρ : IntRounding ρ) (hs : F.Has s) (h : q ≤ s) : F.round ρ q ≤ s :=
  (round_mono hρ h).trans_eq (round_of_has hρ hs)

theorem le_round (hρ : IntRounding ρ) (hs : F.Has s) (h : s ≤ q) : s ≤ F.round ρ q :=
  (round_of_has hρ hs).symm.trans_le (round_mono hρ h)

/-- Where the exponent is known, a number is rounded as an integer is. -/
theorem round_eq {t : ℤ} (ht : F.least ≤ t) (hlow : 2 ^ (F.bits + t) ≤ q)
    (hhigh : q < 2 ^ (F.bits + t + 1)) : F.round ρ q = ρ (q / 2 ^ t) * 2 ^ t := by
  have hq : 0 < q := (zpow_pos two_pos _).trans_le hlow
  have hlog : Int.log 2 |q| = F.bits + t := by
    rw [abs_of_pos hq]
    have h1 := (Int.zpow_le_iff_le_log (b := 2) (by decide) hq).mp (by exact_mod_cast hlow)
    have h2 := (Int.lt_zpow_iff_log_lt (b := 2) (by decide) hq).mp (by exact_mod_cast hhigh)
    omega
  have hexp : F.exponent q = t := by
    unfold exponent
    rw [hlog]
    omega
  unfold round
  rw [if_neg hq.ne', hexp]

/-- What is rounded is a number of the format. -/
theorem has_round (hρ : IntRounding ρ) (q : ℚ) : F.Has (F.round ρ q) := by
  by_cases h0 : q = 0
  · exact ⟨0, F.least, by positivity, le_rfl, by simp [round, h0]⟩
  have hround : F.round ρ q = ρ (q / 2 ^ F.exponent q) * 2 ^ F.exponent q := if_neg h0
  have hlt : |q / 2 ^ F.exponent q| < 2 ^ (F.bits + 1) := by
    have habs := div_exponent_lt (F := F) (abs_pos.mpr h0)
    have hexp : F.exponent |q| = F.exponent q := by
      unfold exponent
      rw [abs_abs]
    rwa [hexp, ← abs_of_pos (zpow_pos (two_pos : (0 : ℚ) < 2) (F.exponent q)), ← abs_div] at habs
  have hle : |ρ (q / 2 ^ F.exponent q)| ≤ 2 ^ (F.bits + 1) := by
    obtain ⟨hlow, hhigh⟩ := abs_lt.mp hlt
    have hlow' := hρ.mono (a := ((-2 ^ (F.bits + 1) : ℤ) : ℚ)) (by push_cast; exact hlow.le)
    have hhigh' := hρ.mono (b := ((2 ^ (F.bits + 1) : ℤ) : ℚ)) (by push_cast; exact hhigh.le)
    rw [hρ.cast] at hlow' hhigh'
    exact abs_le.mpr ⟨hlow', hhigh'⟩
  have hleast : F.least ≤ F.exponent q := le_max_right _ _
  obtain hle | heq := hle.lt_or_eq
  · exact ⟨_, _, hle, hleast, hround⟩
  -- The next power of two needs one bit less.
  · obtain hpow | hpow := eq_or_eq_neg_of_abs_eq heq
    · refine ⟨2 ^ F.bits, F.exponent q + 1, ?_, by omega, ?_⟩
      · rw [abs_of_nonneg (by positivity)]
        exact pow_lt_pow_right₀ one_lt_two (Nat.lt_succ_self _)
      · rw [hround, hpow, zpow_add₀ two_ne_zero]
        push_cast
        ring
    · refine ⟨-2 ^ F.bits, F.exponent q + 1, ?_, by omega, ?_⟩
      · rw [abs_neg, abs_of_nonneg (by positivity)]
        exact pow_lt_pow_right₀ one_lt_two (Nat.lt_succ_self _)
      · rw [hround, hpow, zpow_add₀ two_ne_zero]
        push_cast
        ring

/-- An integer is rounded to an integer. -/
theorem round_int (hρ : IntRounding ρ) (n : ℤ) : ∃ m : ℤ, F.round ρ n = m := by
  by_cases h0 : (n : ℚ) = 0
  · exact ⟨0, by simp [round, h0]⟩
  have hround : F.round ρ n = ρ (n / 2 ^ F.exponent n) * 2 ^ F.exponent n := if_neg h0
  obtain ⟨t, ht | ht⟩ := Int.eq_nat_or_neg (F.exponent n)
  · refine ⟨ρ (n / 2 ^ F.exponent n) * 2 ^ t, ?_⟩
    rw [hround, ht, zpow_natCast]
    push_cast
    rfl
  · have hdiv : (n : ℚ) / 2 ^ F.exponent n = ((n * 2 ^ t : ℤ) : ℚ) := by
      rw [ht, zpow_neg, zpow_natCast, div_inv_eq_mul]
      push_cast
      rfl
    refine ⟨n, ?_⟩
    rw [hround, hdiv, hρ.cast, ← hdiv, div_mul_cancel₀ _ (by positivity)]

theorem abs_mul_zpow_lt {k t : ℤ} (hk : |k| < 2 ^ (F.bits + 1)) :
    |(k : ℚ) * 2 ^ t| < 2 ^ (F.bits + 1) * 2 ^ t := by
  have hpos : (0 : ℚ) < 2 ^ t := zpow_pos two_pos t
  have hk' : |(k : ℚ)| < 2 ^ (F.bits + 1) := by exact_mod_cast hk
  rw [abs_mul, abs_of_pos hpos]
  exact mul_lt_mul_of_pos_right hk' hpos

/-- Far from the least number, halves are numbers of the format. -/
theorem has_div_two_pow {q : ℚ} (h : F.Has q) (n : ℕ)
    (hbig : (2 : ℚ) ^ (F.least + F.bits + n : ℤ) ≤ |q|) : F.Has (q / 2 ^ n) := by
  obtain ⟨k, t, hk, -, rfl⟩ := h
  have hlt : (2 : ℚ) ^ (F.least + F.bits + n : ℤ) < 2 ^ (((F.bits + 1 : ℕ) : ℤ) + t) := by
    rw [zpow_add₀ two_ne_zero ((F.bits + 1 : ℕ) : ℤ), zpow_natCast]
    exact hbig.trans_lt (abs_mul_zpow_lt hk)
  have hexp := (zpow_lt_zpow_iff_right₀ one_lt_two).mp hlt
  refine ⟨k, t - n, hk, by push_cast at hexp; omega, ?_⟩
  rw [zpow_sub₀ two_ne_zero, zpow_natCast, mul_div_assoc]

/-- The nearest integer is a number of the format. -/
theorem has_floor_half {q : ℚ} (h : F.Has q) (hleast : F.least ≤ 0) : F.Has ⌊q + 1 / 2⌋ := by
  obtain ⟨k, t, hk, ht, rfl⟩ := h
  by_cases hneg : t < 0
  · have hlt : |(k : ℚ) * 2 ^ t| < 2 ^ F.bits := by
      calc |(k : ℚ) * 2 ^ t| < 2 ^ (F.bits + 1) * 2 ^ t := abs_mul_zpow_lt hk
        _ ≤ 2 ^ (F.bits + 1) * 2 ^ (-1 : ℤ) := by
            refine mul_le_mul_of_nonneg_left ?_ (by positivity)
            exact zpow_le_zpow_right₀ one_le_two (by omega)
        _ = 2 ^ F.bits := by
            rw [pow_succ, zpow_neg_one, mul_assoc, mul_inv_cancel₀ two_ne_zero, mul_one]
    obtain ⟨hlow, hhigh⟩ := abs_lt.mp hlt
    have hfloor : |⌊(k : ℚ) * 2 ^ t + 1 / 2⌋| ≤ 2 ^ F.bits := by
      refine abs_le.mpr ⟨?_, ?_⟩
      · rw [Int.le_floor]
        push_cast
        linarith
      · rw [← Int.lt_add_one_iff, Int.floor_lt]
        push_cast
        linarith
    exact ⟨_, 0, hfloor.trans_lt (pow_lt_pow_right₀ one_lt_two (Nat.lt_succ_self _)), hleast,
      by simp⟩
  · obtain ⟨n, rfl⟩ := Int.eq_ofNat_of_zero_le (not_lt.mp hneg)
    have hfloor : ⌊(k : ℚ) * 2 ^ (n : ℤ) + 1 / 2⌋ = k * 2 ^ n := by
      rw [Int.floor_eq_iff, zpow_natCast]
      push_cast
      constructor <;> linarith
    refine ⟨k, n, hk, ht, ?_⟩
    rw [hfloor, zpow_natCast]
    push_cast
    rfl

end BinaryFormat

end Rosmon.Library
