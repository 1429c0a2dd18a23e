import Rosmon.Go.Float64
import Rosmon.Library.BinaryFormat

namespace Rosmon.Go

open Library

def binary64 : BinaryFormat := ⟨52, -1074⟩

theorem roundHalfEven_cases (q : ℚ) :
    roundHalfEven q = ⌊q⌋ ∧ (q - ⌊q⌋ < 1 / 2 ∨ q - ⌊q⌋ = 1 / 2 ∧ ⌊q⌋ % 2 = 0) ∨
    roundHalfEven q = ⌊q⌋ + 1 ∧ (1 / 2 < q - ⌊q⌋ ∨ q - ⌊q⌋ = 1 / 2 ∧ ⌊q⌋ % 2 ≠ 0) := by
  unfold roundHalfEven
  dsimp only
  obtain h | h | h := lt_trichotomy (q - ⌊q⌋) (1 / 2)
  · exact .inl ⟨if_pos h, .inl h⟩
  · rw [if_neg h.not_lt, if_neg h.not_gt]
    split_ifs with heven
    · exact .inl ⟨rfl, .inr ⟨h, heven⟩⟩
    · exact .inr ⟨rfl, .inr ⟨h, heven⟩⟩
  · rw [if_neg h.not_gt, if_pos h]
    exact .inr ⟨rfl, .inl h⟩

theorem roundHalfEven_eq {q : ℚ} {n : ℤ} (hlow : (n : ℚ) - 1 / 2 < q) (hhigh : q < n + 1 / 2) :
    roundHalfEven q = n := by
  obtain hn | hn := lt_or_ge q n
  · have hfloor : ⌊q⌋ = n - 1 := by
      rw [Int.floor_eq_iff]
      push_cast
      constructor <;> linarith
    obtain ⟨-, h⟩ | ⟨h, -⟩ := roundHalfEven_cases q
    · rw [hfloor] at h
      push_cast at h
      obtain h | h := h <;> linarith
    · rw [h, hfloor, sub_add_cancel]
  · have hfloor : ⌊q⌋ = n := by
      rw [Int.floor_eq_iff]
      constructor <;> linarith
    obtain ⟨h, -⟩ | ⟨-, h⟩ := roundHalfEven_cases q
    · rw [h, hfloor]
    · rw [hfloor] at h
      obtain h | h := h <;> linarith

theorem roundHalfEven_mono : Monotone roundHalfEven := by
  intro p q h
  have hfloor := Int.floor_mono h
  obtain hlt | heq := hfloor.lt_or_eq
  · obtain ⟨hp, -⟩ | ⟨hp, -⟩ := roundHalfEven_cases p <;>
      obtain ⟨hq, -⟩ | ⟨hq, -⟩ := roundHalfEven_cases q <;> omega
  · obtain ⟨hp, hp'⟩ | ⟨hp, hp'⟩ := roundHalfEven_cases p <;>
      obtain ⟨hq, hq'⟩ | ⟨hq, hq'⟩ := roundHalfEven_cases q
    · omega
    · omega
    · rw [heq] at hp'
      obtain hp' | ⟨hp', hodd⟩ := hp' <;> obtain hq' | ⟨hq', heven⟩ := hq'
      · linarith
      · linarith
      · linarith
      · exact absurd heven hodd
    · omega

theorem roundHalfEven_neg (q : ℚ) : roundHalfEven (-q) = -roundHalfEven q := by
  obtain hq | hq := (Int.floor_le q).eq_or_lt
  · have hcast : ∀ n : ℤ, roundHalfEven n = n := fun n ↦
      roundHalfEven_eq (by linarith) (by linarith)
    rw [← hq, ← Int.cast_neg, hcast, hcast]
  · have hfloor : ⌊-q⌋ = -⌊q⌋ - 1 := by
      rw [Int.floor_eq_iff]
      have := Int.lt_floor_add_one q
      push_cast
      constructor <;> linarith
    obtain ⟨hp, hp'⟩ | ⟨hp, hp'⟩ := roundHalfEven_cases q <;>
      obtain ⟨hn, hn'⟩ | ⟨hn, hn'⟩ := roundHalfEven_cases (-q) <;>
      rw [hp, hn, hfloor] <;> rw [hfloor] at hn' <;> push_cast at hn'
    · obtain hp' | ⟨hp', heven⟩ := hp' <;> obtain hn' | ⟨hn', heven'⟩ := hn'
      · linarith
      · linarith
      · linarith
      · omega
    · omega
    · omega
    · obtain hp' | ⟨hp', heven⟩ := hp' <;> obtain hn' | ⟨hn', heven'⟩ := hn'
      · linarith
      · linarith
      · linarith
      · omega

theorem roundHalfEven_rounding : IntRounding roundHalfEven where
  mono := roundHalfEven_mono
  cast := fun _ ↦ roundHalfEven_eq (by linarith) (by linarith)
  neg := roundHalfEven_neg

/-- The `float64` nearest to `q`, were there no largest one. -/
def nearest (q : ℚ) : ℚ := binary64.round roundHalfEven q

theorem toFloat64_eq (q : ℚ) :
    toFloat64 q = if |nearest q| < 2 ^ 1024 then some (nearest q) else none := rfl

theorem nearest_of_toFloat64 {q r : ℚ} (h : toFloat64 q = some r) : r = nearest q := by
  rw [toFloat64_eq] at h
  split_ifs at h
  exact (Option.some.inj h).symm

theorem le_nearest_of_none {q : ℚ} (h : toFloat64 q = none) : 2 ^ 63 ≤ |nearest q| := by
  rw [toFloat64_eq] at h
  split_ifs at h with hlt
  exact (pow_le_pow_right₀ one_le_two (by decide)).trans (not_lt.mp hlt)

theorem nearest_mono : Monotone nearest := BinaryFormat.round_mono roundHalfEven_rounding

theorem nearest_neg (q : ℚ) : nearest (-q) = -nearest q :=
  BinaryFormat.round_neg roundHalfEven_rounding q

theorem nearest_of_has {q : ℚ} (h : binary64.Has q) : nearest q = q :=
  BinaryFormat.round_of_has roundHalfEven_rounding h

theorem toFloat64_of_has {q : ℚ} (h : binary64.Has q) (hlt : |q| < 2 ^ 1024) :
    toFloat64 q = some q := by
  rw [toFloat64_eq, nearest_of_has h, if_pos hlt]

theorem has_of_toFloat64 {q r : ℚ} (h : toFloat64 q = some r) : binary64.Has r := by
  rw [nearest_of_toFloat64 h]
  exact BinaryFormat.has_round roundHalfEven_rounding q

theorem abs_lt_of_toFloat64 {q r : ℚ} (h : toFloat64 q = some r) : |r| < 2 ^ 1024 := by
  rw [toFloat64_eq] at h
  split_ifs at h with hlt
  rwa [← Option.some.inj h]

/-- A `float64` is its own `float64`. -/
theorem toFloat64_idem {q r : ℚ} (h : toFloat64 q = some r) : toFloat64 r = some r :=
  toFloat64_of_has (has_of_toFloat64 h) (abs_lt_of_toFloat64 h)

theorem toFloat64_int {n : ℤ} {r : ℚ} (h : toFloat64 n = some r) : ∃ m : ℤ, r = m := by
  rw [nearest_of_toFloat64 h]
  exact BinaryFormat.round_int roundHalfEven_rounding n

theorem toFloat64_neg {q r : ℚ} (h : toFloat64 q = some r) : toFloat64 (-q) = some (-r) := by
  rw [toFloat64_eq] at h ⊢
  split_ifs at h with hlt
  rw [nearest_neg, abs_neg, if_pos hlt, Option.some.inj h]

/-- Whole numbers of so many bits are doubles. -/
theorem toFloat64_of_lt {n : ℤ} (h : |n| < 2 ^ 53) : toFloat64 n = some n := by
  refine toFloat64_of_has ⟨n, 0, h, by decide, by simp⟩ ?_
  calc |(n : ℚ)| = (|n| : ℤ) := by rw [Int.cast_abs]
    _ < 2 ^ 53 := by exact_mod_cast h
    _ ≤ 2 ^ 1024 := pow_le_pow_right₀ one_le_two (by decide)

theorem abs_nearest_le {q s : ℚ} (hs : binary64.Has s) (h : |q| ≤ s) : |nearest q| ≤ s := by
  obtain ⟨hlow, hhigh⟩ := abs_le.mp h
  refine abs_le.mpr ⟨?_, BinaryFormat.round_le roundHalfEven_rounding hs hhigh⟩
  have hneg := BinaryFormat.round_le roundHalfEven_rounding hs (neg_le.mp hlow)
  rw [BinaryFormat.round_neg roundHalfEven_rounding] at hneg
  exact neg_le.mp hneg

theorem toFloat64_ne_none {q : ℚ} (h : |q| ≤ 2 ^ 63) : toFloat64 q ≠ none := by
  have hs : binary64.Has (2 ^ 63) := by
    exact_mod_cast BinaryFormat.has_zpow (F := binary64) (t := 63) (by decide)
  have hlt : |nearest q| < 2 ^ 1024 :=
    (abs_nearest_le hs h).trans_lt (pow_lt_pow_right₀ one_lt_two (by decide))
  rw [toFloat64_eq, if_pos hlt]
  exact Option.some_ne_none _

end Rosmon.Go
