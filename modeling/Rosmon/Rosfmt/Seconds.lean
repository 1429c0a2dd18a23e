import Rosmon.Rosfmt.Readings

namespace Rosmon.Rosfmt

open Go Library

section Thresholds

/-- The greatest number of seconds whose nanoseconds, in `float64`, stay below `2 ^ s`: half a bit
above a `float64` whose last bit is zero. -/
def threshold (s : ℤ) : ℚ := 9671406556917033 * 2 ^ (s - 83)

variable {s : ℤ} {q : ℚ}

theorem has_of_mul {k t : ℤ} (hk : |k| < 2 ^ 53) (ht : -1074 ≤ t) : binary64.Has (k * 2 ^ t) :=
  ⟨k, t, hk, ht, rfl⟩

/-- Near the threshold numbers are rounded to a multiple of `2 ^ (s - 82)`. -/
theorem nearest_near (hs : -900 ≤ s) (hlow : 2 ^ (s - 30) ≤ q) (hhigh : q < 2 ^ (s - 29)) :
    nearest q = roundHalfEven (q / 2 ^ (s - 82)) * 2 ^ (s - 82) := by
  have hbits : ((binary64.bits : ℕ) : ℤ) = 52 := rfl
  refine BinaryFormat.round_eq (t := s - 82) (by unfold binary64; dsimp only; omega) ?_ ?_
  · rw [hbits, show 52 + (s - 82) = s - 30 by omega]
    exact hlow
  · rw [hbits, show 52 + (s - 82) + 1 = s - 29 by omega]
    exact hhigh

/-- The powers of two around the threshold are multiples of half its last bit. -/
theorem scaled_power {t : ℤ} (n : ℕ) (h : t = s - 83 + n) :
    (2 : ℚ) ^ t = 2 ^ (s - 83) * 2 ^ n := by
  rw [h, zpow_add₀ two_ne_zero, zpow_natCast]

theorem nearest_le_of_le (hs : -900 ≤ s) (h : q ≤ threshold s) :
    nearest q ≤ 4835703278458516 * 2 ^ (s - 82) := by
  have hpow : (0 : ℚ) < 2 ^ (s - 83) := by positivity
  have h82 : (2 : ℚ) ^ (s - 82) = 2 ^ (s - 83) * 2 ^ 1 := scaled_power 1 (by omega)
  have h30 : (2 : ℚ) ^ (s - 30) = 2 ^ (s - 83) * 2 ^ 53 := scaled_power 53 (by omega)
  have h29 : (2 : ℚ) ^ (s - 29) = 2 ^ (s - 83) * 2 ^ 54 := scaled_power 54 (by omega)
  have hdiv : threshold s / 2 ^ (s - 82) = 9671406556917033 / 2 := by
    rw [threshold, h82]
    field_simp
  have hround : roundHalfEven ((9671406556917033 : ℚ) / 2) = 4835703278458516 := by decide +kernel
  have hnear : nearest (threshold s) = 4835703278458516 * 2 ^ (s - 82) := by
    rw [nearest_near hs, hdiv, hround]
    · norm_num
    · rw [h30, threshold]
      nlinarith
    · rw [h29, threshold]
      nlinarith
  exact (nearest_mono h).trans_eq hnear

theorem le_nearest_of_lt (hs : -900 ≤ s) (h : threshold s < q) :
    4835703278458517 * 2 ^ (s - 82) ≤ nearest q := by
  have hpow : (0 : ℚ) < 2 ^ (s - 83) := by positivity
  have h82 : (2 : ℚ) ^ (s - 82) = 2 ^ (s - 83) * 2 ^ 1 := scaled_power 1 (by omega)
  have h30 : (2 : ℚ) ^ (s - 30) = 2 ^ (s - 83) * 2 ^ 53 := scaled_power 53 (by omega)
  have h29 : (2 : ℚ) ^ (s - 29) = 2 ^ (s - 83) * 2 ^ 54 := scaled_power 54 (by omega)
  have hhas : binary64.Has (4835703278458517 * 2 ^ (s - 82)) := by
    exact_mod_cast has_of_mul (k := 4835703278458517) (t := s - 82) (by norm_num) (by omega)
  obtain hfar | hnear := le_or_gt (4835703278458517 * 2 ^ (s - 82)) q
  · exact BinaryFormat.le_round roundHalfEven_rounding hhas hfar
  · rw [threshold] at h
    rw [h82] at hnear
    have hround : roundHalfEven (q / 2 ^ (s - 82)) = 4835703278458517 := by
      refine roundHalfEven_eq ?_ ?_
      · rw [lt_div_iff₀ (by positivity), h82]
        push_cast
        linarith
      · rw [div_lt_iff₀ (by positivity), h82]
        push_cast
        linarith
    rw [nearest_near hs, hround]
    · norm_num
    · rw [h30]
      linarith
    · rw [h29]
      linarith

/-- The product with the nanoseconds of a second comes to `2 ^ s` above the threshold. -/
theorem le_nearest_product_iff (hs : -900 ≤ s) :
    2 ^ s ≤ nearest (nearest q * 1000000000) ↔ threshold s < q := by
  have hpow : (0 : ℚ) < 2 ^ (s - 83) := by positivity
  have h82 : (2 : ℚ) ^ (s - 82) = 2 ^ (s - 83) * 2 ^ 1 := scaled_power 1 (by omega)
  have h53 : (2 : ℚ) ^ (s - 53) = 2 ^ (s - 83) * 2 ^ 30 := scaled_power 30 (by omega)
  have h0 : (2 : ℚ) ^ s = 2 ^ (s - 83) * 2 ^ 83 := scaled_power 83 (by omega)
  constructor
  · intro h
    by_contra hle
    have hle' := nearest_le_of_le hs (not_lt.mp hle)
    have hhas : binary64.Has (9007199254740991 * 2 ^ (s - 53)) := by
      exact_mod_cast has_of_mul (k := 9007199254740991) (t := s - 53) (by norm_num) (by omega)
    have hprod : nearest (nearest q * 1000000000) ≤ 9007199254740991 * 2 ^ (s - 53) := by
      refine BinaryFormat.round_le roundHalfEven_rounding hhas ?_
      rw [h82] at hle'
      rw [h53]
      linarith
    rw [h0] at h
    rw [h53] at hprod
    linarith
  · intro h
    have hlt := le_nearest_of_lt hs h
    refine BinaryFormat.le_round roundHalfEven_rounding (BinaryFormat.has_zpow ?_) ?_
    · unfold binary64
      dsimp only
      omega
    · rw [h82] at hlt
      rw [h0]
      linarith

theorem nearest_product_le_iff (hs : -900 ≤ s) :
    nearest (nearest q * 1000000000) ≤ -2 ^ s ↔ q < -threshold s := by
  have h := le_nearest_product_iff (q := -q) hs
  rw [nearest_neg, neg_mul, nearest_neg] at h
  rw [le_neg, h, lt_neg]

end Thresholds

section Seconds

/-- The integer that a number is cut to. -/
def truncated (p : ℚ) : ℤ := if 0 ≤ p then ⌊p⌋ else ⌈p⌉

theorem truncated_fits_iff (p : ℚ) :
    (-2 ^ 63 ≤ truncated p ∧ truncated p < 2 ^ 63) ↔ -2 ^ 63 - 1 < p ∧ p < 2 ^ 63 := by
  unfold truncated
  obtain hp | hp := le_or_gt 0 p
  · have hfloor : 0 ≤ ⌊p⌋ := Int.floor_nonneg.mpr hp
    have hiff : ⌊p⌋ < 2 ^ 63 ↔ p < 2 ^ 63 := by
      rw [Int.floor_lt]
      norm_num
    rw [if_pos hp, hiff]
    refine and_congr_left fun _ ↦ iff_of_true (by omega) ?_
    linarith
  · have hceil : ⌈p⌉ ≤ 0 := Int.ceil_le.mpr (by exact_mod_cast hp.le)
    have hiff : -2 ^ 63 ≤ ⌈p⌉ ↔ -2 ^ 63 - 1 < p := by
      rw [← Int.sub_one_lt_iff, Int.lt_ceil]
      norm_num
    rw [if_neg (not_le.mpr hp), hiff]
    refine and_congr_right fun _ ↦ iff_of_true (by omega) ?_
    linarith

theorem truncated_of_neg {p : ℚ} (h : p < 0) : truncated p = ⌈p⌉ := if_neg (not_le.mpr h)

theorem int64OfFloat64_least_iff (p : ℚ) :
    int64OfFloat64 p = -2 ^ 63 ↔ 2 ^ 63 ≤ p ∨ p ≤ -2 ^ 63 := by
  have hdef : int64OfFloat64 p =
    if -2 ^ 63 ≤ truncated p ∧ truncated p < 2 ^ 63 then truncated p else -2 ^ 63 := rfl
  rw [hdef]
  split_ifs with h
  · obtain ⟨hlow, hhigh⟩ := (truncated_fits_iff p).mp h
    rw [or_iff_right (not_le.mpr hhigh)]
    obtain hp | hp := le_or_gt 0 p
    · have hfloor : 0 ≤ truncated p := by
        rw [truncated, if_pos hp]
        exact Int.floor_nonneg.mpr hp
      exact iff_of_false (by omega) (by linarith)
    · rw [truncated_of_neg hp, Int.ceil_eq_iff]
      norm_num
      intro _
      linarith
  · refine iff_of_true rfl ?_
    rw [truncated_fits_iff] at h
    by_contra hnot
    push Not at hnot
    exact h ⟨by linarith, hnot.1⟩

theorem int64OfFloat64_neg_iff (p : ℚ) : int64OfFloat64 p < 0 ↔ 2 ^ 63 ≤ p ∨ p ≤ -1 := by
  have hdef : int64OfFloat64 p =
    if -2 ^ 63 ≤ truncated p ∧ truncated p < 2 ^ 63 then truncated p else -2 ^ 63 := rfl
  rw [hdef]
  split_ifs with h
  · obtain ⟨hlow, hhigh⟩ := (truncated_fits_iff p).mp h
    rw [or_iff_right (not_le.mpr hhigh)]
    obtain hp | hp := le_or_gt 0 p
    · have hfloor : 0 ≤ truncated p := by
        rw [truncated, if_pos hp]
        exact Int.floor_nonneg.mpr hp
      exact iff_of_false (by omega) (by linarith)
    · rw [truncated_of_neg hp, ← Int.le_sub_one_iff, Int.ceil_le]
      norm_num
  · refine iff_of_true (by norm_num) ?_
    rw [truncated_fits_iff] at h
    by_contra hnot
    push Not at hnot
    exact h ⟨by linarith, hnot.1⟩

theorem second_eq : Float64.ofRat (second : ℚ) = .finite 1000000000 := by
  have hhas : binary64.Has (second : ℚ) := by
    have h := has_of_mul (k := second) (t := 0) (by decide) (by decide)
    rwa [zpow_zero, mul_one] at h
  have hfits : toFloat64 (second : ℚ) = some (second : ℚ) := by
    have hne := toFloat64_ne_none (q := (second : ℚ)) (by norm_num [second])
    obtain ⟨r, hr⟩ := Option.ne_none_iff_exists'.mp hne
    rw [hr, nearest_of_toFloat64 hr, nearest_of_has hhas]
  rw [Float64.ofRat_of_some hfits]
  norm_num [second]

/-- What becomes of a number of seconds. -/
theorem amount_second (q : ℚ) : ∃ p, p = nearest (nearest q * 1000000000) ∧
    (amount (.finite (nearest q)) second = int64OfFloat64 p ∨
      2 ^ 63 ≤ |p| ∧ amount (.finite (nearest q)) second = -2 ^ 63) := by
  refine ⟨_, rfl, ?_⟩
  rw [amount, second_eq, Float64.mul]
  cases hr : toFloat64 (nearest q * 1000000000) with
  | some r =>
    rw [← nearest_of_toFloat64 hr, Float64.ofRat_of_some hr]
    exact .inl rfl
  | none =>
    rw [Float64.ofRat_of_none hr]
    exact .inr ⟨le_nearest_of_none hr, rfl⟩

theorem second_least_iff (q : ℚ) :
    amount (.finite (nearest q)) second = -2 ^ 63 ↔ threshold 63 < |q| := by
  obtain ⟨p, hp, hamount⟩ := amount_second q
  have hhigh := le_nearest_product_iff (s := 63) (q := q) (by norm_num)
  have hlow := nearest_product_le_iff (s := 63) (q := q) (by norm_num)
  rw [← hp] at hhigh hlow
  rw [lt_abs, lt_neg, ← hhigh, ← hlow]
  obtain hfinite | ⟨hlarge, hleast⟩ := hamount
  · rw [hfinite]
    exact_mod_cast int64OfFloat64_least_iff p
  · refine iff_of_true hleast ?_
    obtain h | h := le_abs.mp hlarge
    · exact .inl (by exact_mod_cast h)
    · exact .inr (by exact_mod_cast le_neg.mp h)

theorem second_neg_iff (q : ℚ) :
    amount (.finite (nearest q)) second < 0 ↔ threshold 63 < q ∨ q < -threshold 0 := by
  obtain ⟨p, hp, hamount⟩ := amount_second q
  have hhigh := le_nearest_product_iff (s := 63) (q := q) (by norm_num)
  have hlow := nearest_product_le_iff (s := 0) (q := q) (by norm_num)
  rw [← hp] at hhigh hlow
  rw [← hhigh, ← hlow, zpow_zero]
  obtain hfinite | ⟨hlarge, hleast⟩ := hamount
  · rw [hfinite]
    exact_mod_cast int64OfFloat64_neg_iff p
  · rw [hleast]
    refine iff_of_true (by norm_num) ?_
    obtain h | h := le_abs.mp hlarge
    · exact .inl (by exact_mod_cast h)
    · have hle : (-2 : ℚ) ^ 63 ≤ -1 := by norm_num
      exact .inr (by linarith)

end Seconds

section Values

variable {s : String}

theorem special_not_finite {v : List Char} {f : Float64} (h : special v = some f) :
    amount f second = -2 ^ 63 := by
  have hnot : f = .infinite (signed v).1 ∨ f = .nan := by
    unfold special at h
    dsimp only at h
    split_ifs at h
    · exact .inl (Option.some.inj h).symm
    · exact .inr (Option.some.inj h).symm
  rw [amount, second_eq]
  obtain rfl | rfl := hnot
  · simp [Float64.mul, Float64.toInt64]
  · rfl

/-- What a text is read as: no number at all, a number of seconds, or a sum of parts. -/
inductive Value (s : String) : ℤ → Prop
  | special : special (text s) ≠ none → Value s (-2 ^ 63)
  | seconds {q : ℚ} : special (text s) = none → floatLiteral (text s) = some q →
    toFloat64 q ≠ none → Value s (amount (.finite (nearest q)) second)
  | parts {ts : List (ℚ × ℤ)} : ts ≠ [] → Parts (text s) ts → (∀ t ∈ ts, toFloat64 t.1 ≠ none) →
    Value s (wrap64 (ts.map converted).sum)

theorem Value.parseDuration_eq {d : ℤ} (h : Value s d) : parseDuration s = .ok d := by
  cases h with
  | special h =>
    obtain ⟨f, hf⟩ := Option.ne_none_iff_exists'.mp h
    have hfloat : parseFloat (text s) = some f := by rw [parseFloat, hf]
    rw [parseDuration_float hfloat, special_not_finite hf]
  | @seconds q hspecial hq hr =>
    obtain ⟨r, hr⟩ := Option.ne_none_iff_exists'.mp hr
    have hfloat : parseFloat (text s) = some (.finite r) := by
      rw [parseFloat, hspecial, hq]
      simp only [Option.bind_some, hr, Option.map_some]
    rw [parseDuration_float hfloat, nearest_of_toFloat64 hr]
  | parts hne hparts hfit => exact parseDuration_eq_ok (.parts hne hparts) hfit

theorem value_of_float {f : Float64} (h : parseFloat (text s) = some f) :
    Value s (amount f second) := by
  cases hspecial : special (text s) with
  | some g =>
    have hg : g = f := by
      rw [parseFloat, hspecial] at h
      exact Option.some.inj h
    subst hg
    rw [special_not_finite hspecial]
    exact .special (by simp [hspecial])
  | none =>
    rw [parseFloat, hspecial] at h
    obtain ⟨q, hq, hround⟩ := Option.bind_eq_some_iff.mp h
    obtain ⟨r, hr, rfl⟩ := Option.map_eq_some_iff.mp hround
    rw [nearest_of_toFloat64 hr]
    exact .seconds hspecial hq (by simp [hr])

theorem value_of_loop {d : ℤ} (hne : text s ≠ [])
    (h : parseParts (text s) (text s).length 0 (text s) = .ok d) : Value s d := by
  obtain ⟨ts, hparts⟩ := parts_of_parseParts le_rfl h
  have hts : ts ≠ [] := by
    rintro rfl
    generalize text s = v at hparts hne
    cases hparts
    exact hne rfl
  by_cases hfit : ∀ t ∈ ts, toFloat64 t.1 ≠ none
  · have hsum := parseParts_eq_ok (v := text s) hparts hfit le_rfl 0
    rw [wrap64_of_fits (by decide), zero_add, h] at hsum
    rw [Except.ok.inj hsum]
    exact .parts hts hparts hfit
  · push Not at hfit
    obtain ⟨err, herr⟩ := parseParts_eq_error (v := text s) hparts hfit le_rfl 0
    rw [h] at herr
    cases herr

theorem parseDuration_iff {d : ℤ} : parseDuration s = .ok d ↔ Value s d := by
  refine ⟨fun h ↦ ?_, Value.parseDuration_eq⟩
  by_cases hnil : text s = []
  · rw [parseDuration_empty hnil] at h
    cases h
  cases hfloat : parseFloat (text s) with
  | some f =>
    rw [parseDuration_float hfloat] at h
    rw [← Except.ok.inj h]
    exact value_of_float hfloat
  | none =>
    rw [parseDuration_loop hnil hfloat] at h
    exact value_of_loop hnil h

theorem fits_of_parseDuration {d : ℤ} (h : parseDuration s = .ok d) :
    fitsInt64 d = true := by
  cases parseDuration_iff.mp h with
  | special _ => decide
  | seconds _ _ _ => exact fits_amount _ _
  | parts _ _ _ => exact fits_wrap64 _

end Values

section Termination

/-- `FormatDuration` comes to an end. -/
def Ends (d : ℤ) : Prop := ∃ depth, (formatDuration depth d).isSome = true

theorem formatDuration_of_nonneg {d : ℤ} (h : 0 ≤ d) (depth : ℕ) :
    formatDuration (depth + 1) d = some (if d = 0 then ['0', 's'] else formatPositive d) := by
  unfold formatDuration
  rw [if_neg (not_lt.mpr h)]
  split_ifs <;> rfl

theorem formatDuration_of_neg {d : ℤ} (h : d < 0) (hfits : fitsInt64 d = true)
    (hleast : d ≠ -2 ^ 63) (depth : ℕ) :
    formatDuration (depth + 2) d = some ('-' :: formatPositive (-d)) := by
  have hbounds := fits_iff.mp hfits
  have hneg : wrap64 (-d) = -d := wrap64_of_fits (fits_iff.mpr (by omega))
  rw [formatDuration, if_neg h.ne, if_pos h, hneg, formatDuration_of_nonneg (by omega),
    if_neg (by omega)]
  rfl

/-- The least duration is its own negation. -/
theorem formatDuration_least (depth : ℕ) : formatDuration depth (-2 ^ 63) = none := by
  induction depth with
  | zero => rfl
  | succ depth ih =>
    have hneg : wrap64 (-(-2 ^ 63)) = -2 ^ 63 := by decide
    rw [formatDuration, if_neg (by decide), if_pos (by decide), hneg, ih]
    rfl

theorem ends_iff {d : ℤ} (hfits : fitsInt64 d = true) : Ends d ↔ d ≠ -2 ^ 63 := by
  constructor
  · rintro ⟨depth, h⟩ rfl
    rw [formatDuration_least] at h
    cases h
  · intro hleast
    obtain h | h := lt_or_ge d 0
    · exact ⟨2, by rw [formatDuration_of_neg h hfits hleast 0]; rfl⟩
    · exact ⟨1, by rw [formatDuration_of_nonneg h 0]; rfl⟩

/-- A text that is read as the least duration: infinity or no number, a number of seconds beyond
the threshold, or parts that come to it in 64 bits. -/
def ReadLeast (s : String) : Prop :=
  special (text s) ≠ none ∨
  (∃ q, special (text s) = none ∧ floatLiteral (text s) = some q ∧ toFloat64 q ≠ none ∧
    threshold 63 < |q|) ∨
  ∃ ts, ts ≠ [] ∧ Parts (text s) ts ∧ (∀ t ∈ ts, toFloat64 t.1 ≠ none) ∧
    (2 ^ 64 : ℤ) ∣ (ts.map converted).sum + 2 ^ 63

theorem wrap64_least_iff (n : ℤ) : wrap64 n = -2 ^ 63 ↔ (2 ^ 64 : ℤ) ∣ n + 2 ^ 63 := by
  have hneg : -2 ^ 63 - n = -(n + 2 ^ 63) := by ring
  rw [wrap64_eq_iff, and_iff_right (by decide), hneg, dvd_neg]

theorem readLeast_iff (s : String) : ReadLeast s ↔ parseDuration s = .ok (-2 ^ 63) := by
  constructor
  · rintro (h | ⟨q, hspecial, hq, hr, hlarge⟩ | ⟨ts, hne, hparts, hfit, hsum⟩)
    · exact (Value.special h).parseDuration_eq
    · rw [← (second_least_iff q).mpr hlarge]
      exact (Value.seconds hspecial hq hr).parseDuration_eq
    · rw [← (wrap64_least_iff _).mpr hsum]
      exact (Value.parts hne hparts hfit).parseDuration_eq
  · intro h
    generalize hd : (-2 ^ 63 : ℤ) = d at h
    cases parseDuration_iff.mp h with
    | special hspecial => exact .inl hspecial
    | seconds hspecial hq hr =>
      exact .inr (.inl ⟨_, hspecial, hq, hr, (second_least_iff _).mp hd.symm⟩)
    | parts hne hparts hfit =>
      exact .inr (.inr ⟨_, hne, hparts, hfit, (wrap64_least_iff _).mp hd.symm⟩)

/-- `FormatDuration` comes to an end for every duration but the least, and `NormalizeDuration` for
every text that is not read as it. -/
theorem normalize_ends_iff (s : String) :
    (∀ d, fitsInt64 d = true → (Ends d ↔ d ≠ -2 ^ 63)) ∧
    ((∃ depth, (normalizeDuration depth s).isSome = true) ↔ ¬ReadLeast s) := by
  refine ⟨fun d hd ↦ ends_iff hd, ?_⟩
  rw [readLeast_iff]
  cases hparse : parseDuration s with
  | error err =>
    refine iff_of_true ⟨0, ?_⟩ (by simp)
    rw [normalizeDuration, hparse]
    rfl
  | ok d =>
    have hfits := fits_of_parseDuration hparse
    have hends : (∃ depth, (normalizeDuration depth s).isSome = true) ↔ Ends d := by
      refine exists_congr fun depth ↦ ?_
      rw [normalizeDuration, hparse]
      simp
    rw [hends, ends_iff hfits]
    simp

theorem infinity_never_ends : ¬∃ depth, (normalizeDuration depth "inf").isSome = true := by
  have hparse : parseDuration "inf" = .ok (-2 ^ 63) := by decide +kernel
  rintro ⟨depth, h⟩
  rw [normalizeDuration, hparse] at h
  simp only [formatDuration_least, Option.map_none] at h
  cases h

end Termination

end Rosmon.Rosfmt
