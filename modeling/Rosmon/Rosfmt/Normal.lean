import Rosmon.Rosfmt.Seconds

namespace Rosmon.Rosfmt

open Go Library

section Printed

/-- The units can be written in turn, the first one for a duration `d`: each part is a number that a
`float64` holds. -/
def Writable : List (ℤ × Char) → ℤ → Prop
  | [], d => d < second
  | (dur, suffix) :: units, d => 0 < dur ∧ durationUnit [suffix] = some dur ∧ millisecond ∣ dur ∧
    (2 ^ 11 ∣ dur ∨ d < 2 ^ 53) ∧ ∀ d', 0 ≤ d' → d' < dur → Writable units d'

theorem writable_units (d : ℤ) : Writable units d := by
  refine ⟨by decide, by decide, by decide, .inl (by decide), fun d hd hlt ↦ ?_⟩
  refine ⟨by decide, by decide, by decide, .inl (by decide), fun d hd hlt ↦ ?_⟩
  refine ⟨by decide, by decide, by decide, .inl (by decide), fun d hd hlt ↦ ?_⟩
  refine ⟨by decide, by decide, by decide, .inl (by decide), fun d hd hlt ↦ ?_⟩
  refine ⟨by decide, by decide, by decide, .inr ?_, fun d hd hlt ↦ hlt⟩
  exact hlt.trans (by decide)

/-- An integer is a `float64` if its last bits are zero or there are few of them. -/
theorem has_int {n : ℤ} (hlow : 0 ≤ n) (hhigh : n < 2 ^ 63) (h : 2 ^ 11 ∣ n ∨ n < 2 ^ 53) :
    binary64.Has n := by
  obtain ⟨k, rfl⟩ | hlt := h
  · have hk : |k| < 2 ^ 53 := by
      rw [abs_of_nonneg (by omega)]
      omega
    have hcast : ((2 ^ 11 * k : ℤ) : ℚ) = k * 2 ^ (11 : ℤ) := by
      push_cast
      ring
    rw [hcast]
    exact has_of_mul hk (by decide)
  · have h := has_of_mul (k := n) (t := 0) (by rwa [abs_of_nonneg hlow]) (by decide)
    rwa [zpow_zero, mul_one] at h

theorem int64OfFloat64_int {n : ℤ} (hlow : -2 ^ 63 ≤ n) (hhigh : n < 2 ^ 63) :
    int64OfFloat64 n = n := by
  have hdef : int64OfFloat64 n =
    if -2 ^ 63 ≤ truncated n ∧ truncated n < 2 ^ 63 then truncated n else -2 ^ 63 := rfl
  have htrunc : truncated (n : ℚ) = n := by
    unfold truncated
    rw [Int.floor_intCast, Int.ceil_intCast, ite_self]
  rw [hdef, htrunc, if_pos ⟨hlow, hhigh⟩]

theorem toFloat64_int {n : ℤ} (hlow : 0 ≤ n) (hhigh : n < 2 ^ 63) (h : 2 ^ 11 ∣ n ∨ n < 2 ^ 53) :
    toFloat64 n = some (n : ℚ) := by
  have habs : |(n : ℚ)| ≤ 2 ^ 63 := by
    rw [abs_of_nonneg (by exact_mod_cast hlow)]
    exact_mod_cast hhigh.le
  obtain ⟨r, hr⟩ := Option.ne_none_iff_exists'.mp (toFloat64_ne_none habs)
  rw [hr, nearest_of_toFloat64 hr, nearest_of_has (has_int hlow hhigh h)]

/-- A whole number of units is converted as it is. -/
theorem converted_int {n mul : ℤ} (hn : 0 ≤ n) (hmul : 0 < mul) (hhigh : n * mul < 2 ^ 63)
    (hnumber : n < 2 ^ 53) (hunit : mul < 2 ^ 63 ∧ (2 ^ 11 ∣ mul ∨ mul < 2 ^ 53))
    (h : 2 ^ 11 ∣ mul ∨ n * mul < 2 ^ 53) : converted ((n : ℚ), mul) = n * mul := by
  have hprod : 2 ^ 11 ∣ n * mul ∨ n * mul < 2 ^ 53 :=
    h.imp (fun hdvd ↦ dvd_mul_of_dvd_right hdvd n) id
  have hlow : 0 ≤ n * mul := mul_nonneg hn hmul.le
  have hfirst := toFloat64_int hn (hnumber.trans (by decide)) (.inr hnumber)
  have hsecond := toFloat64_int hmul.le hunit.1 hunit.2
  have hthird := toFloat64_int hlow hhigh hprod
  push_cast at hthird
  rw [converted, amount, Float64.ofRat_of_some hfirst, Float64.ofRat_of_some hsecond, Float64.mul,
    Float64.ofRat_of_some hthird]
  have hint := int64OfFloat64_int (n := n * mul) (by omega) hhigh
  push_cast at hint
  exact hint

/-- The number that is written with a unit is converted as it is. -/
theorem converted_quotient {d dur : ℤ} (hdur : 0 < dur) (hn : 0 < d / dur) (hhigh : d < 2 ^ 63)
    (hbits : 2 ^ 11 ∣ dur ∨ d < 2 ^ 53) :
    toFloat64 ((d / dur : ℤ) : ℚ) ≠ none ∧
      converted (((d / dur : ℤ) : ℚ), dur) = d / dur * dur := by
  have hle : d / dur * dur ≤ d := Int.ediv_mul_le d hdur.ne'
  have hdurle : dur ≤ d / dur * dur := le_mul_of_one_le_left hdur.le hn
  have hnle : d / dur ≤ d / dur * dur := le_mul_of_one_le_right hn.le hdur
  have hnumber : d / dur < 2 ^ 53 := by
    obtain hdvd | hlt := hbits
    · have hmin : 2 ^ 11 ≤ dur := Int.le_of_dvd hdur hdvd
      have hprod : d / dur * 2 ^ 11 ≤ d / dur * dur := mul_le_mul_of_nonneg_left hmin hn.le
      omega
    · omega
  refine ⟨?_, converted_int hn.le hdur (by omega) hnumber ⟨by omega, ?_⟩ ?_⟩
  · rw [toFloat64_int hn.le (by omega) (.inr hnumber)]
    exact Option.some_ne_none _
  · exact hbits.imp id fun hlt ↦ by omega
  · exact hbits.imp id fun hlt ↦ by omega

theorem isNumeric_fmtInt (n : ℕ) : ∀ c ∈ fmtInt n, isNumeric c = true := by
  intro c hc
  have hdigit := isDigit_of_mem_fmtInt hc
  rw [← isDigit_eq] at hdigit
  rw [isNumeric, hdigit, Bool.true_or]

/-- The loop writes parts that come to what it takes from the duration. -/
theorem formatUnits_spec {us : List (ℤ × Char)} {d : ℤ} (h : Writable us d) (hlow : 0 ≤ d)
    (hhigh : d < 2 ^ 63) {tail : List Char} {rest : List (ℚ × ℤ)} (htail : Parts tail rest) :
    (0 ≤ (formatUnits us d).2 ∧ (formatUnits us d).2 < second ∧
      millisecond ∣ d - (formatUnits us d).2) ∧
    ∃ ts, Parts ((formatUnits us d).1 ++ tail) (ts ++ rest) ∧ (∀ t ∈ ts, toFloat64 t.1 ≠ none) ∧
      (ts.map converted).sum = d - (formatUnits us d).2 := by
  induction us generalizing d with
  | nil => exact ⟨⟨hlow, h, by simp [formatUnits]⟩, [], htail, by simp, by simp [formatUnits]⟩
  | cons u us ih =>
    obtain ⟨dur, suffix⟩ := u
    obtain ⟨hdur, hunit, hmilli, hbits, hnext⟩ := h
    have hdiv : d.tdiv dur = d / dur := Int.tdiv_eq_ediv_of_nonneg hlow
    have hmod : d - d / dur * dur = d % dur := by
      have := Int.mul_ediv_add_emod d dur
      linarith [mul_comm (d / dur) dur]
    have hmod0 : 0 ≤ d % dur := Int.emod_nonneg d hdur.ne'
    have hmodlt : d % dur < dur := Int.emod_lt_of_pos d hdur
    by_cases hn : 0 < d / dur
    · have heq : formatUnits ((dur, suffix) :: us) d =
          (fmtInt (d / dur).toNat ++ suffix :: (formatUnits us (d % dur)).1,
            (formatUnits us (d % dur)).2) := by
        simp only [formatUnits, hdiv, hmod, if_pos hn]
      obtain ⟨hnumber, hconverted⟩ := converted_quotient hdur hn hhigh hbits
      have hprod : 0 ≤ d / dur * dur := mul_nonneg hn.le hdur.le
      have hunits : d / dur * dur ≤ d := by linarith
      obtain ⟨⟨hrest, hsecond, hmilli'⟩, ts, hparts, hfit, hsum⟩ :=
        ih (hnext _ hmod0 hmodlt) hmod0 (by linarith)
      rw [heq]
      refine ⟨⟨hrest, hsecond, ?_⟩, ((d / dur : ℤ), dur) :: ts, ?_, ?_, ?_⟩
      · have hsplit : d - (formatUnits us (d % dur)).2 =
            d / dur * dur + (d % dur - (formatUnits us (d % dur)).2) := by linarith
        rw [hsplit]
        exact dvd_add (dvd_mul_of_dvd_right hmilli _) hmilli'
      · have hnum : mantissa 10 (fmtInt (d / dur).toNat) = some ((d / dur : ℤ) : ℚ) := by
          rw [mantissa_fmtInt, ← Int.cast_natCast, Int.toNat_of_nonneg hn.le]
        have hcons := Parts.cons (isNumeric_fmtInt _) hnum hunit hparts
        simpa using hcons
      · exact List.forall_mem_cons.mpr ⟨hnumber, hfit⟩
      · rw [List.map_cons, List.sum_cons, hsum, hconverted]
        linarith
    · have hzero : d / dur = 0 := le_antisymm (not_lt.mp hn) (Int.ediv_nonneg hlow hdur.le)
      have hlt : d < dur := by
        rw [hzero, zero_mul, sub_zero] at hmod
        omega
      have heq : formatUnits ((dur, suffix) :: us) d = formatUnits us d := by
        simp only [formatUnits, hdiv, if_neg hn]
      rw [heq]
      exact ih (hnext d hlow hlt) hlow hhigh

/-- The milliseconds that end what is written. -/
theorem milliseconds_spec {r : ℤ} (hlow : 0 ≤ r) (hhigh : r < second) :
    ∃ ts, Parts (if 0 < r ∧ 0 < r.tdiv millisecond then
        fmtInt (r.tdiv millisecond).toNat ++ ['m', 's'] else []) ts ∧
      (∀ t ∈ ts, toFloat64 t.1 ≠ none) ∧ (ts.map converted).sum = r - r % millisecond := by
  have hmilli : 0 < millisecond := by decide
  have hdiv : r.tdiv millisecond = r / millisecond := Int.tdiv_eq_ediv_of_nonneg hlow
  have hmod := Int.mul_ediv_add_emod r millisecond
  rw [hdiv]
  by_cases hn : 0 < r / millisecond
  · have hr : 0 < r := by
      have hle := Int.ediv_mul_le r hmilli.ne'
      have hpos := mul_pos hn hmilli
      omega
    have hlt : r < 2 ^ 53 := hhigh.trans (by decide)
    obtain ⟨hnumber, hconverted⟩ :=
      converted_quotient hmilli hn (hlt.trans (by decide)) (.inr hlt)
    have hnum : mantissa 10 (fmtInt (r / millisecond).toNat) =
        some ((r / millisecond : ℤ) : ℚ) := by
      rw [mantissa_fmtInt, ← Int.cast_natCast, Int.toNat_of_nonneg hn.le]
    have hparts : Parts (fmtInt (r / millisecond).toNat ++ (['m', 's'] ++ [])) _ :=
      .cons (isNumeric_fmtInt _) hnum (rfl : durationUnit ['m', 's'] = some millisecond) .nil
    rw [if_pos ⟨hr, hn⟩]
    refine ⟨_, hparts, List.forall_mem_cons.mpr ⟨hnumber, by simp⟩, ?_⟩
    rw [List.map_singleton, List.sum_singleton, hconverted]
    linarith
  · have hzero : r / millisecond = 0 :=
      le_antisymm (not_lt.mp hn) (Int.ediv_nonneg hlow hmilli.le)
    rw [if_neg fun h ↦ hn h.2]
    refine ⟨[], .nil, by simp, ?_⟩
    rw [hzero] at hmod
    simp only [List.map_nil, List.sum_nil]
    linarith

theorem zero_parts : Parts ['0', 's'] [(0, second)] ∧ toFloat64 (0 : ℚ) ≠ none ∧
    converted ((0 : ℚ), second) = 0 := by
  refine ⟨?_, ?_, ?_⟩
  · have hnum : mantissa 10 ['0'] = some 0 := by decide +kernel
    have hzero : ∀ c ∈ ['0'], isNumeric c = true := forall_mem_of_all (by decide)
    have hparts : Parts (['0'] ++ (['s'] ++ [])) [(0, second)] := .cons hzero hnum rfl .nil
    exact hparts
  · decide +kernel
  · decide +kernel

/-- What is written of a positive duration are parts that come to its whole milliseconds. -/
theorem formatPositive_spec {d : ℤ} (hlow : 0 ≤ d) (hhigh : d < 2 ^ 63) :
    ∃ ts, ts ≠ [] ∧ Parts (formatPositive d) ts ∧ (∀ t ∈ ts, toFloat64 t.1 ≠ none) ∧
      (ts.map converted).sum = d - d % millisecond := by
  obtain ⟨⟨hrest, hsecond, hmilli⟩, -⟩ := formatUnits_spec (writable_units d) hlow hhigh .nil
  obtain ⟨rest, htail, hfit', hsum'⟩ := milliseconds_spec hrest hsecond
  obtain ⟨-, ts, hparts, hfit, hsum⟩ := formatUnits_spec (writable_units d) hlow hhigh htail
  have hmod : d % millisecond = (formatUnits units d).2 % millisecond :=
    Int.emod_eq_emod_iff_emod_sub_eq_zero.mpr (Int.emod_eq_zero_of_dvd hmilli)
  have htotal : ((ts ++ rest).map converted).sum = d - d % millisecond := by
    rw [List.map_append, List.sum_append, hsum, hsum', hmod]
    omega
  have hall : ∀ t ∈ ts ++ rest, toFloat64 t.1 ≠ none :=
    fun t ht ↦ (List.mem_append.mp ht).elim (hfit t) (hfit' t)
  obtain ⟨written, hwritten⟩ : ∃ written, written = (formatUnits units d).1 ++
      if 0 < (formatUnits units d).2 ∧ 0 < (formatUnits units d).2.tdiv millisecond then
        fmtInt ((formatUnits units d).2.tdiv millisecond).toNat ++ ['m', 's'] else [] := ⟨_, rfl⟩
  have hdef : formatPositive d = if written = [] then ['0', 's'] else written := by
    rw [hwritten]
    rfl
  rw [← hwritten] at hparts
  generalize ts ++ rest = us at hparts htotal hall
  rw [hdef]
  cases hparts with
  | nil =>
    rw [if_pos rfl]
    refine ⟨[(0, second)], by simp, zero_parts.1, by simpa using zero_parts.2.1, ?_⟩
    rw [List.map_singleton, List.sum_singleton, zero_parts.2.2]
    exact htotal
  | cons hnum hq hunit hrest =>
    have hparts := Parts.cons hnum hq hunit hrest
    rw [if_neg (hparts.ne_nil (List.cons_ne_nil _ _))]
    exact ⟨_, List.cons_ne_nil _ _, hparts, hall, htotal⟩

end Printed

section Normal

theorem Parts.not_space {v : List Char} {ts : List (ℚ × ℤ)} (h : Parts v ts) :
    ∀ c ∈ v, isSpace c = false := by
  have hnumerals : ∀ c ∈ numerals, isSpace c = false := forall_mem_of_all (by decide)
  have hunits : ∀ u ∈ unitNames, ∀ c ∈ u.1, isSpace c = false := by
    have hall : ∀ u ∈ unitNames, u.1.all (fun c ↦ decide (isSpace c = false)) = true := by decide
    exact fun u hu ↦ forall_mem_of_all (hall u hu)
  induction h with
  | nil => simp
  | cons hnum _ hunit _ ih =>
    intro c hc
    obtain hc | hc := List.mem_append.mp hc
    · exact hnumerals c (mem_numerals (hnum c hc))
    obtain hc | hc := List.mem_append.mp hc
    · exact hunits _ (mem_unitNames hunit) c hc
    · exact ih c hc

theorem text_of_not_space {v : List Char} (h : ∀ c ∈ v, isSpace c = false) :
    text (String.ofList v) = v := by
  have hdrop : ∀ l : List Char, (∀ c ∈ l, isSpace c = false) → l.dropWhile isSpace = l := by
    intro l hl
    cases l with
    | nil => rfl
    | cons c l => simp [hl c List.mem_cons_self]
  rw [text, trimSpace, String.toList_ofList, String.toList_ofList, hdrop v h,
    hdrop v.reverse (by simpa using h), List.reverse_reverse]

theorem formatPositive_ok {d : ℤ} (hlow : 0 ≤ d) (hhigh : d < 2 ^ 63) :
    parseDuration (String.ofList (formatPositive d)) = .ok (d - d % millisecond) := by
  obtain ⟨ts, hne, hparts, hfit, hsum⟩ := formatPositive_spec hlow hhigh
  rw [← text_of_not_space hparts.not_space] at hparts
  have hfits : fitsInt64 (d - d % millisecond) = true := by
    rw [fits_iff]
    unfold millisecond
    omega
  rw [parseDuration_eq_ok (.parts hne hparts) hfit, hsum, wrap64_of_fits hfits]

/-- A minus in front of parts is refused. -/
theorem negative_refused {d : ℤ} (hlow : 0 ≤ d) (hhigh : d < 2 ^ 63) :
    ∃ err, parseDuration (String.ofList ('-' :: formatPositive d)) = .error err := by
  obtain ⟨ts, hne, hparts, -⟩ := formatPositive_spec hlow hhigh
  have htext : text (String.ofList ('-' :: formatPositive d)) = '-' :: formatPositive d :=
    text_of_not_space (List.forall_mem_cons.mpr ⟨by decide, hparts.not_space⟩)
  have hfloat : parseFloat (text (String.ofList ('-' :: formatPositive d))) = none := by
    rw [htext]
    exact (hparts.not_float hne rfl).1
  rw [parseDuration_loop (by rw [htext]; exact List.cons_ne_nil _ _) hfloat, htext]
  exact ⟨_, rfl⟩

theorem ediv_floor {m dur : ℤ} (hm : 0 < m) (hdur : m ∣ dur) (d : ℤ) :
    (d - d % m) / dur = d / dur := by
  obtain ⟨k, rfl⟩ := hdur
  have hfloor : d - d % m = m * (d / m) := by
    have := Int.mul_ediv_add_emod d m
    omega
  rw [hfloor, Int.mul_ediv_mul_of_pos _ _ hm, Int.ediv_ediv_of_nonneg hm.le]

/-- What is below a millisecond is not written. -/
theorem formatUnits_floor {us : List (ℤ × Char)} {d : ℤ} (h : Writable us d) (hlow : 0 ≤ d) :
    formatUnits us (d - d % millisecond) =
      ((formatUnits us d).1, (formatUnits us d).2 - d % millisecond) := by
  have hmilli : 0 < millisecond := by decide
  induction us generalizing d with
  | nil => rfl
  | cons u us ih =>
    obtain ⟨dur, suffix⟩ := u
    obtain ⟨hdur, -, hdvd, -, hnext⟩ := h
    have hfloor : 0 ≤ d - d % millisecond := by
      unfold millisecond
      omega
    have hdiv : d.tdiv dur = d / dur := Int.tdiv_eq_ediv_of_nonneg hlow
    have hdiv' : (d - d % millisecond).tdiv dur = d / dur := by
      rw [Int.tdiv_eq_ediv_of_nonneg hfloor, ediv_floor hmilli hdvd]
    have hmod : d - d / dur * dur = d % dur := by
      have := Int.mul_ediv_add_emod d dur
      linarith [mul_comm (d / dur) dur]
    have hmodlt : d % dur < dur := Int.emod_lt_of_pos d hdur
    by_cases hn : 0 < d / dur
    · have hrest : d % dur % millisecond = d % millisecond := Int.emod_emod_of_dvd d hdvd
      have hmod' : d - d % millisecond - d / dur * dur = d % dur - d % dur % millisecond := by
        rw [hrest]
        linarith
      have heq := ih (hnext _ (Int.emod_nonneg d hdur.ne') hmodlt) (Int.emod_nonneg d hdur.ne')
      rw [hrest] at hmod' heq
      simp only [formatUnits, hdiv, hdiv', if_pos hn, hmod, hmod', heq]
    · have hlt : d < dur := by
        have hzero : d / dur = 0 := le_antisymm (not_lt.mp hn) (Int.ediv_nonneg hlow hdur.le)
        rw [hzero, zero_mul, sub_zero] at hmod
        omega
      simp only [formatUnits, hdiv, hdiv', if_neg hn, ih (hnext d hlow hlt) hlow]

theorem formatPositive_floor {d : ℤ} (hlow : 0 ≤ d) (hhigh : d < 2 ^ 63) :
    formatPositive (d - d % millisecond) = formatPositive d := by
  obtain ⟨⟨hrest, -, hmilli⟩, -⟩ := formatUnits_spec (writable_units d) hlow hhigh .nil
  have hmod : d % millisecond = (formatUnits units d).2 % millisecond :=
    Int.emod_eq_emod_iff_emod_sub_eq_zero.mpr (Int.emod_eq_zero_of_dvd hmilli)
  obtain ⟨r, hr⟩ : ∃ r, r = (formatUnits units d).2 := ⟨_, rfl⟩
  rw [← hr] at hrest hmod
  have hfloor : 0 ≤ r - r % millisecond := by
    unfold millisecond
    omega
  have hdiv : (r - r % millisecond).tdiv millisecond = r.tdiv millisecond := by
    rw [Int.tdiv_eq_ediv_of_nonneg hfloor, Int.tdiv_eq_ediv_of_nonneg hrest,
      ediv_floor (by decide) (dvd_refl _)]
  have hpos : (0 < r - r % millisecond ∧ 0 < r.tdiv millisecond) ↔
      (0 < r ∧ 0 < r.tdiv millisecond) := by
    rw [Int.tdiv_eq_ediv_of_nonneg hrest]
    unfold millisecond
    omega
  have hunits := formatUnits_floor (writable_units d) hlow
  rw [hmod, ← hr] at hunits
  rw [hmod]
  simp only [formatPositive, hunits, ← hr, hdiv, hpos]

/-- A text that is read as a negative duration. -/
def ReadNegative (s : String) : Prop :=
  special (text s) ≠ none ∨
  (∃ q, special (text s) = none ∧ floatLiteral (text s) = some q ∧ toFloat64 q ≠ none ∧
    (threshold 63 < q ∨ q < -threshold 0)) ∨
  ∃ ts, ts ≠ [] ∧ Parts (text s) ts ∧ (∀ t ∈ ts, toFloat64 t.1 ≠ none) ∧
    2 ^ 63 ≤ (ts.map converted).sum % 2 ^ 64

theorem readNegative_iff (s : String) :
    ReadNegative s ↔ ∃ d, parseDuration s = .ok d ∧ d < 0 := by
  constructor
  · rintro (h | ⟨q, hspecial, hq, hr, hnumber⟩ | ⟨ts, hne, hparts, hfit, hsum⟩)
    · exact ⟨_, (Value.special h).parseDuration_eq, by decide⟩
    · exact ⟨_, (Value.seconds hspecial hq hr).parseDuration_eq, (second_neg_iff q).mpr hnumber⟩
    · exact ⟨_, (Value.parts hne hparts hfit).parseDuration_eq, (wrap64_neg_iff _).mpr hsum⟩
  · rintro ⟨d, hparse, hd⟩
    cases parseDuration_iff.mp hparse with
    | special hspecial => exact .inl hspecial
    | seconds hspecial hq hr =>
      exact .inr (.inl ⟨_, hspecial, hq, hr, (second_neg_iff _).mp hd⟩)
    | parts hne hparts hfit =>
      exact .inr (.inr ⟨_, hne, hparts, hfit, (wrap64_neg_iff _).mp hd⟩)

/-- What a text is normalised to is read as the same duration, but for what is below a millisecond,
and is normal. -/
def Survives (s : String) : Prop :=
  ∀ d, parseDuration s = .ok d → ∃ depth out, normalizeDuration depth s = some (.ok out) ∧
    parseDuration out = .ok (d - d % millisecond) ∧
    ∃ depth', normalizeDuration depth' out = some (.ok out)

theorem formatDuration_neg_eq_some {d : ℤ} (h : d < 0) (hfits : fitsInt64 d = true) {depth : ℕ}
    {b : List Char} (hb : formatDuration depth d = some b) :
    d ≠ -2 ^ 63 ∧ b = '-' :: formatPositive (-d) := by
  have hleast : d ≠ -2 ^ 63 := by
    rintro rfl
    rw [formatDuration_least] at hb
    cases hb
  refine ⟨hleast, ?_⟩
  match depth with
  | 0 => cases hb
  | 1 =>
    rw [formatDuration, if_neg h.ne, if_pos h] at hb
    cases hb
  | depth + 2 =>
    rw [formatDuration_of_neg h hfits hleast] at hb
    exact (Option.some.inj hb).symm

/-- Every whole number of milliseconds is read back, and a text survives its normalisation just if
it is not read as a negative duration. -/
theorem durations_survive_iff (s : String) :
    (∀ d, 0 ≤ d → d < 2 ^ 63 → millisecond ∣ d →
      ∃ depth out, formatDuration depth d = some out ∧ parseDuration (String.ofList out) = .ok d) ∧
    (Survives s ↔ ¬ReadNegative s) := by
  have hformat : ∀ d, 0 ≤ d → formatDuration 1 d = some (formatPositive d) := by
    intro d hd
    rw [formatDuration_of_nonneg hd]
    split_ifs with hzero
    · subst hzero
      rfl
    · rfl
  constructor
  · intro d hlow hhigh hmilli
    refine ⟨1, _, hformat d hlow, ?_⟩
    rw [formatPositive_ok hlow hhigh, Int.emod_eq_zero_of_dvd hmilli, sub_zero]
  · rw [readNegative_iff]
    constructor
    · rintro hsurvives ⟨d, hparse, hneg⟩
      obtain ⟨depth, out, hnormal, hread, -⟩ := hsurvives d hparse
      have hfits := fits_of_parseDuration hparse
      have hbounds := fits_iff.mp hfits
      rw [normalizeDuration, hparse] at hnormal
      obtain ⟨b, hb, hout⟩ := Option.map_eq_some_iff.mp hnormal
      obtain ⟨hleast, rfl⟩ := formatDuration_neg_eq_some hneg hfits hb
      obtain ⟨err, herr⟩ := negative_refused (d := -d) (by omega) (by omega)
      rw [← Except.ok.inj hout, herr] at hread
      cases hread
    · intro hnot d hparse
      have hlow : 0 ≤ d := not_lt.mp fun hneg ↦ hnot ⟨d, hparse, hneg⟩
      have hhigh := (fits_iff.mp (fits_of_parseDuration hparse)).2
      have hfloor : 0 ≤ d - d % millisecond := by
        unfold millisecond
        omega
      refine ⟨1, String.ofList (formatPositive d), ?_, formatPositive_ok hlow hhigh, 1, ?_⟩
      · rw [normalizeDuration, hparse]
        simp only [hformat d hlow, Option.map_some]
      · rw [normalizeDuration, formatPositive_ok hlow hhigh]
        simp only [hformat _ hfloor, Option.map_some, formatPositive_floor hlow hhigh]

/-- The text `-30`, which is normalised to `-30s`. -/
theorem negative_lost : parseDuration "-30" = .ok (-30 * second) ∧
    normalizeDuration 2 "-30" = some (.ok "-30s") ∧
    parseDuration "-30s" = .error (.badDuration ['-', '3', '0', 's']) := by
  decide +kernel

end Normal

end Rosmon.Rosfmt
