import Rosmon.Web.Numbers

namespace Rosmon.Web

open Go

section Writing

/-- A positive number without its sign: the digits, and where the point stands among them. -/
structure Decimal where
  digits : List Char
  point : ℤ

variable (x : ℚ) (n : ℤ)

/-- The number of which `k` digits are to be written is between two integers. -/
def scaled (k : ℕ) : ℚ := x * 10 ^ ((k : ℤ) - n)

/-- The nearer one first, and of two equally near the even one. -/
def candidates (y : ℚ) : List ℕ :=
  let low := ⌊y⌋₊
  if y - low < 1 / 2 ∨ y - low = 1 / 2 ∧ low % 2 = 0 then [low, low + 1] else [low + 1, low]

/-- The `k` digits that are read as the number itself, if there are such. -/
def digitsAt (k : ℕ) : Option ℕ :=
  (candidates (scaled x n k)).find? fun s ↦ toFloat64 (s * 10 ^ (n - k)) = some x

/-- As few digits as possible, of at least `k`. -/
def shortest : ℕ → ℕ → ℕ × ℕ
  | 0, k => (⌊scaled x n k⌋₊, k)
  | fuel + 1, k => match digitsAt x n k with
    | some s => (s, k)
    | none => shortest fuel (k + 1)

def toDecimal : Decimal :=
  let n := Int.log 10 x + 1
  let (s, k) := shortest x n 400 1
  -- Nines may be rounded up to a one with a digit more.
  if s = 10 ^ k then ⟨['1'], n + 1⟩ else ⟨fmtInt s, n⟩

def Decimal.write (d : Decimal) : List Char :=
  let k := d.digits.length
  if k ≤ d.point ∧ d.point ≤ 21 then d.digits ++ List.replicate (d.point - k).toNat '0'
  else if 0 < d.point ∧ d.point ≤ 21 then
    d.digits.take d.point.toNat ++ '.' :: d.digits.drop d.point.toNat
  else if -6 < d.point ∧ d.point ≤ 0 then
    '0' :: '.' :: List.replicate (-d.point).toNat '0' ++ d.digits
  else
    let e := d.point - 1
    let exponent := 'e' :: (if e < 0 then '-' else '+') :: fmtInt e.natAbs
    match d.digits with
    | [] => exponent
    | c :: cs => c :: (pointed cs ++ exponent)

/-- `String(x)`. -/
def numberToString (x : Number) : List Char :=
  if x.value = 0 then ['0']
  else if x.value < 0 then '-' :: (toDecimal (-x.value)).write
  else (toDecimal x.value).write

end Writing

example : (Number.of (10 ^ 23)).map numberToString = some "1e+23".toList ∧
    (Number.of (2 ^ 69)).map numberToString = some "590295810358705700000".toList ∧
    (Number.of (1 / 3)).map numberToString = some "0.3333333333333333".toList := by
  decide +kernel

section Digits

variable {v k : ℕ}

theorem decimal_zeros (ds : List Char) (k : ℕ) :
    decimal (ds ++ List.replicate k '0') = decimal ds * 10 ^ k := by
  rw [decimal_eq, Nat.ofDigitChars_append, Nat.ofDigitChars_replicate_zero, decimal_eq,
    Nat.mul_comm]

theorem decimal_digit_lt {c : Char} (h : isDigit c = true) : decimal [c] < 10 := by
  have hc : c ∈ numerals := mem_numerals (by simp [isNumeric, h])
  exact forall_mem_of_all (l := numerals) (p := fun c ↦ decimal [c] < 10) (by decide) c hc

theorem length_fmtInt (hlow : 10 ^ k ≤ v) (hhigh : v < 10 ^ (k + 1)) :
    (fmtInt v).length = k + 1 := by
  have hle : (fmtInt v).length ≤ k + 1 :=
    (Nat.length_toDigits_le_iff (by decide) k.succ_pos).mpr hhigh
  refine le_antisymm hle (Nat.lt_of_not_le fun hshort ↦ ?_)
  obtain rfl | hk := Nat.eq_zero_or_pos k
  · exact Nat.toDigits_ne_nil (List.length_eq_zero_iff.mp (Nat.le_zero.mp hshort))
  · have hlt : v < 10 ^ k := (Nat.length_toDigits_le_iff (by decide) hk).mp hshort
    omega

end Digits

section Shortest

variable {x : ℚ} {n : ℤ} {k fuel s : ℕ}

theorem digitsAt_spec (h : digitsAt x n k = some s) : toFloat64 (s * 10 ^ (n - k)) = some x ∧
    (s = ⌊scaled x n k⌋₊ ∨ s = ⌊scaled x n k⌋₊ + 1) := by
  unfold digitsAt at h
  have hread := List.find?_some h
  refine ⟨of_decide_eq_true hread, ?_⟩
  have hmem := List.mem_of_find?_eq_some h
  unfold candidates at hmem
  dsimp only at hmem
  split_ifs at hmem
  · simpa using hmem
  · simpa [or_comm] using hmem

/-- The search ends at the first number of digits that will do. -/
theorem shortest_spec {k' : ℕ} (hk : k ≤ k') (hfuel : k' < k + fuel)
    (hfound : digitsAt x n k' ≠ none) :
    ∃ s k₀, shortest x n fuel k = (s, k₀) ∧ k ≤ k₀ ∧ k₀ ≤ k' ∧ digitsAt x n k₀ = some s := by
  induction fuel generalizing k with
  | zero => omega
  | succ fuel ih =>
    rw [shortest]
    cases hdigits : digitsAt x n k with
    | some s => exact ⟨s, k, rfl, le_rfl, hk, hdigits⟩
    | none =>
      have hne : k ≠ k' := by
        rintro rfl
        exact hfound hdigits
      obtain ⟨s, k₀, hs, hlow, hhigh, hdigits'⟩ := ih (k := k + 1) (by omega) (by omega)
      exact ⟨s, k₀, hs, by omega, hhigh, hdigits'⟩

/-- All digits of an integer will do. -/
theorem digitsAt_int {m : ℕ} (h : toFloat64 m = some (m : ℚ)) : digitsAt m k k ≠ none := by
  unfold digitsAt
  rw [Ne, List.find?_eq_none, not_forall]
  refine ⟨m, ?_⟩
  have hscaled : scaled m k k = m := by simp [scaled]
  rw [hscaled]
  have hmem : m ∈ candidates m := by simp [candidates]
  simp [hmem, h]

theorem toFloat64_pow : toFloat64 (10 ^ 21) = some (10 ^ 21) := by
  refine toFloat64_of_has ⟨5 ^ 21, 21, by decide, by decide, by norm_num⟩ ?_
  rw [abs_of_pos (by positivity)]
  calc (10 : ℚ) ^ 21 < 2 ^ 70 := by norm_num
    _ ≤ 2 ^ 1024 := pow_le_pow_right₀ one_le_two (by decide)

/-- The digits between two powers of ten. -/
theorem scaled_floor {m : ℕ} (hlow : 10 ^ k ≤ m) (hhigh : m < 10 ^ (k + 1)) (hs : s ≤ k) :
    10 ^ s ≤ ⌊scaled m (k + 1 : ℕ) (s + 1)⌋₊ ∧ ⌊scaled m (k + 1 : ℕ) (s + 1)⌋₊ < 10 ^ (s + 1) := by
  have hscaled : scaled m (k + 1 : ℕ) (s + 1) = m / 10 ^ (k - s) := by
    rw [scaled, div_eq_mul_inv, ← zpow_natCast, ← zpow_neg]
    congr 2
    push_cast [hs]
    ring
  have hpow : (10 : ℚ) ^ k = 10 ^ s * 10 ^ (k - s) := by
    rw [← pow_add, Nat.add_sub_cancel' hs]
  have hlow' : (10 : ℚ) ^ k ≤ m := by exact_mod_cast hlow
  have hhigh' : (m : ℚ) < 10 ^ (k + 1) := by exact_mod_cast hhigh
  rw [hscaled]
  constructor
  · refine Nat.le_floor ?_
    push_cast
    rwa [le_div_iff₀ (by positivity), ← hpow]
  · rw [Nat.floor_lt (by positivity), div_lt_iff₀ (by positivity)]
    push_cast
    rw [pow_succ] at hhigh' ⊢
    calc (m : ℚ) < 10 ^ k * 10 := hhigh'
      _ = 10 ^ s * 10 * 10 ^ (k - s) := by rw [hpow]; ring

theorem log_lt_of_lt {m j k : ℕ} (hm : 0 < m) (h : (m : ℚ) < 2 ^ j) (hj : j ≤ 3 * k) :
    Nat.log 10 m < k := by
  have hlt : m < 2 ^ j := by exact_mod_cast h
  refine Nat.log_lt_of_lt_pow hm.ne' (hlt.trans_le ?_)
  calc 2 ^ j ≤ 2 ^ (3 * k) := Nat.pow_le_pow_right two_pos hj
    _ = 8 ^ k := pow_mul 2 3 k
    _ ≤ 10 ^ k := Nat.pow_le_pow_left (by decide) k

/-- The digits of an integer are those of another one that is read as the same Number. -/
theorem toDecimal_int {m : ℕ} (hm : 0 < m) (h : toFloat64 m = some (m : ℚ)) :
    ∃ s k e : ℕ, toDecimal m = ⟨fmtInt s, (k + 1 + e : ℕ)⟩ ∧ 10 ^ k ≤ s ∧ s < 10 ^ (k + 1) ∧
      toFloat64 (s * 10 ^ e) = some (m : ℚ) ∧ (k + 1 + e ≤ 21 ↔ m < 10 ^ 21) := by
  obtain ⟨l, hl⟩ : ∃ l, l = Nat.log 10 m := ⟨_, rfl⟩
  have hlow : 10 ^ l ≤ m := hl ▸ Nat.pow_log_le_self 10 hm.ne'
  have hhigh : m < 10 ^ (l + 1) := hl ▸ Nat.lt_pow_succ_log_self (by decide) m
  have hfuel : l < 342 := by
    have hlt : (m : ℚ) < 2 ^ 1024 := by simpa using abs_lt_of_toFloat64 h
    exact hl ▸ log_lt_of_lt hm hlt (by decide)
  have hn : Int.log 10 (m : ℚ) + 1 = ((l + 1 : ℕ) : ℤ) := by
    rw [Int.log_natCast, ← hl]
    push_cast
    rfl
  obtain ⟨s, k, hs, hk, hkl, hdigits⟩ : ∃ s k, shortest m (l + 1 : ℕ) 400 1 = (s, k) ∧ 1 ≤ k ∧
      k ≤ l + 1 ∧ digitsAt m (l + 1 : ℕ) k = some s :=
    shortest_spec (by omega) (by omega) (digitsAt_int h)
  obtain ⟨k, rfl⟩ := Nat.exists_eq_add_of_le' hk
  obtain ⟨hread, hcase⟩ := digitsAt_spec hdigits
  obtain ⟨hfloor, hfloor'⟩ := scaled_floor hlow hhigh (Nat.le_of_succ_le_succ hkl)
  have hdecimal : toDecimal m =
      if s = 10 ^ (k + 1) then ⟨['1'], (l + 1 : ℕ) + 1⟩ else ⟨fmtInt s, (l + 1 : ℕ)⟩ := by
    simp only [toDecimal, hn, hs]
  have hsize : m < 10 ^ 21 ↔ l + 1 ≤ 21 := by
    rw [← Nat.log_lt_iff_lt_pow (by decide) hm.ne', ← hl]
    omega
  have hexp : ((l + 1 : ℕ) : ℤ) - (k + 1 : ℕ) = (l - k : ℕ) := by omega
  rw [hexp, zpow_natCast] at hread
  by_cases hten : s = 10 ^ (k + 1)
  · have hpower : toFloat64 (10 ^ (l + 1)) = some (m : ℚ) := by
      rw [← hread, hten]
      congr 1
      push_cast
      rw [← pow_add]
      congr 1
      omega
    -- The least number of twenty-two digits is one, so none below is read as it.
    have hne : m < 10 ^ 21 → l + 1 ≠ 21 := by
      intro hlt heq
      rw [heq, toFloat64_pow, Option.some_inj] at hpower
      have : 10 ^ 21 = m := by exact_mod_cast hpower
      omega
    refine ⟨1, 0, l + 1, ?_, by decide, by decide, ?_, by omega⟩
    · rw [hdecimal, if_pos hten]
      congr 1
      omega
    · simpa using hpower
  · refine ⟨s, k, l - k, ?_, by omega, by omega, hread, by omega⟩
    rw [hdecimal, if_neg hten]
    congr 1
    omega

end Shortest

namespace Literal

/-- An integer with all its digits. -/
def plain (s e : ℕ) : Literal where
  whole := fmtInt s ++ List.replicate e '0'
  fraction := []
  exponent := []
  power := 0
  whole_ne := List.append_ne_nil_of_left_ne_nil Nat.toDigits_ne_nil _
  digits := by
    intro c hc
    rw [List.append_nil, List.mem_append] at hc
    obtain hc | hc := hc
    · exact List.all_eq_true.mp (all_isDigit_fmtInt s) c hc
    · rw [List.eq_of_mem_replicate hc]
      rfl
  starts := by simp
  written := by simp
  means := rfl

theorem decimal_plain (s e : ℕ) : decimal (plain s e).whole = s * 10 ^ e := by
  rw [plain, decimal_zeros, decimal_fmtInt]

theorem value_plain (s e : ℕ) : (plain s e).value = s * 10 ^ e := by
  have hdecimal := decimal_plain s e
  have happend : (plain s e).whole ++ (plain s e).fraction = (plain s e).whole :=
    List.append_nil _
  rw [value, happend, hdecimal]
  simp [plain]

/-- An integer with one digit before the point and a positive exponent. -/
def scientific (c : Char) (cs : List Char) (e : ℕ) (h : ∀ d ∈ c :: cs, isDigit d = true) :
    Literal where
  whole := [c]
  fraction := cs
  exponent := 'e' :: '+' :: fmtInt e
  power := e
  whole_ne := List.cons_ne_nil c []
  digits := h
  starts := by simp
  written := by
    intro d hd
    rw [List.mem_cons, List.mem_cons] at hd
    obtain rfl | rfl | hd := hd
    · rfl
    · rfl
    · exact (isDigit_facts (List.all_eq_true.mp (all_isDigit_fmtInt e) d hd)).1
  means := by
    have hdigits : fmtInt e ≠ [] ∧ (fmtInt e).all isDigit = true :=
      ⟨Nat.toDigits_ne_nil, all_isDigit_fmtInt e⟩
    unfold exponentOf signed
    dsimp only
    rw [if_pos ⟨.inl rfl, hdigits⟩]
    exact congrArg (fun n : ℕ ↦ some (n : ℤ)) (decimal_fmtInt e)

theorem value_scientific {c : Char} {cs : List Char} {e : ℕ}
    (h : ∀ d ∈ c :: cs, isDigit d = true) :
    (scientific c cs e h).value = decimal (c :: cs) * 10 ^ ((e : ℤ) - cs.length) := rfl

end Literal

section Integers

variable {s k e m : ℕ}

theorem write_plain (hlow : 10 ^ k ≤ s) (hhigh : s < 10 ^ (k + 1)) (h : k + 1 + e ≤ 21) :
    (⟨fmtInt s, (k + 1 + e : ℕ)⟩ : Decimal).write = (Literal.plain s e).text := by
  have hlength := length_fmtInt hlow hhigh
  have hzeros : (((k + 1 + e : ℕ) : ℤ) - (k + 1 : ℕ)).toNat = e := by omega
  unfold Decimal.write
  dsimp only
  rw [hlength, if_pos (by omega), hzeros]
  simp [Literal.text, Literal.plain, pointed]

theorem write_scientific {c : Char} {cs : List Char} (hcs : fmtInt s = c :: cs)
    (hdigits : ∀ d ∈ c :: cs, isDigit d = true) (h : 21 < k + 1 + e) :
    (⟨fmtInt s, (k + 1 + e : ℕ)⟩ : Decimal).write =
      (Literal.scientific c cs (k + e) hdigits).text := by
  have hexponent : (((k + 1 + e : ℕ) : ℤ) - 1).natAbs = k + e := by omega
  unfold Decimal.write
  dsimp only
  rw [if_neg (by omega), if_neg (by omega), if_neg (by omega), hexponent, if_neg (by omega), hcs]
  rfl

/-- The text of an integer as a literal. -/
theorem write_int (hm : 0 < m) (h : toFloat64 m = some (m : ℚ)) :
    ∃ l : Literal, (toDecimal m).write = l.text ∧ toFloat64 l.value = some (m : ℚ) ∧
      (m < 10 ^ 21 → l.value = decimal l.whole) ∧ (10 ^ 21 ≤ m → decimal l.whole < 10) := by
  obtain ⟨s, k, e, hdecimal, hlow, hhigh, hread, hsize⟩ := toDecimal_int hm h
  rw [hdecimal]
  by_cases hsmall : k + 1 + e ≤ 21
  · refine ⟨_, write_plain hlow hhigh hsmall, ?_, fun _ ↦ ?_, fun hlarge ↦ ?_⟩
    · rw [Literal.value_plain, hread]
    · rw [Literal.value_plain, Literal.decimal_plain]
      push_cast
      rfl
    · exact absurd (hsize.mp hsmall) (Nat.not_lt.mpr hlarge)
  · obtain ⟨c, cs, hcs⟩ : ∃ c cs, fmtInt s = c :: cs :=
      List.exists_cons_of_ne_nil Nat.toDigits_ne_nil
    have hdigits : ∀ d ∈ c :: cs, isDigit d = true := fun d hd ↦
      List.all_eq_true.mp (all_isDigit_fmtInt s) d (hcs ▸ hd)
    refine ⟨_, write_scientific hcs hdigits (Nat.lt_of_not_le hsmall), ?_, fun hlt ↦ ?_, fun _ ↦ ?_⟩
    · have hlength : k = cs.length := by
        have hlength := length_fmtInt hlow hhigh
        rw [hcs, List.length_cons] at hlength
        omega
      rw [← hread, Literal.value_scientific, ← hcs, decimal_fmtInt, hlength]
      congr 2
      push_cast
      rw [add_sub_cancel_left, zpow_natCast]
    · exact absurd (hsize.mpr hlt) hsmall
    · exact decimal_digit_lt (hdigits c List.mem_cons_self)

theorem numberToString_int (x : Number) {m : ℤ} (hx : x.value = m) :
    ∃ l : Literal, numberToString x = l.signedText (decide (m < 0)) ∧
      toFloat64 l.value = some (m.natAbs : ℚ) ∧ (m.natAbs < 10 ^ 21 → l.value = decimal l.whole) ∧
      (10 ^ 21 ≤ m.natAbs → decimal l.whole < 10) := by
  have hdouble := x.double
  rw [hx] at hdouble
  have hcast : (m : ℚ) = 0 ↔ m = 0 := Int.cast_eq_zero
  unfold numberToString
  rw [hx]
  obtain hneg | rfl | hpos := lt_trichotomy m 0
  · have habs : -(m : ℚ) = (m.natAbs : ℕ) := by
      rw [Nat.cast_natAbs, abs_of_neg hneg, Int.cast_neg]
    obtain ⟨l, htext, hl⟩ := write_int (m := m.natAbs) (by omega) (habs ▸ toFloat64_neg hdouble)
    refine ⟨l, ?_, hl⟩
    rw [if_neg (mt hcast.mp hneg.ne), if_pos (Int.cast_lt_zero.mpr hneg), habs, htext]
    simp [Literal.signedText, hneg]
  · exact ⟨Literal.plain 0 0, rfl, by simp [Literal.value_plain, toFloat64_zero],
      by simp [Literal.value_plain, Literal.decimal_plain], fun h ↦ absurd h (by decide)⟩
  · have habs : (m : ℚ) = (m.natAbs : ℕ) := by rw [Nat.cast_natAbs, abs_of_pos hpos]
    obtain ⟨l, htext, hl⟩ := write_int (m := m.natAbs) (by omega) (habs ▸ hdouble)
    refine ⟨l, ?_, hl⟩
    rw [if_neg (mt hcast.mp hpos.ne'), if_neg (by simpa using hpos.le), habs, htext]
    simp [Literal.signedText, hpos.le]

/-- A whole number is kept by `Number(String(x))`. -/
theorem toNumber_numberToString (x : Number) {m : ℤ} (hx : x.value = m) :
    toNumber (numberToString x) = .finite x.value := by
  obtain ⟨l, htext, hread, -⟩ := numberToString_int x hx
  rw [htext, l.toNumber_signedText, Float64.ofRat_of_some (toFloat64_withSign _ hread),
    withSign_natAbs, hx]

/-- Which numbers `parseInt(String(x), 10)` keeps. -/
theorem parseInt0_numberToString (x : Number) :
    parseInt0 (numberToString x) = x ↔ ∃ m : ℤ, x.value = m ∧ m.natAbs < 10 ^ 21 := by
  constructor
  · intro h
    obtain ⟨m, hm⟩ := parseInt0_int (numberToString x)
    rw [h] at hm
    refine ⟨m, hm, Nat.lt_of_not_le fun hlarge ↦ ?_⟩
    obtain ⟨l, htext, -, -, hdigit⟩ := numberToString_int x hm
    have hlt := hdigit hlarge
    have hread : toFloat64 (decimal l.whole : ℕ) = some (decimal l.whole : ℚ) :=
      toFloat64_of_lt (n := decimal l.whole) (by rw [Nat.abs_cast]; omega)
    have hx : x = ⟨_, toFloat64_withSign (decide (m < 0)) hread⟩ := by
      rw [← h, htext]
      exact parseInt0_of_parseInt (l.parseInt_signedText _) hread rfl
    have habs : (m.natAbs : ℚ) = decimal l.whole := by
      rw [Nat.cast_natAbs, Int.cast_abs, ← hm, hx, abs_withSign, Nat.abs_cast]
    have hnat : m.natAbs = decimal l.whole := by exact_mod_cast habs
    omega
  · rintro ⟨m, hm, hsmall⟩
    obtain ⟨l, htext, hread, hvalue, -⟩ := numberToString_int x hm
    rw [hvalue hsmall] at hread
    rw [htext]
    exact parseInt0_of_parseInt (l.parseInt_signedText _) hread ((withSign_natAbs m).trans hm.symm)

end Integers

end Rosmon.Web
