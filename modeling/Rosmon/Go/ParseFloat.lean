import Mathlib.Tactic.IntervalCases
import Rosmon.Go.Hex
import Rosmon.Go.Numbers
import Rosmon.Go.Rounding

namespace Rosmon.Go

section Float64

/-- A `float64`; the two zeros are one. -/
inductive Float64
  | finite (q : ℚ)
  | infinite (neg : Bool)
  | nan
  deriving DecidableEq

namespace Float64

def ofRat (q : ℚ) : Float64 :=
  match toFloat64 q with
  | some r => finite r
  | none => infinite (q < 0)

def neg : Float64 → Bool
  | finite q => q < 0
  | infinite b => b
  | nan => false

def mul : Float64 → Float64 → Float64
  | finite p, finite q => ofRat (p * q)
  | nan, _ => nan
  | _, nan => nan
  | f, g => if f = finite 0 ∨ g = finite 0 then nan else infinite (f.neg != g.neg)

/-- `int64(f)`, which is the least integer on amd64 where Go leaves it open. -/
def toInt64 : Float64 → ℤ
  | finite q => int64OfFloat64 q
  | _ => -2 ^ 63

theorem ofRat_of_some {q r : ℚ} (h : toFloat64 q = some r) : ofRat q = finite r := by
  unfold ofRat
  rw [h]

theorem ofRat_of_none {q : ℚ} (h : toFloat64 q = none) : ofRat q = infinite (q < 0) := by
  unfold ofRat
  rw [h]

theorem toInt64_range (f : Float64) : -2 ^ 63 ≤ f.toInt64 ∧ f.toInt64 < 2 ^ 63 := by
  cases f with
  | finite q => exact int64OfFloat64_range q
  | infinite b => exact ⟨le_rfl, (by decide : (-2 ^ 63 : ℤ) < 2 ^ 63)⟩
  | nan => exact ⟨le_rfl, (by decide : (-2 ^ 63 : ℤ) < 2 ^ 63)⟩

end Float64

end Float64

section ParseFloat

/-- An optional sign, and what follows it. -/
def signed : List Char → Bool × List Char
  | '+' :: s => (false, s)
  | '-' :: s => (true, s)
  | s => (false, s)

/-- `special`: the texts of what is not a finite number, in capitals or not. -/
def special (s : List Char) : Option Float64 :=
  let lower := (signed s).2.map Char.toLower
  if lower = ['i', 'n', 'f'] ∨ lower = ['i', 'n', 'f', 'i', 'n', 'i', 't', 'y'] then
    some (.infinite (signed s).1)
  else if s.map Char.toLower = ['n', 'a', 'n'] then some .nan
  else none

/-- The loop of `underscoreOK`: a digit before every underscore and after it. -/
def underscoresFrom (hex : Bool) : Char → List Char → Bool
  | saw, [] => saw != '_'
  | saw, c :: cs =>
    if isDigit c || hex && (fromHexChar c).isSome then underscoresFrom hex '0' cs
    else if c = '_' then saw == '0' && underscoresFrom hex '_' cs
    else saw != '_' && underscoresFrom hex '!' cs

def underscoreOK (s : List Char) : Bool :=
  match (signed s).2 with
  | '0' :: x :: cs =>
    if x.toLower ∈ ['b', 'o', 'x'] then underscoresFrom (x.toLower == 'x') '0' cs
    else underscoresFrom false '^' ('0' :: x :: cs)
  | cs => underscoresFrom false '^' cs

/-- The value of digits to a base. -/
def digitsValue (base : ℕ) (digits : List Char) : ℕ :=
  digits.foldl (fun n c ↦ n * base + ((fromHexChar c).getD 0).toNat) 0

/-- The value of digits among which there may be a point. -/
def mantissa (base : ℕ) (s : List Char) : Option ℚ :=
  let digits := s.filter (· ≠ '.')
  let fraction := (s.dropWhile (· ≠ '.')).length - 1
  if s.count '.' ≤ 1 ∧ digits ≠ [] then some (digitsValue base digits / base ^ fraction) else none

/-- The exponent after its letter, which stops to grow at five digits. -/
def exponentPart (s : List Char) : Option ℤ :=
  let digits := (signed s).2
  if digits ≠ [] ∧ digits.all isDigit then
    let e : ℕ := digits.foldl
      (fun e c ↦ if e < 10000 then e * 10 + (c.toNat - '0'.toNat) else e) 0
    some (if (signed s).1 then -e else e)
  else none

def isNumeric (c : Char) : Bool := isDigit c || c == '.'

def isHexNumeric (c : Char) : Bool := (fromHexChar c).isSome || c == '.'

/-- A decimal number, with an exponent or without one. -/
def readDecimal (s : List Char) : Option ℚ :=
  match s.dropWhile isNumeric with
  | [] => mantissa 10 s
  | c :: e =>
    if c.toLower = 'e' then
      (mantissa 10 (s.takeWhile isNumeric)).bind fun m ↦
        (exponentPart e).map fun e ↦ m * 10 ^ e
    else none

/-- What follows `0x`, with the exponent that it must have. -/
def readHex (s : List Char) : Option ℚ :=
  match s.dropWhile isHexNumeric with
  | [] => none
  | c :: e =>
    if c.toLower = 'p' then
      (mantissa 16 (s.takeWhile isHexNumeric)).bind fun m ↦
        (exponentPart e).map fun e ↦ m * 2 ^ e
    else none

def readMagnitude : List Char → Option ℚ
  | '0' :: x :: c :: cs =>
    if x.toLower = 'x' then readHex (c :: cs) else readDecimal ('0' :: x :: c :: cs)
  | cs => readDecimal cs

/-- `readFloat`, of a text without underscores that it has to take up. -/
def readFloat (s : List Char) : Option ℚ :=
  (readMagnitude (signed s).2).map fun q ↦ if (signed s).1 then -q else q

/-- The number that a text stands for. -/
def floatLiteral (s : List Char) : Option ℚ :=
  if underscoreOK s then readFloat (s.filter (· ≠ '_')) else none

/-- `strconv.ParseFloat(s, 64)`; a number that is too large for a `float64` is an error. -/
def parseFloat (s : List Char) : Option Float64 :=
  match special s with
  | some f => some f
  | none => (floatLiteral s).bind fun q ↦ (toFloat64 q).map .finite

example : parseFloat "1_23.50_0_0e+1_2".toList = some (.finite 123500000000000) ∧
    parseFloat "0x_1_2.3_4_5p+1_2".toList = some (.finite 74565) ∧
    parseFloat "-Inf".toList = some (.infinite true) ∧ parseFloat "1e400".toList = none ∧
    parseFloat "+nan".toList = none ∧ parseFloat "123._5".toList = none := by
  decide +kernel

end ParseFloat

section Numeric

def numerals : List Char := ['0', '1', '2', '3', '4', '5', '6', '7', '8', '9', '.']

theorem takeWhile_of_head {p : Char → Bool} {xs ys : List Char} (hxs : ∀ c ∈ xs, p c = true)
    (hys : ∀ c ∈ ys.head?, p c = false) :
    (xs ++ ys).takeWhile p = xs ∧ (xs ++ ys).dropWhile p = ys := by
  rw [List.takeWhile_append_of_pos hxs, List.dropWhile_append_of_pos hxs]
  cases ys with
  | nil => simp
  | cons c ys =>
    have hc := hys c rfl
    simp [hc]

theorem forall_mem_of_all {l : List Char} {p : Char → Prop} [DecidablePred p]
    (h : l.all (fun c ↦ decide (p c)) = true) : ∀ c ∈ l, p c :=
  fun c hc ↦ of_decide_eq_true (List.all_eq_true.mp h c hc)

theorem mem_numerals {c : Char} (h : isNumeric c = true) : c ∈ numerals := by
  unfold isNumeric at h
  obtain h | h := Bool.or_eq_true_iff.mp h
  · obtain ⟨hlow, hhigh⟩ : '0' ≤ c ∧ c ≤ '9' := by simpa [isDigit] using h
    have hlow' : 48 ≤ c.toNat := hlow
    have hhigh' : c.toNat ≤ 57 := hhigh
    rw [← Char.ofNat_toNat c]
    interval_cases c.toNat <;> decide
  · obtain rfl : c = '.' := by simpa using h
    decide

variable {s : List Char}

theorem signed_of_head (h : ∀ c ∈ s.head?, c ≠ '+' ∧ c ≠ '-') : signed s = (false, s) := by
  unfold signed
  split
  · exact absurd rfl (h '+' rfl).1
  · exact absurd rfl (h '-' rfl).2
  · rfl

theorem underscoresFrom_of_notMem {hex : Bool} {saw : Char} (hsaw : saw ≠ '_') (h : '_' ∉ s) :
    underscoresFrom hex saw s = true := by
  induction s generalizing saw with
  | nil => simpa [underscoresFrom] using hsaw
  | cons c s ih =>
    obtain ⟨hc, hs⟩ := not_or.mp (mt List.mem_cons.mpr h)
    unfold underscoresFrom
    split_ifs
    · exact ih (by decide) hs
    · exact absurd (Eq.symm ‹c = '_'›) hc
    · rw [ih (by decide) hs]
      simpa using hsaw

theorem signed_cases (s : List Char) :
    s = (signed s).2 ∨ s = '+' :: (signed s).2 ∨ s = '-' :: (signed s).2 := by
  unfold signed
  split
  · exact .inr (.inl rfl)
  · exact .inr (.inr rfl)
  · exact .inl rfl

theorem underscoreOK_of_notMem (h : '_' ∉ s) : underscoreOK s = true := by
  have hs : '_' ∉ (signed s).2 := by
    obtain heq | heq | heq := signed_cases s <;> rw [heq] at h
    · exact h
    · exact fun hmem ↦ h (List.mem_cons_of_mem _ hmem)
    · exact fun hmem ↦ h (List.mem_cons_of_mem _ hmem)
  unfold underscoreOK
  split
  next x cs hcs =>
    rw [hcs] at hs
    split_ifs
    · exact underscoresFrom_of_notMem (by decide)
        fun hmem ↦ hs (List.mem_cons_of_mem _ (List.mem_cons_of_mem _ hmem))
    · exact underscoresFrom_of_notMem (by decide) hs
  · exact underscoresFrom_of_notMem (by decide) hs

theorem floatLiteral_eq (h : '_' ∉ s) : floatLiteral s = readFloat s := by
  have hfilter : s.filter (· ≠ '_') = s := by
    rw [List.filter_eq_self]
    intro c hc
    have hne : c ≠ '_' := fun heq ↦ h (heq ▸ hc)
    simpa using hne
  rw [floatLiteral, if_pos (underscoreOK_of_notMem h), hfilter]

/-- What starts with a digit or a point is no special number, also after a sign. -/
theorem special_eq_none (h : ∀ c ∈ (signed s).2.head?, isNumeric c = true) : special s = none := by
  have hnumerals : ∀ c ∈ numerals, c.toLower ≠ 'i' ∧ c.toLower ≠ 'n' :=
    forall_mem_of_all (by decide)
  have hhead : ∀ c ∈ ((signed s).2.map Char.toLower).head?, c ≠ 'i' ∧ c ≠ 'n' := by
    intro c hc
    rw [List.head?_map] at hc
    obtain ⟨d, hd, rfl⟩ := Option.map_eq_some_iff.mp hc
    exact hnumerals d (mem_numerals (h d hd))
  have hnan : s.map Char.toLower ≠ ['n', 'a', 'n'] := by
    intro heq
    obtain hs | hs | hs := signed_cases s <;> rw [hs] at heq
    · rw [heq] at hhead
      exact (hhead 'n' rfl).2 rfl
    · exact absurd (List.cons.inj heq).1 (by decide)
    · exact absurd (List.cons.inj heq).1 (by decide)
  have hinf : ∀ t, (signed s).2.map Char.toLower ≠ 'i' :: t := by
    intro t heq
    rw [heq] at hhead
    exact (hhead 'i' rfl).1 rfl
  unfold special
  rw [if_neg (not_or.mpr ⟨hinf _, hinf _⟩), if_neg hnan]

theorem isNumeric_ne {c d : Char} (h : isNumeric c = true) (hd : d ∉ numerals) : c ≠ d :=
  fun heq ↦ hd (heq ▸ mem_numerals h)

/-- A text of digits and a point is read as such. -/
theorem readDecimal_numeric (h : ∀ c ∈ s, isNumeric c = true) : readDecimal s = mantissa 10 s := by
  have hdrop : s.dropWhile isNumeric = [] := List.dropWhile_eq_nil_iff.mpr h
  unfold readDecimal
  rw [hdrop]

/-- Before its first letter that is none of an exponent, a text is not a number. -/
theorem readDecimal_letter {c : Char} {t : List Char} (h : ∀ c ∈ s, isNumeric c = true)
    (hc : isNumeric c = false) (he : c.toLower ≠ 'e') : readDecimal (s ++ c :: t) = none := by
  have hdrop : (s ++ c :: t).dropWhile isNumeric = c :: t := by
    rw [List.dropWhile_append_of_pos h, List.dropWhile_cons_of_neg (by simp [hc])]
  unfold readDecimal
  rw [hdrop]
  exact if_neg he

/-- Only what starts with `0x` is not decimal. -/
theorem readMagnitude_eq (hx : ∀ x cs, s = '0' :: x :: cs → x.toLower ≠ 'x') :
    readMagnitude s = readDecimal s := by
  unfold readMagnitude
  split
  next x c cs => rw [if_neg (hx x (c :: cs) rfl)]
  · rfl

/-- The number that an optional sign and digits with a point at most stand for. -/
def plainNumber (s : List Char) : Option ℚ :=
  if (signed s).2.all isNumeric then
    (mantissa 10 (signed s).2).map fun q ↦ if (signed s).1 then -q else q
  else none

theorem parseFloat_plain (h : (signed s).2.all isNumeric = true) :
    parseFloat s = (plainNumber s).bind fun q ↦ (toFloat64 q).map .finite := by
  have hall := List.all_eq_true.mp h
  have hx : ∀ x cs, (signed s).2 = '0' :: x :: cs → x.toLower ≠ 'x' := by
    intro x cs hs
    have hlower : ∀ c ∈ numerals, c.toLower ≠ 'x' := forall_mem_of_all (by decide)
    exact hlower x (mem_numerals (hall x (by rw [hs]; simp)))
  have hunderscore : '_' ∉ s := by
    have hnot : '_' ∉ (signed s).2 := fun hmem ↦
      isNumeric_ne (hall _ hmem) (by decide) rfl
    obtain heq | heq | heq := signed_cases s <;> rw [heq]
    · exact hnot
    · simpa using hnot
    · simpa using hnot
  have hspecial : special s = none :=
    special_eq_none fun c hc ↦ hall c (List.mem_of_mem_head? hc)
  rw [parseFloat, hspecial, floatLiteral_eq hunderscore, readFloat, readMagnitude_eq hx,
    readDecimal_numeric hall, plainNumber, if_pos h]

/-- What starts with a digit or a point, after a sign maybe, and goes on with another letter is no
number. -/
theorem parseFloat_letter {v t : List Char} {c : Char} (hv : (signed v).2 = s ++ c :: t)
    (hne : s ≠ []) (h : ∀ c ∈ s, isNumeric c = true) (hc : isNumeric c = false)
    (he : c.toLower ∉ ['e', 'x']) (ht : '_' ∉ c :: t) : parseFloat v = none := by
  obtain ⟨d, s, rfl⟩ := List.exists_cons_of_ne_nil hne
  have hlower : ∀ c ∈ numerals, c.toLower ≠ 'x' := forall_mem_of_all (by decide)
  have hx : ∀ x cs, (signed v).2 = '0' :: x :: cs → x.toLower ≠ 'x' := by
    intro x cs hs
    rw [hv, List.cons_append] at hs
    obtain ⟨-, hs⟩ := List.cons.inj hs
    cases s with
    | nil =>
      obtain ⟨rfl, -⟩ := List.cons.inj hs
      exact fun hlower ↦ he (by simp [hlower])
    | cons b s =>
      obtain ⟨rfl, -⟩ := List.cons.inj hs
      exact hlower b (mem_numerals (h b (by simp)))
  have hunderscore : '_' ∉ v := by
    have hnot : '_' ∉ (signed v).2 := by
      rw [hv]
      intro hmem
      obtain hmem | hmem := List.mem_append.mp hmem
      · exact isNumeric_ne (h _ hmem) (by decide) rfl
      · exact ht hmem
    obtain heq | heq | heq := signed_cases v <;> rw [heq]
    · exact hnot
    · simpa using hnot
    · simpa using hnot
  have hspecial : special v = none := by
    refine special_eq_none fun b hb ↦ ?_
    rw [hv] at hb
    obtain rfl := Option.some.inj hb
    exact h _ List.mem_cons_self
  rw [parseFloat, hspecial, floatLiteral_eq hunderscore, readFloat, readMagnitude_eq hx, hv,
    readDecimal_letter h hc fun hlower ↦ he (by simp [hlower])]
  rfl

theorem digitsValue_eq (h : ∀ c ∈ s, isDigit c = true) :
    digitsValue 10 s = Nat.ofDigitChars 10 s 0 := by
  have hvalue : ∀ c ∈ numerals, isDigit c = true →
      ((fromHexChar c).getD 0).toNat = c.toNat - '0'.toNat :=
    forall_mem_of_all (by decide)
  rw [digitsValue, Nat.ofDigitChars_eq_foldl]
  refine List.foldl_ext _ _ 0 fun n c hc ↦ ?_
  rw [hvalue c (mem_numerals (by simp [isNumeric, h c hc])) (h c hc), Nat.mul_comm]

/-- The digits of a number are read as the number. -/
theorem mantissa_fmtInt (n : ℕ) : mantissa 10 (fmtInt n) = some (n : ℚ) := by
  have hdigits : ∀ c ∈ fmtInt n, isDigit c = true := fun c hc ↦ by
    rw [isDigit_eq]
    exact isDigit_of_mem_fmtInt hc
  have hpoint : '.' ∉ fmtInt n := fun h ↦ absurd (hdigits _ h) (by decide)
  have hfilter : (fmtInt n).filter (· ≠ '.') = fmtInt n := by
    rw [List.filter_eq_self]
    intro c hc
    have hne : c ≠ '.' := fun heq ↦ hpoint (heq ▸ hc)
    simpa using hne
  have hdrop : (fmtInt n).dropWhile (· ≠ '.') = [] := by
    rw [List.dropWhile_eq_nil_iff]
    intro c hc
    have hne : c ≠ '.' := fun heq ↦ hpoint (heq ▸ hc)
    simpa using hne
  have hvalue : digitsValue 10 (fmtInt n) = n := by
    rw [digitsValue_eq hdigits]
    exact Nat.ofDigitChars_ten_toDigits
  have hcount : (fmtInt n).count '.' ≤ 1 := by
    rw [List.count_eq_zero_of_not_mem hpoint]
    exact Nat.zero_le _
  simp only [mantissa, hfilter, hdrop, hvalue]
  rw [if_pos ⟨hcount, Nat.toDigits_ne_nil⟩]
  simp

end Numeric

end Rosmon.Go
