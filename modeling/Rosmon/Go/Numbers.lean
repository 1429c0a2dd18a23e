import Mathlib.Data.List.TakeWhile
import Mathlib.Tactic.Ring
import Rosmon.Go.Text

namespace Rosmon.Go

/-- `strconv.ParseUint(s, 10, 64)`: at least one digit and no sign. -/
def parseUint (s : String) : Option ℕ :=
  if s.toList ≠ [] ∧ s.toList.all isDigit then some (decimal s.toList) |>.filter (· < 2 ^ 64)
  else none

theorem parseUint_empty : parseUint "" = none := rfl

/-- A text that is read as a number has nothing but digits. -/
theorem isDigit_of_parseUint {s : String} {n : ℕ} (h : parseUint s = some n) :
    ∀ c ∈ s.toList, isDigit c = true := by
  unfold parseUint at h
  split at h
  next hs => exact List.all_eq_true.mp hs.2
  · cases h

example : parseUint "01" = some 1 ∧ parseUint "+1" = none ∧
    parseUint "18446744073709551616" = none := by decide

def fmtInt (v : ℕ) : List Char := Nat.toDigits 10 v

/-- The fraction `v / 10 ^ prec` without the zeros at its end, written in front of `buf` from
its last digit on, and the whole part of the quotient. -/
def fmtFrac : ℕ → ℕ → Bool → List Char → List Char × ℕ
  | 0, v, print, buf => (if print then '.' :: buf else buf, v)
  | prec + 1, v, print, buf =>
    let digit := v % 10
    let print := print || decide (digit ≠ 0)
    fmtFrac prec (v / 10) print (if print then digit.digitChar :: buf else buf)

/-- `d.String()` of a duration of `u` nanoseconds. -/
def formatDuration (u : ℕ) : List Char :=
  if u < 10 ^ 9 then
    if u = 0 then ['0', 's']
    else
      let (prec, unit) := if u < 10 ^ 3 then (0, 'n') else if u < 10 ^ 6 then (3, 'µ') else (6, 'm')
      let r := fmtFrac prec u false []
      fmtInt r.2 ++ r.1 ++ [unit, 's']
  else
    let r := fmtFrac 9 u false []
    let seconds := fmtInt (r.2 % 60) ++ r.1 ++ ['s']
    if r.2 / 60 = 0 then seconds
    else
      let minutes := fmtInt (r.2 / 60 % 60) ++ 'm' :: seconds
      if r.2 / 60 / 60 = 0 then minutes else fmtInt (r.2 / 60 / 60) ++ 'h' :: minutes

def durationString (d : ℤ) : String :=
  String.ofList (if d < 0 then '-' :: formatDuration d.natAbs else formatDuration d.natAbs)

example : durationString 1500000000 = "1.5s" ∧ durationString 60000000000 = "1m0s" ∧
    durationString 2000 = "2µs" := by decide

theorem isDigit_eq (c : Char) : isDigit c = c.isDigit := by
  simp [isDigit, Char.isDigit, Char.le_def]

theorem fmtInt_injective : Function.Injective fmtInt := by
  intro v w h
  have hnum := congrArg (fun ds ↦ Nat.ofDigitChars 10 ds 0) h
  simpa [fmtInt] using hnum

theorem isDigit_of_mem_fmtInt {v : ℕ} {c : Char} (h : c ∈ fmtInt v) : c.isDigit = true :=
  Nat.isDigit_of_mem_toDigits (by decide) (by decide) h

/-- The digits of a fraction, after the point. -/
def pointed (ds : List Char) : List Char := if ds = [] then [] else '.' :: ds

theorem pointed_injective : Function.Injective pointed := by
  intro ds es h
  unfold pointed at h
  split_ifs at h with hds hes hes
  · rw [hds, hes]
  · exact (List.cons.inj h).2

/-- One more digit in front of those of a fraction. -/
theorem ofDigitChars_digitChar {digit k : ℕ} {buf : List Char} (hdigit : digit < 10)
    (hlen : buf.length ≤ k) :
    Nat.ofDigitChars 10 (digit.digitChar :: buf) 0 * 10 ^ (k + 1 - (buf.length + 1)) =
      digit * 10 ^ k + Nat.ofDigitChars 10 buf 0 * 10 ^ (k - buf.length) := by
  obtain ⟨j, rfl⟩ := Nat.exists_eq_add_of_le hlen
  have hj : buf.length + j + 1 - (buf.length + 1) = j := by omega
  have hj' : buf.length + j - buf.length = j := by omega
  rw [Nat.ofDigitChars_cons_digitChar_of_lt_ten hdigit, Nat.ofDigitChars_eq_ofDigitChars_zero, hj,
    hj']
  ring

/-- What the loop of `fmtFrac` keeps: `buf` holds the digits of `r / 10 ^ k`. -/
theorem fmtFrac_loop (prec v : ℕ) {k r : ℕ} (buf : List Char) (hlen : buf.length ≤ k)
    (hval : Nat.ofDigitChars 10 buf 0 * 10 ^ (k - buf.length) = r)
    (hdigits : ∀ c ∈ buf, c.isDigit = true) :
    ∃ ds, fmtFrac prec v (decide (buf ≠ [])) buf = (pointed ds, v / 10 ^ prec) ∧
      (∀ c ∈ ds, c.isDigit = true) ∧
      Nat.ofDigitChars 10 ds 0 * 10 ^ (k + prec - ds.length) = v % 10 ^ prec * 10 ^ k + r := by
  induction prec generalizing v k r buf with
  | zero =>
    refine ⟨buf, ?_, hdigits, ?_⟩
    · cases buf <;> simp [fmtFrac, pointed]
    · simpa [Nat.mod_one] using hval
  | succ prec ih =>
    have hdigit : v % 10 < 10 := Nat.mod_lt _ (by decide)
    have hrest : v % 10 ^ (prec + 1) * 10 ^ k + r =
        v / 10 % 10 ^ prec * 10 ^ (k + 1) + (v % 10 * 10 ^ k + r) := by
      rw [Nat.pow_succ', Nat.mod_mul, Nat.pow_succ']
      ring
    have hdiv : v / 10 ^ (prec + 1) = v / 10 / 10 ^ prec := by
      rw [Nat.pow_succ', Nat.div_div_eq_div_mul]
    rw [hrest, hdiv, show k + (prec + 1) = k + 1 + prec by omega]
    by_cases hprint : buf = [] ∧ v % 10 = 0
    · obtain ⟨rfl, hzero⟩ := hprint
      have h := ih (v / 10) (k := k + 1) (r := r) [] (Nat.zero_le _)
        (by simpa using hval) (by simp)
      simpa [fmtFrac, hzero] using h
    · have hbuf : (v % 10).digitChar :: buf ≠ [] := List.cons_ne_nil _ _
      have h := ih (v / 10) (k := k + 1) ((v % 10).digitChar :: buf)
        (Nat.succ_le_succ hlen) (ofDigitChars_digitChar hdigit hlen) (by
          intro c hc
          obtain rfl | hc := List.mem_cons.mp hc
          · rw [Nat.isDigit_digitChar, decide_eq_true hdigit]
          · exact hdigits c hc)
      rw [hval] at h
      have hflag : (decide (buf ≠ []) || decide (v % 10 ≠ 0)) = true := by
        simpa [or_iff_not_imp_left] using hprint
      simpa only [fmtFrac, hflag, if_true, decide_eq_true hbuf] using h

theorem fmtFrac_eq (prec v : ℕ) :
    ∃ ds, fmtFrac prec v false [] = (pointed ds, v / 10 ^ prec) ∧
      (∀ c ∈ ds, c.isDigit = true) ∧
      Nat.ofDigitChars 10 ds 0 * 10 ^ (prec - ds.length) = v % 10 ^ prec := by
  have h := fmtFrac_loop prec v (k := 0) [] (Nat.zero_le _) rfl (by simp)
  simpa using h

/-- The first part of a text ends where its letters stop to satisfy `p`. -/
theorem append_inj_of_span {p : Char → Bool} {xs ys r t : List Char}
    (hxs : ∀ c ∈ xs, p c = true) (hys : ∀ c ∈ ys, p c = true)
    (hr : ∀ c ∈ r.head?, p c = false) (ht : ∀ c ∈ t.head?, p c = false)
    (h : xs ++ r = ys ++ t) : xs = ys ∧ r = t := by
  have hstop : ∀ {l : List Char}, (∀ c ∈ l.head?, p c = false) → l.takeWhile p = [] := by
    intro l hl
    cases l with
    | nil => rfl
    | cons c l => simpa using hl
  have htake := congrArg (List.takeWhile p) h
  rw [List.takeWhile_append_of_pos hxs, List.takeWhile_append_of_pos hys, hstop hr, hstop ht,
    List.append_nil, List.append_nil] at htake
  subst htake
  exact ⟨rfl, List.append_cancel_left h⟩

/-- A whole number and a fraction. -/
def number (prec a v : ℕ) : List Char := fmtInt a ++ (fmtFrac prec v false []).1

theorem number_inj {prec a b v w : ℕ} (h : number prec a v = number prec b w) :
    a = b ∧ v % 10 ^ prec = w % 10 ^ prec := by
  obtain ⟨ds, hds, -, hv⟩ := fmtFrac_eq prec v
  obtain ⟨es, hes, -, hw⟩ := fmtFrac_eq prec w
  have hpoint : ∀ ds : List Char, ∀ c ∈ (pointed ds).head?, c.isDigit = false := by
    intro ds c hc
    unfold pointed at hc
    split_ifs at hc
    · cases hc
    · cases hc
      rfl
  unfold number at h
  rw [hds, hes] at h
  obtain ⟨hint, hfrac⟩ := append_inj_of_span (fun _ ↦ isDigit_of_mem_fmtInt)
    (fun _ ↦ isDigit_of_mem_fmtInt) (hpoint ds) (hpoint es) h
  have heq := pointed_injective hfrac
  subst heq
  exact ⟨fmtInt_injective hint, hv.symm.trans hw⟩

def isNumeral (c : Char) : Bool := c.isDigit || c = '.'

theorem isNumeral_of_mem_number {prec a v : ℕ} {c : Char} (h : c ∈ number prec a v) :
    isNumeral c = true := by
  obtain ⟨ds, hds, hdigits, -⟩ := fmtFrac_eq prec v
  unfold number at h
  rw [hds] at h
  unfold isNumeral
  obtain hc | hc := List.mem_append.mp h
  · simp [isDigit_of_mem_fmtInt hc]
  · unfold pointed at hc
    split_ifs at hc
    · cases hc
    · obtain rfl | hc := List.mem_cons.mp hc
      · simp
      · simp [hdigits c hc]

/-- A duration is written as a numeral and a rest that starts with a letter. -/
theorem formatDuration_cases {u : ℕ} (hu : 0 < u) :
    (u < 10 ^ 3 ∧ formatDuration u = number 0 (u / 10 ^ 0) u ++ ['n', 's']) ∨
    (u < 10 ^ 6 ∧ formatDuration u = number 3 (u / 10 ^ 3) u ++ ['µ', 's']) ∨
    (u < 10 ^ 9 ∧ formatDuration u = number 6 (u / 10 ^ 6) u ++ ['m', 's']) ∨
    (u / 10 ^ 9 / 60 = 0 ∧ formatDuration u = number 9 (u / 10 ^ 9 % 60) u ++ ['s']) ∨
    (u / 10 ^ 9 / 60 / 60 = 0 ∧ formatDuration u = number 0 (u / 10 ^ 9 / 60 % 60) 0 ++
      'm' :: (number 9 (u / 10 ^ 9 % 60) u ++ ['s'])) ∨
    formatDuration u = number 0 (u / 10 ^ 9 / 60 / 60) 0 ++
      'h' :: (number 0 (u / 10 ^ 9 / 60 % 60) 0 ++
        'm' :: (number 9 (u / 10 ^ 9 % 60) u ++ ['s'])) := by
  have hwhole : ∀ prec, (fmtFrac prec u false []).2 = u / 10 ^ prec := by
    intro prec
    obtain ⟨ds, hds, -⟩ := fmtFrac_eq prec u
    rw [hds]
  have hint : ∀ v, number 0 v 0 = fmtInt v := fun v ↦ List.append_nil _
  simp only [formatDuration, hint, if_neg hu.ne']
  split_ifs with hsecond hmicro hmilli hminute hhour
  · exact .inl ⟨hmicro, by simp only [hwhole, number]⟩
  · exact .inr (.inl ⟨hmilli, by simp only [hwhole, number]⟩)
  · exact .inr (.inr (.inl ⟨hsecond, by simp only [hwhole, number]⟩))
  · rw [hwhole] at hminute
    exact .inr (.inr (.inr (.inl ⟨hminute, by simp only [hwhole, number]⟩)))
  · rw [hwhole] at hhour
    exact .inr (.inr (.inr (.inr (.inl ⟨hhour, by simp only [hwhole, number]⟩))))
  · exact .inr (.inr (.inr (.inr (.inr (by simp only [hwhole, number])))))

theorem number_append_inj {prec prec' a b v w : ℕ} {c c' : Char} {r t : List Char}
    (hc : isNumeral c = false) (hc' : isNumeral c' = false)
    (h : number prec a v ++ c :: r = number prec' b w ++ c' :: t) :
    number prec a v = number prec' b w ∧ c = c' ∧ r = t := by
  obtain ⟨hnumber, hrest⟩ := append_inj_of_span (fun _ ↦ isNumeral_of_mem_number)
    (fun _ ↦ isNumeral_of_mem_number) (by simpa using hc) (by simpa using hc') h
  exact ⟨hnumber, List.cons.inj hrest⟩

theorem number_ne_nil (prec a v : ℕ) : number prec a v ≠ [] :=
  List.append_ne_nil_of_left_ne_nil Nat.toDigits_ne_nil _

theorem number_append_ne {prec a v : ℕ} {c : Char} : [c] ≠ number prec a v ++ [c] := by
  intro h
  have hlen := congrArg List.length h
  have hpos := List.length_pos_iff.mpr (number_ne_nil prec a v)
  simp only [List.length_append, List.length_singleton] at hlen
  omega

theorem formatDuration_injective {u v : ℕ} (hu : 0 < u) (hv : 0 < v)
    (h : formatDuration u = formatDuration v) : u = v := by
  obtain ⟨hu', hfu⟩ | ⟨hu', hfu⟩ | ⟨hu', hfu⟩ | ⟨hu', hfu⟩ | ⟨hu', hfu⟩ | hfu :=
      formatDuration_cases hu <;>
    obtain ⟨hv', hfv⟩ | ⟨hv', hfv⟩ | ⟨hv', hfv⟩ | ⟨hv', hfv⟩ | ⟨hv', hfv⟩ | hfv :=
      formatDuration_cases hv <;>
    rw [hfu, hfv] at h <;>
    obtain ⟨hnumber, hunit, hrest⟩ := number_append_inj (by decide) (by decide) h <;>
    first
    | exact absurd hunit (by decide)
    | skip
  -- nanoseconds, microseconds and milliseconds
  · have := number_inj hnumber
    omega
  · have := number_inj hnumber
    omega
  · have := number_inj hnumber
    omega
  -- milliseconds and minutes start alike
  · exact absurd hrest number_append_ne
  · have := number_inj hnumber
    omega
  · exact absurd hrest.symm number_append_ne
  · have hminutes := number_inj hnumber
    have hseconds := number_inj (List.append_cancel_right hrest)
    omega
  · have hhours := number_inj hnumber
    obtain ⟨hminute, -, hsecond⟩ := number_append_inj (by decide) (by decide) hrest
    have hminutes := number_inj hminute
    have hseconds := number_inj (List.append_cancel_right hsecond)
    omega

theorem colon_notMem_formatDuration {u : ℕ} (hu : 0 < u) : ':' ∉ formatDuration u := by
  have hnumber : ∀ prec a v, ':' ∉ number prec a v := fun prec a v h ↦
    absurd (isNumeral_of_mem_number h) (by decide)
  obtain ⟨-, h⟩ | ⟨-, h⟩ | ⟨-, h⟩ | ⟨-, h⟩ | ⟨-, h⟩ | h := formatDuration_cases hu <;>
    simp [h, hnumber]

theorem durationString_toList {d : ℤ} (hd : 0 < d) :
    (durationString d).toList = formatDuration d.natAbs := by
  rw [durationString, if_neg (by omega), String.toList_ofList]

theorem durationString_injective {d e : ℤ} (hd : 0 < d) (he : 0 < e)
    (h : durationString d = durationString e) : d = e := by
  have hlist := congrArg String.toList h
  rw [durationString_toList hd, durationString_toList he] at hlist
  have habs := formatDuration_injective (by omega) (by omega) hlist
  omega

theorem colon_notMem_durationString {d : ℤ} (hd : 0 < d) : ':' ∉ (durationString d).toList := by
  rw [durationString_toList hd]
  exact colon_notMem_formatDuration (by omega)

end Rosmon.Go
