import Rosmon.Go.Calendar
import Rosmon.Go.Numbers
import Rosmon.Go.Duration

namespace Rosmon.Go

open Library.Calendar

/-- What a clock shows, with the date. -/
structure Wall where
  year : ℕ
  month : ℕ
  day : ℕ
  hour : ℕ
  minute : ℕ
  second : ℕ
  deriving DecidableEq

def daysIn (month year : ℕ) : ℤ := monthLength (12 * year + month - 1)

structure Wall.Valid (w : Wall) : Prop where
  year : w.year < 10000
  month : 1 ≤ w.month ∧ w.month ≤ 12
  day : 1 ≤ w.day ∧ w.day ≤ daysIn w.month w.year
  hour : w.hour < 24
  minute : w.minute < 60
  second : w.second < 60

/-- The time in UTC at which a clock shows this. -/
def Wall.time (w : Wall) : ℤ :=
  date w.year w.month w.day + (w.hour * 3600 + w.minute * 60 + w.second) * 1000000000

/-- What `time.Date` makes of what a clock shows in a zone. -/
def Zone.resolve (zone : Zone) (clock : ℤ) : ℤ :=
  let unix := clock / 1000000000
  clock - zone.offset (unix - zone.offset unix) * 1000000000

section Parse

def digitValue (c : Char) : ℕ := c.toNat - '0'.toNat

def getnum (fixed : Bool) : List Char → Option (ℕ × List Char)
  | [] => none
  | [a] => if isDigit a ∧ fixed = false then some (digitValue a, []) else none
  | a :: b :: rest =>
    if isDigit a = false then none
    else if isDigit b then some (digitValue a * 10 + digitValue b, rest)
    else if fixed then none else some (digitValue a, b :: rest)

/-- The four digits of `2006`. -/
def getYear : List Char → Option (ℕ × List Char)
  | a :: b :: c :: d :: rest =>
    if [a, b, c, d].all isDigit then some (decimal [a, b, c, d], rest) else none
  | _ => none

/-- Two names of a month that differ in the case of their letters. -/
def sameName (a b : List Char) : Bool := a.map Char.toLower = b.map Char.toLower

/-- `lookup` in `shortMonthNames`. -/
def lookupMonth (value : List Char) : Option (ℕ × List Char) :=
  ((List.range' 1 12).find? fun m : ℕ ↦ sameName (value.take 3) (monthName m).toList).map
    fun m ↦ (m, value.drop 3)

def skip (c : Char) : List Char → Option (List Char)
  | [] => none
  | a :: rest => if a = c then some rest else none

/-- A blank of the layout stands for one or more, except at the end. -/
def skipBlanks : List Char → Option (List Char)
  | [] => some []
  | a :: rest => if a = ' ' then some (rest.dropWhile (· = ' ')) else none

/-- A fraction of the second that the layout does not mention, in nanoseconds. -/
def getFraction : List Char → ℕ × List Char
  | p :: d :: rest =>
    if (p = '.' ∨ p = ',') ∧ isDigit d then
      let digits := (d :: rest).takeWhile isDigit
      (decimal (digits.take 9) * 10 ^ (9 - digits.length), (d :: rest).dropWhile isDigit)
    else (0, p :: d :: rest)
  | value => (0, value)

/-- `time.Parse("Jan/02/2006 15:04:05", value)`: what the clock shows, and the nanoseconds. -/
def parseStamp (value : List Char) : Option (Wall × ℕ) := do
  let (month, value) ← lookupMonth value
  let value ← skip '/' value
  let (day, value) ← getnum true value
  let value ← skip '/' value
  let (year, value) ← getYear value
  let value ← skipBlanks value
  let (hour, value) ← getnum false value
  guard (hour < 24)
  let value ← skip ':' value
  let (minute, value) ← getnum true value
  guard (minute < 60)
  let value ← skip ':' value
  let (second, value) ← getnum true value
  guard (second < 60)
  let (nsec, value) := getFraction value
  guard (value = [])
  guard (1 ≤ day ∧ day ≤ daysIn month year)
  return (⟨year, month, day, hour, minute, second⟩, nsec)

example : parseStamp "DEC/31/2025  9:08:07".toList = some (⟨2025, 12, 31, 9, 8, 7⟩, 0) ∧
    parseStamp "feb/29/2025 00:00:00".toList = none ∧
    parseStamp "jan/05/2025 15:04".toList = none := by decide +kernel

end Parse

section Readers

variable {s rest : List Char} {n : ℕ}

/-- Two digits. -/
def two (n : ℕ) : List Char := [(n / 10).digitChar, (n % 10).digitChar]

def four (n : ℕ) : List Char := two (n / 100) ++ two (n % 100)

theorem skip_iff {c : Char} : skip c s = some rest ↔ s = c :: rest := by
  cases s with
  | nil => simp [skip]
  | cons a s =>
    by_cases h : a = c <;> simp [skip, h]

theorem isDigit_digitChar {n : ℕ} (h : n < 10) : isDigit n.digitChar = true := by
  interval_cases n <;> decide

theorem digitValue_digitChar {n : ℕ} (h : n < 10) : digitValue n.digitChar = n := by
  interval_cases n <;> decide

/-- A digit is the digit of its value. -/
theorem digitChar_digitValue {c : Char} (h : isDigit c = true) :
    digitValue c < 10 ∧ (digitValue c).digitChar = c := by
  have hrange : 48 ≤ c.toNat ∧ c.toNat ≤ 57 := by
    simpa [isDigit, Char.le_def, UInt32.le_iff_toNat_le] using h
  have hc : c = Char.ofNat c.toNat := (Char.ofNat_toNat c).symm
  unfold digitValue
  generalize c.toNat = k at hrange hc
  subst hc
  obtain ⟨hlow, hhigh⟩ := hrange
  interval_cases k <;> decide

theorem getnum_two {fixed : Bool} (h : n < 100) :
    getnum fixed (two n ++ rest) = some (n, rest) := by
  have htens : n / 10 < 10 := by omega
  have hones : n % 10 < 10 := by omega
  simp only [two, List.cons_append, List.nil_append, getnum, isDigit_digitChar htens,
    isDigit_digitChar hones, digitValue_digitChar htens, digitValue_digitChar hones, if_true]
  simp only [Bool.true_eq_false, if_false, Option.some.injEq, Prod.mk.injEq, and_true]
  omega

theorem getnum_true_iff : getnum true s = some (n, rest) ↔ n < 100 ∧ s = two n ++ rest := by
  constructor
  · intro h
    match s with
    | [] => simp [getnum] at h
    | [a] => simp [getnum] at h
    | a :: b :: s =>
      simp only [getnum, if_true] at h
      split_ifs at h with ha hb
      obtain ⟨rfl, rfl⟩ := Prod.mk.inj (Option.some.inj h)
      obtain ⟨ha10, hachar⟩ := digitChar_digitValue (Bool.eq_true_of_not_eq_false ha)
      obtain ⟨hb10, hbchar⟩ := digitChar_digitValue hb
      refine ⟨by omega, ?_⟩
      have htens : (digitValue a * 10 + digitValue b) / 10 = digitValue a := by omega
      have hones : (digitValue a * 10 + digitValue b) % 10 = digitValue b := by omega
      rw [two, htens, hones, hachar, hbchar]
      rfl
  · rintro ⟨hn, rfl⟩
    exact getnum_two hn

/-- A number of one digit ends where no other digit follows. -/
theorem getnum_false_iff : getnum false s = some (n, rest) ↔ n < 100 ∧ s = two n ++ rest ∨
    n < 10 ∧ s = n.digitChar :: rest ∧ ∀ c ∈ rest.head?, isDigit c = false := by
  constructor
  · intro h
    match s with
    | [] => simp [getnum] at h
    | [a] =>
      simp only [getnum] at h
      split_ifs at h with ha
      obtain ⟨rfl, rfl⟩ := Prod.mk.inj (Option.some.inj h)
      obtain ⟨ha10, hachar⟩ := digitChar_digitValue ha.1
      exact .inr ⟨ha10, by rw [hachar], fun c hc ↦ nomatch hc⟩
    | a :: b :: s =>
      simp only [getnum, Bool.false_eq_true, if_false] at h
      split_ifs at h with ha hb
      · left
        rw [← getnum_true_iff]
        simp only [getnum, ha, hb, if_true]
        exact h
      · obtain ⟨rfl, rfl⟩ := Prod.mk.inj (Option.some.inj h)
        obtain ⟨ha10, hachar⟩ := digitChar_digitValue (Bool.eq_true_of_not_eq_false ha)
        refine .inr ⟨ha10, by rw [hachar], fun c hc ↦ ?_⟩
        obtain rfl := Option.some.inj hc
        exact Bool.eq_false_of_not_eq_true hb
  · rintro (h | ⟨hn, rfl, hrest⟩)
    · obtain ⟨hn, rfl⟩ := h
      exact getnum_two hn
    · cases rest with
      | nil => simp [getnum, isDigit_digitChar hn, digitValue_digitChar hn]
      | cons b rest =>
        have hb : isDigit b = false := hrest b rfl
        simp [getnum, isDigit_digitChar hn, digitValue_digitChar hn, hb]

theorem getYear_iff : getYear s = some (n, rest) ↔ n < 10000 ∧ s = four n ++ rest := by
  constructor
  · intro h
    unfold getYear at h
    split at h
    next a b c d s =>
      split_ifs at h with hall
      simp only [List.all_cons, List.all_nil, Bool.and_true, Bool.and_eq_true] at hall
      obtain ⟨ha, hb, hc, hd⟩ := hall
      obtain ⟨hn, rfl⟩ := Prod.mk.inj (Option.some.inj h)
      obtain ⟨ha10, hachar⟩ := digitChar_digitValue ha
      obtain ⟨hb10, hbchar⟩ := digitChar_digitValue hb
      obtain ⟨hc10, hcchar⟩ := digitChar_digitValue hc
      obtain ⟨hd10, hdchar⟩ := digitChar_digitValue hd
      have hn' : n =
          digitValue a * 1000 + digitValue b * 100 + digitValue c * 10 + digitValue d := by
        rw [← hn]
        simp only [decimal, List.foldl, digitValue]
        omega
      have h1 : n / 100 / 10 = digitValue a := by omega
      have h2 : n / 100 % 10 = digitValue b := by omega
      have h3 : n % 100 / 10 = digitValue c := by omega
      have h4 : n % 100 % 10 = digitValue d := by omega
      refine ⟨by omega, ?_⟩
      rw [four, two, two, h1, h2, h3, h4, hachar, hbchar, hcchar, hdchar]
      rfl
    · cases h
  · rintro ⟨hn, rfl⟩
    have h1 : n / 100 / 10 < 10 := by omega
    have h2 : n / 100 % 10 < 10 := by omega
    have h3 : n % 100 / 10 < 10 := by omega
    have h4 : n % 100 % 10 < 10 := by omega
    have hvalue : ∀ {k : ℕ}, k < 10 → k.digitChar.toNat - '0'.toNat = k := digitValue_digitChar
    simp only [four, two, List.cons_append, List.nil_append, getYear, List.all_cons, List.all_nil,
      isDigit_digitChar h1, isDigit_digitChar h2, isDigit_digitChar h3, isDigit_digitChar h4,
      Bool.and_self, if_true, decimal, List.foldl, hvalue h1, hvalue h2, hvalue h3, hvalue h4,
      Option.some.injEq, Prod.mk.injEq, and_true]
    omega

theorem skipBlanks_iff : skipBlanks s = some rest ↔ s = [] ∧ rest = [] ∨
    ∃ k, s = ' ' :: (List.replicate k ' ' ++ rest) ∧ ∀ c ∈ rest.head?, c ≠ ' ' := by
  constructor
  · intro h
    cases s with
    | nil => exact .inl ⟨rfl, (Option.some.inj h).symm⟩
    | cons a s =>
      simp only [skipBlanks] at h
      split_ifs at h with ha
      obtain rfl := Option.some.inj h
      have hblanks : s.takeWhile (· = ' ') = List.replicate (s.takeWhile (· = ' ')).length ' ' :=
        List.eq_replicate_of_mem fun c hc ↦ by
          have hblank := List.mem_takeWhile_imp hc
          simpa using hblank
      refine .inr ⟨(s.takeWhile (· = ' ')).length, ?_, fun c hc ↦ ?_⟩
      · rw [← hblanks, List.takeWhile_append_dropWhile, ha]
      · have hnot := List.head?_dropWhile_not (· = ' ') s
        rw [Option.mem_def.mp hc] at hnot
        simpa using hnot
  · rintro (⟨rfl, rfl⟩ | ⟨k, rfl, hrest⟩)
    · rfl
    · have hblanks : ∀ c ∈ List.replicate k ' ', decide (c = ' ') = true :=
        fun c hc ↦ decide_eq_true (List.eq_of_mem_replicate hc)
      have hstop : rest.dropWhile (· = ' ') = rest := by
        cases rest with
        | nil => rfl
        | cons c rest => simp [hrest c rfl]
      simp only [skipBlanks, if_true, List.dropWhile_append_of_pos hblanks, hstop]

theorem name_length {name : List Char} {m : ℕ} (hm : 1 ≤ m ∧ m ≤ 12)
    (h : sameName name (monthName m).toList = true) : name.length = 3 := by
  have hlength := congrArg List.length (of_decide_eq_true h)
  simp only [List.length_map] at hlength
  rw [hlength]
  obtain ⟨hlow, hhigh⟩ := hm
  interval_cases m <;> rfl

theorem lookupMonth_iff : lookupMonth s = some (n, rest) ↔ (1 ≤ n ∧ n ≤ 12) ∧
    ∃ name, sameName name (monthName n).toList = true ∧ s = name ++ rest := by
  constructor
  · intro h
    obtain ⟨m, hm, hpair⟩ := Option.map_eq_some_iff.mp h
    obtain ⟨rfl, rfl⟩ := Prod.mk.inj hpair
    have hrange := List.mem_range'_1.mp (List.mem_of_find?_eq_some hm)
    have hname := List.find?_some hm
    exact ⟨by omega, s.take 3, hname, (List.take_append_drop 3 s).symm⟩
  · rintro ⟨hn, name, hname, rfl⟩
    have hlower := of_decide_eq_true hname
    have hlength := name_length hn hname
    have hfind : (List.range' 1 12).find? (fun m : ℕ ↦ sameName name (monthName m).toList) =
        some n := by
      simp only [sameName, hlower]
      obtain ⟨hlow, hhigh⟩ := hn
      interval_cases n <;> decide
    rw [lookupMonth, List.take_left' hlength, List.drop_left' hlength, hfind]
    rfl

theorem getFraction_nil {k : ℕ} (h : getFraction s = (k, [])) :
    s = [] ∧ k = 0 ∨ 2 ≤ s.length := by
  match s with
  | [] => exact .inl ⟨rfl, (Prod.mk.inj h).1.symm⟩
  | [a] => simp [getFraction] at h
  | a :: b :: s => exact .inr (by simp)

/-- The same time, written as the layout has it, or with a blank for the first digit of an hour
that has one digit only; the case of the name of the month does not matter. -/
def Wall.Written (w : Wall) (s : List Char) : Prop :=
  ∃ name hours, sameName name (monthName w.month).toList = true ∧
    (hours = two w.hour ∨ w.hour < 10 ∧ hours = [' ', w.hour.digitChar]) ∧
    s = name ++ '/' :: (two w.day ++ '/' :: (four w.year ++ ' ' :: (hours ++
      ':' :: (two w.minute ++ ':' :: two w.second))))

theorem two_length (n : ℕ) : (two n).length = 2 := rfl

theorem four_length (n : ℕ) : (four n).length = 4 := rfl

theorem Wall.Written.length {w : Wall} (hw : w.Valid) (h : w.Written s) : s.length = 20 := by
  obtain ⟨name, hours, hname, hhours, rfl⟩ := h
  have hlength : hours.length = 2 := by
    obtain rfl | ⟨-, rfl⟩ := hhours <;> rfl
  simp [name_length hw.month hname, hlength, two_length, four_length]

theorem guard_iff {p : Prop} [Decidable p] {u : Unit} : (guard p : Option Unit) = some u ↔ p := by
  by_cases h : p <;> simp [guard, h]

/-- The texts of the length of the layout that can be read, and as what. -/
theorem parseStamp_iff {w : Wall} {k : ℕ} (hs : s.length = 20) :
    parseStamp s = some (w, k) ↔ w.Valid ∧ w.Written s ∧ k = 0 := by
  simp only [parseStamp, bind, Option.bind_eq_some_iff, Prod.exists, lookupMonth_iff, skip_iff,
    getnum_true_iff, getYear_iff, guard_iff]
  constructor
  · rintro ⟨month, _, ⟨hmonth, name, hname, rfl⟩, _, rfl, day, _, ⟨-, rfl⟩, _, rfl, year, _,
      ⟨hyear, rfl⟩, digits, hblanks, hour, _, hhours, -, hhour, _, rfl, minute, _, ⟨-, rfl⟩, -,
      hminute, _, rfl, second, fraction, ⟨-, rfl⟩, -, hsecond, -, hend, -, hday, hpair⟩
    obtain ⟨rfl, rfl⟩ := Prod.mk.inj (Option.some.inj hpair)
    have hfraction : getFraction fraction = ((getFraction fraction).1, []) := Prod.ext rfl hend
    have hlength := name_length hmonth hname
    have hblanks := (skipBlanks_iff.mp hblanks).resolve_left fun hnil ↦ by
      rw [hnil.2] at hhours
      cases hhours
    obtain ⟨blanks, rfl, -⟩ := hblanks
    -- Twenty letters have no room for a fraction, and for a second blank only if the hour is short.
    obtain ⟨-, rfl⟩ | ⟨hten, rfl, -⟩ := getnum_false_iff.mp hhours
    · simp only [List.length_append, List.length_cons, hlength, two_length, four_length,
        List.length_replicate] at hs
      obtain ⟨rfl, hzero⟩ := (getFraction_nil hfraction).resolve_right (by omega)
      obtain rfl : blanks = 0 := by
        simp only [List.length_nil] at hs
        omega
      exact ⟨⟨hyear, hmonth, hday, hhour, hminute, hsecond⟩,
        ⟨name, two hour, hname, .inl rfl, by simp⟩, hzero⟩
    · simp only [List.length_append, List.length_cons, hlength, two_length, four_length,
        List.length_replicate] at hs
      obtain ⟨rfl, hzero⟩ := (getFraction_nil hfraction).resolve_right (by omega)
      obtain rfl : blanks = 1 := by
        simp only [List.length_nil] at hs
        omega
      exact ⟨⟨hyear, hmonth, hday, hhour, hminute, hsecond⟩,
        ⟨name, [' ', hour.digitChar], hname, .inr ⟨hten, rfl⟩, by simp⟩, hzero⟩
  · rintro ⟨hw, ⟨name, hours, hname, hhours, rfl⟩, rfl⟩
    have hday : w.day < 100 := by
      have h31 := (monthLength_bounds (12 * w.year + w.month - 1)).2
      have hday := hw.day.2
      unfold daysIn at hday
      omega
    have hminute := hw.minute
    have hsecond := hw.second
    have hhour := hw.hour
    obtain ⟨digits, hblanks, hget⟩ : ∃ digits,
        skipBlanks (' ' :: (hours ++ ':' :: (two w.minute ++ ':' :: two w.second))) = some digits ∧
          getnum false digits = some (w.hour, ':' :: (two w.minute ++ ':' :: two w.second)) := by
      have hdigit : ∀ {n : ℕ}, n < 10 → n.digitChar ≠ ' ' := by
        intro n hn hblank
        have h := isDigit_digitChar hn
        rw [hblank] at h
        cases h
      obtain rfl | ⟨hten, rfl⟩ := hhours
      · refine ⟨_, skipBlanks_iff.mpr (.inr ⟨0, rfl, fun c hc ↦ ?_⟩), getnum_two (by omega)⟩
        obtain rfl := Option.some.inj hc
        exact hdigit (by omega)
      · refine ⟨_, skipBlanks_iff.mpr (.inr ⟨1, rfl, fun c hc ↦ ?_⟩),
          getnum_false_iff.mpr (.inr ⟨hten, rfl, fun c hc ↦ ?_⟩)⟩
        · obtain rfl := Option.some.inj hc
          exact hdigit hten
        · obtain rfl := Option.some.inj hc
          rfl
    exact ⟨w.month, _, ⟨hw.month, name, hname, rfl⟩, _, rfl, w.day, _, ⟨hday, rfl⟩, _, rfl, w.year,
      _, ⟨hw.year, rfl⟩, digits, hblanks, w.hour, _, hget, (), hhour, _, rfl, w.minute, _,
      ⟨by omega, rfl⟩, (), hminute, _, rfl, w.second, [], ⟨by omega, (List.append_nil _).symm⟩, (),
      hsecond, (), rfl, (), hw.day, rfl⟩

end Readers

section Format

/-- `appendInt`. -/
def appendInt (x : ℤ) (width : ℕ) : List Char :=
  let digits := fmtInt x.natAbs
  (if x < 0 then ['-'] else []) ++ List.replicate (width - digits.length) '0' ++ digits

/-- `t.Format("Jan/02/2006 15:04:05")`, in UTC. -/
def formatStamp (t : ℤ) : List Char :=
  let seconds := t % (24 * hour) / 1000000000
  (monthName (month t)).toList ++ '/' :: appendInt (dayOfMonth t) 2 ++
    '/' :: appendInt (year t) 4 ++ ' ' :: appendInt (seconds / 3600) 2 ++
    ':' :: appendInt (seconds / 60 % 60) 2 ++ ':' :: appendInt (seconds % 60) 2

example : formatStamp ((19782 * 24 + 5) * hour) = "Feb/29/2024 05:00:00".toList := by decide +kernel

end Format

section RoundTrip

/-- A number with zeros in front of it. -/
def zeroPadded (width n : ℕ) : List Char :=
  List.replicate (width - (fmtInt n).length) '0' ++ fmtInt n

theorem zeroPadded_one {n : ℕ} (h : n < 10) : zeroPadded 1 n = [n.digitChar] := by
  simp [zeroPadded, fmtInt, Nat.toDigits_of_lt_base h]

theorem zeroPadded_succ {width n : ℕ} (h : 0 < width) :
    zeroPadded (width + 1) n = zeroPadded width (n / 10) ++ [(n % 10).digitChar] := by
  unfold zeroPadded fmtInt
  by_cases hn : n < 10
  · have hzero : n / 10 = 0 := by omega
    obtain ⟨k, rfl⟩ := Nat.exists_eq_add_of_lt h
    simp only [hzero, Nat.toDigits_of_lt_base hn, Nat.toDigits_zero, Nat.mod_eq_of_lt hn,
      List.length_singleton, ← List.replicate_succ']
    congr 2
  · rw [Nat.toDigits_of_base_le (by omega) (by omega : 10 ≤ n), List.length_append,
      List.length_singleton, Nat.add_sub_add_right, List.append_assoc]

theorem zeroPadded_two {n : ℕ} (h : n < 100) : zeroPadded 2 n = two n := by
  rw [zeroPadded_succ (by omega), zeroPadded_one (by omega)]
  rfl

theorem zeroPadded_four {n : ℕ} (h : n < 10000) : zeroPadded 4 n = four n := by
  rw [zeroPadded_succ (by omega), zeroPadded_succ (by omega), zeroPadded_succ (by omega),
    zeroPadded_one (by omega)]
  have h1 : n / 10 / 10 / 10 = n / 100 / 10 := by omega
  have h2 : n / 10 / 10 % 10 = n / 100 % 10 := by omega
  have h3 : n / 10 % 10 = n % 100 / 10 := by omega
  have h4 : n % 10 = n % 100 % 10 := by omega
  rw [h1, h2, h3, h4]
  rfl

theorem appendInt_nonneg {x : ℤ} (h : 0 ≤ x) (width : ℕ) :
    appendInt x width = zeroPadded width x.toNat := by
  have habs : x.natAbs = x.toNat := by omega
  simp [appendInt, zeroPadded, habs, not_lt.mpr h]

/-- `strings.ToLower` leaves digits and what stands between them alone. -/
theorem lowerRune_of_digit {c : Char} (h : c.isDigit = true ∨ c ∈ ['-', '/', ':', ' ']) :
    lowerRune c = c := by
  obtain h | h := h
  · have hrange : 48 ≤ c.toNat ∧ c.toNat ≤ 57 := by
      simpa [Char.isDigit, UInt32.le_iff_toNat_le] using h
    have hupper : ¬('A' ≤ c ∧ c ≤ 'Z') := by
      simp only [Char.le_def, UInt32.le_iff_toNat_le]
      intro hA
      have hlow : 65 ≤ c.toNat := hA.1
      omega
    simp only [lowerRune, hupper, if_false]
    rw [if_neg (by omega), if_neg (by omega)]
  · fin_cases h <;> decide

theorem lower_appendInt (x : ℤ) (width : ℕ) :
    (appendInt x width).map lowerRune = appendInt x width := by
  have hkept : ∀ c ∈ appendInt x width, lowerRune c = c := by
    intro c hc
    refine lowerRune_of_digit ?_
    simp only [appendInt, List.mem_append] at hc
    obtain (hsign | hzero) | hdigit := hc
    · split_ifs at hsign
      · exact .inr (List.mem_cons.mpr (.inl (List.mem_singleton.mp hsign)))
      · cases hsign
    · exact .inl (List.eq_of_mem_replicate hzero ▸ rfl)
    · exact .inl (isDigit_of_mem_fmtInt hdigit)
  rw [List.map_congr_left hkept, List.map_id']

/-- `strings.ToLower(t.Format("Jan/02/2006 15:04:05"))`. -/
def stamp (t : ℤ) : List Char := (formatStamp t).map lowerRune

theorem month_range (t : ℤ) : 1 ≤ month t ∧ month t ≤ 12 := by
  obtain ⟨m, d, c, hd, hc, ht⟩ := exists_midnight t
  rw [(civil_midnight hd hc ht).2.1]
  omega

/-- All of a stamp but the year is as wide as in the layout. -/
theorem stamp_eq (t : ℤ) : ∃ (name : List Char) (d h mi se : ℕ),
    sameName name (monthName (month t)).toList = true ∧ (d : ℤ) = dayOfMonth t ∧
      (1 ≤ d ∧ d ≤ 31) ∧ h < 24 ∧ mi < 60 ∧ se < 60 ∧
        ((h * 3600 + mi * 60 + se : ℕ) : ℤ) = t % (24 * hour) / 1000000000 ∧
          stamp t = name ++ '/' :: (two d ++ '/' :: (appendInt (year t) 4 ++ ' ' :: (two h ++
            ':' :: (two mi ++ ':' :: two se)))) := by
  obtain ⟨m, d, c, hd, hc, ht⟩ := exists_midnight t
  obtain ⟨-, -, hday⟩ := civil_midnight hd hc ht
  have hclock := (dayNumber_eq hc ht).2
  have hbounds := (monthLength_bounds m).2
  have hsecond : 0 ≤ c / 1000000000 ∧ c / 1000000000 < 86400 := by
    unfold hour at hc
    omega
  have htwo : ∀ x : ℤ, 0 ≤ x → x < 100 → appendInt x 2 = two x.toNat := by
    intro x hx hx'
    rw [appendInt_nonneg hx, zeroPadded_two (by omega)]
  refine ⟨(monthName (month t)).toList.map lowerRune, d.toNat, (c / 1000000000 / 3600).toNat,
    (c / 1000000000 / 60 % 60).toNat, (c / 1000000000 % 60).toNat, ?_, ?_, by omega, by omega,
    by omega, by omega, ?_, ?_⟩
  · obtain ⟨hlow, hhigh⟩ := month_range t
    interval_cases month t <;> decide
  · rw [hday]
    omega
  · rw [hclock]
    omega
  · have hslash : lowerRune '/' = '/' := by decide
    have hcolon : lowerRune ':' = ':' := by decide
    have hblank : lowerRune ' ' = ' ' := by decide
    simp only [stamp, formatStamp, hclock, hday, List.map_append, List.map_cons, hslash, hcolon,
      hblank, lower_appendInt, List.append_assoc, List.cons_append]
    rw [htwo d (by omega) (by omega), htwo (c / 1000000000 / 3600) (by omega) (by omega),
      htwo (c / 1000000000 / 60 % 60) (by omega) (by omega),
      htwo (c / 1000000000 % 60) (by omega) (by omega)]

theorem four_digits {y : ℤ} (h : 0 ≤ y ∧ y < 10000) : appendInt y 4 = four y.toNat := by
  rw [appendInt_nonneg h.1, zeroPadded_four (by omega)]

/-- A stamp of a year of four digits says what the clock shows, but for the fraction of a second. -/
theorem stamp_written {t : ℤ} (h : 0 ≤ year t ∧ year t < 10000) :
    ∃ w : Wall, w.Valid ∧ w.Written (stamp t) ∧ w.time = t - t % 1000000000 := by
  obtain ⟨name, d, h', mi, se, hname, hday, hday', hhour, hminute, hsecond, hclock, hstamp⟩ :=
    stamp_eq t
  obtain ⟨m, d', c, hd, hc, ht⟩ := exists_midnight t
  obtain ⟨hyear, hmonth, hdate⟩ := civil_midnight hd hc ht
  have hmonths : 12 * ((year t).toNat : ℤ) + (month t).toNat - 1 = m := by omega
  have hcast : ((month t).toNat : ℤ) = month t := by omega
  refine ⟨⟨(year t).toNat, (month t).toNat, d, h', mi, se⟩, ⟨?_, ?_, ?_, hhour, hminute, hsecond⟩,
    ⟨name, two h', ?_, .inl rfl, ?_⟩, ?_⟩
  · show (year t).toNat < 10000
    omega
  · show 1 ≤ (month t).toNat ∧ (month t).toNat ≤ 12
    omega
  · simp only [daysIn, hmonths]
    omega
  · rwa [hcast]
  · rw [hstamp, four_digits h]
  · have hseconds : (h' * 3600 + mi * 60 + se : ℤ) = c / 1000000000 := by
      rw [(dayNumber_eq hc ht).2] at hclock
      exact_mod_cast hclock
    have hmidnight : midnight m d' % 1000000000 = 0 := by
      unfold midnight hour
      omega
    simp only [Wall.time, date, hmonths, hday, hdate, hseconds]
    omega

/-- A stamp of another year cannot be read, whatever follows it. -/
theorem stamp_unreadable {t : ℤ} (h : ¬(0 ≤ year t ∧ year t < 10000)) {w : Wall} (hw : w.Valid)
    {tail : List Char} : ¬w.Written ((stamp t ++ tail).take 20) := by
  rintro ⟨name', hours, hname', -, hwritten⟩
  obtain ⟨name, d, h', mi, se, hname, -, -, -, -, -, -, hstamp⟩ := stamp_eq t
  have hrange := month_range t
  have hlength : name.length = 3 := by
    refine name_length (m := (month t).toNat) (by omega) ?_
    rwa [Int.toNat_of_nonneg (by omega)]
  have hlength' := name_length hw.month hname'
  -- From the eighth letter on both go on with the year.
  have hdrop : ∀ (a : List Char) (n : ℕ) (x : List Char), a.length = 3 →
      (a ++ '/' :: (two n ++ '/' :: x)).drop 7 = x := by
    intro a n x ha
    obtain ⟨p, q, r, rfl⟩ := List.length_eq_three.mp ha
    rfl
  have hyear := congrArg (List.drop 7) hwritten
  simp only [hstamp, List.append_assoc, List.cons_append] at hyear
  rw [hdrop _ _ _ hlength', List.drop_take, hdrop _ _ _ hlength] at hyear
  by_cases hneg : year t < 0
  · have hhead := congrArg List.head? hyear
    simp only [appendInt, hneg, if_true, List.cons_append, List.nil_append, List.take_succ_cons,
      List.head?_cons, four, two, Option.some.injEq] at hhead
    have hdigit := isDigit_digitChar (n := w.year / 100 / 10) (by have hy := hw.year; omega)
    rw [← hhead] at hdigit
    cases hdigit
  · have hlong : 4 < (fmtInt (year t).toNat).length := by
      by_contra hshort
      have hle := (Nat.length_toDigits_le_iff (by omega) (by omega)).mp (not_lt.mp hshort)
      omega
    have hfifth := congrArg (·[4]?) hyear
    have hzeros : 4 - (fmtInt (year t).toNat).length = 0 := by omega
    simp only [appendInt_nonneg (not_lt.mp hneg), zeroPadded, hzeros, List.replicate_zero,
      List.nil_append, List.getElem?_take] at hfifth
    rw [if_pos (by omega), List.getElem?_append_left hlong] at hfifth
    have hblank : ' ' ∈ fmtInt (year t).toNat := List.mem_of_getElem? (hfifth.trans rfl)
    exact absurd (isDigit_of_mem_fmtInt hblank) (by decide)

/-- Blanks are cut off after a text that begins and ends with something else, not from it. -/
theorem trimSpace_append {text tail : List Char} (hne : text ≠ [])
    (hhead : isSpace (text.head hne) = false) (hlast : isSpace (text.getLast hne) = false) :
    ∃ tail', (trimSpace (String.ofList (text ++ tail))).toList = text ++ tail' := by
  have hfront : (text ++ tail).dropWhile isSpace = text ++ tail := by
    obtain ⟨c, rest, rfl⟩ := List.exists_cons_of_ne_nil hne
    have hc : isSpace c = false := hhead
    simp [hc]
  have hback : text.reverse.dropWhile isSpace = text.reverse := by
    obtain ⟨front, c, rfl⟩ := List.eq_nil_or_concat' text |>.resolve_left hne
    have hc : isSpace c = false := by simpa using hlast
    simp [hc]
  simp only [trimSpace, String.toList_ofList, hfront, List.reverse_append, List.dropWhile_append,
    hback]
  split_ifs
  · exact ⟨[], by simp⟩
  · exact ⟨(tail.reverse.dropWhile isSpace).reverse, by simp⟩

theorem stamp_trim (t : ℤ) (tail : List Char) :
    ∃ tail', (trimSpace (String.ofList (stamp t ++ tail))).toList = stamp t ++ tail' := by
  have hhead : ∃ c rest, stamp t = c :: rest ∧ isSpace c = false := by
    unfold stamp formatStamp
    obtain ⟨hlow, hhigh⟩ := month_range t
    generalize month t = m at hlow hhigh
    interval_cases m <;> exact ⟨_, _, rfl, by decide⟩
  have hlast : ∃ front n, stamp t = front ++ [n.digitChar] ∧ n < 10 := by
    obtain ⟨name, d, h, mi, se, -, -, -, -, -, -, -, hstamp⟩ := stamp_eq t
    refine ⟨name ++ '/' :: (two d ++ '/' :: (appendInt (year t) 4 ++ ' ' :: (two h ++
      ':' :: (two mi ++ ':' :: [(se / 10).digitChar])))), se % 10, ?_, by omega⟩
    rw [hstamp]
    simp [two]
  obtain ⟨c, rest, hcons, hc⟩ := hhead
  obtain ⟨front, n, hsnoc, hn⟩ := hlast
  have hdigit : isSpace n.digitChar = false := by
    interval_cases n <;> decide
  have hne : stamp t ≠ [] := by
    rw [hcons]
    exact List.cons_ne_nil _ _
  refine trimSpace_append hne ?_ ?_
  · simpa only [hcons, List.head_cons] using hc
  · simpa only [hsnoc, List.getLast_concat] using hdigit

end RoundTrip

section Zones

/-- What one zone's clock shows at a time is read in another zone: the fraction of the second makes
no difference. -/
theorem Zone.resolve_clock_iff (server router : Zone) (e : ℤ) :
    router.resolve (server.clock e - server.clock e % 1000000000) = e - e % 1000000000 ↔
      router.resolve (server.clock e) = e := by
  have hclock : server.clock e = e + server.offset (e / 1000000000) * 1000000000 := rfl
  have hunix : (server.clock e - server.clock e % 1000000000) / 1000000000 =
      server.clock e / 1000000000 := by omega
  simp only [Zone.resolve, hunix]
  generalize router.offset _ = o
  omega

end Zones

end Rosmon.Go
