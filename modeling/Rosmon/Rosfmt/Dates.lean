import Rosmon.Go.Itoa
import Rosmon.Go.Stamp

namespace Rosmon.Rosfmt

open Go Library.Calendar

def months : List String :=
  ["jan", "feb", "mar", "apr", "may", "jun", "jul", "aug", "sep", "oct", "nov", "dec"]

/-- `MonthIndex`, with none for -1. -/
def monthIndex (name : String) : Option ℕ := months.findIdx? (· = toLower (trimSpace name))

/-- `DateInt`. It takes slices of bytes, which are those of the letters up to the first one of
more than one byte; what remains of that one is no name and no number. -/
def dateInt (date : String) : Option ℤ := do
  let date := (trimSpace date).toList
  guard (11 ≤ date.length ∧ (date.take 11).all (·.toNat < 128))
  let mi ← monthIndex (String.ofList (date.take 3))
  let dayN ← atoi (String.ofList ((date.drop 4).take 2))
  let yearN ← atoi (String.ofList ((date.drop 7).take 4))
  return yearN * 10000 + (mi + 1) * 100 + dayN

/-- `FormatDate`, of what the clock of the time's zone shows. -/
def formatDate (t : ℤ) : String := String.ofList (((monthName (month t)).toList ++
  '/' :: appendInt (dayOfMonth t) 2 ++ '/' :: appendInt (year t) 4).map lowerRune)

/-- The year, the month and the day in a text of the layout `Jan/02/2006`. -/
def readDate (value : List Char) : Option (ℕ × ℕ × ℕ) := do
  let (month, value) ← lookupMonth value
  let value ← skip '/' value
  let (day, value) ← getnum true value
  let value ← skip '/' value
  let (year, value) ← getYear value
  guard (value = [])
  guard (1 ≤ day ∧ day ≤ daysIn month year)
  return (year, month, day)

def parseDate (s : String) (loc : Zone) : Option ℤ :=
  (readDate (toLower (trimSpace s)).toList).map fun (year, month, day) ↦
    loc.resolve (date year month day)

section Names

variable {name : List Char} {c x : Char} {m : ℕ}

/-- The name of a month, in capitals or not. -/
def Named (name : List Char) (m : ℕ) : Prop :=
  months[m]? = some (String.ofList (name.map lowerRune))

theorem lt_of_named (h : Named name m) : m < 12 := (List.getElem?_eq_some_iff.mp h).1

theorem named_iff (hm : m < 12) :
    Named name m ↔ name.map lowerRune = (monthName (m + 1 : ℕ)).toList.map lowerRune := by
  have hmonth : months[m]? =
      some (String.ofList ((monthName (m + 1 : ℕ)).toList.map lowerRune)) := by
    interval_cases m <;> decide
  rw [Named, hmonth, Option.some.injEq, String.ofList_inj, eq_comm]

theorem length_of_named (h : Named name m) : name.length = 3 := by
  have hm := lt_of_named h
  have hlength := congrArg List.length ((named_iff hm).mp h)
  rw [List.length_map] at hlength
  rw [hlength]
  interval_cases m <;> rfl

/-- A capital letter, a letter without a lower case, or one of the two letters outside ASCII whose
lower case is inside. -/
theorem lowerRune_cases (c : Char) : (∃ k, 65 ≤ k ∧ k ≤ 90 ∧ c = Char.ofNat k) ∨ lowerRune c = c ∧
    ¬('A' ≤ c ∧ c ≤ 'Z') ∨ lowerRune c = 'i' ∨ lowerRune c = 'k' := by
  unfold lowerRune
  split_ifs with hupper hi hk
  · obtain ⟨hA, hZ⟩ := hupper
    simp only [Char.le_def, UInt32.le_iff_toNat_le] at hA hZ
    exact .inl ⟨c.toNat, hA, hZ, (Char.ofNat_toNat c).symm⟩
  · exact .inr (.inr (.inl rfl))
  · exact .inr (.inr (.inr rfl))
  · exact .inr (.inl ⟨rfl, hupper⟩)

theorem toLower_lowerRune (c : Char) : (lowerRune c).toLower = lowerRune c := by
  obtain ⟨k, hlow, hhigh, rfl⟩ | ⟨hsame, hupper⟩ | hi | hk := lowerRune_cases c
  · interval_cases k <;> decide
  · rw [hsame, Char.toLower, dif_neg]
    simpa [Char.le_def] using hupper
  · rw [hi]
    rfl
  · rw [hk]
    rfl

theorem named_iff_sameName (hm : m < 12) :
    Named name m ↔ sameName (name.map lowerRune) (monthName (m + 1 : ℕ)).toList = true := by
  have hmonth : (monthName (m + 1 : ℕ)).toList.map Char.toLower =
      (monthName (m + 1 : ℕ)).toList.map lowerRune := by
    interval_cases m <;> decide
  have hlower : (name.map lowerRune).map Char.toLower = name.map lowerRune := by
    rw [List.map_map]
    exact List.map_congr_left fun c _ ↦ toLower_lowerRune c
  rw [named_iff hm, sameName, decide_eq_true_iff, hlower, hmonth]

/-- Neither a digit nor a slash is the lower case of another letter. -/
theorem lowerRune_eq_iff (hx : isDigit x = true ∨ x = '/') : lowerRune c = x ↔ c = x := by
  have hrange : 47 ≤ x.toNat ∧ x.toNat ≤ 57 := by
    obtain hx | rfl := hx
    · have hdigit : 48 ≤ x.toNat ∧ x.toNat ≤ 57 := by
        simpa [isDigit, Char.le_def, UInt32.le_iff_toNat_le] using hx
      omega
    · decide
  constructor
  · rintro rfl
    obtain ⟨k, hlow, hhigh, rfl⟩ | ⟨hsame, -⟩ | hi | hk := lowerRune_cases c
    · interval_cases k <;> revert hrange <;> decide
    · exact hsame.symm
    · rw [hi] at hrange
      exact absurd hrange.2 (by decide)
    · rw [hk] at hrange
      exact absurd hrange.2 (by decide)
  · rintro rfl
    refine lowerRune_of_digit (hx.imp (fun h ↦ ?_) fun h ↦ ?_)
    · simpa [isDigit, Char.isDigit, Char.le_def] using h
    · simp [h]

theorem map_lowerRune_iff {s digits : List Char} (h : ∀ x ∈ digits, isDigit x = true) :
    s.map lowerRune = digits ↔ s = digits := by
  induction digits generalizing s with
  | nil => exact List.map_eq_nil_iff
  | cons x digits ih =>
    cases s with
    | nil => simp
    | cons c s =>
      rw [List.map_cons, List.cons.injEq, List.cons.injEq,
        lowerRune_eq_iff (.inl (h x List.mem_cons_self)),
        ih fun y hy ↦ h y (List.mem_cons_of_mem x hy)]

end Names

section Months

variable {name : List Char} {m : ℕ}

theorem trimSpace_sublist (s : List Char) : (trimSpace (String.ofList s)).toList.Sublist s := by
  rw [trimSpace, String.toList_ofList, String.toList_ofList, ← List.reverse_sublist,
    List.reverse_reverse]
  refine (List.dropWhile_sublist isSpace).trans ?_
  rw [List.reverse_sublist]
  exact List.dropWhile_sublist isSpace

theorem trimSpace_of_not {s : List Char} (h : ∀ c ∈ s, isSpace c = false) :
    trimSpace (String.ofList s) = String.ofList s := by
  have hkeep : ∀ l : List Char, (∀ c ∈ l, isSpace c = false) → l.dropWhile isSpace = l := by
    intro l hl
    cases l with
    | nil => rfl
    | cons c l => rw [List.dropWhile_cons, hl c List.mem_cons_self, if_neg Bool.false_ne_true]
  rw [trimSpace, String.toList_ofList, hkeep s h,
    hkeep s.reverse fun c hc ↦ h c (List.mem_reverse.mp hc), List.reverse_reverse]

/-- The letters of a name are one byte long, and not blank. -/
theorem letter_of_named (h : Named name m) :
    ∀ c ∈ name, isSpace c = false ∧ c.toNat < 128 := by
  intro c hc
  have hm := lt_of_named h
  have hletters : ((monthName (m + 1 : ℕ)).toList.map lowerRune).all
      (fun x ↦ (isSpace x = false ∧ x.toNat < 128) ∧ x ≠ 'i' ∧ x ≠ 'k') = true := by
    interval_cases m <;> decide
  rw [← (named_iff hm).mp h] at hletters
  obtain ⟨hletter, hi, hk⟩ := of_decide_eq_true
    (List.all_eq_true.mp hletters (lowerRune c) (List.mem_map_of_mem hc))
  obtain ⟨k, hlow, hhigh, rfl⟩ | ⟨hsame, -⟩ | hi' | hk' := lowerRune_cases c
  · interval_cases k <;> decide
  · rwa [hsame] at hletter
  · exact absurd hi' hi
  · exact absurd hk' hk

/-- No two months have the same name. -/
theorem findIdx_months {x : String} : months.findIdx? (· = x) = some m ↔ months[m]? = some x := by
  constructor
  · intro h
    obtain ⟨hm, hx, -⟩ := List.findIdx?_eq_some_iff_getElem.mp h
    rw [List.getElem?_eq_getElem hm, of_decide_eq_true hx]
  · intro h
    have hm : m < 12 := (List.getElem?_eq_some_iff.mp h).1
    interval_cases m <;> obtain rfl := Option.some.inj h <;> decide

/-- Three letters that stand for a month have no blanks among them. -/
theorem monthIndex_iff (hname : name.length = 3) :
    monthIndex (String.ofList name) = some m ↔ Named name m := by
  rw [monthIndex, findIdx_months]
  constructor
  · intro h
    have hshort : ∀ month ∈ months, month.toList.length = 3 := by decide
    have hlength := hshort _ (List.mem_of_getElem? h)
    simp only [toLower, String.toList_ofList, List.length_map] at hlength
    have hsame := (trimSpace_sublist name).eq_of_length (hlength.trans hname.symm)
    rw [Named, h, toLower, hsame]
  · intro h
    rw [trimSpace_of_not fun c hc ↦ (letter_of_named h c hc).1, toLower, String.toList_ofList]
    exact h

end Months

section Numbers

variable {l rest : List Char} {n : ℕ} {d : ℤ}

theorem isDigit_two (hn : n < 100) : ∀ c ∈ two n, isDigit c = true := by
  intro c hc
  obtain rfl | hc := List.mem_cons.mp hc
  · exact isDigit_digitChar (by omega)
  · rw [List.mem_singleton.mp hc]
    exact isDigit_digitChar (by omega)

theorem isDigit_four (hn : n < 10000) : ∀ c ∈ four n, isDigit c = true := by
  intro c hc
  obtain hc | hc := List.mem_append.mp hc
  · exact isDigit_two (by omega) c hc
  · exact isDigit_two (by omega) c hc

theorem exists_two (hlength : l.length = 2) (hl : ∀ c ∈ l, isDigit c = true) :
    ∃ n < 100, l = two n := by
  obtain ⟨a, b, rfl⟩ := List.length_eq_two.mp hlength
  have ha : isDigit a = true := hl a (by simp)
  have hb : isDigit b = true := hl b (by simp)
  have hget : getnum true [a, b] = some (digitValue a * 10 + digitValue b, []) := by
    simp [getnum, ha, hb]
  obtain ⟨hn, htwo⟩ := getnum_true_iff.mp hget
  exact ⟨_, hn, by rwa [List.append_nil] at htwo⟩

theorem exists_four (hlength : l.length = 4) (hl : ∀ c ∈ l, isDigit c = true) :
    ∃ n < 10000, l = four n := by
  obtain ⟨a, b, c, d, rfl⟩ := List.length_eq_four.mp hlength
  have hall : [a, b, c, d].all isDigit = true := List.all_eq_true.mpr hl
  have hget : getYear [a, b, c, d] = some (decimal [a, b, c, d], []) := by
    rw [getYear, if_pos hall]
  obtain ⟨hn, hfour⟩ := getYear_iff.mp hget
  exact ⟨_, hn, by rwa [List.append_nil] at hfour⟩

theorem atoi_digits (hne : l ≠ []) (hl : ∀ c ∈ l, isDigit c = true) (hlt : decimal l < 2 ^ 63) :
    atoi (String.ofList l) = some (decimal l : ℤ) := by
  have hdigits : l ≠ [] ∧ l.all isDigit = true := ⟨hne, List.all_eq_true.mpr hl⟩
  have hfits : fitsInt64 (decimal l) = true := by
    simp only [fitsInt64, Bool.and_eq_true, decide_eq_true_iff]
    omega
  unfold atoi
  dsimp only
  rw [String.toList_ofList]
  split
  next digits => exact absurd (hl '-' List.mem_cons_self) (by decide)
  next digits => exact absurd (hl '+' List.mem_cons_self) (by decide)
  · rw [if_pos hdigits, Option.filter_some, if_pos hfits]

theorem decimal_two (hn : n < 100) : decimal (two n) = n := by
  have htens : (n / 10).digitChar.toNat - '0'.toNat = n / 10 := digitValue_digitChar (by omega)
  have hones : (n % 10).digitChar.toNat - '0'.toNat = n % 10 := digitValue_digitChar (by omega)
  simp only [decimal, two, List.foldl_cons, List.foldl_nil, htens, hones]
  omega

theorem decimal_four (hn : n < 10000) : decimal (four n) = n := by
  have happend : ∀ a b : List Char, b.length = 2 →
      decimal (a ++ b) = decimal a * 100 + decimal b := by
    intro a b hb
    obtain ⟨x, y, rfl⟩ := List.length_eq_two.mp hb
    simp only [decimal, List.foldl_append, List.foldl_cons, List.foldl_nil]
    omega
  rw [four, happend _ _ rfl, decimal_two (by omega), decimal_two (by omega)]
  omega

theorem atoi_two (hn : n < 100) : atoi (String.ofList (two n)) = some (n : ℤ) := by
  have hdecimal := decimal_two hn
  have hne : two n ≠ [] := List.cons_ne_nil _ _
  rw [atoi_digits hne (isDigit_two hn) (by omega), hdecimal]

theorem atoi_four (hn : n < 10000) : atoi (String.ofList (four n)) = some (n : ℤ) := by
  have hdecimal := decimal_four hn
  have hne : four n ≠ [] := List.cons_ne_nil _ _
  rw [atoi_digits hne (isDigit_four hn) (by omega), hdecimal]

theorem ascii_of_isDigit {c : Char} (h : isDigit c = true) :
    isSpace c = false ∧ c.toNat < 128 := by
  obtain ⟨hlt, hchar⟩ := digitChar_digitValue h
  rw [← hchar]
  generalize digitValue c = k at hlt
  interval_cases k <;> decide

/-- An integer is written with letters of one byte. -/
theorem ascii_of_atoi (h : atoi (String.ofList l) = some d) : ∀ c ∈ l, c.toNat < 128 := by
  unfold atoi at h
  dsimp only at h
  rw [String.toList_ofList] at h
  obtain ⟨hvalue, -⟩ := Option.filter_eq_some_iff.mp h
  have hmagnitude : ∀ {digits : List Char} {v : ℤ},
      (if digits ≠ [] ∧ digits.all isDigit = true then some (decimal digits : ℤ) else none) =
        some v → ∀ c ∈ digits, c.toNat < 128 := by
    intro digits v hv c hc
    split_ifs at hv with hall
    exact (ascii_of_isDigit (List.all_eq_true.mp hall.2 c hc)).2
  split at hvalue
  next digits =>
    obtain ⟨v, hv, -⟩ := Option.map_eq_some_iff.mp hvalue
    exact List.forall_mem_cons.mpr ⟨by decide, hmagnitude hv⟩
  next digits => exact List.forall_mem_cons.mpr ⟨by decide, hmagnitude hvalue⟩
  next => exact hmagnitude hvalue

end Numbers

section Fields

/-- A text that is cut at the places where the layout has its slashes. -/
structure Fields where
  name : List Char
  first : Char
  day : List Char
  second : Char
  year : List Char
  rest : List Char

namespace Fields

variable {f g : Fields} {s : String} {m : ℕ} {d y : ℤ}

def text (f : Fields) : List Char :=
  f.name ++ f.first :: (f.day ++ f.second :: (f.year ++ f.rest))

/-- What is looked at to make an integer of it. -/
structure Sliced (f : Fields) (m : ℕ) (d y : ℤ) : Prop where
  name : Named f.name m
  first : f.first.toNat < 128
  day : f.day.length = 2 ∧ atoi (String.ofList f.day) = some d
  second : f.second.toNat < 128
  year : f.year.length = 4 ∧ atoi (String.ofList f.year) = some y

/-- What the layout demands besides. -/
structure Strict (f : Fields) (m : ℕ) (d y : ℤ) : Prop where
  slashes : f.first = '/' ∧ f.second = '/'
  digits : ∀ c ∈ f.day ++ f.year, isDigit c = true
  day : 1 ≤ d ∧ d ≤ monthLength (12 * y + m)
  rest : f.rest = []

theorem eq_of_text (hname : f.name.length = 3 ∧ g.name.length = 3)
    (hday : f.day.length = 2 ∧ g.day.length = 2) (hyear : f.year.length = 4 ∧ g.year.length = 4)
    (h : f.text = g.text) : f = g := by
  obtain ⟨hnames, h⟩ := List.append_inj h (hname.1.trans hname.2.symm)
  obtain ⟨hfirst, h⟩ := List.cons.inj h
  obtain ⟨hdays, h⟩ := List.append_inj h (hday.1.trans hday.2.symm)
  obtain ⟨hsecond, h⟩ := List.cons.inj h
  obtain ⟨hyears, hrest⟩ := List.append_inj h (hyear.1.trans hyear.2.symm)
  cases f
  cases g
  simp_all only

theorem Sliced.unique {m' : ℕ} {d' y' : ℤ} (hf : f.Sliced m d y) (hg : g.Sliced m' d' y')
    (h : f.text = g.text) : f = g ∧ m = m' ∧ d = d' ∧ y = y' := by
  obtain rfl := eq_of_text ⟨length_of_named hf.name, length_of_named hg.name⟩
    ⟨hf.day.1, hg.day.1⟩ ⟨hf.year.1, hg.year.1⟩ h
  have hlength := length_of_named hf.name
  refine ⟨rfl, ?_, Option.some.inj (hf.day.2.symm.trans hg.day.2),
    Option.some.inj (hf.year.2.symm.trans hg.year.2)⟩
  have hm := (monthIndex_iff hlength).mpr hf.name
  have hm' := (monthIndex_iff hlength).mpr hg.name
  exact Option.some.inj (hm.symm.trans hm')

theorem Sliced.nonneg (hsliced : f.Sliced m d y) (hstrict : f.Strict m d y) : 0 ≤ y := by
  obtain ⟨k, hk, hyear⟩ := exists_four hsliced.year.1
    fun c hc ↦ hstrict.digits c (List.mem_append_right _ hc)
  have hy := hsliced.year.2
  rw [hyear, atoi_four hk] at hy
  have heq := Option.some.inj hy
  omega

/-- The fields of a text that is long enough. -/
def cut (t : List Char) (h : 11 ≤ t.length) : Fields :=
  ⟨t.take 3, t[3], (t.drop 4).take 2, t[6], (t.drop 7).take 4, t.drop 11⟩

theorem text_cut {t : List Char} (h : 11 ≤ t.length) : (cut t h).text = t := by
  have hpiece : ∀ i j : ℕ, t.drop i = (t.drop i).take j ++ t.drop (i + j) := by
    intro i j
    rw [← List.drop_drop, List.take_append_drop]
  have hyear : t.drop 7 = (t.drop 7).take 4 ++ t.drop 11 := hpiece 7 4
  have hday : t.drop 4 = (t.drop 4).take 2 ++ t.drop 6 := hpiece 4 2
  have hname : t = t.take 3 ++ t.drop 3 := (List.take_append_drop 3 t).symm
  have hfirst : t.drop 3 = t[3] :: t.drop 4 := List.drop_eq_getElem_cons (by omega)
  have hsecond : t.drop 6 = t[6] :: t.drop 7 := List.drop_eq_getElem_cons (by omega)
  rw [cut, text, ← hyear, ← hsecond, ← hday, ← hfirst, ← hname]

/-- Eleven bytes are looked at. -/
theorem dateInt_iff {n : ℤ} : dateInt s = some n ↔ ∃ (f : Fields) (m : ℕ) (d y : ℤ),
    (trimSpace s).toList = f.text ∧ f.Sliced m d y ∧ n = y * 10000 + (m + 1) * 100 + d := by
  simp only [dateInt, bind, Option.bind_eq_some_iff, guard_iff]
  generalize (trimSpace s).toList = t
  constructor
  · rintro ⟨-, ⟨hlength, hascii⟩, m, hm, d, hd, y, hy, hn⟩
    have hletter := fun c hc ↦ of_decide_eq_true (List.all_eq_true.mp hascii c hc)
    refine ⟨cut t hlength, m, d, y, (text_cut hlength).symm, ⟨?_, ?_, ⟨?_, hd⟩, ?_, ?_, hy⟩,
      (Option.some.inj hn).symm⟩
    · exact (monthIndex_iff (by simp [cut]; omega)).mp hm
    · exact hletter _ (List.mem_take_iff_getElem.mpr ⟨3, by omega, rfl⟩)
    · simp [cut]
      omega
    · exact hletter _ (List.mem_take_iff_getElem.mpr ⟨6, by omega, rfl⟩)
    · simp [cut]
      omega
  · rintro ⟨⟨name, first, day, second, year, rest⟩, m, d, y, rfl,
      ⟨hname, hfirst, ⟨hday, hd⟩, hsecond, hyear, hy⟩, rfl⟩
    have hletters := fun c hc ↦ (letter_of_named hname c hc).2
    have hmonth := (monthIndex_iff (length_of_named hname)).mpr hname
    obtain ⟨c0, c1, c2, rfl⟩ := List.length_eq_three.mp (length_of_named hname)
    obtain ⟨c4, c5, rfl⟩ := List.length_eq_two.mp hday
    obtain ⟨c7, c8, c9, c10, rfl⟩ := List.length_eq_four.mp hyear
    refine ⟨(), ⟨by simp [text], List.all_eq_true.mpr ?_⟩, m, hmonth, d, hd, y, hy, rfl⟩
    have hall : ∀ c ∈ [c0, c1, c2] ++ first :: ([c4, c5] ++ second :: [c7, c8, c9, c10]),
        c.toNat < 128 := by
      intro c hc
      obtain hc | hc := List.mem_append.mp hc
      · exact hletters c hc
      obtain rfl | hc := List.mem_cons.mp hc
      · exact hfirst
      obtain hc | hc := List.mem_append.mp hc
      · exact ascii_of_atoi hd c hc
      obtain rfl | hc := List.mem_cons.mp hc
      · exact hsecond
      · exact ascii_of_atoi hy c hc
    exact fun c hc ↦ decide_eq_true (hall c hc)

/-- The whole text is looked at. -/
theorem readDate_iff {t : List Char} {r : ℕ × ℕ × ℕ} : readDate (t.map lowerRune) = some r ↔
    ∃ (f : Fields) (m : ℕ) (d y : ℤ), t = f.text ∧ f.Sliced m d y ∧ f.Strict m d y ∧
      r = (y.toNat, m + 1, d.toNat) := by
  simp only [readDate, bind, Option.bind_eq_some_iff, Prod.exists, lookupMonth_iff, skip_iff,
    getnum_true_iff, getYear_iff, guard_iff]
  have hslash : ∀ {c : Char}, lowerRune c = '/' ↔ c = '/' := lowerRune_eq_iff (.inr rfl)
  constructor
  · rintro ⟨month, _, ⟨hmonth, name, hname, htext⟩, _, rfl, day, _, ⟨hday, rfl⟩, _, rfl, year, _,
      ⟨hyear, rfl⟩, -, rfl, -, hvalid, hr⟩
    obtain ⟨m, rfl⟩ := Nat.exists_eq_add_of_le' hmonth.1
    obtain ⟨letters, t, rfl, hletters, htext⟩ := List.map_eq_append_iff.mp htext
    obtain ⟨first, t, rfl, hfirst, htext⟩ := List.map_eq_cons_iff.mp htext
    obtain ⟨days, t, rfl, hdays, htext⟩ := List.map_eq_append_iff.mp htext
    obtain ⟨second, years, rfl, hsecond, hyears⟩ := List.map_eq_cons_iff.mp htext
    rw [List.append_nil, map_lowerRune_iff (isDigit_four hyear)] at hyears
    rw [map_lowerRune_iff (isDigit_two hday)] at hdays
    obtain rfl := hslash.mp hfirst
    obtain rfl := hslash.mp hsecond
    subst hletters hdays hyears
    have hascii : '/'.toNat < 128 := by decide
    refine ⟨⟨letters, '/', two day, '/', four year, []⟩, m, day, year, by simp [text],
      ⟨(named_iff_sameName (by omega)).mpr hname, hascii, ⟨rfl, atoi_two hday⟩, hascii, rfl,
        atoi_four hyear⟩, ⟨⟨rfl, rfl⟩, ?_, ?_, rfl⟩, (Option.some.inj hr).symm⟩
    · intro c hc
      exact (List.mem_append.mp hc).elim (isDigit_two hday c) (isDigit_four hyear c)
    · have hmonths : (12 * year + (m + 1 : ℕ) - 1 : ℤ) = 12 * year + m := by omega
      rw [daysIn, hmonths] at hvalid
      omega
  · rintro ⟨⟨name, first, day, second, year, rest⟩, m, d, y, rfl,
      ⟨hname, -, ⟨hday, hd⟩, -, hyear, hy⟩, ⟨⟨rfl, rfl⟩, hdigits, hvalid, rfl⟩, rfl⟩
    have hm := lt_of_named hname
    obtain ⟨k, hk, rfl⟩ := exists_two hday fun c hc ↦ hdigits c (List.mem_append_left _ hc)
    obtain ⟨l, hl, rfl⟩ := exists_four hyear fun c hc ↦ hdigits c (List.mem_append_right _ hc)
    obtain rfl := Option.some.inj ((atoi_two hk).symm.trans hd)
    obtain rfl := Option.some.inj ((atoi_four hl).symm.trans hy)
    have hmonths : (12 * l + (m + 1 : ℕ) - 1 : ℤ) = 12 * l + m := by omega
    refine ⟨m + 1, _, ⟨by omega, _, (named_iff_sameName hm).mp hname, ?_⟩, _, rfl, k, _,
      ⟨hk, rfl⟩, _, rfl, l, [], ⟨hl, rfl⟩, (), rfl, (), ?_, rfl⟩
    · simp [text, (map_lowerRune_iff (isDigit_two hk)).mpr rfl,
        (map_lowerRune_iff (isDigit_four hl)).mpr rfl, hslash.mpr rfl]
    · rw [daysIn, hmonths]
      omega

end Fields

end Fields

section Agreement

variable {s : String} {t : ℤ}

/-- A calendar date of the years 0001 to 9999, as a time of that day. -/
def Date : Type := {t : ℤ // 1 ≤ year t ∧ year t ≤ 9999}

/-- The integers of two dates that were formatted are in the order of the dates. -/
def Ordered (a b : Date) : Prop := ∃ m n, dateInt (formatDate a.1) = some m ∧
  dateInt (formatDate b.1) = some n ∧ (m < n ↔ a.1 / (24 * hour) < b.1 / (24 * hour))

/-- Both accept a text or neither does, and the integer is the date that the text denotes. -/
def Agree (loc : Zone) (s : String) : Prop :=
  ((dateInt s).isSome ↔ (parseDate s loc).isSome) ∧ ∀ n t, dateInt s = some n →
    parseDate s Zone.utc = some t → n = year t * 10000 + month t * 100 + dayOfMonth t

theorem dateInt_formatDate (h : 0 ≤ year t ∧ year t < 10000) :
    dateInt (formatDate t) = some (year t * 10000 + month t * 100 + dayOfMonth t) := by
  obtain ⟨k, d, c, hd, hc, ht⟩ := exists_midnight t
  have hday := (civil_midnight hd hc ht).2.2
  have hbounds := (monthLength_bounds k).2
  have hrange := month_range t
  obtain ⟨m, hmonth⟩ : ∃ m : ℕ, month t = (m + 1 : ℕ) := ⟨(month t - 1).toNat, by omega⟩
  have hm : m < 12 := by omega
  have hd' : d.toNat < 100 := by omega
  have hy' : (year t).toNat < 10000 := by omega
  have hname : Named ((monthName (month t)).toList.map lowerRune) m := by
    rw [named_iff hm, hmonth]
    interval_cases m <;> decide
  have htwo : appendInt d 2 = two d.toNat := by
    rw [appendInt_nonneg (by omega), zeroPadded_two hd']
  have hslash : lowerRune '/' = '/' := by decide
  have htext : formatDate t = String.ofList ((monthName (month t)).toList.map lowerRune ++
      '/' :: (two d.toNat ++ '/' :: four (year t).toNat)) := by
    simp only [formatDate, hday, List.map_append, List.map_cons, hslash, htwo, four_digits h,
      (map_lowerRune_iff (isDigit_two hd')).mpr rfl, (map_lowerRune_iff (isDigit_four hy')).mpr rfl,
      List.append_assoc, List.cons_append]
  have hascii : '/'.toNat < 128 := by decide
  refine Fields.dateInt_iff.mpr ⟨⟨(monthName (month t)).toList.map lowerRune, '/', two d.toNat, '/',
    four (year t).toNat, []⟩, m, d.toNat, (year t).toNat, ?_, ⟨hname, hascii, ⟨rfl, atoi_two hd'⟩,
    hascii, rfl, atoi_four hy'⟩, ?_⟩
  · rw [htext, trimSpace_of_not, String.toList_ofList]
    · simp [Fields.text]
    intro x hx
    obtain hx | hx := List.mem_append.mp hx
    · exact (letter_of_named hname x hx).1
    obtain rfl | hx := List.mem_cons.mp hx
    · decide
    obtain hx | hx := List.mem_append.mp hx
    · exact (ascii_of_isDigit (isDigit_two hd' x hx)).1
    obtain rfl | hx := List.mem_cons.mp hx
    · decide
    · exact (ascii_of_isDigit (isDigit_four hy' x hx)).1
  · rw [hday, hmonth]
    omega

/-- Dates are compared by their years, then by their months and days. -/
theorem date_lt_iff (a b : ℤ) : year a * 10000 + month a * 100 + dayOfMonth a <
    year b * 10000 + month b * 100 + dayOfMonth b ↔ a / (24 * hour) < b / (24 * hour) := by
  obtain ⟨m, d, c, hd, hc, ha⟩ := exists_midnight a
  obtain ⟨m', d', c', hd', hc', hb⟩ := exists_midnight b
  obtain ⟨hyear, hmonth, hday⟩ := civil_midnight hd hc ha
  obtain ⟨hyear', hmonth', hday'⟩ := civil_midnight hd' hc' hb
  have hbounds := (monthLength_bounds m).2
  have hbounds' := (monthLength_bounds m').2
  have hstart : ∀ {i j : ℤ}, i < j → monthStart i + monthLength i ≤ monthStart j := by
    intro i j hij
    rw [← monthStart_succ]
    exact monthStart_strictMono.monotone hij
  rw [hyear, hmonth, hday, hyear', hmonth', hday', (dayNumber_eq hc ha).1, (dayNumber_eq hc' hb).1]
  obtain hlt | rfl | hgt := lt_trichotomy m m'
  · have h := hstart hlt
    omega
  · omega
  · have h := hstart hgt
    omega

theorem ordered (a b : Date) : Ordered a b := by
  have ha := a.2
  have hb := b.2
  exact ⟨_, _, dateInt_formatDate ⟨by omega, by omega⟩, dateInt_formatDate ⟨by omega, by omega⟩,
    date_lt_iff a.1 b.1⟩

theorem parseDate_iff {loc : Zone} : parseDate s loc = some t ↔ ∃ (f : Fields) (m : ℕ) (d y : ℤ),
    (trimSpace s).toList = f.text ∧ f.Sliced m d y ∧ f.Strict m d y ∧
      t = loc.resolve (date y.toNat (m + 1 : ℕ) d.toNat) := by
  simp only [parseDate, toLower, String.toList_ofList, Option.map_eq_some_iff, Fields.readDate_iff]
  constructor
  · rintro ⟨r, ⟨f, m, d, y, htext, hsliced, hstrict, rfl⟩, ht⟩
    exact ⟨f, m, d, y, htext, hsliced, hstrict, ht.symm⟩
  · rintro ⟨f, m, d, y, htext, hsliced, hstrict, rfl⟩
    exact ⟨_, ⟨f, m, d, y, htext, hsliced, hstrict, rfl⟩, rfl⟩

/-- They agree on a text just if what is not looked at is as it should be: slashes between the
fields, digits in them, a day that the month has, and nothing behind. -/
theorem dateInt_agree_iff (a b : Date) (loc : Zone) (s : String) : Ordered a b ∧ Agree loc s ↔
    ∀ (f : Fields) (m : ℕ) (d y : ℤ), (trimSpace s).toList = f.text → f.Sliced m d y →
      f.Strict m d y := by
  constructor
  · rintro ⟨-, haccept, -⟩ f m d y htext hsliced
    have hint := Fields.dateInt_iff.mpr ⟨f, m, d, y, htext, hsliced, rfl⟩
    obtain ⟨t, ht⟩ := Option.isSome_iff_exists.mp
      (haccept.mp (Option.isSome_iff_exists.mpr ⟨_, hint⟩))
    obtain ⟨g, m', d', y', htext', hsliced', hstrict, -⟩ := parseDate_iff.mp ht
    obtain ⟨rfl, rfl, rfl, rfl⟩ := hsliced.unique hsliced' (htext.symm.trans htext')
    exact hstrict
  · intro h
    refine ⟨ordered a b, ⟨fun haccept ↦ ?_, fun haccept ↦ ?_⟩, ?_⟩
    · obtain ⟨n, hn⟩ := Option.isSome_iff_exists.mp haccept
      obtain ⟨f, m, d, y, htext, hsliced, -⟩ := Fields.dateInt_iff.mp hn
      exact Option.isSome_iff_exists.mpr
        ⟨_, parseDate_iff.mpr ⟨f, m, d, y, htext, hsliced, h f m d y htext hsliced, rfl⟩⟩
    · obtain ⟨t, ht⟩ := Option.isSome_iff_exists.mp haccept
      obtain ⟨f, m, d, y, htext, hsliced, -⟩ := parseDate_iff.mp ht
      exact Option.isSome_iff_exists.mpr
        ⟨_, Fields.dateInt_iff.mpr ⟨f, m, d, y, htext, hsliced, rfl⟩⟩
    · intro n t hn ht
      obtain ⟨f, m, d, y, htext, hsliced, rfl⟩ := Fields.dateInt_iff.mp hn
      obtain ⟨g, m', d', y', htext', hsliced', hstrict, rfl⟩ := parseDate_iff.mp ht
      obtain ⟨rfl, rfl, rfl, rfl⟩ := hsliced.unique hsliced' (htext.symm.trans htext')
      have hm := lt_of_named hsliced.name
      have hnonneg := hsliced.nonneg hstrict
      have hutc : Zone.utc.resolve (date y.toNat (m + 1 : ℕ) d.toNat) =
          midnight (12 * y + m) d + 0 := by
        have hy : (y.toNat : ℤ) = y := Int.toNat_of_nonneg hnonneg
        have hd : (d.toNat : ℤ) = d := Int.toNat_of_nonneg (by have h := hstrict.day.1; omega)
        have hmonths : 12 * y + (m + 1 : ℕ) - 1 = 12 * y + m := by omega
        simp only [Zone.resolve, Zone.utc, Zone.fixed, date, hy, hd, hmonths]
        omega
      obtain ⟨hyear, hmonth, hday⟩ := civil_midnight hstrict.day
        ⟨le_refl 0, by unfold hour; omega⟩ hutc
      rw [hyear, hmonth, hday]
      omega

/-- No slashes, no such day, and a clock behind: still an integer. -/
theorem not_a_date : ¬Agree Zone.utc "jan-99x2025 12:00:00" := by
  intro h
  exact absurd h.1 (by decide)

end Agreement

end Rosmon.Rosfmt
