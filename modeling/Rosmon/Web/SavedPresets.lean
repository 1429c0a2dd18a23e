import Rosmon.Web.Presets

namespace Rosmon.Web

open Go Library

section UpperCase

theorem toUpper_of_le {c : Char} (h : 128 ≤ c.toNat) : c.toUpper = c := by
  have hz : ¬('a'.val ≤ c.val ∧ c.val ≤ 'z'.val) := by
    rintro ⟨-, hle⟩
    have hle' : c.toNat ≤ 'z'.toNat := UInt32.le_iff_toNat_le.mp hle
    exact absurd (h.trans hle') (by decide)
  exact dif_neg hz

/-- No white space, digit or sign has another case. -/
def Caseless (c d : Char) : Prop :=
  isWhite d = isWhite c ∧ isDigit d = isDigit c ∧ (isDigit c = true → d = c) ∧
    (d = '+' ↔ c = '+') ∧ (d = '-' ↔ c = '-')

instance (c d : Char) : Decidable (Caseless c d) := by
  unfold Caseless
  infer_instance

theorem caseless_toUpper (c : Char) : Caseless c c.toUpper := by
  by_cases h : c.toNat < 128
  · have hall : ∀ n < 128, Caseless (Char.ofNat n) (Char.ofNat n).toUpper := by decide +kernel
    have hc := hall c.toNat h
    rwa [Char.ofNat_toNat] at hc
  · rw [toUpper_of_le (Nat.le_of_not_lt h)]
    simp [Caseless]

theorem signed_upper (s : List Char) :
    signed (s.map Char.toUpper) = ((signed s).1, (signed s).2.map Char.toUpper) := by
  cases s with
  | nil => rfl
  | cons c s =>
    obtain ⟨-, -, -, hplus, hminus⟩ := caseless_toUpper c
    rw [List.map_cons]
    by_cases hp : c = '+'
    · subst hp
      rfl
    by_cases hm : c = '-'
    · subst hm
      rfl
    rw [signed_of_head (s := c :: s) (by rintro d ⟨⟩; exact ⟨hp, hm⟩),
      signed_of_head (s := c.toUpper :: s.map Char.toUpper)
        (by rintro d ⟨⟩; exact ⟨mt hplus.mp hp, mt hminus.mp hm⟩)]
    rfl

theorem parseInt_upper (s : List Char) : parseInt (s.map Char.toUpper) = parseInt s := by
  have hwhite : isWhite ∘ Char.toUpper = isWhite := funext fun c ↦ (caseless_toUpper c).1
  have hdigit : isDigit ∘ Char.toUpper = isDigit := funext fun c ↦ (caseless_toUpper c).2.1
  have hdigits (t : List Char) : (t.takeWhile isDigit).map Char.toUpper = t.takeWhile isDigit := by
    conv_rhs => rw [← List.map_id (t.takeWhile isDigit)]
    refine List.map_congr_left fun c hc ↦ ?_
    exact (caseless_toUpper c).2.2.1 (List.mem_takeWhile_imp hc)
  unfold parseInt
  rw [List.dropWhile_map, hwhite, signed_upper]
  dsimp only
  rw [List.takeWhile_map, hdigit, hdigits]

theorem parseInt0_upper (s : List Char) : parseInt0 (s.map Char.toUpper) = parseInt0 s := by
  rw [parseInt0, parseInt_upper, parseInt0]

end UpperCase

section DataLimits

variable {s : List Char} {unit : DataLimitUnit}

theorem unitOf_append : unitOf (s ++ unit.text) = some unit := by
  unfold unitOf
  cases unit with
  | GB => rw [if_pos (List.suffix_append _ _)]
  | MB =>
    have hother : ¬DataLimitUnit.GB.text <:+ s ++ DataLimitUnit.MB.text := by
      intro h
      have hsuffix := List.suffix_of_suffix_length_le h (List.suffix_append s _) le_rfl
      exact absurd hsuffix (by decide)
    rw [if_neg hother, if_pos (List.suffix_append _ _)]

theorem upper_append : (s ++ unit.text).map Char.toUpper = s.map Char.toUpper ++ unit.text := by
  rw [List.map_append]
  cases unit <;> rfl

theorem dropLast_append : (s ++ unit.text).dropLast.dropLast = s := by
  cases unit <;> simp [DataLimitUnit.text]

theorem isWhite_unit : ∀ c ∈ unit.text, isWhite c = false := by
  cases unit <;> exact forall_mem_of_all (by decide)

theorem trim_append {x : Number} {m : ℤ} (hx : x.value = m) :
    trim (numberToString x ++ unit.text) = numberToString x ++ unit.text := by
  obtain ⟨l, htext, -⟩ := numberToString_int x hx
  refine trim_of_forall fun c hc ↦ ?_
  rw [htext] at hc
  obtain hc | hc := List.mem_append.mp hc
  · exact l.isWhite_signedText _ c hc
  · exact isWhite_unit c hc

theorem finiteValue_eq_some {f : Float64} {q : ℚ} : finiteValue f = some q ↔ f = .finite q := by
  cases f <;> simp [finiteValue]

theorem bytes_pos : 0 < unit.bytes := by
  cases unit <;> norm_num [DataLimitUnit.bytes]

/-- What a whole number with its unit says; nothing is written of a number that is not positive. -/
theorem dataBytes_dataLimitStr {x : Number} {m : ℤ} (hx : x.value = m) :
    dataBytes (dataLimitStr x unit) = some (max x.value 0 * unit.bytes) := by
  unfold dataLimitStr dataBytes
  split_ifs with hpos
  · dsimp only
    rw [String.toList_ofList, trim_append hx, upper_append, unitOf_append]
    dsimp only
    rw [dropLast_append, toNumber_numberToString x hx, max_eq_left hpos.le]
    rfl
  · rw [max_eq_right (not_lt.mp hpos), zero_mul]
    rfl

theorem value_of {q r : ℚ} (h : toFloat64 q = some r) : ((Number.of q).getD 0).value = r := by
  have hof : Number.of q = some ⟨r, toFloat64_idem h⟩ := Number.of_eq_some.mpr h
  rw [hof]
  rfl

/-- The quotient is exact, and so is its rounding. -/
theorem value_megabytes {b : Number} {m : ℤ} (hb : b.value = m) (hpos : 0 < b.value) :
    (megabytes b).value = ⌊b.value / 2 ^ 20 + 1 / 2⌋ := by
  have hone : 1 ≤ b.value := by
    rw [hb] at hpos ⊢
    exact_mod_cast hpos
  have hlt : b.value < 2 ^ 1024 := (abs_lt.mp (abs_lt_of_toFloat64 b.double)).2
  have hhas : binary64.Has (b.value / 2 ^ 20) := by
    refine BinaryFormat.has_div_two_pow (has_of_toFloat64 b.double) 20 ?_
    exact (zpow_le_one_of_nonpos₀ one_le_two (by decide)).trans (hone.trans (le_abs_self _))
  have hquotient : toFloat64 (b.value / 2 ^ 20) = some (b.value / 2 ^ 20) := by
    refine toFloat64_of_has hhas ?_
    rw [abs_of_pos (by positivity)]
    exact (div_le_self hpos.le (one_le_pow₀ one_le_two)).trans_lt hlt
  have hround : toFloat64 ⌊b.value / 2 ^ 20 + 1 / 2⌋ = some (⌊b.value / 2 ^ 20 + 1 / 2⌋ : ℚ) := by
    refine toFloat64_of_has (BinaryFormat.has_floor_half hhas (by decide)) ?_
    have hnonneg : (0 : ℚ) ≤ ⌊b.value / 2 ^ 20 + 1 / 2⌋ :=
      Int.cast_nonneg (Int.floor_nonneg.mpr (by positivity))
    rw [abs_of_nonneg hnonneg]
    calc (⌊b.value / 2 ^ 20 + 1 / 2⌋ : ℚ) ≤ b.value / 2 ^ 20 + 1 / 2 := Int.floor_le _
      _ ≤ b.value := by linarith
      _ < 2 ^ 1024 := hlt
  unfold megabytes
  dsimp only
  rw [value_of hquotient, value_of hround]

/-- The texts whose bytes are those of the whole number at the front: with a unit that number in
the unit, and without one the nearest whole number of megabytes. -/
def LimitKept (s : String) : Prop :=
  let trimmed := trim s.toList
  match unitOf (trimmed.map Char.toUpper) with
  | some _ =>
    let number := trimmed.dropLast.dropLast
    toNumber number = .finite (max (parseInt0 number).value 0)
  | none =>
    toNumber trimmed = .finite (⌊max (parseInt0 trimmed).value 0 / 2 ^ 20 + 1 / 2⌋ * 2 ^ 20)

theorem dropLast_upper (s : List Char) :
    (s.map Char.toUpper).dropLast.dropLast = s.dropLast.dropLast.map Char.toUpper := by
  rw [List.map_dropLast, List.map_dropLast]

theorem parseDataLimit_some {s : String}
    (h : unitOf ((trim s.toList).map Char.toUpper) = some unit) :
    parseDataLimit s = (parseInt0 (trim s.toList).dropLast.dropLast, unit) := by
  unfold parseDataLimit
  dsimp only
  rw [h]
  dsimp only
  rw [dropLast_upper, parseInt0_upper]

theorem parseDataLimit_none {s : String} (h : unitOf ((trim s.toList).map Char.toUpper) = none) :
    parseDataLimit s = if 0 < (parseInt0 (trim s.toList)).value
      then (megabytes (parseInt0 (trim s.toList)), .MB) else (0, .MB) := by
  unfold parseDataLimit
  dsimp only
  rw [h, parseInt0_upper]

theorem parseDataLimit_int (s : String) : ∃ m : ℤ, (parseDataLimit s).1.value = m := by
  cases h : unitOf ((trim s.toList).map Char.toUpper) with
  | some unit =>
    rw [parseDataLimit_some h]
    exact parseInt0_int _
  | none =>
    rw [parseDataLimit_none h]
    obtain ⟨m, hm⟩ := parseInt0_int (trim s.toList)
    split_ifs with hpos
    · exact ⟨_, value_megabytes hm hpos⟩
    · exact ⟨0, Int.cast_zero.symm⟩

theorem dataLimit_iff (s : String) :
    dataBytes (dataLimitStr (parseDataLimit s).1 (parseDataLimit s).2) = dataBytes s ↔
      LimitKept s := by
  obtain ⟨m, hm⟩ := parseDataLimit_int s
  rw [dataBytes_dataLimitStr hm, eq_comm]
  unfold LimitKept dataBytes
  dsimp only
  cases h : unitOf ((trim s.toList).map Char.toUpper) with
  | some unit =>
    rw [parseDataLimit_some h]
    dsimp only
    rw [Option.map_eq_some_iff]
    constructor
    · rintro ⟨q, hq, heq⟩
      rw [← mul_right_cancel₀ bytes_pos.ne' heq]
      exact finiteValue_eq_some.mp hq
    · intro hq
      exact ⟨_, finiteValue_eq_some.mpr hq, rfl⟩
  | none =>
    dsimp only
    rw [finiteValue_eq_some]
    have hkept : max (parseDataLimit s).1.value 0 * (parseDataLimit s).2.bytes =
        ⌊max (parseInt0 (trim s.toList)).value 0 / 2 ^ 20 + 1 / 2⌋ * 2 ^ 20 := by
      rw [parseDataLimit_none h]
      obtain ⟨n, hn⟩ := parseInt0_int (trim s.toList)
      split_ifs with hpos
      · have hnonneg : (0 : ℚ) ≤ ⌊(parseInt0 (trim s.toList)).value / 2 ^ 20 + 1 / 2⌋ :=
          Int.cast_nonneg (Int.floor_nonneg.mpr (by positivity))
        dsimp only
        rw [value_megabytes hn hpos, max_eq_left hpos.le, max_eq_left hnonneg]
        rfl
      · rw [max_eq_right (not_lt.mp hpos)]
        have hzero : max (0 : Number).value 0 = 0 := max_self 0
        dsimp only
        rw [hzero]
        norm_num
    rw [hkept]

end DataLimits

section Fields

variable {α : Type} {valid : List α} {text : α → String} {fallback : α}

theorem text_oneOf_iff (h : fallback ∈ valid) {s : String} :
    text (oneOf valid text fallback s) = s ↔ s ∈ valid.map text := by
  unfold oneOf
  cases hfind : valid.find? fun a ↦ text a = s with
  | some a =>
    have hfound := List.find?_some hfind
    have htext : text a = s := of_decide_eq_true hfound
    have hmem : s ∈ valid.map text := htext ▸ List.mem_map_of_mem (List.mem_of_find?_eq_some hfind)
    exact ⟨fun _ ↦ hmem, fun _ ↦ htext⟩
  | none =>
    have hnone := List.find?_eq_none.mp hfind
    constructor
    · intro htext
      exact absurd (decide_eq_true htext) (hnone fallback h)
    · intro hmem
      obtain ⟨a, ha, htext⟩ := List.mem_map.mp hmem
      exact absurd (decide_eq_true htext) (hnone a ha)

theorem safeUserMode_text (a : UserMode) : safeUserMode a.text = a := by
  cases a <;> rfl

theorem safeCharSet_text (a : CharSet) : safeCharSet a.text = a := by
  cases a <;> rfl

theorem orText_iff {s fallback : String} (h : fallback ≠ "") :
    orText s fallback = s ↔ s ≠ "" := by
  unfold orText
  split_ifs with hs
  · simp [hs, h]
  · simp [hs]

theorem isLocked_text (b : Bool) : isLocked (if b then "1" else "0") = b := by
  cases b <;> decide

theorem number_iff {x : Number} {m : ℤ} (hx : x.value = m) (s : String) :
    toNumber (numberText x).toList = toNumber s.toList ↔ toNumber s.toList = .finite x.value := by
  rw [numberText, String.toList_ofList, toNumber_numberToString x hx, eq_comm]

theorem orLength_int {x : Number} {m : ℤ} (hx : x.value = m) : ∃ n : ℤ, (orLength x).value = n := by
  unfold orLength
  split_ifs
  · exact ⟨5, rfl⟩
  · exact ⟨m, hx⟩

end Fields

/-- The packages that a preset can hold. -/
structure QuickPrintPackage.Plain (r : QuickPrintPackage) : Prop where
  comment : r.comment = ""
  server : r.server ≠ ""
  userMode : r.userMode ∈ validUserModes.map UserMode.text
  charMode : r.charMode ∈ validCharSets.map CharSet.text
  userLength : toNumber r.userLength.toList =
    .finite (orLength (parseInt0 r.userLength.toList)).value
  price : toNumber r.price.toList = .finite (parseInt0 r.price.toList).value
  sellingPrice : toNumber r.sellingPrice.toList = .finite (parseInt0 r.sellingPrice.toList).value
  dataLimit : LimitKept r.dataLimit

/-- The whole numbers that are written without an exponent. -/
def Number.Short (x : Number) : Prop := ∃ m : ℤ, x.value = m ∧ m.natAbs < 10 ^ 21

/-- The presets that a package can hold. -/
structure QuickPrintPreset.Plain (p : QuickPrintPreset) : Prop where
  server : p.server ≠ ""
  timeLimit : p.timeLimit ≠ ""
  userLength : p.userLength ≠ 0
  dataLimit : 0 < p.dataLimit.value ∨ p.dataLimit = 0 ∧ p.dataLimitUnit = .MB
  price : p.price.Short
  sellingPrice : p.sellingPrice.Short

section Kept

variable {p : QuickPrintPreset}

theorem package_iff (api : QuickPrintPackage) (stored : Option PresetMeta) :
    (presetToApi (apiToPreset api stored)).Same api ↔ api.Plain := by
  obtain ⟨m, hm⟩ := parseInt0_int api.userLength.toList
  obtain ⟨n, hn⟩ := orLength_int hm
  obtain ⟨price, hprice⟩ := parseInt0_int api.price.toList
  obtain ⟨selling, hselling⟩ := parseInt0_int api.sellingPrice.toList
  constructor
  · intro h
    exact ⟨h.comment.symm, (orText_iff (by decide)).mp h.server,
      (text_oneOf_iff (by decide)).mp h.userMode, (text_oneOf_iff (by decide)).mp h.charMode,
      (number_iff hn _).mp h.userLength, (number_iff hprice _).mp h.price,
      (number_iff hselling _).mp h.sellingPrice, (dataLimit_iff _).mp h.dataLimit⟩
  · intro h
    exact ⟨rfl, rfl, rfl, rfl, h.comment.symm, (orText_iff (by decide)).mpr h.server,
      (text_oneOf_iff (by decide)).mpr h.userMode, (text_oneOf_iff (by decide)).mpr h.charMode,
      (number_iff hn _).mpr h.userLength, (number_iff hprice _).mpr h.price,
      (number_iff hselling _).mpr h.sellingPrice, isLocked_text _,
      (dataLimit_iff _).mpr h.dataLimit⟩

theorem Number.Safe.short {x : Number} (h : x.Safe) : x.Short := by
  obtain ⟨m, hx, hm⟩ := h
  refine ⟨m, hx, ?_⟩
  rw [Int.abs_eq_natAbs] at hm
  omega

theorem parseInt0_iff (x : Number) : parseInt0 (numberText x).toList = x ↔ x.Short := by
  rw [numberText, String.toList_ofList]
  exact parseInt0_numberToString x

theorem orLength_iff {x : Number} (h : x.Safe) :
    orLength (parseInt0 (numberText x).toList) = x ↔ x ≠ 0 := by
  rw [(parseInt0_iff x).mpr h.short]
  unfold orLength
  split_ifs with hx
  · subst hx
    decide
  · simp [hx]

theorem parseDataLimit_iff {x : Number} (h : x.Safe) (unit : DataLimitUnit) :
    parseDataLimit (dataLimitStr x unit) = (x, unit) ↔ 0 < x.value ∨ x = 0 ∧ unit = .MB := by
  unfold dataLimitStr
  split_ifs with hpos
  · obtain ⟨m, hx, -⟩ := h.short
    have hunit : unitOf ((trim (String.ofList (numberToString x ++ unit.text)).toList).map
        Char.toUpper) = some unit := by
      rw [String.toList_ofList, trim_append hx, upper_append, unitOf_append]
    rw [parseDataLimit_some hunit, String.toList_ofList, trim_append hx, dropLast_append,
      (parseInt0_numberToString x).mpr h.short]
    simp [hpos]
  · have hempty : parseDataLimit "" = (0, .MB) := rfl
    rw [hempty, Prod.mk_inj]
    simp [hpos, eq_comm]

/-- A preset that has been saved and opened again. -/
theorem reopened (p : QuickPrintPreset) : apiToPreset (presetToApi p) (some p.stored) =
    { p with
      id := p.name
      server := orText p.server "all"
      userLength := orLength (parseInt0 (numberText p.userLength).toList)
      timeLimit := orText p.timeLimit "0"
      dataLimit := (parseDataLimit (dataLimitStr p.dataLimit p.dataLimitUnit)).1
      dataLimitUnit := (parseDataLimit (dataLimitStr p.dataLimit p.dataLimitUnit)).2
      price := parseInt0 (numberText p.price).toList
      sellingPrice := parseInt0 (numberText p.sellingPrice).toList } := by
  unfold apiToPreset presetToApi
  rw [safeUserMode_text, safeCharSet_text, isLocked_text]
  rfl

theorem preset_iff (h : p.Admitted) :
    (apiToPreset (presetToApi p) (some p.stored)).Same p ↔ p.Plain := by
  rw [QuickPrintPreset.Same, reopened, QuickPrintPreset.ext_iff]
  dsimp only
  constructor
  · rintro ⟨-, -, -, hserver, -, hlength, -, -, -, htime, hlimit, hunit, -, hprice, hselling, -, -⟩
    exact ⟨(orText_iff (by decide)).mp hserver, (orText_iff (by decide)).mp htime,
      (orLength_iff h.userLength).mp hlength,
      (parseDataLimit_iff h.dataLimit _).mp (Prod.ext hlimit hunit),
      (parseInt0_iff _).mp hprice, (parseInt0_iff _).mp hselling⟩
  · intro hplain
    have hlimit := (parseDataLimit_iff h.dataLimit _).mpr hplain.dataLimit
    exact ⟨rfl, rfl, rfl, (orText_iff (by decide)).mpr hplain.server, rfl,
      (orLength_iff h.userLength).mpr hplain.userLength, rfl, rfl, rfl,
      (orText_iff (by decide)).mpr hplain.timeLimit, congrArg Prod.fst hlimit,
      congrArg Prod.snd hlimit, rfl, (parseInt0_iff _).mpr hplain.price,
      (parseInt0_iff _).mpr hplain.sellingPrice, rfl, rfl⟩

end Kept

/-- Opening and saving keeps a package, and saving and opening a preset, exactly where the one can
hold the other. -/
theorem opened_and_saved_iff (api : QuickPrintPackage) (stored : Option PresetMeta)
    (p : { p : QuickPrintPreset // p.Admitted }) :
    ((presetToApi (apiToPreset api stored)).Same api ↔ api.Plain) ∧
      ((apiToPreset (presetToApi p.1) (some p.1.stored)).Same p.1 ↔ p.1.Plain) :=
  ⟨package_iff api stored, preset_iff p.2⟩

/-- A package with a comment and one of the character modes that the backend knows. -/
def dailyPackage : QuickPrintPackage where
  name := "1Hari"
  server := "all"
  userMode := "vc"
  userLength := "6"
  prefixText := "H"
  charMode := "mix"
  profile := "1d"
  timeLimit := "1d"
  dataLimit := "500MB"
  comment := "paket harian"
  validity := "1d"
  price := "5000"
  sellingPrice := "6000"
  lockUser := "1"

/-- Its comment is lost, and its character mode is replaced by another one. -/
theorem opened_and_saved_loses :
    (presetToApi (apiToPreset dailyPackage none)).comment = "" ∧
      (presetToApi (apiToPreset dailyPackage none)).charMode = "lower_number" ∧
      ¬((∀ (api : QuickPrintPackage) (stored : Option PresetMeta),
          (presetToApi (apiToPreset api stored)).Same api) ∧
        ∀ p : { p : QuickPrintPreset // p.Admitted },
          (apiToPreset (presetToApi p.1) (some p.1.stored)).Same p.1) :=
  ⟨rfl, rfl, fun h ↦ absurd (h.1 dailyPackage none).comment (by decide)⟩

end Rosmon.Web
