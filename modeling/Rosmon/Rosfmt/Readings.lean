import Rosmon.Rosfmt.Duration

namespace Rosmon.Rosfmt

open Go

section Wrap

theorem fits_iff {n : ℤ} : fitsInt64 n = true ↔ -2 ^ 63 ≤ n ∧ n < 2 ^ 63 := by
  simp only [fitsInt64, Bool.and_eq_true, decide_eq_true_eq]

theorem wrap64_eq_iff {n d : ℤ} :
    wrap64 n = d ↔ fitsInt64 d = true ∧ (2 ^ 64 : ℤ) ∣ d - n := by
  have hpow : ((2 ^ 64 : ℕ) : ℤ) = 2 ^ 64 := by norm_num
  rw [wrap64, Int.bmod_eq_iff (by norm_num), hpow]
  simp only [fitsInt64, Bool.and_eq_true, decide_eq_true_eq]
  norm_num [and_assoc]

theorem wrap64_of_fits {n : ℤ} (h : fitsInt64 n = true) : wrap64 n = n :=
  wrap64_eq_iff.mpr ⟨h, by simp⟩

theorem fits_wrap64 (n : ℤ) : fitsInt64 (wrap64 n) = true := (wrap64_eq_iff.mp rfl).1

theorem wrap64_add (m n : ℤ) : wrap64 (wrap64 m + n) = wrap64 (m + n) := Int.bmod_add_bmod

theorem wrap64_neg_iff (n : ℤ) : wrap64 n < 0 ↔ 2 ^ 63 ≤ n % 2 ^ 64 := by
  obtain ⟨hfits, hdvd⟩ := wrap64_eq_iff.mp (rfl : wrap64 n = _)
  have hbounds := fits_iff.mp hfits
  omega

theorem fits_amount (f : Float64) (mul : ℤ) : fitsInt64 (amount f mul) = true :=
  fits_iff.mpr (f.mul (.ofRat mul)).toInt64_range

end Wrap

section Parts

/-- Decimal numbers with a unit each, one after the other. -/
inductive Parts : List Char → List (ℚ × ℤ) → Prop
  | nil : Parts [] []
  | cons {num unit rest : List Char} {q : ℚ} {mul : ℤ} {ts : List (ℚ × ℤ)} :
    (∀ c ∈ num, isNumeric c = true) → mantissa 10 num = some q → durationUnit unit = some mul →
    Parts rest ts → Parts (num ++ (unit ++ rest)) ((q, mul) :: ts)

/-- What is written in a text: a number of seconds, or numbers with their units. -/
inductive Terms (v : List Char) : List (ℚ × ℤ) → Prop
  | plain {q : ℚ} : plainNumber v = some q → Terms v [(q, second)]
  | parts {ts : List (ℚ × ℤ)} : ts ≠ [] → Parts v ts → Terms v ts

/-- The sum of the terms. -/
def exact (ts : List (ℚ × ℤ)) : ℚ := (ts.map fun t ↦ t.1 * (t.2 : ℚ)).sum

/-- A text stands for a duration that is the sum of its terms. -/
def Denotes (v : List Char) (d : ℤ) : Prop := fitsInt64 d = true ∧ ∃ ts, Terms v ts ∧ exact ts = d

def unitNames : List (List Char × ℤ) :=
  [(['y'], 365 * 24 * hour), (['m', 'o'], 30 * 24 * hour), (['w'], 7 * 24 * hour),
    (['d'], 24 * hour), (['h'], hour), (['m'], 60 * second), (['s'], second),
    (['m', 's'], millisecond)]

theorem mem_unitNames {unit : List Char} {mul : ℤ} (h : durationUnit unit = some mul) :
    (unit, mul) ∈ unitNames := by
  unfold durationUnit at h
  split at h <;> cases h <;> decide

theorem unit_ne_nil {unit : List Char} {mul : ℤ} (h : durationUnit unit = some mul) :
    unit ≠ [] := by
  have hne : ∀ u ∈ unitNames, u.1 ≠ [] := by decide
  exact hne _ (mem_unitNames h)

theorem unit_letters {unit : List Char} {mul : ℤ} (h : durationUnit unit = some mul) :
    ∀ c ∈ unit, isLetter c = true ∧ isNumeric c = false ∧ c ≠ '_' ∧ c.toLower ∉ ['e', 'x'] := by
  have hletters : ∀ u ∈ unitNames, ∀ c ∈ u.1,
      isLetter c = true ∧ isNumeric c = false ∧ c ≠ '_' ∧ c.toLower ∉ ['e', 'x'] := by
    have hall : ∀ u ∈ unitNames, u.1.all (fun c ↦ decide
        (isLetter c = true ∧ isNumeric c = false ∧ c ≠ '_' ∧ c.toLower ∉ ['e', 'x'])) = true := by
      decide
    exact fun u hu ↦ forall_mem_of_all (hall u hu)
  exact hletters _ (mem_unitNames h)

theorem unit_pos {unit : List Char} {mul : ℤ} (h : durationUnit unit = some mul) : 0 < mul := by
  have hpos : ∀ u ∈ unitNames, 0 < u.2 := by decide
  exact hpos _ (mem_unitNames h)

theorem num_ne_nil {num : List Char} {q : ℚ} (h : mantissa 10 num = some q) : num ≠ [] := by
  rintro rfl
  cases h

theorem mantissa_nonneg {base : ℕ} {num : List Char} {q : ℚ} (h : mantissa base num = some q) :
    0 ≤ q := by
  unfold mantissa at h
  dsimp only at h
  split_ifs at h
  obtain rfl := Option.some.inj h
  positivity

theorem isLetter_of_isNumeric {c : Char} (h : isNumeric c = true) : isLetter c = false := by
  have hnumerals : ∀ c ∈ numerals, isLetter c = false := forall_mem_of_all (by decide)
  exact hnumerals c (mem_numerals h)

variable {v rest : List Char} {ts : List (ℚ × ℤ)}

theorem Parts.head_numeric (h : Parts rest ts) : ∀ c ∈ rest.head?, isNumeric c = true := by
  intro c hc
  cases h with
  | nil => cases hc
  | @cons num _ _ _ _ _ hnum hq _ _ =>
    obtain ⟨d, num, rfl⟩ := List.exists_cons_of_ne_nil (num_ne_nil hq)
    obtain rfl := Option.some.inj hc
    exact hnum d List.mem_cons_self

theorem Parts.head_not_letter (h : Parts rest ts) : ∀ c ∈ rest.head?, isLetter c = false :=
  fun c hc ↦ isLetter_of_isNumeric (h.head_numeric c hc)

theorem Parts.underscore_notMem (h : Parts rest ts) : '_' ∉ rest := by
  induction h with
  | nil => exact List.not_mem_nil
  | cons hnum _ hunit _ ih =>
    intro hmem
    obtain hmem | hmem := List.mem_append.mp hmem
    · exact isNumeric_ne (hnum _ hmem) (by decide) rfl
    obtain hmem | hmem := List.mem_append.mp hmem
    · exact (unit_letters hunit _ hmem).2.2.1 rfl
    · exact ih hmem

/-- The first letter of a unit ends the number before it. -/
theorem unit_head {unit : List Char} {mul : ℤ} (h : durationUnit unit = some mul)
    (rest : List Char) : ∀ c ∈ (unit ++ rest).head?, isNumeric c = false := by
  intro c hc
  obtain ⟨d, unit, rfl⟩ := List.exists_cons_of_ne_nil (unit_ne_nil h)
  obtain rfl := Option.some.inj hc
  exact (unit_letters h d List.mem_cons_self).2.1

/-- There is one way to read parts. -/
theorem Parts.unique {ts' : List (ℚ × ℤ)} (h : Parts rest ts) (h' : Parts rest ts') : ts = ts' := by
  induction h generalizing ts' with
  | nil =>
    generalize hrest : ([] : List Char) = rest at h'
    cases h' with
    | nil => rfl
    | cons _ hq _ _ =>
      exact absurd (List.append_eq_nil_iff.mp hrest.symm).1 (num_ne_nil hq)
  | @cons num unit rest q mul ts hnum hq hunit hrest ih =>
    generalize htext : num ++ (unit ++ rest) = text at h'
    cases h' with
    | nil => exact absurd (List.append_eq_nil_iff.mp htext).1 (num_ne_nil hq)
    | @cons num' unit' rest' q' mul' ts' hnum' hq' hunit' hrest' =>
      obtain ⟨rfl, htail⟩ := append_inj_of_span hnum hnum' (unit_head hunit rest)
        (unit_head hunit' rest') htext
      obtain ⟨rfl, rfl⟩ := append_inj_of_span (fun c hc ↦ (unit_letters hunit c hc).1)
        (fun c hc ↦ (unit_letters hunit' c hc).1) hrest.head_not_letter hrest'.head_not_letter htail
      obtain rfl := Option.some.inj (hq.symm.trans hq')
      obtain rfl := Option.some.inj (hunit.symm.trans hunit')
      rw [ih hrest']

end Parts

section Loop

variable {v rest : List Char} {ts : List (ℚ × ℤ)}

/-- What the code makes of a term. -/
def converted (t : ℚ × ℤ) : ℤ := amount (.ofRat t.1) t.2

theorem converted_eq {q r : ℚ} {mul : ℤ} (h : toFloat64 q = some r) :
    amount (.finite r) mul = converted (q, mul) := by
  rw [converted, Float64.ofRat_of_some h]

theorem plainNumber_number {num : List Char} (hnum : ∀ c ∈ num, isNumeric c = true) :
    plainNumber num = mantissa 10 num := by
  have hsigned : signed num = (false, num) := by
    refine signed_of_head fun c hc ↦ ?_
    have hc' := hnum c (List.mem_of_mem_head? hc)
    exact ⟨isNumeric_ne hc' (by decide), isNumeric_ne hc' (by decide)⟩
  simp [plainNumber, hsigned, List.all_eq_true.mpr hnum]

theorem parseFloat_number {num : List Char} (hnum : ∀ c ∈ num, isNumeric c = true) :
    parseFloat num = (mantissa 10 num).bind fun q ↦ (toFloat64 q).map .finite := by
  have hsigned : ∀ c ∈ (signed num).2, isNumeric c = true := by
    intro c hc
    obtain h | h | h := signed_cases num
    · exact hnum c (h ▸ hc)
    · exact hnum c (h ▸ List.mem_cons_of_mem _ hc)
    · exact hnum c (h ▸ List.mem_cons_of_mem _ hc)
  rw [parseFloat_plain (List.all_eq_true.mpr hsigned), plainNumber_number hnum]

/-- One round of the loop takes one part up. -/
theorem parseParts_cons {num unit : List Char} {q : ℚ} {mul : ℤ} (n : ℕ) (total : ℤ)
    (hnum : ∀ c ∈ num, isNumeric c = true) (hq : mantissa 10 num = some q)
    (hunit : durationUnit unit = some mul) (hrest : Parts rest ts) :
    parseParts v (n + 1) total (num ++ (unit ++ rest)) = match toFloat64 q with
      | none => .error (.badNumber num v)
      | some _ => parseParts v n (wrap64 (total + converted (q, mul))) rest := by
  have hne : num ++ (unit ++ rest) ≠ [] := List.append_ne_nil_of_left_ne_nil (num_ne_nil hq) _
  obtain ⟨htake, hdrop⟩ := takeWhile_of_head hnum (unit_head hunit rest)
  obtain ⟨htake', hdrop'⟩ := takeWhile_of_head (fun c hc ↦ (unit_letters hunit c hc).1)
    hrest.head_not_letter
  have hfloat : parseFloat num = (toFloat64 q).map .finite := by
    rw [parseFloat_number hnum, hq]
    rfl
  obtain ⟨c, cs, hcs⟩ := List.exists_cons_of_ne_nil hne
  rw [hcs, parseParts, ← hcs]
  · simp only [htake, hdrop, htake', hdrop', if_neg (num_ne_nil hq), hfloat, hunit]
    cases hr : toFloat64 q with
    | none => rfl
    | some r => simp only [Option.map_some, converted_eq hr]
  · exact List.cons_ne_nil _ _

/-- The loop adds up the parts. -/
theorem parseParts_eq_ok (h : Parts rest ts) (hfit : ∀ t ∈ ts, toFloat64 t.1 ≠ none) {n : ℕ}
    (hn : rest.length ≤ n) (total : ℤ) :
    parseParts v n (wrap64 total) rest = .ok (wrap64 (total + (ts.map converted).sum)) := by
  induction h generalizing n total with
  | nil => simp [parseParts]
  | @cons num unit rest q mul ts hnum hq hunit hrest ih =>
    have hpos := List.length_pos_iff.mpr (num_ne_nil hq)
    simp only [List.length_append] at hn
    obtain ⟨k, rfl⟩ : ∃ k, n = k + 1 := ⟨n - 1, by omega⟩
    obtain ⟨hfirst, hothers⟩ := List.forall_mem_cons.mp hfit
    obtain ⟨r, hr⟩ := Option.ne_none_iff_exists'.mp hfirst
    rw [parseParts_cons k _ hnum hq hunit hrest, hr, wrap64_add]
    simp only
    rw [ih hothers (by omega), List.map_cons, List.sum_cons, add_assoc]

/-- A number that is too large stops the loop. -/
theorem parseParts_eq_error (h : Parts rest ts) (hlarge : ∃ t ∈ ts, toFloat64 t.1 = none) {n : ℕ}
    (hn : rest.length ≤ n) (total : ℤ) : ∃ err, parseParts v n total rest = .error err := by
  induction h generalizing n total with
  | nil => simp at hlarge
  | @cons num unit rest q mul ts hnum hq hunit hrest ih =>
    have hpos := List.length_pos_iff.mpr (num_ne_nil hq)
    simp only [List.length_append] at hn
    obtain ⟨k, rfl⟩ : ∃ k, n = k + 1 := ⟨n - 1, by omega⟩
    rw [parseParts_cons k _ hnum hq hunit hrest]
    cases hr : toFloat64 q with
    | none => exact ⟨_, rfl⟩
    | some r =>
      obtain ⟨t, ht, hnone⟩ := hlarge
      obtain rfl | ht := List.mem_cons.mp ht
      · rw [hr] at hnone
        cases hnone
      · exact ih ⟨t, ht, hnone⟩ (by omega) _

/-- What the loop accepts has parts. -/
theorem parts_of_parseParts {n : ℕ} {total d : ℤ} (hn : rest.length ≤ n)
    (h : parseParts v n total rest = .ok d) : ∃ ts, Parts rest ts := by
  induction n generalizing total rest with
  | zero =>
    obtain rfl := List.length_eq_zero_iff.mp (Nat.le_zero.mp hn)
    exact ⟨[], .nil⟩
  | succ n ih =>
    cases rest with
    | nil => exact ⟨[], .nil⟩
    | cons c cs =>
      rw [parseParts] at h
      · obtain ⟨rest, hrest⟩ : ∃ rest, rest = c :: cs := ⟨_, rfl⟩
        rw [← hrest] at h hn ⊢
        split_ifs at h with hnum
        cases hfloat : parseFloat (rest.takeWhile isNumeric) with
        | none => simp [hfloat] at h
        | some f =>
          cases hunit : durationUnit ((rest.dropWhile isNumeric).takeWhile isLetter) with
          | none => simp [hfloat, hunit] at h
          | some mul =>
            simp only [hfloat, hunit] at h
            have hnumeric : ∀ c ∈ rest.takeWhile isNumeric, isNumeric c = true :=
              fun c hc ↦ List.mem_takeWhile_imp hc
            rw [parseFloat_number hnumeric] at hfloat
            obtain ⟨q, hq, -⟩ := Option.bind_eq_some_iff.mp hfloat
            have htext : rest = rest.takeWhile isNumeric ++
                ((rest.dropWhile isNumeric).takeWhile isLetter ++
                  (rest.dropWhile isNumeric).dropWhile isLetter) := by
              rw [List.takeWhile_append_dropWhile, List.takeWhile_append_dropWhile]
            have hpos := List.length_pos_iff.mpr hnum
            have hlen := congrArg List.length htext
            simp only [List.length_append] at hlen
            obtain ⟨ts, hts⟩ := ih (by omega) h
            have hparts := Parts.cons hnumeric hq hunit hts
            rw [← htext] at hparts
            exact ⟨_, hparts⟩
      · exact List.cons_ne_nil _ _

end Loop

section Text

variable {v : List Char} {ts : List (ℚ × ℤ)}

theorem Parts.ne_nil (h : Parts v ts) (hne : ts ≠ []) : v ≠ [] := by
  cases h with
  | nil => exact absurd rfl hne
  | cons _ hq _ _ => exact List.append_ne_nil_of_left_ne_nil (num_ne_nil hq) _

/-- A text with units is not a number, also after a sign. -/
theorem Parts.not_float {w : List Char} (h : Parts v ts) (hne : ts ≠ []) (hw : (signed w).2 = v) :
    parseFloat w = none ∧ plainNumber w = none := by
  cases h with
  | nil => exact absurd rfl hne
  | @cons num unit rest q mul ts hnum hq hunit hrest =>
    have hunderscore : '_' ∉ unit ++ rest := by
      intro hmem
      obtain hmem | hmem := List.mem_append.mp hmem
      · exact (unit_letters hunit _ hmem).2.2.1 rfl
      · exact hrest.underscore_notMem hmem
    obtain ⟨c, unit, rfl⟩ := List.exists_cons_of_ne_nil (unit_ne_nil hunit)
    have hc := unit_letters hunit c List.mem_cons_self
    have hnot : ¬(signed w).2.all isNumeric = true := by
      intro hall
      have hmem : c ∈ (signed w).2 := by simp [hw]
      have := List.all_eq_true.mp hall c hmem
      rw [hc.2.1] at this
      cases this
    refine ⟨parseFloat_letter hw (num_ne_nil hq) hnum hc.2.1 hc.2.2.2 hunderscore, ?_⟩
    rw [plainNumber, if_neg hnot]

theorem Parts.signed_eq (h : Parts v ts) : (signed v).2 = v := by
  have hsigned : signed v = (false, v) := by
    refine signed_of_head fun b hb ↦ ?_
    have hb' := h.head_numeric b hb
    exact ⟨isNumeric_ne hb' (by decide), isNumeric_ne hb' (by decide)⟩
  rw [hsigned]

theorem plainNumber_all {q : ℚ} (h : plainNumber v = some q) :
    (signed v).2.all isNumeric = true := by
  by_contra hnot
  rw [plainNumber, if_neg hnot] at h
  cases h

theorem parseFloat_of_plain {q : ℚ} (h : plainNumber v = some q) :
    parseFloat v = (toFloat64 q).map .finite := by
  rw [parseFloat_plain (plainNumber_all h), h]
  rfl

theorem Terms.ne_nil (h : Terms v ts) : v ≠ [] := by
  cases h with
  | plain hq =>
    rintro rfl
    cases hq
  | parts hne hparts => exact hparts.ne_nil hne

theorem Terms.unique {ts' : List (ℚ × ℤ)} (h : Terms v ts) (h' : Terms v ts') : ts = ts' := by
  cases h with
  | plain hq =>
    cases h' with
    | plain hq' => rw [Option.some.inj (hq.symm.trans hq')]
    | parts hne hparts => simp [(hparts.not_float hne hparts.signed_eq).2] at hq
  | parts hne hparts =>
    cases h' with
    | plain hq' => simp [(hparts.not_float hne hparts.signed_eq).2] at hq'
    | parts hne' hparts' => exact hparts.unique hparts'

end Text

section Result

variable {s : String} {ts : List (ℚ × ℤ)}

/-- What `ParseDuration` works on. -/
def text (s : String) : List Char := (trimSpace s).toList

theorem parseDuration_eq (h : text s ≠ []) :
    parseDuration s = match parseFloat (text s) with
      | some secs => .ok (amount secs second)
      | none => parseParts (text s) (text s).length 0 (text s) := by
  unfold parseDuration
  dsimp only
  rw [← text]
  refine (if_neg h).trans ?_
  cases parseFloat (text s) <;> rfl

theorem parseDuration_float {f : Float64} (h : parseFloat (text s) = some f) :
    parseDuration s = .ok (amount f second) := by
  have hne : text s ≠ [] := by
    intro hnil
    rw [hnil] at h
    cases h
  rw [parseDuration_eq hne, h]

theorem parseDuration_loop (hne : text s ≠ []) (h : parseFloat (text s) = none) :
    parseDuration s = parseParts (text s) (text s).length 0 (text s) := by
  rw [parseDuration_eq hne, h]

theorem parseDuration_empty (h : text s = []) : parseDuration s = .error .empty := by
  unfold parseDuration
  exact if_pos h

/-- Where every number fits, the terms are converted and added up in 64 bits. -/
theorem parseDuration_eq_ok (h : Terms (text s) ts) (hfit : ∀ t ∈ ts, toFloat64 t.1 ≠ none) :
    parseDuration s = .ok (wrap64 (ts.map converted).sum) := by
  rw [parseDuration_eq h.ne_nil]
  cases h with
  | @plain q hq =>
    obtain ⟨r, hr⟩ := Option.ne_none_iff_exists'.mp (hfit (q, second) (List.mem_singleton_self _))
    simp only at hr
    rw [parseFloat_of_plain hq, hr]
    simp only [Option.map_some, List.map_singleton, List.sum_singleton]
    rw [converted_eq hr]
    exact congrArg _ (wrap64_of_fits (fits_amount _ _)).symm
  | parts hne hparts =>
    have h := parseParts_eq_ok (v := text s) hparts hfit le_rfl 0
    rw [wrap64_of_fits (by decide), zero_add] at h
    rw [(hparts.not_float hne hparts.signed_eq).1]
    exact h

/-- A number that is too large is an error. -/
theorem parseDuration_eq_error (h : Terms (text s) ts) (hlarge : ∃ t ∈ ts, toFloat64 t.1 = none) :
    ∃ err, parseDuration s = .error err := by
  rw [parseDuration_eq h.ne_nil]
  cases h with
  | @plain q hq =>
    have hnone : toFloat64 q = none := by simpa using hlarge
    rw [parseFloat_of_plain hq, hnone]
    simp only [Option.map_none]
    cases hloop : parseParts (text s) (text s).length 0 (text s) with
    | error err => exact ⟨err, rfl⟩
    | ok d =>
      obtain ⟨ts, hparts⟩ := parts_of_parseParts le_rfl hloop
      by_cases hne : ts = []
      · subst hne
        generalize htext : text s = v at hparts hq
        cases hparts
        cases hq
      · simp [(hparts.not_float hne hparts.signed_eq).2] at hq
  | parts hne hparts =>
    rw [(hparts.not_float hne hparts.signed_eq).1]
    exact parseParts_eq_error hparts hlarge le_rfl 0

theorem Parts.terms_pos {v : List Char} (h : Parts v ts) : ∀ t ∈ ts, 0 ≤ t.1 ∧ 0 < t.2 := by
  induction h with
  | nil => simp
  | cons _ hq hunit _ ih =>
    exact List.forall_mem_cons.mpr ⟨⟨mantissa_nonneg hq, unit_pos hunit⟩, ih⟩

/-- What is accepted has terms, or is one of the other texts that `strconv.ParseFloat` takes. -/
theorem cases_of_parseDuration {d : ℤ} (h : parseDuration s = .ok d) :
    (∃ ts, Terms (text s) ts) ∨ parseFloat (text s) ≠ none ∧ plainNumber (text s) = none := by
  have hne : text s ≠ [] := by
    intro hnil
    rw [parseDuration_empty hnil] at h
    cases h
  cases hfloat : parseFloat (text s) with
  | some f =>
    cases hplain : plainNumber (text s) with
    | some q => exact .inl ⟨_, .plain hplain⟩
    | none => exact .inr ⟨by simp, rfl⟩
  | none =>
    rw [parseDuration_loop hne hfloat] at h
    obtain ⟨ts, hparts⟩ := parts_of_parseParts le_rfl h
    have hts : ts ≠ [] := by
      rintro rfl
      generalize text s = v at hparts hne
      cases hparts
      exact hne rfl
    exact .inl ⟨ts, .parts hts hparts⟩

/-- The terms of a duration have numbers that fit. -/
theorem fit_of_exact {v : List Char} {d : ℤ} (h : Terms v ts) (hexact : exact ts = d)
    (hd : fitsInt64 d = true) : ∀ t ∈ ts, toFloat64 t.1 ≠ none := by
  obtain ⟨hlow, hhigh⟩ := fits_iff.mp hd
  have hlow' : -(2 : ℚ) ^ 63 ≤ d := by exact_mod_cast hlow
  have hhigh' : (d : ℚ) ≤ 2 ^ 63 := by exact_mod_cast hhigh.le
  cases h with
  | @plain q hq =>
    intro t ht
    obtain rfl := List.mem_singleton.mp ht
    simp only [exact, List.map_singleton, List.sum_singleton, second] at hexact
    refine toFloat64_ne_none (abs_le.mpr ⟨?_, ?_⟩) <;> push_cast at hexact <;> norm_num at * <;>
      linarith
  | parts _ hparts =>
    intro t ht
    have hpos := hparts.terms_pos
    have hle : t.1 * (t.2 : ℚ) ≤ exact ts := by
      refine List.single_le_sum (fun x hx ↦ ?_) _ (List.mem_map_of_mem ht)
      obtain ⟨u, hu, rfl⟩ := List.mem_map.mp hx
      obtain ⟨hnum, hmul⟩ := hpos u hu
      exact mul_nonneg hnum (by exact_mod_cast hmul.le)
    obtain ⟨hnum, hmul⟩ := hpos t ht
    have hone : (1 : ℚ) ≤ t.2 := by exact_mod_cast hmul
    have hself : t.1 ≤ t.1 * (t.2 : ℚ) := le_mul_of_one_le_right hnum hone
    refine toFloat64_ne_none (abs_le.mpr ⟨?_, ?_⟩) <;> linarith

/-- The error of a term that is rounded to a `float64`, multiplied as such, and cut to an
integer. -/
def drift (t : ℚ × ℤ) : ℚ := converted t - t.1 * t.2

/-- The terms make up a duration, and their errors cancel out in 64 bits. -/
def Sums (ts : List (ℚ × ℤ)) : Prop :=
  ∃ d m : ℤ, fitsInt64 d = true ∧ exact ts = d ∧ (ts.map drift).sum = m * 2 ^ 64

theorem sum_drift (ts : List (ℚ × ℤ)) :
    (ts.map drift).sum = (ts.map converted).sum - exact ts := by
  induction ts with
  | nil => simp [exact]
  | cons t ts ih =>
    simp only [List.map_cons, List.sum_cons, ih, exact, drift]
    push_cast
    ring

theorem sums_iff : Sums ts ↔ exact ts = wrap64 (ts.map converted).sum := by
  constructor
  · rintro ⟨d, m, hd, hexact, hdrift⟩
    rw [sum_drift, hexact] at hdrift
    have hsum : (ts.map converted).sum - d = m * 2 ^ 64 := by exact_mod_cast hdrift
    rw [hexact, wrap64_eq_iff.mpr ⟨hd, ⟨-m, by linarith⟩⟩]
  · intro hexact
    obtain ⟨hd, m, hm⟩ := wrap64_eq_iff.mp (rfl : wrap64 (ts.map converted).sum = _)
    refine ⟨_, -m, hd, hexact, ?_⟩
    rw [sum_drift, hexact, ← Int.cast_sub, ← neg_sub, hm]
    push_cast
    ring

/-- What a text denotes is what it is parsed to, and no other text is accepted, just if
`strconv.ParseFloat` takes no other number than a plain one, and the numbers, unless one is too
large for it, make up a duration and their rounding errors cancel out. -/
theorem parses_exactly_iff (s : String) :
    (∀ d, parseDuration s = .ok d ↔ Denotes (text s) d) ↔
      (parseFloat (text s) ≠ none → plainNumber (text s) ≠ none) ∧
      ∀ ts, Terms (text s) ts → (∀ t ∈ ts, toFloat64 t.1 ≠ none) → Sums ts := by
  constructor
  · intro h
    constructor
    · intro hfloat
      obtain ⟨f, hf⟩ := Option.ne_none_iff_exists'.mp hfloat
      obtain ⟨-, ts, hts, -⟩ := (h _).mp (parseDuration_float hf)
      cases hts with
      | plain hq => simp [hq]
      | parts hne hparts => exact absurd (hparts.not_float hne hparts.signed_eq).1 hfloat
    · intro ts hts hfit
      have hparse := parseDuration_eq_ok hts hfit
      obtain ⟨hd, ts', hts', hexact⟩ := (h _).mp hparse
      rw [hts'.unique hts] at hexact
      exact sums_iff.mpr hexact
  · rintro ⟨hplain, hsums⟩ d
    constructor
    · intro hparse
      obtain ⟨ts, hts⟩ | ⟨hfloat, hnone⟩ := cases_of_parseDuration hparse
      · by_cases hfit : ∀ t ∈ ts, toFloat64 t.1 ≠ none
        · have hexact := sums_iff.mp (hsums ts hts hfit)
          obtain rfl := Except.ok.inj ((parseDuration_eq_ok hts hfit).symm.trans hparse)
          exact ⟨fits_wrap64 _, ts, hts, hexact⟩
        · push Not at hfit
          obtain ⟨err, herr⟩ := parseDuration_eq_error hts hfit
          rw [herr] at hparse
          cases hparse
      · exact absurd hnone (hplain hfloat)
    · rintro ⟨hd, ts, hts, hexact⟩
      have hfit := fit_of_exact hts hexact hd
      have hsum := sums_iff.mp (hsums ts hts hfit)
      rw [hexact] at hsum
      rw [parseDuration_eq_ok hts hfit, Int.cast_inj.mp hsum]

/-- `inf` is read as the least duration. -/
theorem infinity_accepted :
    parseDuration "inf" = .ok (-2 ^ 63) ∧ ∀ d, ¬Denotes (text "inf") d := by
  have htext : text "inf" = ['i', 'n', 'f'] := by decide
  refine ⟨by decide +kernel, ?_⟩
  rintro d ⟨-, ts, hts, -⟩
  rw [htext] at hts
  cases hts with
  | plain hq => cases hq
  | parts _ hparts => exact absurd (hparts.head_numeric 'i' rfl) (by decide)

end Result

end Rosmon.Rosfmt
