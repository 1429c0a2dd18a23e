import Rosmon.Billing.Numbering
import Rosmon.Reports.Transactions

namespace Rosmon.Reports

open Go Library Store Service Program Handler Billing TransactionTable

section Texts

variable {t t' : Time} {m : ℤ}

theorem toList_yearText (t : Time) : ∃ k, (yearText t).toList = padded k (year t) := by
  obtain ⟨k, hk⟩ := toList_zeroPad 4 (year t).natAbs
  refine ⟨k, ?_⟩
  rw [yearText, String.toList_append, hk]
  have hnatAbs : padded k ((year t).natAbs : ℤ) = List.replicate k '0' ++ fmtInt (year t).natAbs := by
    unfold padded
    rw [if_neg (Int.not_lt.mpr (Int.natCast_nonneg _)), List.nil_append, Int.natAbs_natCast]
  rw [hnatAbs, padded]
  split <;> rfl

theorem yearText_injective (h : yearText t = yearText t') : year t = year t' := by
  obtain ⟨k, hk⟩ := toList_yearText t
  obtain ⟨k', hk'⟩ := toList_yearText t'
  have hsame := congrArg String.toList h
  rw [hk, hk', ← List.append_nil (padded k _), ← List.append_nil (padded k' _)] at hsame
  exact (padded_append_inj (by simp) (by simp) hsame).1

theorem length_fmtInt {v : ℕ} (h : v ≤ 9999) : (fmtInt v).length ≤ 4 := by
  have hlength := (Nat.length_repr_le_iff (n := v) (k := 4) (by decide)).mpr (by omega)
  rwa [← String.length_toList, Nat.toList_repr] at hlength

/-- A year of four digits, with zeros in front of its number. -/
theorem toList_yearText_of_nonneg (h : 0 ≤ year t) :
    (yearText t).toList = List.replicate (4 - (fmtInt (year t).natAbs).length) '0' ++
      fmtInt (year t).natAbs := by
  have hdigits : (toString (year t).natAbs).toList = fmtInt (year t).natAbs := Nat.toList_repr
  have hlength : (toString (year t).natAbs).length = (fmtInt (year t).natAbs).length := by
    rw [← String.length_toList, hdigits]
  rw [yearText, if_neg (by omega), zeroPad, if_neg (Int.not_lt.mpr (Int.natCast_nonneg _))]
  simp only [String.toList_append, Int.natAbs_natCast, hdigits, hlength, String.toList_ofList]
  rfl

theorem monthNames : ∀ i < 12, (shortMonths.getD i "").toList.length = 3 ∧
    monthOfName (shortMonths.getD i "") = some ((i : ℤ) + 1) := by
  decide +kernel

theorem monthName_spec (t : Time) :
    (monthName t).toList.length = 3 ∧ monthOfName (monthName t) = some (month t) := by
  obtain ⟨hlow, hhigh⟩ := month_bounds t
  obtain ⟨hlength, hname⟩ := monthNames (month t - 1).toNat (by omega)
  have hindex : ((month t - 1).toNat : ℤ) + 1 = month t := by omega
  rw [hindex] at hname
  exact ⟨hlength, hname⟩

theorem saleMonthToInt_monthText (t : Time) : saleMonthToInt (monthText t) = month t := by
  obtain ⟨hlength, hname⟩ := monthName_spec t
  unfold saleMonthToInt monthText
  rw [String.toList_append, List.take_left' hlength, String.ofList_toList, hname]
  rfl

theorem date_spec {y : ℤ} (hm : 1 ≤ m ∧ m ≤ 12) : year (date y m 1) = y ∧ month (date y m 1) = m := by
  have hlength : 1 ≤ Calendar.monthLength (12 * y + m - 1) := by
    unfold Calendar.monthLength
    split_ifs <;> omega
  obtain ⟨hyear, hmonth, -⟩ := civil_midnight (m := 12 * y + m - 1) (d := 1) (c := 0)
    (t := date y m 1) ⟨le_rfl, hlength⟩ (by decide) (by simp [date])
  omega

theorem saleMonthToInt_key (y : ℤ) (hm : 1 ≤ m ∧ m ≤ 12) : saleMonthToInt (saleMonthKey y m) = m := by
  rw [saleMonthKey, saleMonthToInt_monthText]
  exact (date_spec hm).2

theorem monthText_congr (hyear : year t = year t') (hmonth : month t = month t') :
    monthText t = monthText t' := by
  simp only [monthText, monthName, yearText, hyear, hmonth]

theorem zero_le_of_isDigit {c : Char} (h : c.isDigit = true) : '0' ≤ c := by
  unfold Char.isDigit at h
  rw [Bool.and_eq_true, decide_eq_true_iff] at h
  exact h.1

/-- Zeros come before other digits. -/
theorem replicate_append_lt {u d : List Char} (hu : ∀ c ∈ u, '0' ≤ c)
    (hne : u ≠ List.replicate u.length '0') : List.replicate u.length '0' ++ d < u ++ d := by
  induction u with
  | nil => exact absurd rfl hne
  | cons c u ih =>
    rw [List.length_cons, List.replicate_succ, List.cons_append, List.cons_append,
      List.cons_lt_cons_iff]
    obtain hlt | rfl := lt_or_eq_of_le (hu c List.mem_cons_self)
    · exact .inl hlt
    · refine .inr ⟨rfl, ih (fun x hx ↦ hu x (List.mem_cons_of_mem _ hx)) fun h ↦ hne ?_⟩
      rw [List.length_cons, List.replicate_succ, ← h]

end Texts

section Rows

variable {a b : Transaction} {s s' : Time} {y m : ℤ}

/-- The month of the sale is one of the year. -/
def ofYear (y : ℤ) (a : Transaction) : Bool :=
  a.saleMonth = saleMonthKey y (saleMonthToInt a.saleMonth)

theorem month_of_text (ha : a.saleMonth = monthText s) : saleMonthToInt a.saleMonth = month s :=
  ha ▸ saleMonthToInt_monthText s

theorem month_range (a : Transaction) :
    1 ≤ saleMonthToInt a.saleMonth ∧ saleMonthToInt a.saleMonth ≤ 12 := by
  obtain ⟨s, -, hs⟩ := a.month_of_time
  rw [month_of_text hs]
  exact month_bounds s

theorem ofYear_iff (ha : a.saleMonth = monthText s) : ofYear y a = true ↔ year s = y := by
  obtain ⟨hyear, hmonth⟩ := date_spec (y := y) (m := month s) (month_bounds s)
  rw [ofYear, decide_eq_true_iff, month_of_text ha, ha, saleMonthKey]
  constructor
  · intro h
    have htext := congrArg String.toList h
    simp only [monthText, String.toList_append] at htext
    have hyears := (List.append_inj htext
      ((monthName_spec s).1.trans (monthName_spec _).1.symm)).2
    rw [yearText_injective (String.toList_injective hyears), hyear]
  · intro h
    exact monthText_congr (h.trans hyear.symm) hmonth.symm

theorem saleMonth_eq_key_iff (hm : 1 ≤ m ∧ m ≤ 12) :
    a.saleMonth = saleMonthKey y m ↔ ofYear y a = true ∧ saleMonthToInt a.saleMonth = m := by
  constructor
  · intro h
    have hmonth : saleMonthToInt a.saleMonth = m := h ▸ saleMonthToInt_key y hm
    exact ⟨decide_eq_true (hmonth.symm ▸ h), hmonth⟩
  · rintro ⟨hyear, rfl⟩
    exact of_decide_eq_true hyear

theorem endsIn_iff (ha : a.saleMonth = monthText s) :
    endsIn y a = true ↔ padded 0 y <:+ (monthName s).toList ++ (yearText s).toList := by
  rw [endsIn, List.isSuffixOf_iff_suffix, toList_toString, ha, monthText, String.toList_append]

theorem padded_of_nonneg (h : 0 ≤ y) : padded 0 y = fmtInt y.natAbs := by
  unfold padded
  rw [if_neg (by omega)]
  rfl

theorem endsIn_of_ofYear (h : ofYear y a = true) : endsIn y a = true := by
  obtain ⟨s, hrange, ha⟩ := a.month_of_time
  obtain rfl := (ofYear_iff ha).mp h
  rw [endsIn_iff ha, toList_yearText_of_nonneg hrange.1, padded_of_nonneg hrange.1]
  exact ⟨_, List.append_assoc ..⟩

/-- Of the months of one name that end in the digits of the year, that of the year is the first. -/
theorem lt_of_endsIn (ha : ofYear y a = true) (hb : endsIn y b = true) (hstray : ¬ofYear y b = true)
    (hmonth : saleMonthToInt a.saleMonth = saleMonthToInt b.saleMonth) :
    a.saleMonth < b.saleMonth := by
  obtain ⟨s, hs, has⟩ := a.month_of_time
  obtain ⟨s', hs', hbs⟩ := b.month_of_time
  obtain rfl := (ofYear_iff has).mp ha
  rw [month_of_text has, month_of_text hbs] at hmonth
  have hname : monthName s = monthName s' := by simp only [monthName, hmonth]
  have hdigits : (fmtInt (year s).natAbs).length ≤ 4 := length_fmtInt (by omega)
  have hlength : (yearText s').toList.length = 4 := by
    have hdigits' : (fmtInt (year s').natAbs).length ≤ 4 := length_fmtInt (by omega)
    rw [toList_yearText_of_nonneg hs'.1, List.length_append, List.length_replicate]
    omega
  rw [endsIn_iff hbs, padded_of_nonneg hs.1] at hb
  obtain ⟨u, hu⟩ := List.suffix_of_suffix_length_le hb (List.suffix_append _ _)
    (hlength.symm ▸ hdigits)
  have hulength : u.length = 4 - (fmtInt (year s).natAbs).length := by
    rw [← hu, List.length_append] at hlength
    omega
  rw [String.lt_iff_toList_lt, has, hbs, monthText, monthText, String.toList_append,
    String.toList_append, hname, toList_yearText_of_nonneg hs.1, ← hu, ← hulength]
  refine List.append_left_lt (replicate_append_lt ?_ fun h ↦ hstray ?_)
  · intro c hc
    have hmem : c ∈ (yearText s').toList := hu ▸ List.mem_append_left _ hc
    rw [toList_yearText_of_nonneg hs'.1] at hmem
    exact zero_le_of_isDigit (isDigit_digits c hmem)
  · refine (ofYear_iff hbs).mpr (yearText_injective (String.toList_injective ?_))
    rw [← hu, toList_yearText_of_nonneg hs.1, ← hulength, ← h]

end Rows

section Queries

variable (order : Arrangement Transaction) (table : TransactionTable) (deviceID : ℕ) {y m : ℤ}

/-- The sales of a device in a month. -/
def salesOf (month : String) : List Transaction :=
  table.filter fun t ↦ t.deviceID = deviceID && t.saleMonth = month

def salesOfYear (y : ℤ) : List Transaction :=
  table.filter fun t ↦ t.deviceID = deviceID && ofYear y t

/-- The sales of a device in other years that end in the digits of this one. -/
def strays (y : ℤ) : List Transaction :=
  table.filter fun t ↦ t.deviceID = deviceID && endsIn y t && !ofYear y t

theorem newest_perm (p : Transaction → Bool) :
    ((order.order (table.filter p)).mergeSort fun a b ↦ b.createdAt ≤ a.createdAt).Perm
      (table.filter p) :=
  (List.mergeSort_perm _ _).trans (order.perm _)

theorem length_newest (p : Transaction → Bool) :
    (table.newest order p).length = min defaultTransactionLimit (table.filter p).length := by
  rw [newest, List.length_take, (newest_perm order table p).length_eq]

/-- The limit leaves the figures of all rows just if there are no more of them. -/
theorem figures_newest_iff (p : Transaction → Bool) :
    figures (·.sellPrice) (table.newest order p) = figures (·.sellPrice) (table.filter p) ↔
      (table.filter p).length ≤ defaultTransactionLimit := by
  constructor
  · intro h
    have hcount := congrArg Figures.count h
    rw [figures, figures, length_newest] at hcount
    dsimp only at hcount
    omega
  · intro h
    have hperm := newest_perm order table p
    rw [newest, List.take_of_length_le (hperm.length_eq.trans_le h)]
    exact figures_perm hperm

theorem figuresAt_rowsBy {κ : Type} [LinearOrder κ] (key : Transaction → κ) (txs : List Transaction)
    (k : κ) : figuresAt k (rowsBy key txs) = figures (·.sellPrice) (txs.filter (key · = k)) := by
  rw [rowsBy, ← figuresAt_tally]
  exact (figuresAt_perm (nodup_keys_tally txs) (List.mergeSort_perm _ _).symm k).symm

theorem sumOf_rowsBy {κ : Type} [LinearOrder κ] (key : Transaction → κ) (txs : List Transaction) :
    sumOf (rowsBy key txs) = figures (·.sellPrice) txs := by
  rw [rowsBy, sumOf_perm (List.mergeSort_perm _ _), sumOf_tally]

/-- The rows of `ListByDeviceYear`, without its limit. -/
def ranked (y : ℤ) : List Transaction :=
  (order.order (table.filter fun t ↦ t.deviceID = deviceID && endsIn y t)).mergeSort byMonth

theorem ranked_perm : (ranked order table deviceID y).Perm
    (table.filter fun t ↦ t.deviceID = deviceID && endsIn y t) :=
  (List.mergeSort_perm _ _).trans (order.perm _)

theorem ranked_pairwise :
    (ranked order table deviceID y).Pairwise fun a b ↦ a.saleMonth ≤ b.saleMonth := by
  have hsorted := @List.pairwise_mergeSort _ byMonth
    (fun a b c hab hbc ↦ by
      simp only [byMonth, decide_eq_true_eq] at hab hbc ⊢
      exact le_trans hab hbc)
    (fun a b ↦ by
      simp only [byMonth, Bool.or_eq_true, decide_eq_true_eq]
      exact le_total _ _)
    (order.order (table.filter fun t ↦ t.deviceID = deviceID && endsIn y t))
  refine hsorted.imp fun {a b} hab ↦ ?_
  rw [byMonth, decide_eq_true_eq, Prod.Lex.le_iff] at hab
  exact hab.elim le_of_lt fun h ↦ le_of_eq h.1

theorem filter_ranked_perm (p : Transaction → Bool) :
    ((ranked order table deviceID y).filter p).Perm
      (table.filter fun t ↦ t.deviceID = deviceID && endsIn y t && p t) := by
  refine ((ranked_perm order table deviceID).filter p).trans ?_
  rw [List.filter_filter]
  refine List.Perm.of_eq (List.filter_congr fun t _ ↦ Bool.and_comm _ _)

theorem ofYear_ranked_perm :
    ((ranked order table deviceID y).filter (ofYear y)).Perm (salesOfYear table deviceID y) := by
  refine (filter_ranked_perm order table deviceID (ofYear y)).trans (List.Perm.of_eq ?_)
  refine List.filter_congr fun t _ ↦ ?_
  cases hyear : ofYear y t with
  | false => simp
  | true => simp [endsIn_of_ofYear hyear]

theorem month_ranked_perm (hm : 1 ≤ m ∧ m ≤ 12) :
    (((ranked order table deviceID y).filter (ofYear y)).filter
      (fun t ↦ saleMonthToInt t.saleMonth = m)).Perm
      (salesOf table deviceID (saleMonthKey y m)) := by
  refine ((ofYear_ranked_perm order table deviceID).filter _).trans ?_
  rw [salesOfYear, List.filter_filter]
  refine List.Perm.of_eq (List.filter_congr fun t _ ↦ ?_)
  rw [Bool.eq_iff_iff]
  simp only [Bool.and_eq_true, decide_eq_true_iff, saleMonth_eq_key_iff hm]
  exact ⟨fun h ↦ ⟨h.2.1, h.2.2, h.1⟩, fun h ↦ ⟨h.2.2, h.1, h.2.1⟩⟩

end Queries

section Resume

variable (order : Arrangement Transaction) (table : TransactionTable) (deviceID : ℕ) {y m : ℤ}

/-- The year can be told from the others, or its rows fill the limit and come first. -/
def Separable (y : ℤ) : Prop :=
  strays table deviceID y = [] ∧
      (salesOfYear table deviceID y).length ≤ defaultTransactionLimit * 12 ∨
    (salesOfYear table deviceID y).length = defaultTransactionLimit * 12 ∧
      ∀ a ∈ salesOfYear table deviceID y, ∀ b ∈ strays table deviceID y, a.saleMonth < b.saleMonth

/-- Each month of the year has its own figures. -/
def MonthsTrue (y : ℤ) (monthly : List (ℤ × Figures)) : Prop :=
  ∀ m, 1 ≤ m → m ≤ 12 →
    figuresAt m monthly = figures (·.sellPrice) (salesOf table deviceID (saleMonthKey y m))

theorem monthsTrue_iff_take : MonthsTrue table deviceID y
    (rowsBy (fun t ↦ saleMonthToInt t.saleMonth) (table.listByDeviceYear order deviceID y)) ↔
      (ranked order table deviceID y).take (defaultTransactionLimit * 12) =
        (ranked order table deviceID y).filter (ofYear y) := by
  change MonthsTrue table deviceID y (rowsBy (fun t ↦ saleMonthToInt t.saleMonth)
    ((ranked order table deviceID y).take (defaultTransactionLimit * 12))) ↔ _
  constructor
  · intro h
    refine take_eq_filter_of_counts Transaction.saleMonth
      (fun t ↦ saleMonthToInt t.saleMonth) (ranked_pairwise order table deviceID) ?_ ?_
    · intro a ha hyear b hb hstray hmonth
      have hends := (List.mem_filter.mp ((ranked_perm order table deviceID).mem_iff.mp hb)).2
      rw [Bool.and_eq_true] at hends
      exact lt_of_endsIn hyear hends.2 hstray hmonth
    · intro b _
      obtain ⟨hlow, hhigh⟩ := month_range b
      have hcount := congrArg Figures.count (h _ hlow hhigh)
      rw [figuresAt_rowsBy, figures, figures] at hcount
      rw [List.countP_eq_length_filter, List.countP_eq_length_filter,
        (month_ranked_perm order table deviceID ⟨hlow, hhigh⟩).length_eq]
      exact hcount
  · intro h m hlow hhigh
    rw [figuresAt_rowsBy, h]
    exact figures_perm (month_ranked_perm order table deviceID ⟨hlow, hhigh⟩)

theorem take_iff_separable :
    (ranked order table deviceID y).take (defaultTransactionLimit * 12) =
        (ranked order table deviceID y).filter (ofYear y) ↔ Separable table deviceID y := by
  rw [take_eq_filter_iff Transaction.saleMonth (ranked_pairwise order table deviceID)
    fun a b h ↦ by simp only [ofYear, h]]
  have hyear := ofYear_ranked_perm order table deviceID (y := y)
  have hstray : ∀ b, b ∈ strays table deviceID y ↔
      b ∈ ranked order table deviceID y ∧ ¬ofYear y b = true := by
    intro b
    rw [(ranked_perm order table deviceID).mem_iff, List.mem_filter, strays, List.mem_filter,
      Bool.and_eq_true _ (!ofYear y b), Bool.not_eq_true', Bool.not_eq_true, and_assoc]
  have hsale : ∀ a, a ∈ salesOfYear table deviceID y ↔
      a ∈ ranked order table deviceID y ∧ ofYear y a = true :=
    fun a ↦ hyear.mem_iff.symm.trans List.mem_filter
  have hall : (∀ a ∈ ranked order table deviceID y, ofYear y a = true) ↔
      strays table deviceID y = [] := by
    rw [List.eq_nil_iff_forall_not_mem]
    refine forall_congr' fun b ↦ ?_
    rw [hstray, not_and_not_right]
  refine or_congr ?_ (and_congr (by rw [hyear.length_eq]) ?_)
  · rw [← hall]
    refine and_congr_right fun h ↦ ?_
    rw [← hyear.length_eq, List.filter_eq_self.mpr h]
  · constructor
    · exact fun h a ha b hb ↦
        h a ((hsale a).mp ha).1 ((hsale a).mp ha).2 b ((hstray b).mp hb).1 ((hstray b).mp hb).2
    · exact fun h a ha hyear b hb hnot ↦ h a ((hsale a).mpr ⟨ha, hyear⟩) b ((hstray b).mpr ⟨hb, hnot⟩)

theorem monthsTrue_iff : MonthsTrue table deviceID y
    (rowsBy (fun t ↦ saleMonthToInt t.saleMonth) (table.listByDeviceYear order deviceID y)) ↔
      Separable table deviceID y :=
  (monthsTrue_iff_take order table deviceID).trans (take_iff_separable order table deviceID)

theorem months_range (txs : List Transaction) :
    ∀ row ∈ rowsBy (fun t ↦ saleMonthToInt t.saleMonth) txs, 1 ≤ row.1 ∧ row.1 ≤ 12 := by
  intro row hrow
  have hkey := List.mem_map_of_mem (f := Prod.fst) ((List.mergeSort_perm _ _).mem_iff.mp hrow)
  obtain ⟨a, -, ha⟩ := mem_keys_tally.mp hkey
  rw [← ha]
  exact month_range a

end Resume

section Answers

variable (table : TransactionTable) (deviceID : ℕ)

/-- The sales that `ListByDevice` selects: a month that is empty is none. -/
def sellingOf (month : String) : List Transaction :=
  table.filter fun t ↦ t.deviceID = deviceID && (month = "" || t.saleMonth = month)

theorem sellingOf_of_ne {month : String} (h : month ≠ "") :
    sellingOf table deviceID month = salesOf table deviceID month := by
  simp only [sellingOf, salesOf, h, decide_false, Bool.false_or]

theorem orFault_cases (e : Env) (txs : List Transaction) :
    (∃ err, orFault e txs = .error err) ∨ orFault e txs = .ok txs := by
  unfold orFault
  cases e.fault with
  | some err => exact .inl ⟨err, rfl⟩
  | none => exact .inr rfl

theorem writeErr_ne_success {α : Type} (err : Error) (body : α) :
    (writeErr err : Response α) ≠ .success 200 body := by
  intro h
  refine writeErr_not_accepted (α := α) err ?_
  rw [h]
  exact ⟨le_rfl, by simp [Response.status]⟩

theorem orNow_wp {α : Type} {Q : α → TransactionTable → Prop} {v : ℤ} {field : Time → ℤ}
    {k : ℤ → Prog α} (h : ∀ n, (v ≠ 0 → n = v) → (k n).wp Call.exec (fun _ ↦ True) Q table) :
    (orNow v field >>= k).wp Call.exec (fun _ ↦ True) Q table := by
  rw [wp_bind, orNow]
  split_ifs with hv
  · exact fun e _ ↦ h _ fun hne ↦ absurd hv hne
  · exact h v fun _ ↦ rfl

theorem monthly_wp (year month : ℤ) : (monthly deviceID year month).wp Call.exec (fun _ ↦ True)
    (fun answer _ ↦ ∀ res, answer = .success 200 res →
      (year ≠ 0 → res.year = year) ∧ (month ≠ 0 → res.month = month) ∧ ∃ order : Arrangement _,
        ⟨res.count, res.total⟩ = figures (·.sellPrice)
          (table.listByDevice order deviceID (saleMonthKey res.year res.month))) table := by
  refine orNow_wp table fun y hy ↦ orNow_wp table fun m hm e _ ↦ ?_
  obtain ⟨err, h⟩ | h := orFault_cases e (table.listByDevice e.order deviceID (saleMonthKey y m))
  · simp only [Call.exec, h]
    exact fun res hres ↦ absurd hres (writeErr_ne_success err res)
  · simp only [Call.exec, h]
    intro res hres
    obtain ⟨-, rfl⟩ := Response.success.inj hres
    exact ⟨hy, hm, e.order, rfl⟩

theorem resume_wp (year : ℤ) : (resume deviceID year).wp Call.exec (fun _ ↦ True)
    (fun answer _ ↦ ∀ res, answer = .success 200 res →
      (year ≠ 0 → res.year = year) ∧ ∃ order : Arrangement _,
        res.monthly = rowsBy (fun t ↦ saleMonthToInt t.saleMonth)
            (table.listByDeviceYear order deviceID res.year) ∧
        ⟨res.count, res.total⟩ = figures (·.sellPrice)
            (table.listByDeviceYear order deviceID res.year)) table := by
  refine orNow_wp table fun y hy e _ ↦ ?_
  obtain ⟨err, h⟩ | h := orFault_cases e (table.listByDeviceYear e.order deviceID y)
  · simp only [Call.exec, h]
    exact fun res hres ↦ absurd hres (writeErr_ne_success err res)
  · simp only [Call.exec, h]
    intro res hres
    obtain ⟨-, rfl⟩ := Response.success.inj hres
    exact ⟨hy, e.order, rfl, rfl⟩

/-- The time of the summary is that of its first call. -/
theorem summary_run (env : ℕ → Env) (res : VoucherDashboardSummary)
    (hres : ((summary deviceID).run Call.exec env table).1 = .success 200 res) :
    ∃ order : Arrangement _, ⟨res.monthCount, res.monthSum⟩ = figures (·.sellPrice)
      (table.listByDevice order deviceID (monthText (env 0).now)) := by
  obtain ⟨err, h⟩ | h := orFault_cases (env 1)
    (table.listByDeviceDate (env 1).order deviceID (dateText (env 0).now))
  · simp only [summary, perform_bind, run_call, Call.exec, h] at hres
    exact absurd hres (writeErr_ne_success err res)
  obtain ⟨err, h'⟩ | h' := orFault_cases (env 2)
    (table.listByDevice (env 2).order deviceID (monthText (env 0).now))
  · simp only [summary, perform_bind, run_call, Call.exec, h, h'] at hres
    exact absurd hres (writeErr_ne_success err res)
  · simp only [summary, perform_bind, run_call, Call.exec, h, h'] at hres
    obtain ⟨-, rfl⟩ := Response.success.inj hres
    exact ⟨(env 2).order, rfl⟩

theorem sellingSummary_wp (month : String) (includeTx : Bool) :
    (sellingSummary deviceID month includeTx).wp Call.exec (fun _ ↦ True)
      (fun answer _ ↦ ∀ res, answer = .success 200 res → ∃ order : Arrangement _,
        ⟨res.count, res.totalSellPrice⟩ = figures (·.sellPrice)
          (table.listByDevice order deviceID (toLower month))) table := by
  intro e _
  obtain ⟨err, h⟩ | h := orFault_cases e (table.listByDevice e.order deviceID (toLower month))
  · simp only [Call.exec, h]
    exact fun res hres ↦ absurd hres (writeErr_ne_success err res)
  · simp only [Call.exec, h]
    intro res hres
    obtain ⟨-, rfl⟩ := Response.success.inj hres
    exact ⟨e.order, rfl⟩

theorem figures_listByDevice_iff (order : Arrangement Transaction) (month : String) :
    figures (·.sellPrice) (table.listByDevice order deviceID month) =
        figures (·.sellPrice) (sellingOf table deviceID month) ↔
      (sellingOf table deviceID month).length ≤ defaultTransactionLimit :=
  figures_newest_iff order table _

theorem figures_month_iff (order : Arrangement Transaction) {month : String} (h : month ≠ "") :
    figures (·.sellPrice) (table.listByDevice order deviceID month) =
        figures (·.sellPrice) (salesOf table deviceID month) ↔
      (salesOf table deviceID month).length ≤ defaultTransactionLimit := by
  rw [← sellingOf_of_ne table deviceID h]
  exact figures_listByDevice_iff table deviceID order month

theorem monthText_ne_empty (t : Time) : monthText t ≠ "" := by
  intro h
  have hlength := (monthName_spec t).1
  rw [monthText, String.append_eq_empty_iff] at h
  rw [h.1] at hlength
  exact absurd hlength (by decide)

end Answers

section Totals

variable (env : ℕ → Env) (table : TransactionTable) (deviceID : ℕ)

/-- The figures of a month, in a report of it. -/
def MonthTrue (month : String) (count : ℕ) (sum : ℤ) : Prop :=
  ⟨count, sum⟩ = figures (·.sellPrice) (salesOf table deviceID month)

theorem monthly_true_iff (year month : ℤ) (res : MonthlyReportResponse)
    (hres : ((monthly deviceID year month).run Call.exec env table).1 = .success 200 res) :
    ((year ≠ 0 → res.year = year) ∧ (month ≠ 0 → res.month = month)) ∧
      (MonthTrue table deviceID (saleMonthKey res.year res.month) res.count res.total ↔
        (salesOf table deviceID (saleMonthKey res.year res.month)).length ≤
          defaultTransactionLimit) := by
  obtain ⟨hy, hm, order, hfigures⟩ :=
    run_of_wp (monthly_wp table deviceID year month) env (fun _ ↦ trivial) res hres
  refine ⟨⟨hy, hm⟩, ?_⟩
  rw [MonthTrue, hfigures]
  exact figures_month_iff table deviceID order (monthText_ne_empty _)

theorem resume_true_iff (year : ℤ) (res : ResumeReportResponse)
    (hres : ((resume deviceID year).run Call.exec env table).1 = .success 200 res) :
    (year ≠ 0 → res.year = year) ∧
      (MonthsTrue table deviceID res.year res.monthly ↔ Separable table deviceID res.year) ∧
      (∀ row ∈ res.monthly, 1 ≤ row.1 ∧ row.1 ≤ 12) ∧
      sumOf res.monthly = ⟨res.count, res.total⟩ := by
  obtain ⟨hy, order, hmonthly, hfigures⟩ :=
    run_of_wp (resume_wp table deviceID year) env (fun _ ↦ trivial) res hres
  refine ⟨hy, ?_, ?_, ?_⟩
  · rw [hmonthly]
    exact monthsTrue_iff order table deviceID
  · rw [hmonthly]
    exact months_range _
  · rw [hmonthly, sumOf_rowsBy, hfigures]

/-- The totals of the reports are those of the table just if the limits of the queries leave them
all their rows, and the query of a year gets no others. -/
theorem totals_true_iff (env : ℕ → Env) (table : TransactionTable) (deviceID : ℕ) :
    (∀ year month res, ((monthly deviceID year month).run Call.exec env table).1 =
      .success 200 res → ((year ≠ 0 → res.year = year) ∧ (month ≠ 0 → res.month = month)) ∧
        (MonthTrue table deviceID (saleMonthKey res.year res.month) res.count res.total ↔
          (salesOf table deviceID (saleMonthKey res.year res.month)).length ≤
            defaultTransactionLimit)) ∧
    (∀ res, ((summary deviceID).run Call.exec env table).1 = .success 200 res →
      (MonthTrue table deviceID (monthText (env 0).now) res.monthCount res.monthSum ↔
        (salesOf table deviceID (monthText (env 0).now)).length ≤ defaultTransactionLimit)) ∧
    (∀ month includeTx res, ((sellingSummary deviceID month includeTx).run Call.exec env table).1 =
      .success 200 res →
        ((⟨res.count, res.totalSellPrice⟩ : Figures) =
            figures (·.sellPrice) (sellingOf table deviceID (toLower month)) ↔
          (sellingOf table deviceID (toLower month)).length ≤ defaultTransactionLimit)) ∧
    (∀ year res, ((resume deviceID year).run Call.exec env table).1 = .success 200 res →
      (year ≠ 0 → res.year = year) ∧
        (MonthsTrue table deviceID res.year res.monthly ↔ Separable table deviceID res.year) ∧
        (∀ row ∈ res.monthly, 1 ≤ row.1 ∧ row.1 ≤ 12) ∧
        sumOf res.monthly = ⟨res.count, res.total⟩) ∧
    ∀ year year' month res res',
      ((resume deviceID year).run Call.exec env table).1 = .success 200 res →
      ((monthly deviceID year' month).run Call.exec env table).1 = .success 200 res' →
      res'.year = res.year → 1 ≤ res'.month → res'.month ≤ 12 →
      Separable table deviceID res.year →
      (salesOf table deviceID (saleMonthKey res'.year res'.month)).length ≤
        defaultTransactionLimit →
      figuresAt res'.month res.monthly = ⟨res'.count, res'.total⟩ := by
  refine ⟨monthly_true_iff env table deviceID, fun res hres ↦ ?_, fun month includeTx res hres ↦ ?_,
    resume_true_iff env table deviceID, ?_⟩
  · obtain ⟨order, hfigures⟩ := summary_run table deviceID env res hres
    rw [MonthTrue, hfigures]
    exact figures_month_iff table deviceID order (monthText_ne_empty _)
  · obtain ⟨order, hfigures⟩ := run_of_wp (sellingSummary_wp table deviceID month includeTx) env
      (fun _ ↦ trivial) res hres
    rw [hfigures]
    exact figures_listByDevice_iff table deviceID order (toLower month)
  · intro year year' month res res' hres hres' hyear hlow hhigh hseparable hfew
    have hmonths := (resume_true_iff env table deviceID year res hres).2.1.mpr hseparable
    have hmonth := (monthly_true_iff env table deviceID year' month res' hres').2.mpr hfew
    rw [MonthTrue, hyear] at hmonth
    exact (hmonths res'.month hlow hhigh).trans hmonth.symm

/-- A voucher that is sold in June 2026. -/
def juneSale (n : ℕ) : Transaction where
  id := n + 1
  deviceID := 1
  saleDate := "jun/04/2026"
  saleTime := "08:00:00"
  saleMonth := "jun2026"
  username := "v" ++ toString n
  price := 5000
  sellPrice := 6000
  ip := ""
  mac := ""
  validity := "1d"
  profile := "1hari"
  comment := "on-login"
  createdAt := date 2026 6 4
  month_of_time := ⟨date 2026 6 4, by decide +kernel, by decide +kernel⟩

def busyJune : TransactionTable := (List.range 501).map juneSale

theorem busyJune_sales : salesOf busyJune 1 (saleMonthKey 2026 6) = busyJune := by
  have hkey : saleMonthKey 2026 6 = "jun2026" := by decide +kernel
  refine List.filter_eq_self.mpr fun t ht ↦ ?_
  obtain ⟨n, -, rfl⟩ := List.mem_map.mp ht
  rw [hkey]
  rfl

/-- The report of a month with 501 sales has lost one of them. -/
theorem sale_missing : ∃ res, ((monthly 1 2026 6).run Call.exec (fun _ ↦ ⟨none, 0, .keep _⟩)
      busyJune).1 = .success 200 res ∧
    ¬MonthTrue busyJune 1 (saleMonthKey 2026 6) res.count res.total := by
  refine ⟨_, rfl, fun h ↦ ?_⟩
  have hfew := (figures_month_iff busyJune 1 (.keep _) (monthText_ne_empty _)).mp h
  change (salesOf busyJune 1 (saleMonthKey 2026 6)).length ≤ _ at hfew
  rw [busyJune_sales, busyJune, List.length_map, List.length_range] at hfew
  exact absurd hfew (by decide)

end Totals

end Rosmon.Reports
