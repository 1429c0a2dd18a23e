import Rosmon.Go.Numbers
import Rosmon.Service.Frame
import Rosmon.Store.Counters

namespace Rosmon.Billing

open Go Library Program Store Service

section Texts

/-- The sign of a number and its digits, with zeros in front of them. -/
def padded (k : ℕ) (n : ℤ) : List Char :=
  (if n < 0 then ['-'] else []) ++ (List.replicate k '0' ++ fmtInt n.natAbs)

theorem toList_toString (n : ℤ) : (toString n).toList = padded 0 n := by
  rw [Int.toString_eq_repr, Int.repr_eq_if, padded]
  by_cases hn : 0 ≤ n
  · have habs : n.toNat = n.natAbs := by omega
    rw [if_pos hn, if_neg (by omega), habs, Nat.toList_repr]
    rfl
  · have habs : (-n).toNat = n.natAbs := by omega
    rw [if_neg hn, if_pos (by omega), habs, String.toList_append, Nat.toList_repr]
    rfl

theorem toList_zeroPad (width : ℕ) (n : ℤ) : ∃ k, (zeroPad width n).toList = padded k n := by
  refine ⟨width - (if n < 0 then "-" else "").length - (toString n.natAbs).length, ?_⟩
  simp only [zeroPad, String.toList_append, String.toList_ofList, Nat.toString_eq_repr,
    Nat.toList_repr, List.append_assoc, padded]
  split <;> rfl

theorem isDigit_digits {k v : ℕ} : ∀ c ∈ List.replicate k '0' ++ fmtInt v, c.isDigit = true := by
  intro c hc
  obtain hc | hc := List.mem_append.mp hc
  · rw [List.eq_of_mem_replicate hc]
    rfl
  · exact isDigit_of_mem_fmtInt hc

theorem digits_injective {k k' v v' : ℕ}
    (h : List.replicate k '0' ++ fmtInt v = List.replicate k' '0' ++ fmtInt v') : v = v' := by
  have hnum := congrArg (fun ds ↦ Nat.ofDigitChars 10 ds 0) h
  simpa [fmtInt, Nat.ofDigitChars_append] using hnum

theorem digits_head (k v : ℕ) (r : List Char) :
    ((List.replicate k '0' ++ fmtInt v) ++ r).head? ≠ some '-' := by
  intro h
  have hne : List.replicate k '0' ++ fmtInt v ≠ [] :=
    List.append_ne_nil_of_right_ne_nil _ Nat.toDigits_ne_nil
  rw [List.head?_append_of_ne_nil _ hne] at h
  exact absurd (isDigit_digits _ (List.mem_of_mem_head? h)) (by decide)

/-- A number ends where its digits do, however many zeros it starts with. -/
theorem padded_append_inj {k k' : ℕ} {n n' : ℤ} {r r' : List Char}
    (hr : ∀ c ∈ r.head?, c.isDigit = false) (hr' : ∀ c ∈ r'.head?, c.isDigit = false)
    (h : padded k n ++ r = padded k' n' ++ r') : n = n' ∧ r = r' := by
  have hdigits {m m' : ℕ} (hm : List.replicate k '0' ++ fmtInt m ++ r =
      List.replicate k' '0' ++ fmtInt m' ++ r') : m = m' ∧ r = r' := by
    obtain ⟨hval, hrest⟩ := append_inj_of_span isDigit_digits isDigit_digits hr hr' hm
    exact ⟨digits_injective hval, hrest⟩
  unfold padded at h
  split_ifs at h with hn hn' hn'
  · obtain ⟨habs, hrest⟩ := hdigits (List.cons.inj h).2
    exact ⟨by omega, hrest⟩
  · exact absurd (congrArg List.head? h).symm (digits_head _ _ _)
  · exact absurd (congrArg List.head? h) (digits_head _ _ _)
  · obtain ⟨habs, hrest⟩ := hdigits h
    exact ⟨by omega, hrest⟩

theorem toList_formatNumber (kind : String) (y v : ℤ) {m : ℤ} (hm : 0 < m) :
    ∃ k l, (formatNumber kind y m v).toList =
      kind.toList ++ '-' :: (padded 0 y ++ '-' :: (padded k m ++ '-' :: padded l v)) := by
  obtain ⟨k, hk⟩ := toList_zeroPad 2 m
  obtain ⟨l, hl⟩ := toList_zeroPad 4 v
  refine ⟨k, l, ?_⟩
  rw [← toList_toString, ← hk, ← hl, formatNumber, if_pos hm]
  simp only [String.toList_append, List.append_assoc]
  rfl

/-- The numbers of two documents differ when their years, their months or their values do. -/
theorem formatNumber_injective {kind : String} {y y' m m' v v' : ℤ} (hm : 0 < m) (hm' : 0 < m')
    (h : formatNumber kind y m v = formatNumber kind y' m' v') : y = y' ∧ m = m' ∧ v = v' := by
  obtain ⟨k, l, htext⟩ := toList_formatNumber kind y v hm
  obtain ⟨k', l', htext'⟩ := toList_formatNumber kind y' v' hm'
  have hdash : ∀ t : List Char, ∀ c ∈ ('-' :: t).head?, c.isDigit = false := by simp
  have heq := htext.symm.trans ((congrArg String.toList h).trans htext')
  obtain ⟨hy, hrest⟩ := padded_append_inj (hdash _) (hdash _)
    (List.cons.inj (List.append_cancel_left heq)).2
  obtain ⟨hmonth, hrest⟩ := padded_append_inj (hdash _) (hdash _) (List.cons.inj hrest).2
  have hvalue := (List.cons.inj hrest).2
  rw [← List.append_nil (padded l v), ← List.append_nil (padded l' v')] at hvalue
  exact ⟨hy, hmonth, (padded_append_inj (by simp) (by simp) hvalue).1⟩

theorem month_bounds (t : Time) : 0 < month t ∧ month t ≤ 12 := by
  obtain ⟨m, d, c, hd, hc, ht⟩ := exists_midnight t
  rw [(civil_midnight hd hc ht).2.1]
  omega

end Texts

section Numbers

/-- The calls of the code, with the counters kept in their table. -/
def execStored : (c : Call) → Env → World → c.Reply × World
  | .nextVal counter, e, w =>
    let r := w.sequences.nextStored counter
    orFault e w (r.1, { w with sequences := r.2 })
  | c, e, w => c.exec e w

def counterOf (now : Time) : String × ℤ × ℤ := ("INV", year now, month now)

def numberOf (now : Time) (value : ℤ) : String := formatNumber "INV" (year now) (month now) value

/-- Up to the year 32767, the counters are those of `nextVal`. -/
theorem execStored_nextVal {now : Time} (hyear : -(2 ^ 15) ≤ year now ∧ year now < 2 ^ 15) (e : Env)
    (w : World) : execStored (.nextVal (counterOf now)) e w =
      Call.exec (.nextVal (counterOf now)) e w := by
  have hmonth : int16 (month now) = month now := int16_of_fits (by have := month_bounds now; omega)
  have hstored : Sequences.storedAs (counterOf now) = counterOf now := by
    rw [Sequences.storedAs, counterOf, int16_of_fits hyear, hmonth]
  simp only [execStored, Call.exec, Sequences.nextStored_eq hstored]

/-- The transaction fails and leaves no trace, or hands out a value. -/
theorem nextVal_cases (counter : String × ℤ × ℤ) (e : Env) (w : World) :
    (∃ err, execStored (.nextVal counter) e w = (.error err, w)) ∨
      ∃ value s', w.sequences.nextStored counter = (.ok value, s') ∧
        execStored (.nextVal counter) e w = (.ok value, { w with sequences := s' }) := by
  obtain h | ⟨err, h⟩ := orFault_cases e w ((w.sequences.nextStored counter).1,
    { w with sequences := (w.sequences.nextStored counter).2 })
  · cases hnext : w.sequences.nextStored counter with
    | mk r s' =>
      cases r with
      | error err =>
        refine .inl ⟨err, h.trans ?_⟩
        rw [hnext, Sequences.nextStored_error hnext]
      | ok value =>
        refine .inr ⟨value, s', rfl, h.trans ?_⟩
        rw [hnext]
  · exact .inl ⟨err, h⟩

theorem create_cases (inv : Invoice) (e : Env) (w : World) :
    (∃ err, execStored (.invoices (.create inv)) e w = (.error err, w)) ∨
      execStored (.invoices (.create inv)) e w =
        (.ok { inv with id := w.invoices.next }, { w with invoices := w.invoices.insert inv }) := by
  obtain h | ⟨err, h⟩ := orFault_cases e w
    (((InvoiceCall.create inv).exec e.now e.invoiceOrder w.invoices).1,
      { w with invoices := ((InvoiceCall.create inv).exec e.now e.invoiceOrder w.invoices).2 })
  · by_cases hdup : (w.invoices.find (Invoice.covers inv.subscriptionID inv.periodStart)).isSome
    · refine .inl ⟨.duplicateKey "idx_inv_sub_period", h.trans ?_⟩
      simp only [InvoiceCall.exec, if_pos hdup]
    · refine .inr (h.trans ?_)
      simp only [InvoiceCall.exec, if_neg hdup]
  · exact .inl ⟨err, h⟩

/-- How far an invoice has come: the time it is made at, the value that was handed out to it,
and the row it was stored in. -/
inductive Mark
  | before
  | dated (now : Time)
  | drew (now : Time) (value : ℤ)
  | filed (now : Time) (value : ℤ) (id : ℕ)
  | failed

/-- The time and the value of an invoice that has got its number. -/
def Mark.drawn : Mark → Option (Time × ℤ)
  | .drew now value | .filed now value _ => some (now, value)
  | .before | .dated _ | .failed => none

/-- The counter is asked once, for the month that it is, and its value is the invoice's. -/
def observer : Monitor Call Call.Reply Mark where
  allows
    | .before, .pppProfiles _ | .before, .hotspotProfiles _ | .before, .now => True
    | .dated now, .nextVal counter => counter = counterOf now
    | .drew _ _, .newPaymentCode => True
    | .drew now value, .invoices (.create inv) => inv.invoiceNumber = numberOf now value
    | _, _ => False
  next
    | .before, .now, now => .dated now
    | .dated now, .nextVal _, .ok value => .drew now value
    | .drew now value, .invoices (.create _), .ok inv => .filed now value inv.id
    | .dated _, .nextVal _, .error _ | .drew _ _, .invoices (.create _), .error _ => .failed
    | m, _, _ => m

theorem resolveProfileInfo_follows (sub : Subscription) :
    (resolveProfileInfo sub).Follows observer (fun m _ ↦ m = .before) .before := by
  unfold resolveProfileInfo
  cases sub.serviceType with
  | pppoe => cases sub.pppProfileID <;> simp [observer]
  | hotspot => cases sub.hotspotProfileID <;> simp [observer]

theorem generate_follows (sub : Subscription) (periodStart : Time) (dueDays : ℤ)
    (override : Option ℤ) :
    (generateForSubscriptionWithAmount sub periodStart dueDays override).Follows observer
      (fun _ _ ↦ True) .before := by
  refine (resolveProfileInfo_follows sub).bind fun m r hm ↦ ?_
  subst hm
  cases r with
  | error err => trivial
  | ok info =>
    refine ⟨trivial, fun now ↦ ⟨rfl, fun seq ↦ ?_⟩⟩
    cases seq with
    | error err => trivial
    | ok seq => exact ⟨trivial, fun code ↦ ⟨rfl, fun _ ↦ trivial⟩⟩

/-- What is asked of one call of the billing service. -/
structure Request where
  sub : Subscription
  periodStart : Time
  dueDays : ℤ
  override : Option ℤ

def Request.prog (q : Request) : Prog (Except Error Invoice) :=
  generateForSubscriptionWithAmount q.sub q.periodStart q.dueDays q.override

variable {ι : Type} [DecidableEq ι]

/-- Any number of invoices that are made at the same time, before the first call. -/
def requests (w : World) (qs : ι → Request) :
    Pool ι Call Call.Reply (Except Error Invoice) World Mark where
  state := w
  threads i := (qs i).prog
  marks _ := .before

/-- Every value that was handed out is spent, none was handed out twice, and each row stored
since the table's next key was `first` carries the number of the request that stored it. -/
structure Numbered (first : ℕ) (w : World) (m : ι → Mark) : Prop where
  spent : ∀ i now value, (m i).drawn = some (now, value) →
    w.sequences.Spent (counterOf now) value
  apart : ∀ i j now now' value value', i ≠ j → (m i).drawn = some (now, value) →
    (m j).drawn = some (now', value') → (counterOf now, value) ≠ (counterOf now', value')
  rows : ∀ inv ∈ w.invoices, first ≤ inv.id →
    ∃ i now value, m i = .filed now value inv.id ∧ inv.invoiceNumber = numberOf now value

namespace Numbered

variable {first : ℕ} {w w' : World} {m : ι → Mark} {i : ι}

/-- A request that goes on, or gives up, before it has stored its invoice. -/
theorem advance (h : Numbered first w m) (hs : w'.sequences = w.sequences)
    (hi : w'.invoices = w.invoices) {m' : Mark} (hdrawn : m'.drawn = none ∨ m'.drawn = (m i).drawn)
    (hfiled : ∀ now value id, m i ≠ .filed now value id) :
    Numbered first w' (Function.update m i m') := by
  have hall : ∀ j d, (Function.update m i m' j).drawn = some d → (m j).drawn = some d := by
    intro j d hd
    by_cases hj : j = i
    · subst hj
      rw [Function.update_self] at hd
      exact (hdrawn.resolve_left (by simp [hd])).symm.trans hd
    · rwa [Function.update_of_ne hj] at hd
  refine ⟨fun j now value hj ↦ ?_, fun j k now now' value value' hjk hj hk ↦ ?_,
    fun inv hinv hnew ↦ ?_⟩
  · rw [hs]
    exact h.spent j now value (hall j _ hj)
  · exact h.apart j k now now' value value' hjk (hall j _ hj) (hall k _ hk)
  · rw [hi] at hinv
    obtain ⟨j, now, value, hj, hnumber⟩ := h.rows inv hinv hnew
    have hji : j ≠ i := fun hji ↦ hfiled _ _ _ (hji ▸ hj)
    exact ⟨j, now, value, by rwa [Function.update_of_ne hji], hnumber⟩

/-- The counter hands out a value. -/
theorem draw (h : Numbered first w m) {now : Time} (hi : m i = .dated now) {value : ℤ}
    {s' : Sequences} (hnext : w.sequences.nextStored (counterOf now) = (.ok value, s')) :
    Numbered first { w with sequences := s' } (Function.update m i (.drew now value)) := by
  obtain ⟨hfresh, hspent, hmono⟩ := Sequences.nextStored_spends hnext
  -- A value that is new is none of those that were handed out.
  have hnew : ∀ j now' value', (m j).drawn = some (now', value') →
      (counterOf now', value') ≠ (counterOf now, value) := by
    intro j now' value' hj heq
    have hold := h.spent j now' value' hj
    rw [(Prod.mk.inj heq).1, (Prod.mk.inj heq).2] at hold
    exact hfresh hold
  refine ⟨fun j now' value' hj ↦ ?_, fun j k now₁ now₂ value₁ value₂ hjk hj hk ↦ ?_,
    fun inv hinv hid ↦ ?_⟩
  · by_cases hji : j = i
    · rw [hji, Function.update_self] at hj
      obtain ⟨rfl, rfl⟩ := Prod.mk.inj (Option.some.inj hj)
      exact hspent
    · rw [Function.update_of_ne hji] at hj
      exact hmono _ _ (h.spent j now' value' hj)
  · by_cases hji : j = i
    · have hki : k ≠ i := fun hki ↦ hjk (hji.trans hki.symm)
      rw [hji, Function.update_self] at hj
      rw [Function.update_of_ne hki] at hk
      obtain ⟨rfl, rfl⟩ := Prod.mk.inj (Option.some.inj hj)
      exact (hnew k now₂ value₂ hk).symm
    · rw [Function.update_of_ne hji] at hj
      by_cases hki : k = i
      · rw [hki, Function.update_self] at hk
        obtain ⟨rfl, rfl⟩ := Prod.mk.inj (Option.some.inj hk)
        exact hnew j now₁ value₁ hj
      · rw [Function.update_of_ne hki] at hk
        exact h.apart j k now₁ now₂ value₁ value₂ hjk hj hk
  · obtain ⟨j, now', value', hj, hnumber⟩ := h.rows inv hinv hid
    have hji : j ≠ i := fun hji ↦ by simp [hji, hi] at hj
    exact ⟨j, now', value', by rwa [Function.update_of_ne hji], hnumber⟩

/-- The invoice is stored under the number that was drawn for it. -/
theorem file (h : Numbered first w m) {now : Time} {value : ℤ} (hi : m i = .drew now value)
    {inv : Invoice} (hnumber : inv.invoiceNumber = numberOf now value) :
    Numbered first { w with invoices := w.invoices.insert inv }
      (Function.update m i (.filed now value w.invoices.next)) := by
  have hall : ∀ j, (Function.update m i (.filed now value w.invoices.next) j).drawn =
      (m j).drawn := by
    intro j
    by_cases hj : j = i
    · rw [hj, Function.update_self, hi]
      rfl
    · rw [Function.update_of_ne hj]
  refine ⟨fun j now' value' hj ↦ h.spent j now' value' (by rwa [hall] at hj),
    fun j k now₁ now₂ value₁ value₂ hjk hj hk ↦ ?_, fun q hq hnew ↦ ?_⟩
  · rw [hall] at hj hk
    exact h.apart j k now₁ now₂ value₁ value₂ hjk hj hk
  · obtain hold | rfl := Table.mem_insert.mp hq
    · obtain ⟨j, now', value', hj, hold⟩ := h.rows q hold hnew
      have hji : j ≠ i := fun hji ↦ by simp [hji, hi] at hj
      exact ⟨j, now', value', by rwa [Function.update_of_ne hji], hold⟩
    · exact ⟨i, now, value, by rw [Function.update_self]; rfl, hnumber⟩

theorem step (h : Numbered first w m) {c : Call} (ha : observer.allows (m i) c) (e : Env) :
    Numbered first (execStored c e w).2
      (Function.update m i (observer.next (m i) c (execStored c e w).1)) := by
  cases hi : m i with
  | before =>
    rw [hi] at ha
    have hread {c : Call} (hw : (c.exec e w).2 = w) {m' : Mark} (hm' : m'.drawn = none) :
        Numbered first (c.exec e w).2 (Function.update m i m') := by
      rw [hw]
      exact h.advance rfl rfl (.inl hm') (by simp [hi])
    cases c with
    | now => exact hread rfl rfl
    | pppProfiles id | hotspotProfiles id =>
      refine hread ?_ rfl
      exact orFault_keeps (P := (· = w)) rfl rfl
    | _ => exact ha.elim
  | dated now =>
    rw [hi] at ha
    cases c with
    | nextVal counter =>
      obtain rfl : counter = counterOf now := ha
      obtain ⟨err, he⟩ | ⟨value, s', hnext, he⟩ := nextVal_cases (counterOf now) e w
      · rw [he]
        exact h.advance rfl rfl (.inl rfl) (by simp [hi])
      · rw [he]
        exact h.draw hi hnext
    | _ => exact ha.elim
  | drew now value =>
    rw [hi] at ha
    cases c with
    | newPaymentCode =>
      exact h.advance rfl rfl (.inr (congrArg Mark.drawn hi.symm)) (by simp [hi])
    | invoices c =>
      cases c with
      | create inv =>
        obtain ⟨err, he⟩ | he := create_cases inv e w
        · rw [he]
          exact h.advance rfl rfl (.inl rfl) (by simp [hi])
        · rw [he]
          exact h.file hi ha
      | _ => exact ha.elim
    | _ => exact ha.elim
  | filed | failed =>
    rw [hi] at ha
    exact ha.elim

/-- Rows with one number are one row. -/
theorem distinct (h : Numbered first w m) :
    ((w.invoices.rows.filter (first ≤ ·.id)).map (·.invoiceNumber)).Nodup := by
  have hkeys : (w.invoices.rows.map (·.id)).Nodup :=
    List.pairwise_map.mpr (w.invoices.sorted.imp Nat.ne_of_lt)
  refine List.Nodup.map_on (fun inv hinv inv' hinv' hnumber ↦ ?_) (hkeys.of_map.filter _)
  rw [List.mem_filter, decide_eq_true_eq] at hinv hinv'
  obtain ⟨i, now, value, hi, hrow⟩ := h.rows inv hinv.1 hinv.2
  obtain ⟨j, now', value', hj, hrow'⟩ := h.rows inv' hinv'.1 hinv'.2
  rw [hrow, hrow'] at hnumber
  obtain ⟨hyear, hmonth, hvalue⟩ :=
    formatNumber_injective (month_bounds _).1 (month_bounds _).1 hnumber
  have hij : i = j := by
    by_contra hij
    refine h.apart i j now now' value value' hij (by rw [hi]; rfl) (by rw [hj]; rfl) ?_
    rw [counterOf, counterOf, hyear, hmonth, hvalue]
  rw [hij, hj] at hi
  exact Table.eq_of_key hinv.1 hinv'.1 (Mark.filed.inj hi).2.2.symm

end Numbered

theorem requests_numbered (w : World) (qs : ι → Request) (schedule : List (ι × Env)) :
    ((requests w qs).run execStored observer schedule).Sound observer (fun _ _ _ ↦ True)
      (Numbered w.invoices.next) := by
  refine Pool.Sound.run_all (fun s m i c e h ha ↦ h.step ha e) ?_ schedule
  refine ⟨⟨fun i now value hi ↦ ?_, fun i j now now' value value' _ hi ↦ ?_,
    fun inv hinv hnew ↦ ?_⟩, fun i ↦ generate_follows _ _ _ _⟩
  · cases hi
  · cases hi
  · exact absurd (w.invoices.fresh inv hinv) (not_lt.mpr hnew)

/-- Whatever is in the tables before, and however the calls of the requests interleave, fail and
conflict, the invoices that are created have distinct numbers. -/
theorem invoice_numbers_distinct (w : World) (qs : ι → Request) (schedule : List (ι × Env)) :
    ((((requests w qs).run execStored observer schedule).state.invoices.rows.filter
      (w.invoices.next ≤ ·.id)).map (·.invoiceNumber)).Nodup :=
  (requests_numbered w qs schedule).inv.distinct

end Numbers

end Rosmon.Billing
