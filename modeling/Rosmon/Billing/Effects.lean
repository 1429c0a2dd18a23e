import Rosmon.Job.BillingCron
import Rosmon.Sync.Quiet

namespace Rosmon

open Go Library Store Program Service Job

/-- The profile that a subscription pays for. -/
def World.profileOf (w : World) (sub : Subscription) : Option Profile :=
  match sub.serviceType with
  | .pppoe => sub.pppProfileID.bind fun id ↦
    w.pppProfiles.find fun r ↦ r.deletedAt = none && r.id == id
  | .hotspot => sub.hotspotProfileID.bind fun id ↦
    w.hotspotProfiles.find fun r ↦ r.deletedAt = none && r.id == id

/-- The billing day of a subscription, its own or the one of the settings. -/
def World.billingDay (w : World) (sub : Subscription) : ℤ :=
  sub.billingDay.getD (w.settingInt "billing.default_billing_day" 1)

/-- The periods of the invoices of a subscription that have a key from `first` on. -/
def World.periodsOf (w : World) (first id : ℕ) : List (Time × Time) :=
  (w.invoices.rows.filter fun inv ↦ first ≤ inv.id && inv.subscriptionID == id).map
    fun inv ↦ (inv.periodStart, inv.periodEnd)

/-- The period of an invoice. -/
def period (start : Time) : Time × Time := (start, addDate start 0 1 (-1))

/-- There is a price, and no invoice for the period so far. -/
def World.Chargeable (w : World) (sub : Subscription) (start : Time) : Prop :=
  (w.profileOf sub).isSome ∧ ∀ p ∈ w.periodsOf 0 sub.id, p.1 ≠ start

instance (w : World) (sub : Subscription) (start : Time) : Decidable (w.Chargeable sub start) :=
  inferInstanceAs (Decidable (_ ∧ _))

/-- The cron charges the subscription on this day. -/
def World.Due (w : World) (today : Time) (sub : Subscription) : Prop :=
  sub.nextInvoiceDate.map Time.truncateDay = some today ∧ w.Chargeable sub today

instance (w : World) (today : Time) (sub : Subscription) : Decidable (w.Due today sub) :=
  inferInstanceAs (Decidable (_ ∧ _))

/-- A row after the cron. -/
def World.charged (w : World) (today : Time) (sub : Subscription) : Subscription :=
  if w.Due today sub then
    { sub with nextInvoiceDate := sub.nextInvoiceDate.map (nextInvoiceDate · (w.billingDay sub)) }
  else sub

/-- Each subscription in `P` has a new invoice for the month from `today` on. -/
structure Charged (P : ℕ → Prop) (today : Time) (w w' : World) : Prop where
  next : w.invoices.next ≤ w'.invoices.next
  billed : ∀ n, P n → ∀ first ≤ w.invoices.next,
    w'.periodsOf first n = w.periodsOf first n ++ [period today]
  unbilled : ∀ n, ¬P n → ∀ first ≤ w.invoices.next, w'.periodsOf first n = w.periodsOf first n

section Periods

variable {w : World} {sub : Subscription} {start : Time}

theorem find_covers_eq_none : w.invoices.find (Invoice.covers sub.id start) = none ↔
    ∀ p ∈ w.periodsOf 0 sub.id, p.1 ≠ start := by
  rw [Table.find_eq_none]
  constructor
  · intro h p hp
    obtain ⟨inv, hinv, rfl⟩ := List.mem_map.mp hp
    obtain ⟨hmem, hid⟩ := List.mem_filter.mp hinv
    have hid' : inv.subscriptionID = sub.id := by simpa using hid
    have hcovers := h inv hmem
    simpa [Invoice.covers, hid'] using hcovers
  · intro h inv hmem
    by_cases hid : inv.subscriptionID = sub.id
    · have hin : (inv.periodStart, inv.periodEnd) ∈ w.periodsOf 0 sub.id :=
        List.mem_map.mpr ⟨inv, List.mem_filter.mpr ⟨hmem, by simp [hid]⟩, rfl⟩
      simpa [Invoice.covers, hid] using h _ hin
    · simp [Invoice.covers, hid]

theorem chargeable_congr {w' : World} (h : SameTerms w w')
    (hperiods : w'.periodsOf 0 sub.id = w.periodsOf 0 sub.id) :
    w'.Chargeable sub start ↔ w.Chargeable sub start := by
  simp only [World.Chargeable, World.profileOf, h.pppProfiles, h.hotspotProfiles, hperiods]

theorem billingDay_congr {w' : World} (h : SameTerms w w') : w'.billingDay sub = w.billingDay sub := by
  simp only [World.billingDay, World.settingInt, h.settings]

end Periods

section Generate

variable {α : Type} {ok : Env → Prop} {Q : α → World → Prop} {w : World} {sub : Subscription}

theorem wp_resolveProfileInfo {k : Except Error (String × ℤ) → Prog α}
    (hnone : w.profileOf sub = none → ∀ err, (k (.error err)).wp execCommands ok Q w)
    (hsome : (w.profileOf sub).isSome → ∀ name price, (k (.ok (name, price))).wp execCommands ok Q w) :
    (resolveProfileInfo sub >>= k).wp execCommands ok Q w := by
  unfold resolveProfileInfo
  unfold World.profileOf at hnone hsome
  cases hs : sub.serviceType with
  | pppoe =>
    cases hp : sub.pppProfileID with
    | none => exact hnone (by simp [hs, hp]) _
    | some id =>
      intro e _
      simp only [hs, hp, Option.bind_some] at hnone hsome
      simp only [execCommands, Call.isCommand, Call.exec, orFault]
      cases hfind : w.pppProfiles.find fun r ↦ r.deletedAt = none && r.id == id with
      | none => exact hnone hfind _
      | some p => exact hsome (by rw [hfind]; rfl) _ _
  | hotspot =>
    cases hp : sub.hotspotProfileID with
    | none => exact hnone (by simp [hs, hp]) _
    | some id =>
      intro e _
      simp only [hs, hp, Option.bind_some] at hnone hsome
      simp only [execCommands, Call.isCommand, Call.exec, orFault]
      cases hfind : w.hotspotProfiles.find fun r ↦ r.deletedAt = none && r.id == id with
      | none => exact hnone hfind _
      | some p => exact hsome (by rw [hfind]; rfl) _ _

theorem wp_nextVal {counter : String × ℤ × ℤ} {k : Except Error ℤ → Prog α}
    (h : ∀ n sq, (k (.ok n)).wp execCommands ok Q { w with sequences := sq }) :
    (Program.call (.nextVal counter) k).wp execCommands ok Q w := fun _ _ ↦ h _ _

theorem wp_newPaymentCode {k : String → Prog α} (h : ∀ code, (k code).wp execCommands ok Q w) :
    (Program.call .newPaymentCode k).wp execCommands ok Q w := fun _ _ ↦ h _

/-- `InvoiceStore.Create`, of which the unique index refuses a second one for a period. -/
theorem wp_createInvoice {inv : Invoice} {k : Except Error Invoice → Prog α}
    (hrefused : (w.invoices.find (Invoice.covers inv.subscriptionID inv.periodStart)).isSome →
      ∀ err, (k (.error err)).wp execCommands ok Q w)
    (hdone : w.invoices.find (Invoice.covers inv.subscriptionID inv.periodStart) = none →
      (k (.ok { inv with id := w.invoices.next })).wp execCommands ok Q
        { w with invoices := w.invoices.insert inv }) :
    (createInvoice inv >>= k).wp execCommands ok Q w := by
  refine wp_invoices fun e _ ↦ ?_
  cases hfind : w.invoices.find (Invoice.covers inv.subscriptionID inv.periodStart) with
  | some other =>
    simp only [InvoiceCall.exec, hfind, Option.isSome_some, if_true]
    exact hrefused (by rw [hfind]; rfl) _
  | none =>
    simp only [InvoiceCall.exec, hfind, Option.isSome_none, Bool.false_eq_true, if_false]
    exact hdone hfind

/-- An invoice is generated just if the subscription can be charged. -/
theorem wp_generate {start : Time} {dueDays : ℤ} {k : Except Error Invoice → Prog α}
    (hfail : ¬w.Chargeable sub start → ∀ err sq,
      (k (.error err)).wp execCommands ok Q { w with sequences := sq })
    (hdone : w.Chargeable sub start → ∀ inv sq, inv.subscriptionID = sub.id →
      (inv.periodStart, inv.periodEnd) = period start →
      (k (.ok { inv with id := w.invoices.next })).wp execCommands ok Q
        { w with sequences := sq, invoices := w.invoices.insert inv }) :
    (generateForSubscription sub start dueDays >>= k).wp execCommands ok Q w := by
  simp only [generateForSubscription, generateForSubscriptionWithAmount, bind_assoc]
  refine wp_resolveProfileInfo (fun hnone err ↦ ?_) fun hsome name price ↦ ?_
  · refine hfail (fun h ↦ ?_) _ w.sequences
    have hprofile := h.1
    simp [hnone] at hprofile
  · refine wp_clock fun e _ ↦ wp_nextVal fun n sq ↦ wp_newPaymentCode fun code ↦ ?_
    refine wp_createInvoice (fun hcovered err ↦ hfail (fun h ↦ ?_) err sq)
      fun hnone ↦ hdone ⟨hsome, find_covers_eq_none.mp hnone⟩ _ sq rfl rfl
    have hnone : w.invoices.find (Invoice.covers sub.id start) = none :=
      find_covers_eq_none.mpr h.2
    simp only [newInvoice, hnone, Option.isSome_none, Bool.false_eq_true] at hcovered

end Generate

namespace Charged

variable {P P' : ℕ → Prop} {today : Time} {u v w : World}

theorem of_invoices (h : v.invoices = u.invoices) : Charged (fun _ ↦ False) today u v := by
  refine ⟨?_, fun _ h ↦ h.elim, fun n _ first _ ↦ ?_⟩
  · rw [h]
  · simp only [World.periodsOf, h]

theorem of_insert {inv : Invoice} (hv : v.invoices = u.invoices.insert inv)
    (hperiod : (inv.periodStart, inv.periodEnd) = period today) :
    Charged (fun n ↦ n = inv.subscriptionID) today u v := by
  refine ⟨?_, fun n hn first hfirst ↦ ?_, fun n hn first hfirst ↦ ?_⟩
  · rw [hv]
    exact Nat.le_succ _
  · simp only [World.periodsOf, hv, Table.insert, List.filter_append, List.map_append]
    simp [Row.withKey, hfirst, hn, hperiod]
  · simp only [World.periodsOf, hv, Table.insert, List.filter_append, List.map_append]
    simp [Row.withKey, Ne.symm hn]

theorem congr (h : Charged P today u v) (hP : ∀ n, P n ↔ P' n) : Charged P' today u v :=
  ⟨h.next, fun n hn ↦ h.billed n ((hP n).mpr hn), fun n hn ↦ h.unbilled n fun h ↦ hn ((hP n).mp h)⟩

theorem trans (h : Charged P today u v) (h' : Charged P' today v w)
    (hapart : ∀ n, P n → ¬P' n) : Charged (fun n ↦ P n ∨ P' n) today u w := by
  refine ⟨h.next.trans h'.next, fun n hn first hfirst ↦ ?_, fun n hn first hfirst ↦ ?_⟩
  · have hfirst' := hfirst.trans h.next
    rcases hn with hn | hn
    · rw [h'.unbilled n (hapart n hn) first hfirst', h.billed n hn first hfirst]
    · rw [h'.billed n hn first hfirst', h.unbilled n (fun hp ↦ hapart n hp hn) first hfirst]
  · rw [h'.unbilled n (fun hp ↦ hn (.inr hp)) first (hfirst.trans h.next),
      h.unbilled n (fun hp ↦ hn (.inl hp)) first hfirst]

end Charged

section Cron

variable {ok : Env → Prop} {w : World} {today : Time}

theorem wp_updateNextInvoiceDate {α : Type} {Q : α → World → Prop} {id : ℕ} {next : Time}
    {sub : Subscription} (hrow : w.row id = some sub) {k : Except Error Unit → Prog α}
    (h : ∀ w', Writes id (sub.setNextInvoiceDate next) w w' →
      (k (.ok ())).wp execCommands ok Q w') :
    (Program.call (.subscriptions (.updateNextInvoiceDate id next)) k).wp execCommands ok Q w := by
  refine wp_subscriptions fun e he ↦ ?_
  have hfind : w.subscriptions.find (Subscription.liveAt id) = some sub := hrow
  simp only [SubscriptionCall.exec, updated, hfind, Option.isSome_some, if_true]
  exact h _ (.of_update hrow fun _ ↦ rfl)

/-- What `bill` makes of a row of the list. -/
def Bills (today : Time) (sub : Subscription) (w w' : World) : Prop :=
  RowsBecome (only sub.id (w.charged today)) w w' ∧
    Charged (fun n ↦ n = sub.id ∧ w.Due today sub) today w w'

theorem bills_of_not_due {sub : Subscription} (hrow : w.row sub.id = some sub)
    (hdue : ¬w.Due today sub) (sq : Sequences) : Bills today sub w { w with sequences := sq } := by
  have hrows : RowsBecome (fun _ s ↦ s) w { w with sequences := sq } :=
    .of_subscriptions rfl ⟨rfl, rfl, rfl, rfl⟩ rfl
  have hinvoices : Charged (fun _ ↦ False) today w { w with sequences := sq } := .of_invoices rfl
  refine ⟨hrows.congr fun n s hs ↦ ?_, hinvoices.congr fun n ↦ by simp [hdue]⟩
  by_cases hn : n = sub.id
  · subst hn
    rw [hrow] at hs
    obtain rfl := Option.some.inj hs
    simp only [only, World.charged, hdue, if_true, if_false]
  · simp only [only, hn, if_false]

/-- The invoice is there, the date has been advanced, and all the rest is news. -/
theorem bills_of_due {sub : Subscription} (hrow : w.row sub.id = some sub)
    (hdue : w.Due today sub) {due : Time} (hnext : sub.nextInvoiceDate = some due) {inv : Invoice}
    (hid : inv.subscriptionID = sub.id) (hperiod : (inv.periodStart, inv.periodEnd) = period today)
    {sq : Sequences} {w' : World}
    (h : Writes sub.id (sub.setNextInvoiceDate (nextInvoiceDate due (w.billingDay sub)))
      { w with sequences := sq, invoices := w.invoices.insert inv } w') : Bills today sub w w' := by
  have hcharged : w.charged today sub =
      sub.setNextInvoiceDate (nextInvoiceDate due (w.billingDay sub)) := by
    simp [World.charged, hdue, hnext, Subscription.setNextInvoiceDate]
  have hrows : RowsBecome (fun _ s ↦ s) w
      { w with sequences := sq, invoices := w.invoices.insert inv } :=
    .of_subscriptions rfl ⟨rfl, rfl, rfl, rfl⟩ rfl
  have hinvoices : w'.invoices = w.invoices.insert inv := by
    rw [h.rest]
  rw [← hcharged] at h
  refine ⟨hrows.trans (.of_writes hrow h), (Charged.of_insert hinvoices hperiod).congr fun n ↦ ?_⟩
  simp [hid, hdue]

theorem advance_bills {sub : Subscription} (hrow : w.row sub.id = some sub)
    (hdue : w.Due today sub) {due : Time} (hnext : sub.nextInvoiceDate = some due)
    {billingDay : ℤ} (hday : w.billingDay sub = billingDay) {inv : Invoice}
    (hid : inv.subscriptionID = sub.id) (hperiod : (inv.periodStart, inv.periodEnd) = period today)
    (sq : Sequences) (vars : List (String × String)) :
    (Program.call (.subscriptions (.updateNextInvoiceDate sub.id (nextInvoiceDate due billingDay)))
      fun _ ↦ notifyCustomer sub.customerID "invoice_issued" vars).wp execCommands ok
      (fun _ w' ↦ Bills today sub w w')
      { w with sequences := sq, invoices := w.invoices.insert inv } := by
  have hrow' : ({ w with sequences := sq, invoices := w.invoices.insert inv } : World).row sub.id =
    some sub := hrow
  refine wp_updateNextInvoiceDate hrow' fun u hu ↦ ?_
  refine wp_mono (wp_reminds ((notifyCustomer_informs _ _ _).mono fun _ ↦ reminds_of_informs)) ?_
  intro _ w' h
  obtain ⟨sent, rfl⟩ := h
  rw [← hday] at hu
  exact bills_of_due hrow hdue hnext hid hperiod (hu.logged ⟨sent, u.auditLogs, rfl⟩)

/-- One subscription of the list. -/
theorem bill_bills {sub : Subscription} (hrow : w.row sub.id = some sub) (dueDays : ℤ) :
    (bill today dueDays sub).wp execCommands ok (fun _ w' ↦ Bills today sub w w') w := by
  unfold bill
  cases hnext : sub.nextInvoiceDate with
  | none =>
    have hdue : ¬w.Due today sub := by
      intro h
      have hdate := h.1
      simp [hnext] at hdate
    exact bills_of_not_due hrow hdue w.sequences
  | some due =>
    dsimp only
    by_cases hday : Time.truncateDay due = today
    swap
    · simp only [hday, ne_eq, not_false_eq_true, if_true]
      exact bills_of_not_due hrow (fun h ↦ hday (by simpa [hnext] using h.1)) w.sequences
    simp only [hday, ne_eq, not_true_eq_false, if_false]
    refine wp_generate (fun hrefused err sq ↦ bills_of_not_due hrow (fun h ↦ hrefused h.2) sq) ?_
    intro hchargeable inv sq hid hperiod
    have hdue : w.Due today sub := ⟨by simp [hnext, hday], hchargeable⟩
    cases hbillingDay : sub.billingDay with
    | some billingDay =>
      have hday : w.billingDay sub = billingDay := by simp [World.billingDay, hbillingDay]
      exact advance_bills hrow hdue hnext hday hid hperiod sq _
    | none =>
      have hday : w.billingDay sub = w.settingInt "billing.default_billing_day" 1 := by
        simp [World.billingDay, hbillingDay]
      exact wp_settingInt (advance_bills hrow hdue hnext hday hid hperiod sq _)

theorem due_congr {u : World} {sub : Subscription} (h : SameTerms w u)
    (hperiods : u.periodsOf 0 sub.id = w.periodsOf 0 sub.id) : u.Due today sub ↔ w.Due today sub := by
  rw [World.Due, World.Due, chargeable_congr h hperiods]

theorem charged_congr {u : World} {sub : Subscription} (h : SameTerms w u)
    (hperiods : u.periodsOf 0 sub.id = w.periodsOf 0 sub.id) :
    u.charged today sub = w.charged today sub := by
  simp only [World.charged, due_congr h hperiods, billingDay_congr h]

/-- The loop, by induction on the list. -/
theorem billingLoop_charged (hstops : ¬Stops ok) (dueDays : ℤ) (subs : List Subscription)
    (hids : subs.Pairwise fun a b ↦ a.id ≠ b.id) (hrows : ∀ sub ∈ subs, w.row sub.id = some sub) :
    (billingLoop today dueDays subs).wp execCommands ok (fun _ w' ↦
      RowsBecome (fun n s ↦ if n ∈ subs.map (·.id) then w.charged today s else s) w w' ∧
        Charged (fun n ↦ ∃ s ∈ subs, s.id = n ∧ w.Due today s) today w w') w := by
  induction subs generalizing w with
  | nil =>
    have hrows : RowsBecome (fun _ s ↦ s) w w := .of_subscriptions rfl (.refl w) rfl
    have hinvoices : Charged (fun _ ↦ False) today w w := .of_invoices rfl
    exact ⟨hrows.congr fun n s _ ↦ by simp, hinvoices.congr fun n ↦ by simp⟩
  | cons sub subs ih =>
    obtain ⟨hapart, hids⟩ := List.pairwise_cons.mp hids
    simp only [billingLoop, perform_bind]
    intro e he
    have hstop : e.stopping = false := by
      by_contra hstop
      exact hstops ⟨e, he, by simpa using hstop⟩
    simp only [execCommands, Call.isCommand, Call.exec, hstop]
    refine (wp_bind _ _ _).mpr (wp_mono (bill_bills (hrows sub (by simp)) dueDays) fun _ u hu ↦ ?_)
    obtain ⟨hurows, hucharged⟩ := hu
    have hrest : ∀ s ∈ subs, u.row s.id = some s := by
      intro s hs
      rw [hurows.rows, hrows s (List.mem_cons_of_mem _ hs), Option.map_some, only,
        if_neg (hapart s hs).symm]
    have hperiods : ∀ n, n ≠ sub.id → u.periodsOf 0 n = w.periodsOf 0 n :=
      fun n hn ↦ hucharged.unbilled n (fun h ↦ hn h.1) 0 (Nat.zero_le _)
    refine wp_mono (ih hids hrest) fun _ w' hw' ↦ ?_
    obtain ⟨hwrows, hwcharged⟩ := hw'
    constructor
    · refine (hurows.trans hwrows).congr fun n s hs ↦ ?_
      obtain ⟨-, -, rfl⟩ := row_iff.mp hs
      simp only [List.map_cons, List.mem_cons, only]
      by_cases hn : s.id = sub.id
      · have hnot : s.id ∉ subs.map (·.id) := by
          intro hmem
          obtain ⟨t, ht, hid⟩ := List.mem_map.mp hmem
          exact hapart t ht (hid.trans hn).symm
        simp only [hn, true_or, if_true]
        rw [if_neg (hn ▸ hnot)]
      · simp only [hn, false_or, if_false, charged_congr hurows.terms (hperiods s.id hn)]
    · refine (hucharged.trans hwcharged fun n hn h ↦ ?_).congr fun n ↦ ?_
      · obtain ⟨t, ht, hid, -⟩ := h
        exact hapart t ht (hn.1.symm.trans hid.symm)
      · simp only [List.mem_cons, exists_eq_or_imp, eq_comm (a := n)]
        refine or_congr_right (exists_congr fun t ↦ and_congr_right fun ht ↦ and_congr_right fun _ ↦ ?_)
        exact due_congr hurows.terms (hperiods t.id (hapart t ht).symm)

/-- `BillingCronJob.Run`, from the moment it has read the clock. -/
theorem billingRun_wp (hstops : ¬Stops ok) (w : World) : ∃ k, billingRun = .call .now k ∧
    ∀ now, (k now).wp execCommands ok (fun _ w' ↦
      RowsBecome (fun _ s ↦ if s.status = .active then w.charged (Time.truncateDay now) s else s)
        w w' ∧
      Charged (fun n ↦ ∃ s ∈ w.row n, s.status = .active ∧ w.Due (Time.truncateDay now) s)
        (Time.truncateDay now) w w') w := by
  refine ⟨_, rfl, fun now ↦ wp_settingInt ?_⟩
  simp only [perform_bind]
  refine wp_subscriptions fun e _ ↦ ?_
  have hmem : ∀ s, s ∈ e.subscriptionOrder.order
      (w.subscriptions.rows.filter fun s ↦ s.live && s.status = .active) ↔
        s ∈ w.subscriptions ∧ s.live ∧ s.status = .active := by
    intro s
    rw [e.subscriptionOrder.mem_order, List.mem_filter, Table.mem_iff]
    simp
  have hids : (e.subscriptionOrder.order (w.subscriptions.rows.filter fun s ↦
      s.live && s.status = .active)).Pairwise fun a b ↦ a.id ≠ b.id := by
    refine ((e.subscriptionOrder.perm _).pairwise_iff fun h ↦ h.symm).mpr ?_
    exact (w.subscriptions.sorted.sublist List.filter_sublist).imp fun h ↦ Nat.ne_of_lt h
  have hlisted : ∀ n s, s ∈ w.row n → (n ∈ (e.subscriptionOrder.order
      (w.subscriptions.rows.filter fun s ↦ s.live && s.status = .active)).map (·.id) ↔
        s.status = .active) := by
    intro n s hs
    obtain ⟨hin, hlive, rfl⟩ := row_iff.mp hs
    rw [List.mem_map]
    constructor
    · intro h
      obtain ⟨t, ht, hid⟩ := h
      obtain ⟨htin, -, htactive⟩ := (hmem t).mp ht
      rwa [← Table.eq_of_key htin hin hid]
    · intro hactive
      exact ⟨s, (hmem s).mpr ⟨hin, hlive, hactive⟩, rfl⟩
  refine wp_mono (billingLoop_charged (w := w) hstops _ _ hids fun s hs ↦ ?_) fun _ w' hw' ↦ ?_
  · exact row_of_mem ((hmem s).mp hs).1 ((hmem s).mp hs).2.1
  · refine ⟨hw'.1.congr fun n s hs ↦ ?_, hw'.2.congr fun n ↦ ?_⟩
    · simp only [hlisted n s hs]
    · constructor
      · intro h
        obtain ⟨s, hs, rfl, hdue⟩ := h
        obtain ⟨hin, hlive, hactive⟩ := (hmem s).mp hs
        exact ⟨s, row_of_mem hin hlive, hactive, hdue⟩
      · intro h
        obtain ⟨s, hs, hactive, hdue⟩ := h
        obtain ⟨hin, hlive, rfl⟩ := row_iff.mp hs
        exact ⟨s, (hmem s).mpr ⟨hin, hlive, hactive⟩, rfl, hdue⟩

end Cron

section Runs

variable {w : World} {env : ℕ → Env}

/-- The cron goes by the day on which it starts. -/
theorem billingRun_run (henv : ∀ n, (env n).Quiet) :
    RowsBecome (fun _ s ↦ if s.status = .active then
      w.charged (Time.truncateDay (env 0).now) s else s) w (billingRun.run Call.exec env w).2 ∧
    Charged (fun n ↦ ∃ s ∈ w.row n, s.status = .active ∧ w.Due (Time.truncateDay (env 0).now) s)
      (Time.truncateDay (env 0).now) w (billingRun.run Call.exec env w).2 := by
  obtain ⟨k, hk, hwp⟩ := billingRun_wp quiet_not_stops w
  have hrun := run_of_quiet (hwp (env 0).now) fun n ↦ henv (n + 1)
  rw [hk]
  exact hrun

end Runs

end Rosmon
