import Rosmon.Billing.Effects
import Rosmon.Billing.Months
import Rosmon.Handler.Registrations
import Rosmon.Sync.Updates

namespace Rosmon.Billing

open Go Library Store Program Service Job Handler Sync

/-- What an installation leaves behind, once the first invoice has been made: an active
subscription, billed for the month that starts with its first day. -/
structure Installed (w : World) (sub : Subscription) (today : Time) (w' : World) : Prop where
  whole : Time.truncateDay today = today
  date : sub.nextInvoiceDate = some today
  active : sub.status = .active
  next : w.invoices.next ≤ w'.invoices.next
  row : w'.row sub.id =
    some (sub.setNextInvoiceDate (nextInvoiceDate today (w.billingDay sub)))
  periods : w'.periodsOf w.invoices.next sub.id = [period today]

section Inert

variable {α : Type} {ok : Env → Prop} {Q : α → World → Prop} {w : World}

/-- Neither invoices nor subscriptions have changed. -/
structure SameRows (w w' : World) : Prop where
  invoices : w'.invoices = w.invoices
  subscriptions : w'.subscriptions = w.subscriptions
  terms : SameTerms w w'

theorem SameRows.trans {u v w : World} (h : SameRows u v) (h' : SameRows v w) : SameRows u w :=
  ⟨h'.invoices.trans h.invoices, h'.subscriptions.trans h.subscriptions, h.terms.trans h'.terms⟩

theorem execCommands_sameRows {c : Call} (hc : c.inert) (e : Env) (w : World) :
    SameRows w (execCommands c e w).2 := by
  obtain ⟨-, hinvoices, hsubscriptions⟩ := Call.exec_inert hc (if c.isCommand then e else
    { e with fault := none }) w
  exact ⟨hinvoices, hsubscriptions, Call.exec_sameTerms c _ w⟩

theorem wp_inert_call {c : Call} (hc : c.inert) {k : c.Reply → Prog α}
    (h : ∀ r u, SameRows w u → (k r).wp execCommands ok Q u) :
    (Program.call c k).wp execCommands ok Q w := fun e _ ↦ h _ _ (execCommands_sameRows hc e w)

theorem wp_inert {p : Prog α} (hp : p.Only Call.inert) :
    p.wp execCommands ok (fun _ u ↦ SameRows w u) w := by
  have hrefl : SameRows w w := ⟨rfl, rfl, .refl w⟩
  exact hp.wp (fun c e u hc _ hu ↦ hu.trans (execCommands_sameRows hc e u)) hrefl

theorem wp_handlerSettingInt {key : String} {dflt : ℤ} {k : ℤ → Prog α}
    (h : (k (w.settingInt key dflt)).wp execCommands ok Q w) :
    (Service.settingInt key dflt >>= k).wp execCommands ok Q w := by
  intro e _
  unfold World.settingInt at h
  have hempty : Go.atoi "" = none := by decide
  simp only [execCommands, Call.isCommand, Call.exec, orFault]
  cases hv : w.settings.lookup key with
  | none =>
    rw [hv] at h
    exact h
  | some v =>
    rw [hv] at h
    have hvalue : (if (if v = "" then "" else v) = "" then dflt
        else (Go.atoi (if v = "" then "" else v)).getD dflt) = (Go.atoi v).getD dflt := by
      by_cases hv' : v = ""
      · simp [hv', hempty]
      · simp [hv']
    simp only [← hvalue] at h
    exact h

end Inert

section Create

variable {t t' : Table Subscription} {sub sub' : Subscription}

/-- No other live row has the login of this one. -/
def Alone (t : Table Subscription) (sub : Subscription) : Prop :=
  (t.find fun r ↦ r.live && r.sameLogin sub && r.id != sub.id) = none

theorem alone_iff : Alone t sub ↔
    ∀ r ∈ t, r.live → r.login = sub.login → r.id = sub.id := by
  unfold Alone
  rw [Table.find_eq_none]
  refine forall₂_congr fun r _ ↦ ?_
  rw [← sameLogin_iff]
  cases r.live <;> cases r.sameLogin sub <;> simp

/-- Both a new row and the row of a deleted subscription that is used again. -/
theorem create_spec (hlive : sub.deletedAt = none) (now : Time)
    (arrange : Arrangement Subscription)
    (h : (SubscriptionCall.create sub).exec now arrange t = (.ok sub', t')) :
    sub' = { sub with id := sub'.id } ∧ sub' ∈ t' ∧ Alone t' sub' := by
  simp only [SubscriptionCall.exec] at h
  cases hfind : t.find (Subscription.sameLogin sub) with
  | none =>
    simp only [hfind, Prod.mk.injEq, Except.ok.injEq] at h
    obtain ⟨rfl, rfl⟩ := h
    refine ⟨rfl, Table.mem_insert.mpr (.inr rfl), alone_iff.mpr fun r hr _ hlogin ↦ ?_⟩
    rcases Table.mem_insert.mp hr with hr | rfl
    · have hother := Table.find_eq_none.mp hfind r hr
      have hsame := sameLogin_iff.mpr hlogin.symm
      exact absurd hsame (by simpa [Subscription.sameLogin] using hother)
    · rfl
  | some existing =>
    simp only [hfind] at h
    split_ifs at h with hused
    · cases h
    · unfold saveSubscription at h
      split_ifs at h with hfree
      · cases h
      · simp only [Except.map, Prod.mk.injEq, Except.ok.injEq] at h
        obtain ⟨rfl, rfl⟩ := h
        have hmem := Table.mem_of_find hfind
        have halone : Alone t { sub with id := existing.id, deletedAt := none } := by
          simpa [Alone] using hfree
        refine ⟨by rw [← hlive], ?_, ?_⟩
        · exact (Table.mem_update_row hmem fun _ ↦ rfl).mpr (.inl rfl)
        · rw [alone_iff] at halone ⊢
          intro r hr hrlive hlogin
          rcases (Table.mem_update_row hmem fun _ ↦ rfl).mp hr with rfl | hr
          · rfl
          · exact halone r hr.1 hrlive hlogin

end Create

section Install

variable {ok : Env → Prop} {w : World} {sub sub' : Subscription}

theorem wp_saveAlone {α : Type} {Q : α → World → Prop} (halone : Alone w.subscriptions sub)
    (hid : sub'.id = sub.id) (hlogin : sub'.login = sub.login) {k : Except Error Unit → Prog α}
    (h : (k (.ok ())).wp execCommands ok Q (saved w sub')) :
    (Program.call (.subscriptions (.update sub')) k).wp execCommands ok Q w := by
  refine wp_subscriptions fun e _ ↦ ?_
  have halone' : Alone w.subscriptions sub' := by
    rw [alone_iff] at halone ⊢
    rwa [hid, hlogin]
  unfold Alone at halone'
  simp only [SubscriptionCall.exec, saveSubscription, halone', Option.isSome_none,
    Bool.false_eq_true, if_false]
  exact h

/-- No invoice has a key that is still to be given. -/
theorem periodsOf_next (w : World) (id : ℕ) : w.periodsOf w.invoices.next id = [] := by
  have hnone : (w.invoices.rows.filter fun inv ↦
      w.invoices.next ≤ inv.id && inv.subscriptionID == id) = [] := by
    refine List.filter_eq_nil_iff.mpr fun inv hinv ↦ ?_
    have hfresh : inv.id < w.invoices.next := w.invoices.fresh inv hinv
    simp [Nat.not_le.mpr hfresh]
  rw [World.periodsOf, hnone, List.map_nil]

/-- The date that is saved with the subscription, once its first invoice is there. -/
def FirstBilled (w : World) (sub : Subscription) (today : Time) (body : CompleteInstallResponse)
    (u : World) : Prop :=
  body.subscription = sub ∧ (body.invoice.isSome →
    w.invoices.next ≤ u.invoices.next ∧ u.row sub.id = some (sub.setNextInvoiceDate (nextInvoiceDate today (w.billingDay sub))) ∧
      u.periodsOf w.invoices.next sub.id = [period today])

theorem save_billed {today next : Time} {inv : Invoice} {sq : Sequences}
    (hrow : w.row sub.id = some sub) (halone : Alone w.subscriptions sub)
    (hid : inv.subscriptionID = sub.id)
    (hperiod : (inv.periodStart, inv.periodEnd) = period today)
    (hnext : nextInvoiceDate today (w.billingDay sub) = next)
    (hsub' : sub' = sub.setNextInvoiceDate next) :
    (Program.call (.subscriptions (.update sub')) fun _ ↦
      .ret ⟨sub, some { inv with id := w.invoices.next }⟩).wp execCommands ok
      (FirstBilled w sub today) { w with sequences := sq, invoices := w.invoices.insert inv } := by
  obtain ⟨u, hu⟩ : ∃ u : World, u = { w with sequences := sq, invoices := w.invoices.insert inv } :=
    ⟨_, rfl⟩
  have hinvoices : u.invoices = w.invoices.insert inv := by rw [hu]
  have hrow' : u.row sub.id = some sub := by rwa [hu]
  have halone' : Alone u.subscriptions sub := by rwa [hu]
  have hid' : sub'.id = sub.id := by rw [hsub']; rfl
  have hlogin : sub'.login = sub.login := by rw [hsub']; rfl
  have hdeleted : sub'.deletedAt = sub.deletedAt := by rw [hsub']; rfl
  rw [← hu]
  refine wp_saveAlone halone' hid' hlogin ⟨rfl, fun _ ↦ ⟨?_, ?_, ?_⟩⟩
  · have hsaved : (saved u sub').invoices = w.invoices.insert inv := hinvoices
    rw [hsaved]
    exact Nat.le_succ _
  · rw [hnext, ← hsub']
    exact row_saved hrow' hid' hdeleted
  · have hcharged : Charged (fun n ↦ n = inv.subscriptionID) today w (saved u sub') :=
      .of_insert hinvoices hperiod
    rw [hcharged.billed sub.id hid.symm _ le_rfl, periodsOf_next, List.nil_append]

theorem firstInvoice_billed (hrow : w.row sub.id = some sub) (halone : Alone w.subscriptions sub)
    (today : Time) : (firstInvoice sub today).wp execCommands ok (FirstBilled w sub today) w := by
  unfold firstInvoice
  refine wp_handlerSettingInt (wp_generate (fun _ err sq ↦ ⟨rfl, fun h ↦ ?_⟩) ?_)
  · cases h
  intro _ inv sq hid hperiod
  cases hday : sub.billingDay with
  | some billingDay =>
    have hnext : nextInvoiceDate today (w.billingDay sub) = nextInvoiceDate today billingDay := by
      simp [World.billingDay, hday]
    exact save_billed hrow halone hid hperiod hnext (by rw [← hday]; rfl)
  | none =>
    have hnext : nextInvoiceDate today (w.billingDay sub) =
        nextInvoiceDate today (w.settingInt "billing.default_billing_day" 1) := by
      simp [World.billingDay, hday]
    apply wp_handlerSettingInt
    exact save_billed hrow halone hid hperiod hnext (by rw [← hday]; rfl)

/-- What a new customer is sent. -/
def greets : Call → Prop
  | .portalPassword _ => True
  | c => informs c

theorem informs.greets {c : Call} (hc : informs c) : greets c := by
  cases c <;> trivial

theorem notifyInstalled_informs (cust : Customer) (extra : List (String × String)) :
    (notifyInstalled cust extra).Only informs := by
  unfold notifyInstalled
  split_ifs
  · trivial
  · exact (settingStr_informs _ _).bind fun _ ↦ ⟨trivial, fun _ ↦ trivial⟩

theorem welcome_greets (customerID : ℕ) : (welcome customerID).Only greets := by
  have hnotify (cust : Customer) (extra : List (String × String)) :
      (notifyInstalled cust extra).Only greets :=
    (notifyInstalled_informs cust extra).mono fun _ ↦ informs.greets
  refine ⟨trivial, fun r ↦ ?_⟩
  cases r with
  | error err => trivial
  | ok cust =>
    refine ((settingStr_informs _ _).mono fun _ ↦ informs.greets).bind fun _ ↦ ?_
    refine ⟨trivial, fun r ↦ ?_⟩
    cases r with
    | error err => exact hnotify _ _
    | ok plain => exact hnotify _ _

theorem greets.inert {c : Call} (hc : greets c) : c.inert := by
  cases c <;> first | exact hc.elim | trivial

/-- How an installation ends. -/
def Installs (w : World) (r : Response CompleteInstallResponse) (u : World) : Prop :=
  ∀ body, r = .success 201 body → body.invoice.isSome → ∃ today, Installed w body.subscription today u

theorem installs_failure {u : World} {status : ℕ} {code message : String} :
    Installs w (.failure status code message) u := by
  intro body h
  cases h

theorem installs_writeErr {u : World} (err : Error) : Installs w (writeErr err) u := by
  intro body h
  have hrefused := writeErr_not_accepted (α := CompleteInstallResponse) err
  rw [h] at hrefused
  exact absurd ⟨Nat.le_add_right 200 1, Nat.lt_of_sub_eq_succ rfl⟩ hrefused

/-- The row is there and the invoice has been made. What follows changes neither. -/
theorem installs_of_firstBilled {u v v' : World} {today : Time} {body : CompleteInstallResponse}
    (hinvoices : u.invoices = w.invoices) (hterms : SameTerms w u)
    (hwhole : Time.truncateDay today = today) (hdate : sub.nextInvoiceDate = some today)
    (hactive : sub.status = .active) (hbilled : FirstBilled u sub today body v)
    (hv' : SameRows v v') : Installs w (.success 201 body) v' := by
  intro answer h hinvoice
  cases h
  obtain ⟨rfl, hbilled⟩ := hbilled
  obtain ⟨hnext, hrow, hperiods⟩ := hbilled hinvoice
  refine ⟨today, hwhole, hdate, hactive, ?_, ?_, ?_⟩
  · rwa [hv'.invoices, ← hinvoices]
  · rw [← billingDay_congr hterms, ← hrow, World.row, World.row, hv'.subscriptions]
  · rw [← hperiods, World.periodsOf, World.periodsOf, hv'.invoices, hinvoices]

/-- `CompleteInstall`, when nothing fails and the first invoice is part of the answer. -/
theorem completeInstall_installs (w : World) (id : ℕ) (req : RegistrationCompleteInstallRequest)
    (actor : Option ℕ) : (completeInstall id req actor).wp execCommands ok (Installs w) w := by
  unfold completeInstall
  split_ifs
  · exact installs_failure
  · exact installs_failure
  swap
  · exact installs_failure
  apply wp_inert_call (by exact trivial)
  intro r u hu
  cases r with
  | error err =>
    change Installs w (if err.is .registrationNotFound then _ else _) u
    split_ifs
    · exact installs_failure
    · exact installs_writeErr err
  | ok reg =>
  simp only [perform_bind, pure_eq]
  dsimp only [Program.bind]
  split
  swap
  · exact installs_failure
  rename_i customerID _ _
  apply wp_inert_call (by exact trivial)
  intro clock u₁ hu₁
  apply wp_inert_call (by exact trivial)
  intro now u₂ hu₂
  have hu' := (hu.trans hu₁).trans hu₂
  refine wp_subscriptions fun e _ ↦ ?_
  generalize hcreate : SubscriptionCall.exec e.now e.subscriptionOrder
    (.create (installedSubscription req customerID (Time.truncateDay clock) now))
    u₂.subscriptions = made
  obtain ⟨r, t'⟩ := made
  cases r with
  | error err =>
    dsimp only [wp_ret]
    split_ifs
    · exact installs_failure
    · exact installs_writeErr err
  | ok sub =>
  obtain ⟨hsub, hmem, halone⟩ := create_spec rfl _ _ hcreate
  have hlive : sub.live := by rw [hsub]; rfl
  have hdate : sub.nextInvoiceDate = some (Time.truncateDay clock) := by rw [hsub]; rfl
  have hactive : sub.status = .active := by rw [hsub]; rfl
  have hrow : ({ u₂ with subscriptions := t' } : World).row sub.id = some sub :=
    row_of_mem hmem hlive
  refine (wp_bind _ _ _).mpr (wp_mono (firstInvoice_billed hrow halone _) fun body v hbilled ↦ ?_)
  apply wp_inert_call (by exact trivial)
  intro _ v₁ hv₁
  refine (wp_bind _ _ _).mpr (wp_mono (wp_inert (audit_inert _ _ _ _)) fun _ v₂ hv₂ ↦ ?_)
  refine (wp_bind _ _ _).mpr (wp_mono (wp_inert ((welcome_greets _).mono fun _ ↦ greets.inert)) fun _ v₃ hv₃ ↦ ?_)
  exact installs_of_firstBilled hu'.invoices hu'.terms (truncateDay_truncateDay clock) hdate
    hactive hbilled ((hv₁.trans hv₂).trans hv₃)

end Install

end Rosmon.Billing
