import Rosmon.World

namespace Rosmon

open Library Store Program

theorem orFault_of_quiet {α : Type} {e : Env} (h : e.fault = none) (w : World)
    (r : Except Error α × World) : orFault e w r = r := by simp only [orFault, h]

theorem orFault_cases {α : Type} (e : Env) (w : World) (r : Except Error α × World) :
    orFault e w r = r ∨ ∃ err, orFault e w r = (.error err, w) := by
  cases h : e.fault with
  | none => exact .inl (orFault_of_quiet h w r)
  | some err => exact .inr ⟨err, by simp only [orFault, h]⟩

/-- A read by key fails or finds its row; it changes nothing. -/
theorem read_cases {ρ : Type} (e : Env) (w : World) (s : Sentinel) (o : Option ρ) :
    (∃ err, orFault e w (found s o, w) = (.error err, w)) ∨
      ∃ r, o = some r ∧ orFault e w (found s o, w) = (.ok r, w) := by
  obtain h | ⟨err, h⟩ := orFault_cases e w (found s o, w)
  · cases o with
    | none => exact .inl ⟨_, h⟩
    | some r => exact .inr ⟨r, rfl, h⟩
  · exact .inl ⟨err, h⟩

/-- An update that reports an error has changed nothing. -/
theorem update_cases {ρ : Type} [Row ρ] (e : Env) (w : World) (s : Sentinel) (t : Table ρ)
    (p : ρ → Bool) (f : ρ → ρ) [KeepsKey f] (g : Table ρ → World)
    (hg : g t = w) :
    (∃ err, orFault e w ((updated s t p f).1, g (updated s t p f).2) = (.error err, w)) ∨
      (t.find p).isSome ∧ orFault e w ((updated s t p f).1, g (updated s t p f).2) =
        (.ok (), g (t.update p f)) := by
  obtain h | ⟨err, h⟩ := orFault_cases e w ((updated s t p f).1, g (updated s t p f).2)
  · cases hp : t.find p with
    | none =>
      refine .inl ⟨.of s, ?_⟩
      rw [h]
      simp [updated, hp, Table.update_of_none (Table.find_eq_none.mp hp), hg]
    | some r =>
      refine .inr ⟨rfl, ?_⟩
      rw [h]
      simp [updated, hp]
  · exact .inl ⟨err, h⟩

section Replies

variable {e : Env} {w : World} {p : Payment}

theorem reply_eq {c : Call} {r r' : c.Reply} {w' : World} (h : (c.exec e w).1 = r')
    (he : c.exec e w = (r, w')) : r = r' := (congrArg Prod.fst he).symm.trans h

theorem payments_getByID_reply {id : ℕ}
    (h : (Call.exec (.payments (.getByID id)) e w).1 = .ok p) : w.payments.get id = some p := by
  obtain ⟨err, he⟩ | ⟨q, hq, he⟩ := read_cases e w .paymentNotFound (w.payments.get id)
  · cases reply_eq h he
  · exact Except.ok.inj (reply_eq h he) ▸ hq

theorem payments_getByExternalRef_reply {gatewayName externalRef : String}
    (h : (Call.exec (.payments (.getByExternalRef gatewayName externalRef)) e w).1 = .ok p) :
    w.payments.find (Payment.named gatewayName externalRef) = some p := by
  obtain ⟨err, he⟩ | ⟨q, hq, he⟩ := read_cases e w .paymentNotFound
    (w.payments.find (Payment.named gatewayName externalRef))
  · cases reply_eq h he
  · exact Except.ok.inj (reply_eq h he) ▸ hq

theorem invoices_getByID_reply {id : ℕ} {inv : Invoice}
    (h : (Call.exec (.invoices (.getByID id)) e w).1 = .ok inv) : w.invoices.get id = some inv := by
  obtain ⟨err, he⟩ | ⟨i, hi, he⟩ := read_cases e w .invoiceNotFound (w.invoices.get id)
  · cases reply_eq h he
  · exact Except.ok.inj (reply_eq h he) ▸ hi

theorem invoices_listOverdue_reply {cutoff : Time} {invs : List Invoice} {inv : Invoice}
    (h : (Call.exec (.invoices (.listOverdue cutoff)) e w).1 = .ok invs) (hinv : inv ∈ invs) :
    inv ∈ w.invoices := by
  obtain he | ⟨err, he⟩ := orFault_cases e w
    (.ok (e.invoiceOrder.order (w.invoices.rows.filter (Invoice.overdueAt cutoff))), w)
  · rw [← Except.ok.inj (reply_eq h he), Arrangement.mem_order] at hinv
    exact (List.mem_filter.mp hinv).1
  · cases reply_eq h he

end Replies

section CallRules

variable {α : Type} {ok : Env → Prop} {Q : α → World → Prop} {w : World}

/-- The program goes on with the answer. -/
theorem wp_reply {c : Call} {k : c.Reply → Prog α} {e : Env} {r : c.Reply} {w' : World}
    (h : c.exec e w = (r, w')) (hk : (k r).wp Call.exec ok Q w') :
    (k (c.exec e w).1).wp Call.exec ok Q (c.exec e w).2 := by
  rw [h]
  exact hk

theorem wp_now {k : Time → Prog α} (h : ∀ now, (k now).wp Call.exec ok Q w) :
    (Program.call .now k).wp Call.exec ok Q w := fun e _ ↦ h e.now

theorem wp_invoices_getByID {id : ℕ} {k : Except Error Invoice → Prog α}
    (herr : ∀ err, (k (.error err)).wp Call.exec ok Q w)
    (hok : ∀ inv, w.invoices.get id = some inv → (k (.ok inv)).wp Call.exec ok Q w) :
    (Program.call (.invoices (.getByID id)) k).wp Call.exec ok Q w := by
  intro e _
  obtain ⟨err, h⟩ | ⟨inv, hi, h⟩ := read_cases e w .invoiceNotFound (w.invoices.get id)
  · exact wp_reply h (herr err)
  · exact wp_reply h (hok inv hi)

theorem wp_invoices_getByPaymentCode {code : String} {k : Except Error Invoice → Prog α}
    (herr : ∀ err, (k (.error err)).wp Call.exec ok Q w)
    (hok : ∀ inv, w.invoices.find (·.paymentCode = code) = some inv →
      (k (.ok inv)).wp Call.exec ok Q w) :
    (Program.call (.invoices (.getByPaymentCode code)) k).wp Call.exec ok Q w := by
  intro e _
  by_cases hc : code = ""
  · obtain h | ⟨err, h⟩ := orFault_cases (α := Invoice) e w (.error (.of .invoiceNotFound), w)
    · simpa only [Call.exec, InvoiceCall.exec, hc, if_true, h] using herr _
    · simpa only [Call.exec, InvoiceCall.exec, hc, if_true, h] using herr err
  · obtain ⟨err, h⟩ | ⟨inv, hi, h⟩ :=
      read_cases e w .invoiceNotFound (w.invoices.find (·.paymentCode = code))
    · simpa only [Call.exec, InvoiceCall.exec, hc, if_false, h] using herr err
    · simpa only [Call.exec, InvoiceCall.exec, hc, if_false, h] using
        hok inv hi

theorem wp_invoices_updateStatus {id : ℕ} {status : InvoiceStatus} {paidAt : Option Time}
    {k : Except Error Unit → Prog α} (herr : ∀ err, (k (.error err)).wp Call.exec ok Q w)
    (hok : ∀ now, (k (.ok ())).wp Call.exec ok Q
      { w with invoices := w.invoices.update (·.id == id) (Invoice.setStatus status paidAt now) }) :
    (Program.call (.invoices (.updateStatus id status paidAt)) k).wp Call.exec ok Q w := by
  intro e _
  obtain ⟨err, h⟩ | ⟨-, h⟩ := update_cases e w .invoiceNotFound w.invoices (·.id == id)
    (Invoice.setStatus status paidAt e.now) (fun t ↦ { w with invoices := t }) rfl
  · exact wp_reply h (herr err)
  · exact wp_reply h (hok e.now)

theorem wp_payments_getByID {id : ℕ} {k : Except Error Payment → Prog α}
    (herr : ∀ err, (k (.error err)).wp Call.exec ok Q w)
    (hok : ∀ p, w.payments.get id = some p → (k (.ok p)).wp Call.exec ok Q w) :
    (Program.call (.payments (.getByID id)) k).wp Call.exec ok Q w := by
  intro e _
  obtain ⟨err, h⟩ | ⟨p, hp, h⟩ := read_cases e w .paymentNotFound (w.payments.get id)
  · exact wp_reply h (herr err)
  · exact wp_reply h (hok p hp)

theorem wp_payments_getByExternalRef {gatewayName externalRef : String}
    {k : Except Error Payment → Prog α} (herr : ∀ err, (k (.error err)).wp Call.exec ok Q w)
    (hok : ∀ p, w.payments.find (Payment.named gatewayName externalRef) = some p →
      (k (.ok p)).wp Call.exec ok Q w) :
    (Program.call (.payments (.getByExternalRef gatewayName externalRef)) k).wp
      Call.exec ok Q w := by
  intro e _
  obtain ⟨err, h⟩ | ⟨p, hp, h⟩ := read_cases e w .paymentNotFound
    (w.payments.find (Payment.named gatewayName externalRef))
  · exact wp_reply h (herr err)
  · exact wp_reply h (hok p hp)

theorem wp_payments_create {p : Payment} {k : Except Error Payment → Prog α}
    (herr : ∀ err, (k (.error err)).wp Call.exec ok Q w)
    (hok : w.payments.find (fun q ↦ q.idempotencyKey = p.idempotencyKey) = none →
      (k (.ok { p with id := w.payments.next })).wp Call.exec ok Q
        { w with payments := w.payments.insert p }) :
    (Program.call (.payments (.create p)) k).wp Call.exec ok Q w := by
  intro e _
  cases hf : w.payments.find (fun q ↦ q.idempotencyKey = p.idempotencyKey) with
  | none =>
    obtain h | ⟨err, h⟩ := orFault_cases e w
      (.ok { p with id := w.payments.next }, { w with payments := w.payments.insert p })
    · simpa [Call.exec, PaymentCall.exec, hf, h] using hok hf
    · simpa [Call.exec, PaymentCall.exec, hf, h] using herr err
  | some q =>
    obtain h | ⟨err, h⟩ := orFault_cases (α := Payment) e w
      (.error (.duplicateKey "idx_payments_idempotency_key"), w)
    · simpa [Call.exec, PaymentCall.exec, hf, h] using herr _
    · simpa [Call.exec, PaymentCall.exec, hf, h] using herr err

theorem wp_payments_updateStatus {id : ℕ} {status : PaymentStatus} {confirmedBy : Option ℕ}
    {confirmedAt : Option Time} {reason : String} {k : Except Error Unit → Prog α}
    (herr : ∀ err, (k (.error err)).wp Call.exec ok Q w)
    (hok : (k (.ok ())).wp Call.exec ok Q { w with
      payments := w.payments.update (·.id == id)
        (Payment.setStatus status confirmedBy confirmedAt reason) }) :
    (Program.call (.payments (.updateStatus id status confirmedBy confirmedAt reason)) k).wp
      Call.exec ok Q w := by
  intro e _
  obtain ⟨err, h⟩ | ⟨-, h⟩ := update_cases e w .paymentNotFound w.payments (·.id == id)
    (Payment.setStatus status confirmedBy confirmedAt reason)
    (fun t ↦ { w with payments := t }) rfl
  · exact wp_reply h (herr err)
  · exact wp_reply h hok

theorem wp_payments_updateGatewayInfo {id : ℕ} {info : GatewayInfo}
    {k : Except Error Unit → Prog α} (herr : ∀ err, (k (.error err)).wp Call.exec ok Q w)
    (hok : (k (.ok ())).wp Call.exec ok Q { w with
      payments := w.payments.update (·.id == id) (Payment.setGatewayInfo info) }) :
    (Program.call (.payments (.updateGatewayInfo id info)) k).wp Call.exec ok Q w := by
  intro e _
  obtain ⟨err, h⟩ | ⟨-, h⟩ := update_cases e w .paymentNotFound w.payments (·.id == id)
    (Payment.setGatewayInfo info) (fun t ↦ { w with payments := t }) rfl
  · exact wp_reply h (herr err)
  · exact wp_reply h hok

end CallRules

/-! When no call fails, a call does just what it is for. -/

section QuietRules

variable {α : Type} {ok : Env → Prop} {Q : α → World → Prop} {w : World}

theorem quiet_payments (hok : ∀ e, ok e → e.fault = none) {c : PaymentCall}
    {k : Except Error c.Result → Prog α} (h : (k (c.exec w.payments).1).wp Call.exec ok Q
      { w with payments := (c.exec w.payments).2 }) :
    (Program.call (.payments c) k).wp Call.exec ok Q w := by
  intro e he
  simpa only [Call.exec, orFault_of_quiet (hok e he)] using h

theorem quiet_invoices (hok : ∀ e, ok e → e.fault = none) {c : InvoiceCall}
    {k : Except Error c.Result → Prog α} (h : ∀ e, ok e →
      (k (c.exec e.now e.invoiceOrder w.invoices).1).wp Call.exec ok Q
        { w with invoices := (c.exec e.now e.invoiceOrder w.invoices).2 }) :
    (Program.call (.invoices c) k).wp Call.exec ok Q w := by
  intro e he
  simpa only [Call.exec, orFault_of_quiet (hok e he)] using h e he

end QuietRules

section Frames

theorem orFault_keeps {α : Type} {P : World → Prop} {e : Env} {w : World}
    {r : Except Error α × World} (hw : P w) (hr : P r.2) : P (orFault e w r).2 := by
  obtain h | ⟨err, h⟩ := orFault_cases e w r
  · rwa [h]
  · rwa [h]

/-- Calls that do not write to the payments. -/
def Call.keepsPayments : Call → Prop
  | .payments c => c.reads
  | _ => True

theorem Call.exec_keepsPayments {c : Call} (hc : c.keepsPayments) (e : Env) (w : World) :
    (c.exec e w).2.payments = w.payments := by
  cases c with
  | payments c => exact orFault_keeps (P := fun v ↦ v.payments = _) rfl (c.exec_reads hc _)
  | now | newPaymentCode | notify | xendit | device | contextDone | rangeKeys => rfl
  | _ => exact orFault_keeps (P := fun v ↦ v.payments = _) rfl rfl

/-- Calls that do not write to the invoices. -/
def Call.keepsInvoices : Call → Prop
  | .invoices c => c.reads
  | _ => True

theorem Call.exec_keepsInvoices {c : Call} (hc : c.keepsInvoices) (e : Env) (w : World) :
    (c.exec e w).2.invoices = w.invoices := by
  cases c with
  | invoices c => exact orFault_keeps (P := fun v ↦ v.invoices = _) rfl (c.exec_reads hc _ _ _)
  | now | newPaymentCode | notify | xendit | device | contextDone | rangeKeys => rfl
  | _ => exact orFault_keeps (P := fun v ↦ v.invoices = _) rfl rfl

/-- Either the invoices stay as they are, or one is added, or one of them gets a
new status. -/
theorem invoices_cases (c : Call) (e : Env) (w : World) : (c.exec e w).2.invoices = w.invoices ∨
    (∃ inv, c = .invoices (.create inv) ∧ (c.exec e w).2.invoices = w.invoices.insert inv) ∨
    ∃ id status paidAt, c = .invoices (.updateStatus id status paidAt) ∧
      (c.exec e w).2.invoices = w.invoices.update (·.id == id)
        (Invoice.setStatus status paidAt e.now) := by
  by_cases hc : c.keepsInvoices
  · exact .inl (Call.exec_keepsInvoices hc e w)
  · cases c with
    | invoices c =>
      cases c with
      | create inv =>
        simp only [Call.exec, InvoiceCall.exec]
        split
        · exact .inl (orFault_keeps (P := fun v ↦ v.invoices = _) rfl rfl)
        · rcases orFault_cases e w (.ok { inv with id := w.invoices.next },
            { w with invoices := w.invoices.insert inv }) with h | ⟨err, h⟩
          · exact .inr (.inl ⟨inv, rfl, by simp only [h]⟩)
          · exact .inl (by simp only [h])
      | updateStatus id status paidAt =>
        obtain ⟨err, h⟩ | ⟨-, h⟩ := update_cases e w .invoiceNotFound w.invoices (·.id == id)
          (Invoice.setStatus status paidAt e.now) (fun t ↦ { w with invoices := t }) rfl
        · exact .inl (congrArg (·.2.invoices) h)
        · exact .inr (.inr ⟨id, status, paidAt, rfl, congrArg (·.2.invoices) h⟩)
      | _ => exact absurd rfl hc
    | _ => exact absurd trivial hc

/-- Calls that change neither payments nor invoices. -/
def Call.offLedger : Call → Prop
  | .payments c => c.reads
  | .invoices c => c.reads
  | _ => True

theorem Call.exec_offLedger {c : Call} (hc : c.offLedger) (e : Env) (w : World) :
    (c.exec e w).2.payments = w.payments ∧ (c.exec e w).2.invoices = w.invoices := by
  have hp : c.keepsPayments := by cases c <;> first | exact hc | trivial
  have hi : c.keepsInvoices := by cases c <;> first | exact hc | trivial
  exact ⟨Call.exec_keepsPayments hp e w, Call.exec_keepsInvoices hi e w⟩

/-- Calls that change neither payments, invoices nor subscriptions, and reach
neither the gateway nor a router. -/
def Call.inert : Call → Prop
  | .payments c => c.reads
  | .invoices c => c.reads
  | .subscriptions c => c.reads
  | .xendit _ | .router .. => False
  | _ => True

theorem Call.inert.offLedger {c : Call} (hc : c.inert) : c.offLedger := by
  cases c <;> first | exact hc | trivial

/-- Calls that leave a request for the routers alone, unless they store another one. -/
def Call.keepsRequests : Call → Prop
  | .subscriptions (.updateSyncStatus _ syncStatus _) => syncStatus.pending = true
  | _ => True

theorem Call.inert.keepsRequests {c : Call} (hc : c.inert) : c.keepsRequests := by
  cases c with
  | subscriptions c => cases c <;> trivial
  | _ => trivial

/-- Calls that write no subscription as a whole. -/
def Call.targeted : Call → Prop
  | .subscriptions (.create _) | .subscriptions (.update _) => False
  | _ => True

theorem Call.inert.targeted {c : Call} (hc : c.inert) : c.targeted := by
  cases c with
  | subscriptions c => cases c <;> first | exact hc | trivial
  | _ => trivial

theorem Call.exec_inert {c : Call} (hc : c.inert) (e : Env) (w : World) :
    (c.exec e w).2.payments = w.payments ∧ (c.exec e w).2.invoices = w.invoices ∧
      (c.exec e w).2.subscriptions = w.subscriptions := by
  obtain ⟨h₁, h₂⟩ := Call.exec_offLedger hc.offLedger e w
  refine ⟨h₁, h₂, ?_⟩
  cases c with
  | subscriptions c =>
    exact orFault_keeps (P := fun v ↦ v.subscriptions = _) rfl (c.exec_reads hc _ _ _)
  | payments | invoices | registrations | customers | customerByPhone | createCustomer
  | pppProfiles | hotspotProfiles | settings | nextVal | portalPassword | audit =>
    exact orFault_keeps (P := fun v ↦ v.subscriptions = _) rfl rfl
  | now | newPaymentCode | notify | device | contextDone | rangeKeys => rfl
  | xendit | router => exact hc.elim

/-- An inert program leaves the three tables as they are. -/
theorem run_inert {α : Type} {p : Prog α} (hp : p.Only Call.inert) (env : ℕ → Env) (w : World) :
    (p.run Call.exec env w).2.payments = w.payments ∧
      (p.run Call.exec env w).2.invoices = w.invoices ∧
      (p.run Call.exec env w).2.subscriptions = w.subscriptions := by
  have h : p.wp Call.exec (fun _ ↦ True) (fun _ v ↦ v.payments = w.payments ∧
      v.invoices = w.invoices ∧ v.subscriptions = w.subscriptions) w := by
    refine hp.wp (fun c e v hc _ hv ↦ ?_) ⟨rfl, rfl, rfl⟩
    obtain ⟨h₁, h₂, h₃⟩ := Call.exec_inert hc e v
    exact ⟨h₁.trans hv.1, h₂.trans hv.2.1, h₃.trans hv.2.2⟩
  exact run_of_wp h _ fun _ ↦ trivial

/-- A program that stays off the ledger leaves it as it is. -/
theorem wp_offLedger {α : Type} {p : Prog α} {ok : Env → Prop} {Q : α → World → Prop} {w : World}
    (hp : p.Only Call.offLedger)
    (hQ : ∀ a w', w'.payments = w.payments → w'.invoices = w.invoices → Q a w') :
    p.wp Call.exec ok Q w := by
  have h : p.wp Call.exec ok (fun _ v ↦ v.payments = w.payments ∧ v.invoices = w.invoices) w := by
    refine hp.wp (fun c e v hc _ hv ↦ ?_) ⟨rfl, rfl⟩
    obtain ⟨h₁, h₂⟩ := Call.exec_offLedger hc e v
    exact ⟨h₁.trans hv.1, h₂.trans hv.2⟩
  exact wp_mono h fun a w' h ↦ hQ a w' h.1 h.2

theorem run_offLedger {α : Type} {p : Prog α} (hp : p.Only Call.offLedger) (env : ℕ → Env)
    (w : World) : (p.run Call.exec env w).2.payments = w.payments ∧
      (p.run Call.exec env w).2.invoices = w.invoices := by
  have h : p.wp Call.exec (fun _ ↦ True) (fun _ v ↦ v.payments = w.payments ∧
      v.invoices = w.invoices) w := wp_offLedger hp fun _ _ h₁ h₂ ↦ ⟨h₁, h₂⟩
  exact run_of_wp h env fun _ ↦ trivial

theorem wp_call_offLedger {α : Type} {c : Call} (hc : c.offLedger) {k : c.Reply → Prog α}
    {ok : Env → Prop} {Q : α → World → Prop} {w : World}
    (hk : ∀ r w', w'.payments = w.payments → w'.invoices = w.invoices →
      (k r).wp Call.exec ok Q w') : (Program.call c k).wp Call.exec ok Q w := fun e _ ↦
  hk _ _ (Call.exec_offLedger hc e w).1 (Call.exec_offLedger hc e w).2

/-- Run first what stays off the ledger. -/
theorem wp_bind_offLedger {α β : Type} {p : Prog α} (hp : p.Only Call.offLedger) {f : α → Prog β}
    {ok : Env → Prop} {Q : β → World → Prop} {w : World}
    (hf : ∀ a w', w'.payments = w.payments → w'.invoices = w.invoices →
      (f a).wp Call.exec ok Q w') : (p >>= f).wp Call.exec ok Q w :=
  (wp_bind p f w).mpr (wp_offLedger hp hf)

end Frames

end Rosmon
