import Rosmon.Ledger.Operation

namespace Rosmon.Ledger

open Library Store Program Service Handler

/-- What a settlement does to the invoices when nothing fails. -/
def SettledAt (ok : Env → Prop) (invoiceID : ℕ) (t t' : Table Invoice) : Prop :=
  ∃ e e', ok e ∧ ok e' ∧
    t' = t.update (·.id == invoiceID) (Invoice.setStatus .paid (some e.now) e'.now)

/-- A payment becomes confirmed and its invoice is settled. -/
inductive Confirmation (ok : Env → Prop) (w : World) (i : ℕ) :
    Table Payment → Table Invoice → Prop
  | confirmed {p : Payment} {actor : Option ℕ} {now : Time} {t : Table Invoice}
      (hp : p ∈ w.payments) (hpending : p.status = .pending) (hid : p.invoiceID = i)
      (ht : SettledAt ok i w.invoices t) :
      Confirmation ok w i (w.payments.update (·.id == p.id)
        (Payment.setStatus .confirmed actor (some now) "")) t
  | collected {p : Payment} {t : Table Invoice} (hstatus : p.status = .confirmed)
      (hid : p.invoiceID = i) (ht : SettledAt ok i w.invoices t) :
      Confirmation ok w i (w.payments.insert p) t

variable {ok : Env → Prop} (hok : ∀ e, ok e → e.fault = none) {w : World} {i : ℕ}

include hok

theorem applySettlement_quiet (p : Payment) : (applySettlement p).wp Call.exec ok
    (fun _ w' ↦ w'.payments = w.payments ∧ SettledAt ok p.invoiceID w.invoices w'.invoices) w := by
  simp only [applySettlement, perform_bind]
  intro e he
  exact quiet_invoices hok fun e' he' ↦ wp_offLedger (restoreService_offLedger _)
    fun _ w' hp hi ↦ ⟨hp, e, e', he, he', hi⟩

theorem createManual_quiet {p : Payment} {actor : Option ℕ}
    (h : Operation.manualSettles p w = some i) : (Service.createManual p actor).wp Call.exec ok
      (fun _ w' ↦ Confirmation ok w i w'.payments w'.invoices) w := by
  obtain ⟨inv, hinv, rfl⟩ := Option.map_eq_some_iff.mp h
  obtain ⟨hinv, hp⟩ := Option.filter_eq_some_iff.mp hinv
  simp only [Bool.and_eq_true, decide_eq_true_eq, Option.isNone_iff_eq_none] at hp
  obtain ⟨⟨⟨hcust, hpaid⟩, hcancelled⟩, hkey⟩ := hp
  simp only [Service.createManual, perform_bind]
  refine quiet_invoices hok fun e he ↦ ?_
  simp only [InvoiceCall.exec, hinv, found_some, hcust, hpaid, hcancelled, ne_eq, not_true_eq_false,
    if_false, or_self]
  refine wp_now fun now ↦ quiet_payments hok ?_
  simp only [PaymentCall.exec, hkey, Option.isSome_none, Bool.false_eq_true, if_false]
  refine (wp_bind _ _ _).mpr (wp_mono (applySettlement_quiet hok _) fun _ w' h ↦ ?_)
  refine wp_bind_offLedger ((audit_inert _ _ _ _).mono fun _ h ↦ h.offLedger) fun _ v hv hi ↦ ?_
  simp only [pure_eq, wp_ret, hv, hi, h.1]
  have hid : p.invoiceID = inv.id := (Table.get_eq_some.mp hinv).2.symm
  exact .collected rfl hid (hid ▸ h.2)

theorem confirm_quiet {paymentID : ℕ} {actor : Option ℕ}
    (h : Operation.settles (.confirm paymentID actor) w = some i) :
    (Service.confirm paymentID actor).wp Call.exec ok
      (fun _ w' ↦ Confirmation ok w i w'.payments w'.invoices) w := by
  obtain ⟨p, hp, rfl⟩ := Option.map_eq_some_iff.mp h
  obtain ⟨hp, hpending⟩ := Option.filter_eq_some_iff.mp hp
  obtain ⟨hm, rfl⟩ := Payment.get_iff.mp hp
  replace hpending : p.status = .pending := of_decide_eq_true hpending
  simp only [Service.confirm, perform_bind]
  refine quiet_payments hok ?_
  simp only [PaymentCall.exec, hp, found_some, hpending, ne_eq, not_true_eq_false, if_false]
  refine wp_now fun now ↦ quiet_payments hok ?_
  simp only [PaymentCall.exec, updated, Payment.find_of_mem hm, Option.isSome_some, if_true]
  refine (wp_bind _ _ _).mpr (wp_mono (applySettlement_quiet hok _) fun _ w' h ↦ ?_)
  refine wp_bind_offLedger ((audit_inert _ _ _ _).mono fun _ h ↦ h.offLedger) fun _ v hv hi ↦ ?_
  simp only [pure_eq, wp_ret, hv, hi, h.1]
  exact .confirmed hm hpending rfl h.2

theorem webhookConfirm_quiet {p : Payment} (hp : p ∈ w.payments) :
    (webhookConfirm p).wp Call.exec ok (fun _ w' ↦
      (∃ now, w'.payments = w.payments.update (·.id == p.id)
        (Payment.setStatus .confirmed none (some now) "")) ∧
          SettledAt ok p.invoiceID w.invoices w'.invoices) w := by
  simp only [webhookConfirm, perform_bind]
  refine wp_now fun now ↦ quiet_payments hok ?_
  simp only [PaymentCall.exec, updated, Payment.find_of_mem hp, Option.isSome_some, if_true]
  refine (wp_bind _ _ _).mpr (wp_mono (applySettlement_quiet hok _) fun _ w' h ↦ ?_)
  refine wp_bind_offLedger ((audit_inert _ _ _ _).mono fun _ h ↦ h.offLedger) fun _ v hv hi ↦ ?_
  exact ⟨⟨now, hv.trans h.1⟩, hi ▸ h.2⟩

theorem webhookReject_quiet {p : Payment} (hp : p ∈ w.payments) (status : EventStatus) :
    (webhookReject p status).wp Call.exec ok (fun _ w' ↦
      w'.payments = w.payments.update (·.id == p.id)
        (Payment.setStatus .rejected none none ("gateway: " ++ status.text)) ∧
          w'.invoices = w.invoices) w := by
  simp only [webhookReject, perform_bind]
  refine quiet_payments hok ?_
  simp only [PaymentCall.exec, updated, Payment.find_of_mem hp, Option.isSome_some, if_true]
  refine wp_bind_offLedger ((audit_inert _ _ _ _).mono fun _ h ↦ h.offLedger) fun _ v hv hi ↦ ?_
  exact ⟨hv, hi⟩

section Event

variable {event : PaymentEvent} {p : Payment}
  (hp : w.payments.find (Payment.named event.gatewayName event.externalRef) = some p)
  (hpending : p.status = .pending)

include hp hpending

/-- A `paid` event about a pending payment. -/
theorem processWebhook_paid (hs : event.status = .paid) :
    (Service.processWebhook event).wp Call.exec ok (fun _ w' ↦
      (∃ now, w'.payments = w.payments.update (·.id == p.id)
        (Payment.setStatus .confirmed none (some now) "")) ∧
          SettledAt ok p.invoiceID w.invoices w'.invoices) w := by
  simp only [Service.processWebhook, perform_bind]
  refine quiet_payments hok ?_
  simp only [PaymentCall.exec, hp, found_some, hpending, reduceCtorEq, or_self, if_false, hs]
  exact webhookConfirm_quiet hok (Table.mem_of_find hp)

/-- Any other event about it that `ProcessWebhook` acts on. -/
theorem processWebhook_refused (hs : event.status = .expired ∨ event.status = .failed) :
    (Service.processWebhook event).wp Call.exec ok (fun _ w' ↦
      w'.payments = w.payments.update (·.id == p.id)
        (Payment.setStatus .rejected none none ("gateway: " ++ event.status.text)) ∧
          w'.invoices = w.invoices) w := by
  simp only [Service.processWebhook, perform_bind]
  refine quiet_payments hok ?_
  rcases hs with hs | hs <;>
    simpa only [PaymentCall.exec, hp, found_some, hpending, reduceCtorEq, or_self, if_false, hs]
      using webhookReject_quiet hok (Table.mem_of_find hp) event.status

end Event

theorem processWebhook_quiet {event : PaymentEvent}
    (h : Operation.settles (.processWebhook event) w = some i) :
    (Service.processWebhook event).wp Call.exec ok
      (fun _ w' ↦ Confirmation ok w i w'.payments w'.invoices) w := by
  simp only [Operation.settles] at h
  split_ifs at h with hs
  obtain ⟨p, hp, rfl⟩ := Option.map_eq_some_iff.mp h
  obtain ⟨hp, hpending⟩ := Option.filter_eq_some_iff.mp hp
  replace hpending : p.status = .pending := of_decide_eq_true hpending
  refine wp_mono (processWebhook_paid hok hp hpending hs) fun _ w' h ↦ ?_
  obtain ⟨⟨now, hpay⟩, hinv⟩ := h
  rw [hpay]
  exact .confirmed (Table.mem_of_find hp) hpending rfl hinv

theorem collect_quiet {req : PaymentCollectRequest} {actor : Option ℕ}
    (h : Operation.settles (.collect req actor) w = some i) :
    (Handler.collect req actor).wp Call.exec ok
      (fun _ w' ↦ Confirmation ok w i w'.payments w'.invoices) w := by
  simp only [Operation.settles] at h
  split_ifs at h with hvalid
  obtain ⟨inv, hinv, h⟩ := Option.bind_eq_some_iff.mp h
  have hcode : req.code ≠ "" := fun hc ↦ by simp [PaymentCollectRequest.valid, hc] at hvalid
  obtain ⟨hpaid, hcancelled⟩ : inv.status ≠ .paid ∧ inv.status ≠ .cancelled := by
    obtain ⟨inv', hinv', -⟩ := Option.map_eq_some_iff.mp h
    obtain ⟨hget, hopen⟩ := Option.filter_eq_some_iff.mp hinv'
    obtain rfl : inv = inv' := Option.some.inj
      ((Table.get_eq_some.mpr ⟨Table.mem_of_find hinv, rfl⟩).symm.trans hget)
    simp only [Bool.and_eq_true, decide_eq_true_eq] at hopen
    exact ⟨hopen.1.1.2, hopen.1.2⟩
  simp only [Handler.collect, perform_bind, hvalid, not_true_eq_false, if_false]
  refine quiet_invoices hok fun e he ↦ ?_
  simp only [InvoiceCall.exec, hcode, if_false, hinv, found_some, hpaid, hcancelled]
  refine (wp_bind _ _ _).mpr (wp_mono (createManual_quiet hok h) fun r w' h ↦ ?_)
  cases r with
  | error err => exact h
  | ok p => exact fun e he ↦ h

/-- When nothing fails, an operation that is about to confirm a payment does so. -/
theorem Operation.confirms_of_settles (op : Operation) (h : op.settles w = some i) :
    op.prog.wp Call.exec ok (fun _ w' ↦ Confirmation ok w i w'.payments w'.invoices) w := by
  cases op with
  | createManual => exact (wp_bind _ _ _).mpr (createManual_quiet hok h)
  | confirm => exact (wp_bind _ _ _).mpr (confirm_quiet hok h)
  | processWebhook => exact (wp_bind _ _ _).mpr (processWebhook_quiet hok h)
  | collect => exact (wp_bind _ _ _).mpr (collect_quiet hok h)
  | createPortalPayment | initiatePayment | reject | cancel => cases h

end Rosmon.Ledger
