import Rosmon.Handler.Handlers
import Rosmon.Library.Run
import Rosmon.Service.Frame

namespace Rosmon.Ledger

open Library Store Program Service Handler

/-- The operations that write payments or close invoices. -/
inductive Operation
  | createManual (p : Payment) (actor : Option ℕ)
  | createPortalPayment (invoiceID customerID : ℕ) (proofURL bankName refNum : String)
  | initiatePayment (invoiceID customerID : ℕ)
  | confirm (paymentID : ℕ) (actor : Option ℕ)
  | reject (paymentID : ℕ) (reason : String) (actor : Option ℕ)
  | processWebhook (event : PaymentEvent)
  | collect (req : PaymentCollectRequest) (actor : Option ℕ)
  | cancel (invoiceID : ℕ) (actor : Option ℕ)

namespace Operation

def prog : Operation → Prog Unit
  | .createManual p actor => do let _ ← Service.createManual p actor
  | .createPortalPayment invoiceID customerID proofURL bankName refNum => do
    let _ ← Service.createPortalPayment invoiceID customerID proofURL bankName refNum
  | .initiatePayment invoiceID customerID => do
    let _ ← Service.initiatePayment invoiceID customerID
  | .confirm paymentID actor => do let _ ← Service.confirm paymentID actor
  | .reject paymentID reason actor => do let _ ← Service.reject paymentID reason actor
  | .processWebhook event => do let _ ← Service.processWebhook event
  | .collect req actor => do let _ ← Handler.collect req actor
  | .cancel invoiceID actor => do let _ ← Handler.cancel invoiceID actor

/-- The checks of `CreateManual` and of the idempotency key. -/
def manualSettles (p : Payment) (w : World) : Option ℕ :=
  ((w.invoices.get p.invoiceID).filter fun inv ↦
    inv.customerID = p.customerID && inv.status ≠ .paid && inv.status ≠ .cancelled &&
      (w.payments.find fun q ↦ q.idempotencyKey = p.idempotencyKey).isNone).map (·.id)

/-- The invoice of the payment the operation confirms, when its own checks pass. -/
def settles : Operation → World → Option ℕ
  | .createManual p _, w => manualSettles p w
  | .confirm paymentID _, w =>
    ((w.payments.get paymentID).filter (·.status = .pending)).map (·.invoiceID)
  | .processWebhook event, w =>
    if event.status = .paid then
      ((w.payments.find (Payment.named event.gatewayName event.externalRef)).filter
        (·.status = .pending)).map (·.invoiceID)
    else none
  | .collect req _, w =>
    if req.valid then
      (w.invoices.find (·.paymentCode = req.code)).bind fun inv ↦
        manualSettles (collectPayment inv req) w
    else none
  | _, _ => none

/-- A manual payment covers the whole amount of its invoice. -/
def Full : Operation → World → Prop
  | .createManual p _, w => ∀ inv ∈ w.invoices, inv.id = p.invoiceID → inv.amount ≤ p.amount
  | _, _ => True

end Operation

/-- What a settlement does to the invoices: it marks one as paid, or fails to. -/
def Settled (invoiceID : ℕ) (t t' : Table Invoice) : Prop :=
  t' = t ∨ ∃ paidAt now, t' = t.update (·.id == invoiceID) (Invoice.setStatus .paid (some paidAt) now)

/-- Neither paid nor cancelled. -/
def Open (inv : Invoice) : Prop := inv.status ≠ .paid ∧ inv.status ≠ .cancelled

/-- Everything an operation can do to the payments and the invoices. -/
inductive Effect (w : World) (op : Operation) : Table Payment → Table Invoice → Prop
  | nothing : Effect w op w.payments w.invoices
  | opened {inv : Invoice} {p : Payment} (hinv : inv ∈ w.invoices) (hid : p.invoiceID = inv.id)
      (hopen : Open inv) (hamount : p.amount = inv.amount) (hstatus : p.status ≠ .confirmed) :
      Effect w op (w.payments.insert p) w.invoices
  | rejected {p : Payment} {reason : String} (hp : p ∈ w.payments)
      (hpending : p.status = .pending) :
      Effect w op (w.payments.update (·.id == p.id)
        (Payment.setStatus .rejected none none reason)) w.invoices
  | confirmed {p : Payment} {actor : Option ℕ} {now : Time} {t : Table Invoice}
      (hp : p ∈ w.payments) (hpending : p.status = .pending)
      (hop : op.settles w = some p.invoiceID) (ht : Settled p.invoiceID w.invoices t) :
      Effect w op (w.payments.update (·.id == p.id)
        (Payment.setStatus .confirmed actor (some now) "")) t
  | collected {inv : Invoice} {p : Payment} {t : Table Invoice} (hinv : inv ∈ w.invoices)
      (hid : p.invoiceID = inv.id) (hopen : Open inv) (hfull : op.Full w → inv.amount ≤ p.amount)
      (hstatus : p.status = .confirmed) (hop : op.settles w = some p.invoiceID)
      (ht : Settled p.invoiceID w.invoices t) : Effect w op (w.payments.insert p) t
  | cancelled {inv : Invoice} {now : Time} (hinv : inv ∈ w.invoices) (hunpaid : inv.status ≠ .paid) :
      Effect w op w.payments
        (w.invoices.update (·.id == inv.id) (Invoice.setStatus .cancelled none now))

section Effects

variable {ok : Env → Prop}

theorem applySettlement_settled (p : Payment) (w : World) :
    (applySettlement p).wp Call.exec ok
      (fun _ w' ↦ w'.payments = w.payments ∧ Settled p.invoiceID w.invoices w'.invoices) w := by
  simp only [applySettlement, perform_bind]
  -- After the write to the invoice nothing touches the ledger any more.
  have rest := restoreService_offLedger p.invoiceID
  exact wp_now fun paidAt ↦ wp_invoices_updateStatus
    (fun err ↦ wp_offLedger rest fun _ w' hp hi ↦ ⟨hp, .inl hi⟩)
    (fun now ↦ wp_offLedger rest fun _ w' hp hi ↦ ⟨hp, .inr ⟨paidAt, now, hi⟩⟩)

variable {op : Operation} {w : World}

theorem createManual_effect {p : Payment} {actor : Option ℕ}
    (hop : op.settles w = Operation.manualSettles p w)
    (hfull : op.Full w → ∀ inv ∈ w.invoices, inv.id = p.invoiceID → inv.amount ≤ p.amount) :
    (Service.createManual p actor).wp Call.exec ok
      (fun _ w' ↦ Effect w op w'.payments w'.invoices) w := by
  simp only [Service.createManual, perform_bind]
  refine wp_invoices_getByID (fun err ↦ .nothing) (fun inv hinv ↦ ?_)
  obtain ⟨hm, hid⟩ := Table.get_eq_some.mp hinv
  dsimp only
  split_ifs with hcust hclosed
  · exact .nothing
  · exact .nothing
  refine wp_now fun now ↦ wp_payments_create (fun err ↦ .nothing) (fun hkey ↦ ?_)
  refine (wp_bind _ _ _).mpr (wp_mono (applySettlement_settled _ _) fun _ w' h ↦ ?_)
  obtain ⟨hp, ht⟩ := h
  refine wp_bind_offLedger ((audit_inert _ _ _ _).mono fun _ h ↦ h.offLedger) fun _ v hv hi ↦ ?_
  simp only [pure_eq, wp_ret, hv, hi, hp]
  refine .collected hm hid.symm ?_ ?_ rfl ?_ ht
  · simpa [Open, not_or] using hclosed
  · exact fun h ↦ hfull h inv hm hid
  · have hkey' : inv.id = p.invoiceID := hid
    simp_all [Operation.manualSettles, not_or, Option.filter]

theorem createPortalPayment_effect {invoiceID customerID : ℕ}
    {proofURL bankName refNum : String} :
    (Service.createPortalPayment invoiceID customerID proofURL bankName refNum).wp Call.exec ok
      (fun _ w' ↦ Effect w op w'.payments w'.invoices) w := by
  simp only [Service.createPortalPayment, perform_bind]
  refine wp_invoices_getByID (fun err ↦ .nothing) (fun inv hinv ↦ ?_)
  obtain ⟨hm, hid⟩ := Table.get_eq_some.mp hinv
  dsimp only
  split_ifs with hcust hclosed
  · exact .nothing
  · exact .nothing
  refine wp_now fun now ↦ wp_payments_create (fun err ↦ .nothing) (fun hkey ↦ ?_)
  refine wp_bind_offLedger ((audit_inert _ _ _ _).mono fun _ h ↦ h.offLedger) fun _ v hv hi ↦ ?_
  simp only [pure_eq, wp_ret, hv, hi]
  exact .opened hm hid.symm (by simpa [Open, not_or] using hclosed) rfl (by simp [portalPayment])

theorem setStatus_created {t : Table Payment} {p : Payment} {n : ℕ} (hn : n = t.next)
    (status : PaymentStatus) (actor : Option ℕ) (now : Option Time) (reason : String) :
    (t.insert p).update (·.id == n) (Payment.setStatus status actor now reason) =
      t.insert (p.setStatus status actor now reason) :=
  Table.update_insert_self (fun _ ↦ by rw [hn]; rfl) rfl

theorem setGatewayInfo_created {t : Table Payment} {p : Payment} {n : ℕ} (hn : n = t.next)
    (info : GatewayInfo) : (t.insert p).update (·.id == n) (Payment.setGatewayInfo info) =
      t.insert (p.setGatewayInfo info) :=
  Table.update_insert_self (fun _ ↦ by rw [hn]; rfl) rfl

/-- Whatever the gateway does, the new row ends up pending or rejected. -/
theorem initiatePayment_effect {invoiceID customerID : ℕ} :
    (Service.initiatePayment invoiceID customerID).wp Call.exec ok
      (fun _ w' ↦ Effect w op w'.payments w'.invoices) w := by
  simp only [Service.initiatePayment, perform_bind]
  refine wp_bind_offLedger (buildGateway_inert.mono fun _ h ↦ h.offLedger) fun r v hv hi ↦ ?_
  have idle : Effect w op v.payments v.invoices := by
    rw [hv, hi]
    exact .nothing
  cases r with
  | error err => exact idle
  | ok gw =>
    refine wp_invoices_getByID (fun err ↦ idle) (fun inv hinv ↦ ?_)
    obtain ⟨hm, hid⟩ := Table.get_eq_some.mp (hi ▸ hinv)
    dsimp only
    split_ifs with hcust hpaid hcancelled
    · exact idle
    · exact idle
    · exact idle
    refine wp_call_offLedger (c := .customers customerID) trivial fun r u hu hj ↦ ?_
    rw [← hu, ← hj] at idle
    cases r with
    | error err => exact idle
    | ok cust =>
      refine wp_now fun now ↦ wp_payments_create (fun err ↦ idle) (fun hkey ↦ ?_)
      refine wp_bind_offLedger ((settingStr_inert _ _).mono fun _ h ↦ h.offLedger)
        fun appURL x hx hx' ↦ ?_
      refine wp_bind_offLedger (createInvoice_offLedger _ _) fun r y hy hy' ↦ ?_
      have hpay : y.payments =
          w.payments.insert (gatewayPayment inv invoiceID customerID now) := by
        rw [hy, hx, hu, hv]
      have hnext : u.payments.next = w.payments.next := by rw [hu, hv]
      have hinvs : y.invoices = w.invoices := by rw [hy', hx', hj, hi]
      have opened : ∀ p : Payment, p.invoiceID = invoiceID → p.amount = inv.amount →
          p.status ≠ .confirmed → Effect w op (w.payments.insert p) w.invoices :=
        fun p h ↦ .opened hm (h.trans hid.symm) ⟨hpaid, hcancelled⟩
      cases r with
      | error err =>
        refine wp_payments_updateStatus (fun _ ↦ ?_) ?_
        · simp only [pure_eq, wp_ret, hpay, hinvs]
          exact opened _ rfl rfl (by simp [gatewayPayment])
        · simp only [pure_eq, wp_ret, hpay, hinvs]
          rw [setStatus_created hnext]
          exact opened _ rfl rfl (by simp [Payment.setStatus])
      | ok result =>
        refine wp_payments_updateGatewayInfo (fun _ ↦ ?_) ?_
        · simp only [pure_eq, wp_ret, hpay, hinvs]
          exact opened _ rfl rfl (by simp [gatewayPayment])
        · simp only [pure_eq, wp_ret, hpay, hinvs]
          rw [setGatewayInfo_created hnext]
          exact opened _ rfl rfl (by simp [Payment.setGatewayInfo, gatewayPayment])

theorem confirm_effect {paymentID : ℕ} {actor : Option ℕ}
    (hop : op = .confirm paymentID actor) :
    (Service.confirm paymentID actor).wp Call.exec ok
      (fun _ w' ↦ Effect w op w'.payments w'.invoices) w := by
  simp only [Service.confirm, perform_bind]
  refine wp_payments_getByID (fun err ↦ .nothing) (fun p hp ↦ ?_)
  obtain ⟨hm, hid⟩ := Table.get_eq_some.mp hp
  dsimp only
  split_ifs with hpending
  · exact .nothing
  refine wp_now fun now ↦ wp_payments_updateStatus (fun err ↦ .nothing) ?_
  refine (wp_bind _ _ _).mpr (wp_mono (applySettlement_settled _ _) fun _ w' h ↦ ?_)
  refine wp_bind_offLedger ((audit_inert _ _ _ _).mono fun _ h ↦ h.offLedger) fun _ v hv hi ↦ ?_
  simp only [pure_eq, wp_ret, hv, hi, h.1]
  subst hid
  refine .confirmed hm (not_not.mp hpending) ?_ h.2
  simp [hop, Operation.settles, hp, Option.filter, not_not.mp hpending]

theorem reject_effect {paymentID : ℕ} {reason : String} {actor : Option ℕ} :
    (Service.reject paymentID reason actor).wp Call.exec ok
      (fun _ w' ↦ Effect w op w'.payments w'.invoices) w := by
  simp only [Service.reject, perform_bind]
  refine wp_payments_getByID (fun err ↦ .nothing) (fun p hp ↦ ?_)
  obtain ⟨hm, hid⟩ := Table.get_eq_some.mp hp
  dsimp only
  split_ifs with hpending
  · exact .nothing
  refine wp_payments_updateStatus (fun err ↦ .nothing) ?_
  refine wp_bind_offLedger ((audit_inert _ _ _ _).mono fun _ h ↦ h.offLedger) fun _ v hv hi ↦ ?_
  refine wp_bind_offLedger ((notifyRejected_inert _).mono fun _ h ↦ h.offLedger)
    fun _ u hu hj ↦ ?_
  simp only [pure_eq, wp_ret, hu, hj, hv, hi]
  subst hid
  exact .rejected hm (not_not.mp hpending)

theorem processWebhook_effect {event : PaymentEvent} (hop : op = .processWebhook event) :
    (Service.processWebhook event).wp Call.exec ok
      (fun _ w' ↦ Effect w op w'.payments w'.invoices) w := by
  simp only [Service.processWebhook, webhookConfirm, perform_bind]
  refine wp_payments_getByExternalRef (fun err ↦ .nothing) (fun p hp ↦ ?_)
  have hm := Table.mem_of_find hp
  dsimp only
  split_ifs with hdone
  · exact .nothing
  have hpending : p.status = .pending := by
    cases hs : p.status <;> simp_all
  have refused : (webhookReject p event.status).wp Call.exec ok
      (fun _ w' ↦ Effect w op w'.payments w'.invoices) w := by
    refine wp_payments_updateStatus (fun err ↦ .nothing) ?_
    refine wp_bind_offLedger ((audit_inert _ _ _ _).mono fun _ h ↦ h.offLedger)
      fun _ v hv hi ↦ ?_
    simp only [pure_eq, wp_ret, hv, hi]
    exact .rejected hm hpending
  split
  next hs =>
    refine wp_now fun now ↦ wp_payments_updateStatus (fun err ↦ .nothing) ?_
    refine (wp_bind _ _ _).mpr (wp_mono (applySettlement_settled _ _) fun _ w' h ↦ ?_)
    refine wp_bind_offLedger ((audit_inert _ _ _ _).mono fun _ h ↦ h.offLedger)
      fun _ v hv hi ↦ ?_
    simp only [pure_eq, wp_ret, hv, hi, h.1]
    refine .confirmed hm hpending ?_ h.2
    simp [hop, Operation.settles, hs, hp, Option.filter, hpending]
  next => exact refused
  next => exact refused
  next => exact .nothing

theorem collect_effect {req : PaymentCollectRequest} {actor : Option ℕ}
    (hop : op = .collect req actor) :
    (Handler.collect req actor).wp Call.exec ok
      (fun _ w' ↦ Effect w op w'.payments w'.invoices) w := by
  simp only [Handler.collect, perform_bind]
  split_ifs with hvalid
  swap
  · exact .nothing
  refine wp_invoices_getByPaymentCode (fun err ↦ .nothing) (fun inv hinv ↦ ?_)
  dsimp only
  split_ifs with hpaid hcancelled
  · exact .nothing
  · exact .nothing
  have hsettles : op.settles w = Operation.manualSettles (collectPayment inv req) w := by
    simp_all [Operation.settles]
  refine (wp_bind _ _ _).mpr (wp_mono (createManual_effect hsettles ?_) fun r w' h ↦ ?_)
  · intro _ inv' hinv' hid
    exact (Table.eq_of_key hinv' (Table.mem_of_find hinv) hid) ▸ le_rfl
  · cases r with
    | error err => exact h
    | ok p => exact wp_now fun now ↦ h

theorem cancel_effect {invoiceID : ℕ} {actor : Option ℕ} :
    (Handler.cancel invoiceID actor).wp Call.exec ok
      (fun _ w' ↦ Effect w op w'.payments w'.invoices) w := by
  simp only [Handler.cancel, perform_bind]
  refine wp_invoices_getByID (fun err ↦ .nothing) (fun inv hinv ↦ ?_)
  obtain ⟨hm, hid⟩ := Table.get_eq_some.mp hinv
  dsimp only
  split_ifs with hpaid
  · exact .nothing
  refine wp_invoices_updateStatus (fun err ↦ .nothing) (fun now ↦ ?_)
  refine wp_bind_offLedger ((audit_inert _ _ _ _).mono fun _ h ↦ h.offLedger) fun _ v hv hi ↦ ?_
  simp only [pure_eq, wp_ret, hv, hi]
  subst hid
  exact .cancelled hm hpaid

/-- One operation, whatever fails on the way. -/
theorem Operation.effect (op : Operation) (w : World) : op.prog.wp Call.exec ok
    (fun _ w' ↦ Effect w op w'.payments w'.invoices) w := by
  cases op with
  | createManual p actor =>
    exact (wp_bind _ _ _).mpr (createManual_effect rfl fun h ↦ h)
  | createPortalPayment => exact (wp_bind _ _ _).mpr createPortalPayment_effect
  | initiatePayment => exact (wp_bind _ _ _).mpr initiatePayment_effect
  | confirm => exact (wp_bind _ _ _).mpr (confirm_effect rfl)
  | reject => exact (wp_bind _ _ _).mpr reject_effect
  | processWebhook => exact (wp_bind _ _ _).mpr (processWebhook_effect rfl)
  | collect => exact (wp_bind _ _ _).mpr (collect_effect rfl)
  | cancel => exact (wp_bind _ _ _).mpr cancel_effect

end Effects

end Rosmon.Ledger
