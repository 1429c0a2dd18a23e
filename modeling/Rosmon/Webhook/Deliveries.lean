import Rosmon.Webhook.Named

namespace Rosmon.Webhook

open Go Library Store Program Service Ledger

/-- A raw body and what the outside world offers while it is processed. -/
abbrev Delivery := List Char × (ℕ → Env)

def deliver (w : World) (d : Delivery) : World := ((receive d.1).run Call.exec d.2 w).2

/-- The body can be parsed and names this reference. -/
def Refers (rawBody : List Char) (ref : String) : Prop :=
  ∃ wb, XenditWebhookBody.unmarshal rawBody = some wb ∧ wb.externalRef = ref

/-- The body carries the status PAID, in any letter case. -/
def CarriesPaid (rawBody : List Char) : Prop :=
  ∃ wb, XenditWebhookBody.unmarshal rawBody = some wb ∧ toLower wb.status = "paid"

instance (rawBody : List Char) (ref : String) : Decidable (Refers rawBody ref) :=
  decidable_of_iff (∃ wb ∈ XenditWebhookBody.unmarshal rawBody, wb.externalRef = ref) Iff.rfl

instance (rawBody : List Char) : Decidable (CarriesPaid rawBody) :=
  decidable_of_iff (∃ wb ∈ XenditWebhookBody.unmarshal rawBody, toLower wb.status = "paid") Iff.rfl

theorem Refers.event {rawBody : List Char} {ref : String} (h : Refers rawBody ref) :
    ∃ event, parseWebhookEvent rawBody = some event ∧ event.externalRef = ref ∧
      event.gatewayName = "xendit" ∧ (event.status = .paid ↔ CarriesPaid rawBody) := by
  obtain ⟨wb, hwb, href⟩ := h
  refine ⟨wb.event, by simp [parseWebhookEvent, hwb], href, rfl, ?_⟩
  simp only [CarriesPaid, hwb, Option.some.injEq, exists_eq_left', XenditWebhookBody.event,
    XenditWebhookBody.eventStatus]
  split_ifs <;> simp_all

variable {w : World} {ref : String} {p : Payment}

/-- A body about a payment that is no longer pending does nothing, whatever fails. -/
theorem deliver_decided {d : Delivery} (hd : Refers d.1 ref)
    (hp : w.payments.find (Payment.named "xendit" ref) = some p) (hdone : p.status ≠ .pending) :
    deliver w d = w := by
  obtain ⟨event, hevent, rfl, hgateway, -⟩ := hd.event
  have hwp : (processWebhook event).wp Call.exec (fun _ ↦ True) (fun _ w' ↦ w' = w) w := by
    simp only [processWebhook, perform_bind]
    refine wp_payments_getByExternalRef (fun err ↦ rfl) (fun q hq ↦ ?_)
    obtain rfl : p = q := Option.some.inj (hp.symm.trans (hgateway ▸ hq))
    have hclosed : p.status = .confirmed ∨ p.status = .rejected := by
      cases hs : p.status <;> simp_all
    simp only [hclosed, if_true]
    rfl
  simp only [deliver, receive, hevent, run_map]
  exact run_of_wp hwp _ fun _ ↦ trivial

theorem deliver_all_decided {ds : List Delivery} (hds : ∀ d ∈ ds, Refers d.1 ref)
    (hp : w.payments.find (Payment.named "xendit" ref) = some p) (hdone : p.status ≠ .pending) :
    ds.foldl deliver w = w := by
  induction ds with
  | nil => rfl
  | cons d ds ih =>
    rw [List.foldl_cons, deliver_decided (hds d (by simp)) hp hdone]
    exact ih fun d hd ↦ hds d (by simp [hd])

/-- The payment is confirmed and its invoice paid. -/
structure Honoured (p : Payment) (w w' : World) : Prop where
  payment : ∃ q, w'.payments.get p.id = some q ∧ q.status = .confirmed
  invoice : ∀ inv ∈ w.invoices, inv.id = p.invoiceID →
    ∃ inv' ∈ w'.invoices, inv'.id = inv.id ∧ inv'.status = .paid

/-- The payment is rejected and no invoice is touched. -/
structure Refused (p : Payment) (w w' : World) : Prop where
  payment : ∃ q, w'.payments.get p.id = some q ∧ q.status = .rejected
  invoices : w'.invoices = w.invoices

/-- A new status does not hide a payment from the bodies that name it. -/
theorem find_setStatus (hp : w.payments.find (Payment.named "xendit" ref) = some p)
    (status : PaymentStatus) (actor : Option ℕ) (now : Option Time) (reason : String) :
    (w.payments.update (·.id == p.id) (Payment.setStatus status actor now reason)).find
      (Payment.named "xendit" ref) = some (p.setStatus status actor now reason) := by
  rw [Table.find_update (f := Payment.setStatus status actor now reason) _ fun _ ↦ rfl, hp]
  simp

/-- The first body about a pending payment decides it, one way or the other. -/
theorem deliver_pending {d : Delivery} (hd : Refers d.1 ref) (hquiet : ∀ n, (d.2 n).fault = none)
    (hp : w.payments.find (Payment.named "xendit" ref) = some p) (hpending : p.status = .pending) :
    ∃ q, (deliver w d).payments.find (Payment.named "xendit" ref) = some q ∧
      q.status ≠ .pending ∧ (CarriesPaid d.1 → Honoured p w (deliver w d)) ∧
      (¬CarriesPaid d.1 → Refused p w (deliver w d)) := by
  obtain ⟨event, hevent, rfl, hgateway, hpaid⟩ := hd.event
  have hok : ∀ e : Env, e.fault = none → e.fault = none := fun _ h ↦ h
  have hm := Payment.get_iff.mpr ⟨Table.mem_of_find hp, rfl⟩
  have hp' := hp
  rw [← hgateway] at hp'
  simp only [deliver, receive, hevent, run_map]
  by_cases hs : event.status = .paid
  · obtain ⟨⟨now, hpay⟩, e, e', -, -, hinv⟩ :=
      run_of_wp (processWebhook_paid hok hp' hpending hs) _ hquiet
    refine ⟨p.setStatus .confirmed none (some now) "", ?_, by simp [Payment.setStatus], fun _ ↦ ⟨?_, ?_⟩, ?_⟩
    · rw [hpay]
      exact find_setStatus hp _ _ _ _
    · exact ⟨p.setStatus .confirmed none (some now) "", by simp [hpay, Table.get_update, hm], rfl⟩
    · intro inv hi hid
      refine ⟨inv.setStatus .paid (some e.now) e'.now, ?_, rfl, rfl⟩
      rw [hinv]
      exact Table.mem_update_of hi (by simpa using hid)
    · exact fun h ↦ absurd (hpaid.mp hs) h
  · have hs' := (parseWebhookEvent_status hevent).resolve_left hs
    obtain ⟨hpay, hinv⟩ := run_of_wp (processWebhook_refused hok hp' hpending hs') _ hquiet
    refine ⟨p.setStatus .rejected none none ("gateway: " ++ event.status.text), ?_, by simp [Payment.setStatus],
      fun h ↦ absurd (hpaid.mpr h) hs, fun _ ↦ ⟨?_, hinv⟩⟩
    · rw [hpay]
      exact find_setStatus hp _ _ _ _
    · exact ⟨p.setStatus .rejected none none ("gateway: " ++ event.status.text),
        by simp [hpay, Table.get_update, hm], rfl⟩

/-- Of all the bodies that name a pending payment the first one decides: PAID in any
letter case has it honoured, every other status has it refused. The later ones,
repetitions included, change nothing. -/
theorem first_delivery_decides {first : Delivery} {later : List Delivery}
    (hp : w.payments.find (Payment.named "xendit" ref) = some p) (hpending : p.status = .pending)
    (hrefers : ∀ d ∈ first :: later, Refers d.1 ref) (hquiet : ∀ n, (first.2 n).fault = none) :
    (first :: later).foldl deliver w = deliver w first ∧
      (CarriesPaid first.1 → Honoured p w (deliver w first)) ∧
      (¬CarriesPaid first.1 → Refused p w (deliver w first)) := by
  obtain ⟨q, hq, hdone, hpaid, hunpaid⟩ :=
    deliver_pending (hrefers first (by simp)) hquiet hp hpending
  exact ⟨deliver_all_decided (fun d hd ↦ hrefers d (by simp [hd])) hq hdone, hpaid, hunpaid⟩

/-- A body about the gateway invoice `inv-1` with this status. -/
def about (status : String) : List Char :=
  ("\x7b\"id\":\"inv-1\",\"status\":\"" ++ status ++ "\"\x7d").toList

/-- A payment of invoice 1 that waits for the gateway invoice `inv-1`. -/
def waiting : World :=
  ((initiatePayment 1 1).run Call.exec (fun _ ↦ .answering "inv-1" 0)
    (World.oneInvoice 150000 .active).withGateway).2

/-- An EXPIRED body makes a PAID body useless, and the status PENDING is final. -/
theorem expired_before_paid :
    (CarriesPaid (about "PAID") ∧ Refers (about "PAID") "inv-1" ∧ Refers (about "EXPIRED") "inv-1" ∧
      ∀ p ∈ ([(about "EXPIRED", fun _ ↦ .calm 1), (about "PAID", fun _ ↦ .calm 2)].foldl
        deliver waiting).payments, p.status = .rejected) ∧
    (Refers (about "PENDING") "inv-1" ∧
      ∀ p ∈ ([(about "PENDING", fun _ ↦ .calm 1)].foldl deliver waiting).payments,
        p.status = .rejected) := by
  decide +kernel

/-- A confirmation in odd letter case, an expiry, and the confirmation again. -/
def paidFirst : List Delivery :=
  (about "pAID", fun _ ↦ .calm 1) ::
    [(about "EXPIRED", fun _ ↦ .calm 2), (about "pAID", fun _ ↦ .calm 3)]

/-- In this order the payment is confirmed. -/
theorem paid_before_expired : ∃ p, waiting.payments.find (Payment.named "xendit" "inv-1") = some p ∧
    Honoured p waiting (paidFirst.foldl deliver waiting) := by
  have hfound : (waiting.payments.find (Payment.named "xendit" "inv-1")).map (·.status) =
      some .pending := by decide +kernel
  obtain ⟨p, hp, hpending⟩ := Option.map_eq_some_iff.mp hfound
  have hrefers : ∀ d ∈ paidFirst, Refers d.1 "inv-1" := by decide +kernel
  obtain ⟨hrun, hpaid, -⟩ := first_delivery_decides hp hpending hrefers fun _ ↦ rfl
  refine ⟨p, hp, ?_⟩
  rw [paidFirst, hrun]
  exact hpaid (by decide +kernel)

end Rosmon.Webhook
