import Rosmon.Frame
import Rosmon.Ledger.Quiet

namespace Rosmon.Webhook

open Library Store Program Service Ledger

/-- What a raw body does once the token has been checked: `ParseWebhookEvent` and
then `ProcessWebhook`. -/
def receive (rawBody : List Char) : Prog Unit :=
  match parseWebhookEvent rawBody with
  | none => return ()
  | some event => (fun _ ↦ ()) <$> processWebhook event

/-- The body names the payment: both references are the same and not empty. -/
def Names (rawBody : List Char) (p : Payment) : Prop :=
  ∃ event, parseWebhookEvent rawBody = some event ∧ event.externalRef = p.externalRef ∧
    p.externalRef ≠ ""

/-- The rows that do not belong to a payment the body names. -/
def unnamed (rawBody : List Char) (w : World) : Spared where
  payments n := ∀ p ∈ w.payments, Names rawBody p → p.id ≠ n
  invoices n := ∀ p ∈ w.payments, Names rawBody p → p.invoiceID ≠ n
  subscriptions n := ∀ p ∈ w.payments, Names rawBody p → ∀ inv ∈ w.invoices,
    inv.id = p.invoiceID → inv.subscriptionID ≠ n

section Spares

variable {S : Spared} {ok : Env → Prop} {w : World}

theorem restoreSubscription_frame {id : ℕ} (hid : ¬S.subscriptions id) :
    (restoreSubscription id).wp Call.exec ok (fun _ w' ↦ Frame S w w') w := by
  simp only [restoreSubscription, perform_bind]
  refine wp_subscriptions_get (fun err ↦ .refl S w) (fun sub hsub ↦ ?_)
  have hsub' : sub.id = id := by
    have h := Table.find_sat hsub
    simp only [Subscription.liveAt, Bool.and_eq_true, beq_iff_eq] at h
    exact h.2
  subst hsub'
  dsimp only
  split
  · exact wp_spares (by exact hid) fun _ v hv ↦ wp_spares (by exact hid) fun _ u hu ↦ hv.trans hu
  · exact wp_spares (by exact hid) fun _ v hv ↦ wp_spares (by exact hid) fun _ u hu ↦ hv.trans hu
  · exact .refl S w

/-- A settlement writes to one invoice and to the subscription of that invoice. -/
theorem applySettlement_frame {p : Payment} (hi : ¬S.invoices p.invoiceID)
    (hs : ∀ inv ∈ w.invoices, inv.id = p.invoiceID → ¬S.subscriptions inv.subscriptionID) :
    (applySettlement p).wp Call.exec ok (fun _ w' ↦ Frame S w w') w := by
  -- The invoice that is read back has the subscription it had before.
  have rest : ∀ v, Frame S w v → (∀ inv' ∈ v.invoices, ∃ inv ∈ w.invoices, inv.id = inv'.id ∧
      inv.subscriptionID = inv'.subscriptionID) →
      (restoreService p.invoiceID).wp Call.exec ok (fun _ w' ↦ Frame S w w') v := by
    intro v hv hsame
    simp only [restoreService, perform_bind]
    refine wp_invoices_getByID (fun err ↦ hv) (fun inv' hinv' ↦ ?_)
    obtain ⟨hm, hid'⟩ := Invoice.get_iff.mp hinv'
    obtain ⟨inv, hinv, hid, hsub⟩ := hsame inv' hm
    refine (wp_bind _ _ _).mpr (wp_mono (restoreSubscription_frame (S := S) ?_) fun b u hu ↦ ?_)
    · exact hsub ▸ hs inv hinv (hid.trans hid')
    · refine wp_mono (wp_only_spares ((notifyPaid_inert _ _).mono fun _ h ↦ h.spares S) u) ?_
      exact fun _ w' hw' ↦ (hv.trans hu).trans hw'
  simp only [applySettlement, perform_bind]
  refine wp_now fun paidAt ↦ wp_invoices_updateStatus (fun err ↦ rest w (.refl S w) ?_)
    (fun now ↦ rest _ (.update_invoices hi _) ?_)
  · exact fun inv hinv ↦ ⟨inv, hinv, rfl, rfl⟩
  · rintro inv' hinv'
    obtain ⟨inv, hinv, rfl⟩ := Table.mem_update.mp hinv'
    exact ⟨inv, hinv, by split <;> rfl, by split <;> rfl⟩

/-- A payment found pending is the only one an event writes to, together with its
invoice and the subscription of that invoice. -/
theorem processWebhook_frame {event : PaymentEvent} (h : ∀ p, w.payments.find
    (Payment.named event.gatewayName event.externalRef) = some p → p.status = .pending →
      ¬S.payments p.id ∧ ¬S.invoices p.invoiceID ∧ ∀ inv ∈ w.invoices, inv.id = p.invoiceID →
        ¬S.subscriptions inv.subscriptionID) :
    (processWebhook event).wp Call.exec ok (fun _ w' ↦ Frame S w w') w := by
  simp only [processWebhook, perform_bind]
  refine wp_payments_getByExternalRef (fun err ↦ .refl S w) (fun p hp ↦ ?_)
  dsimp only
  split_ifs with hdone
  · exact .refl S w
  have hpending : p.status = .pending := by
    cases hs : p.status <;> simp_all
  obtain ⟨hpay, hinv, hsub⟩ := h p hp hpending
  have logged : ∀ (action : String) v, Frame S w v → (audit none action "payment" p.id >>= fun _ ↦
      (.ret (.ok ()) : Prog (Except Error Unit))).wp Call.exec ok (fun _ w' ↦ Frame S w w') v := by
    intro action v hv
    refine wp_mono (wp_only_spares (Only.bind ?_ fun _ ↦ only_ret _) v) fun _ w' hw' ↦ hv.trans hw'
    exact (audit_inert _ _ _ _).mono fun _ h ↦ h.spares S
  have refused : (webhookReject p event.status).wp Call.exec ok (fun _ w' ↦ Frame S w w') w := by
    exact wp_payments_updateStatus (fun err ↦ .refl S w) (logged _ _ (.update_payments hpay _))
  split
  · simp only [webhookConfirm, perform_bind]
    refine wp_now fun now ↦ wp_payments_updateStatus (fun err ↦ .refl S w) ?_
    refine (wp_bind _ _ _).mpr (wp_mono (applySettlement_frame hinv hsub) fun _ v hv ↦ ?_)
    exact logged _ v ((Frame.update_payments hpay _).trans hv)
  · exact refused
  · exact refused
  · exact .refl S w

end Spares

/-- A body can only go astray when it names nobody: if it carries no reference and
the first payment without one is still pending. -/
def Astray (rawBody : List Char) (w : World) : Prop :=
  ∃ event p, parseWebhookEvent rawBody = some event ∧ event.externalRef = "" ∧
    w.payments.find (Payment.named "xendit" "") = some p ∧ p.status = .pending

theorem receive_frame (rawBody : List Char) (w : World) (h : ¬Astray rawBody w)
    (env : ℕ → Env) : Frame (unnamed rawBody w) w ((receive rawBody).run Call.exec env w).2 := by
  unfold receive
  split
  next => exact .refl _ w
  next event hevent =>
    have hgateway := parseWebhookEvent_gatewayName hevent
    have hwp : (processWebhook event).wp Call.exec (fun _ ↦ True)
        (fun _ w' ↦ Frame (unnamed rawBody w) w w') w := by
      refine processWebhook_frame fun p hp hpending ↦ ?_
      have hnamed := Table.find_sat hp
      simp only [Payment.named, Bool.and_eq_true, decide_eq_true_eq] at hnamed
      have href : event.externalRef ≠ "" := fun hempty ↦
        h ⟨event, p, hevent, hempty, by rw [← hgateway, ← hempty]; exact hp, hpending⟩
      have hnames : Names rawBody p := ⟨event, hevent, hnamed.2.symm, hnamed.2.symm ▸ href⟩
      have hm := Table.mem_of_find hp
      exact ⟨fun hn ↦ hn p hm hnames rfl, fun hn ↦ hn p hm hnames rfl,
        fun inv hinv hid hn ↦ hn p hm hnames inv hinv hid rfl⟩
    rw [run_map]
    exact run_of_wp hwp _ fun _ ↦ trivial

/-- When nothing fails, a parsed body that meets a pending payment decides it. -/
theorem receive_decides {rawBody : List Char} {event : PaymentEvent} {w : World} {p : Payment}
    (hevent : parseWebhookEvent rawBody = some event)
    (hp : w.payments.find (Payment.named "xendit" event.externalRef) = some p)
    (hpending : p.status = .pending) {env : ℕ → Env} (henv : ∀ n, (env n).fault = none) :
    ∃ q, ((receive rawBody).run Call.exec env w).2.payments.get p.id = some q ∧
      q.status ≠ .pending := by
  have hok : ∀ e : Env, e.fault = none → e.fault = none := fun _ h ↦ h
  have hm := Table.mem_of_find hp
  rw [← parseWebhookEvent_gatewayName hevent] at hp
  have hget := Payment.get_iff.mpr ⟨hm, rfl⟩
  simp only [receive, hevent, run_map]
  rcases parseWebhookEvent_status hevent with hs | hs
  · obtain ⟨⟨now, h⟩, -⟩ := run_of_wp (processWebhook_paid hok hp hpending hs) _ henv
    exact ⟨p.setStatus .confirmed none (some now) "", by simp [h, Table.get_update, hget],
      by simp [Payment.setStatus]⟩
  · obtain ⟨h, -⟩ := run_of_wp (processWebhook_refused hok hp hpending hs) _ henv
    exact ⟨p.setStatus .rejected none none _, by simp [h, Table.get_update, hget]; rfl,
      by simp [Payment.setStatus]⟩

/-- Whatever fails on the way, a body touches only what belongs to a payment it
names, exactly when it is not astray. -/
theorem receive_frame_iff (rawBody : List Char) (w : World) :
    (∀ env, Frame (unnamed rawBody w) w ((receive rawBody).run Call.exec env w).2) ↔
      ¬Astray rawBody w := by
  refine ⟨?_, receive_frame rawBody w⟩
  rintro h ⟨event, p, hevent, hempty, hp, hpending⟩
  have hm := Table.mem_of_find hp
  have hunnamed : (unnamed rawBody w).payments p.id := by
    rintro q hq ⟨event', -, -, hne⟩ hid
    obtain rfl := Table.eq_of_key hq hm hid
    have hnamed := Table.find_sat hp
    simp only [Payment.named, Bool.and_eq_true, decide_eq_true_eq] at hnamed
    exact hne hnamed.2
  have hcalm : ∀ n : ℕ, ((fun _ ↦ .calm 0 : ℕ → Env) n).fault = none := fun _ ↦ rfl
  obtain ⟨q, hq, hdecided⟩ := receive_decides hevent (hempty ▸ hp) hpending hcalm
  have hsame := (h fun _ ↦ .calm 0).payments p.id hunnamed
  rw [hq, Payment.get_iff.mpr ⟨hm, rfl⟩, Option.some.injEq] at hsame
  exact hdecided (hsame ▸ hpending)

/-- The gateway answers, and the call that saves its reference fails. -/
def savingFails (n : ℕ) : Env := if n = 10 then .broken 0 else .answering "inv-1" 0

/-- The store such an `InitiatePayment` leaves behind. -/
def unsaved : World :=
  ((initiatePayment 1 1).run Call.exec savingFails
    (World.oneInvoice 150000 .active).withGateway).2

def bareBody : List Char := "\x7b\"status\":\"PAID\"\x7d".toList

/-- A body without a reference confirms the payment whose reference was not saved. -/
theorem bare_body_touches_unnamed :
    ¬∀ env, Frame (unnamed bareBody unsaved) unsaved
      ((receive bareBody).run Call.exec env unsaved).2 := by
  intro h
  have hrefs : ∀ p ∈ unsaved.payments, p.externalRef = "" := by decide +kernel
  have hunnamed : (unnamed bareBody unsaved).payments 1 :=
    fun p hp ⟨_, _, _, hne⟩ ↦ absurd (hrefs p hp) hne
  have hsame := congrArg (Option.map Payment.status) ((h fun _ ↦ .calm 1).payments 1 hunnamed)
  exact absurd hsame (by decide +kernel)

end Rosmon.Webhook
