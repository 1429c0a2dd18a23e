import Mathlib.Data.Fintype.Basic
import Rosmon.Concurrent.Callback

namespace Rosmon.Concurrent

open Library Store Program Service Handler

inductive Party
  | server
  | gateway
  deriving DecidableEq

instance : Fintype Party := ⟨{.server, .gateway}, fun i ↦ by cases i <;> decide⟩

/-- Of all calls only the one that saves the reference may fail. -/
def Env.forCall (e : Env) : Call → Env
  | .payments (.updateGatewayInfo ..) => e
  | _ => { e with fault := none }

def execSaving (c : Call) (e : Env) (w : World) : c.Reply × World := c.exec (Env.forCall e c) w

/-- The gateway answers with an invoice `ref`, or not at all. -/
def Issues (ref : String) (e : Env) : Prop :=
  ∀ result, e.gateway.reply = .ok result → result.externalRef = ref

/-- What `InitiatePayment` asks for before it stores a payment, and no payment
bears the new reference yet. -/
structure Payable (ref : String) (invoiceID : ℕ) (w : World) : Prop where
  configured : Go.trimSpace ((w.settings.lookup "payment.xendit_secret_key").getD "") ≠ ""
  invoice : (w.invoices.get invoiceID).isSome
  fresh : ∀ p ∈ w.payments, ¬Payment.named "xendit" ref p

/-- The reference has been saved when a delivery looks the payment up. -/
def LookedUpAfterSave (_ : World) (m : Party → Phase) (_ : Party) : Call → Prop
  | .payments (.getByExternalRef ..) => ∃ id, m .server = .saved id
  | _ => True

instance (m : Phase) : Decidable (∃ id, m = .saved id) :=
  match m with
  | .saved id => isTrue ⟨id, rfl⟩
  | .opening | .opened _ | .answered _ | .unsaved | .waiting | .window .. | .wrote _ | .settled
  | .stray => isFalse nofun

instance (w : World) (m : Party → Phase) (i : Party) (c : Call) :
    Decidable (LookedUpAfterSave w m i c) := by
  unfold LookedUpAfterSave
  split <;> infer_instance

/-- The payment `id` is confirmed and its invoice paid. -/
structure Settled (id invoiceID : ℕ) (w : World) : Prop where
  payment : (w.payments.get id).map (·.status) = some .confirmed
  invoice : (w.invoices.get invoiceID).map (·.status) = some .paid

instance (id invoiceID : ℕ) (w : World) : Decidable (Settled id invoiceID w) :=
  decidable_of_iff (_ ∧ _) ⟨fun h ↦ ⟨h.1, h.2⟩, fun h ↦ ⟨h.payment, h.invoice⟩⟩

/-- The payment is pending, and no other one may bear the reference. -/
structure Booked (ref : String) (invoiceID id : ℕ) (w : World) : Prop where
  row : ∃ p, w.payments.get id = some p ∧ p.invoiceID = invoiceID ∧ p.gatewayName = "xendit" ∧
    p.status = .pending
  alone : ∀ p ∈ w.payments, Payment.named "xendit" ref p → p.id = id

/-- Where the two parties can be together. -/
inductive Stand (ref : String) (invoiceID id : ℕ) (w : World) : Phase → Phase → Prop
  | opening : w.payments.next = id → (∀ p ∈ w.payments, ¬Payment.named "xendit" ref p) →
      Stand ref invoiceID id w .opening .waiting
  | opened : Booked ref invoiceID id w → Stand ref invoiceID id w (.opened id) .waiting
  | answered : Booked ref invoiceID id w → Stand ref invoiceID id w (.answered id) .waiting
  | unsaved : Stand ref invoiceID id w .unsaved .waiting
  | saved : Booked ref invoiceID id w → (w.payments.get id).map (·.externalRef) = some ref →
      Stand ref invoiceID id w (.saved id) .waiting
  | window : (w.payments.get id).isSome → Stand ref invoiceID id w (.saved id) (.window id invoiceID)
  | wrote : (w.payments.get id).map (·.status) = some .confirmed →
      Stand ref invoiceID id w (.saved id) (.wrote invoiceID)
  | settled : Settled id invoiceID w → Stand ref invoiceID id w (.saved id) .settled

section Steps

variable {ref : String} {invoiceID id : ℕ} {w w' : World} {s g : Phase} {c : Call} {e : Env}

theorem Stand.same (h : Stand ref invoiceID id w s g) (hp : w'.payments = w.payments)
    (hi : w'.invoices = w.invoices) : Stand ref invoiceID id w' s g := by
  have hbooked : Booked ref invoiceID id w → Booked ref invoiceID id w' :=
    fun ⟨hrow, halone⟩ ↦ ⟨hp ▸ hrow, hp ▸ halone⟩
  cases h with
  | opening hnext hfresh => exact .opening (hp ▸ hnext) (hp ▸ hfresh)
  | opened hb => exact .opened (hbooked hb)
  | answered hb => exact .answered (hbooked hb)
  | unsaved => exact .unsaved
  | saved hb href => exact .saved (hbooked hb) (hp ▸ href)
  | window hrow => exact .window (hp ▸ hrow)
  | wrote hrow => exact .wrote (hp ▸ hrow)
  | settled hs => exact .settled ⟨hp ▸ hs.payment, hi ▸ hs.invoice⟩

theorem Stand.not_stray (h : Stand ref invoiceID id w s .stray) : False := nomatch h

theorem Stand.of_settled (h : Stand ref invoiceID id w s .settled) : Settled id invoiceID w := by
  cases h with
  | settled hs => exact hs

theorem exec_settings (c : Call) (e : Env) (w : World) : (c.exec e w).2.settings = w.settings := by
  cases c with
  | now | newPaymentCode | notify | xendit | device | contextDone | rangeKeys => rfl
  | _ => exact orFault_keeps (P := fun v ↦ v.settings = w.settings) rfl rfl

theorem Call.plain.offLedger (hc : Call.plain c) : c.offLedger := by
  cases c with
  | payments | settings | xendit => exact hc.elim
  | invoices c => exact hc
  | _ => trivial

/-- The payment a row is stored for. -/
theorem Booked.insert {p : Payment} (hnext : w.payments.next = id)
    (hfresh : ∀ q ∈ w.payments, ¬Payment.named "xendit" ref q) (hinvoice : p.invoiceID = invoiceID)
    (hgateway : p.gatewayName = "xendit") (hpending : p.status = .pending) :
    Booked ref invoiceID id { w with payments := w.payments.insert p } := by
  subst hnext
  refine ⟨⟨_, Table.get_insert_self _ _, hinvoice, hgateway, hpending⟩, fun q hq hnamed ↦ ?_⟩
  rcases Table.mem_insert.mp hq with hq | rfl
  · exact absurd hnamed (hfresh q hq)
  · rfl

theorem Booked.save (h : Booked ref invoiceID id w) {info : GatewayInfo}
    (href : info.externalRef = ref) : Booked ref invoiceID id { w with
      payments := w.payments.update (·.id == id) (Payment.setGatewayInfo info) } ∧
    ((w.payments.update (·.id == id) (Payment.setGatewayInfo info)).get id).map
      (·.externalRef) = some ref := by
  obtain ⟨p, hp, hrow⟩ := h.row
  have hid := (Payment.get_iff.mp hp).2
  have hget : (w.payments.update (·.id == id) (Payment.setGatewayInfo info)).get id =
      some (p.setGatewayInfo info) := by simp [Table.get_update, hp, hid]
  refine ⟨⟨⟨_, hget, hrow⟩, fun q' hq' hnamed ↦ ?_⟩, by simp [hget, Payment.setGatewayInfo, href]⟩
  obtain ⟨q, hq, rfl⟩ := Table.mem_update.mp hq'
  by_cases hqid : q.id = id
  · rw [if_pos (by simpa using hqid)]
    exact hqid
  · rw [if_neg (by simpa using hqid)] at hnamed ⊢
    exact h.alone q hq hnamed

/-- Once the reference is saved, the gateway's reference leads to the payment. -/
theorem Booked.find (h : Booked ref invoiceID id w)
    (href : (w.payments.get id).map (·.externalRef) = some ref) :
    ∃ p, w.payments.find (Payment.named "xendit" ref) = some p ∧ w.payments.get id = some p ∧
      p.id = id ∧ p.invoiceID = invoiceID ∧ p.status = .pending := by
  obtain ⟨p, hp, hinvoice, hgateway, hpending⟩ := h.row
  obtain ⟨hm, hid⟩ := Payment.get_iff.mp hp
  simp only [hp, Option.map_some, Option.some.injEq] at href
  cases hq : w.payments.find (Payment.named "xendit" ref) with
  | none => simpa [Payment.named, hgateway, href] using Table.find_eq_none.mp hq p hm
  | some q =>
    have hqid := h.alone q (Table.mem_of_find hq) (Table.find_sat hq)
    obtain rfl := Table.eq_of_key (Table.mem_of_find hq) hm (hqid.trans hid.symm)
    exact ⟨q, rfl, hp, hid, hinvoice, hpending⟩

/-- What `InitiatePayment` does next. -/
theorem Stand.server (h : Stand ref invoiceID id w s g) (hc : Moves ref invoiceID s c)
    (he : Issues ref e) : Stand ref invoiceID id (execSaving c e w).2
      ((callbackObserver ref invoiceID).next s c (execSaving c e w).1) g := by
  cases hc with
  | plain _ hc =>
    rw [next_plain _ hc]
    exact h.same (Call.exec_offLedger hc.offLedger _ w).1 (Call.exec_offLedger hc.offLedger _ w).2
  | setting _ key =>
    have hsame : ∀ r, (callbackObserver ref invoiceID).next s (.settings key) r = s := by
      cases h <;> exact fun _ ↦ rfl
    rw [hsame]
    exact h.same rfl rfl
  | create p hinvoice hgateway hpending =>
    obtain ⟨hnext, hfresh⟩ := h
    by_cases hdup : (w.payments.find fun q ↦ q.idempotencyKey = p.idempotencyKey).isSome
    · simp only [execSaving, Env.forCall, Call.exec, PaymentCall.exec, hdup, if_true, orFault]
      exact .opening hnext hfresh
    · simp only [execSaving, Env.forCall, Call.exec, PaymentCall.exec, hdup, orFault, hnext]
      exact .opened (.insert hnext hfresh hinvoice hgateway hpending)
  | ask n req =>
    have hsame : Stand ref invoiceID id (execSaving (.xendit req) e w).2 (.opened n) g :=
      h.same rfl rfl
    cases hr : e.gateway.reply with
    | error err =>
      simp only [execSaving, Env.forCall, Call.exec, hr] at hsame ⊢
      exact hsame
    | ok result =>
      simp only [execSaving, Env.forCall, Call.exec, hr, next_asked,
        if_pos (he result hr)] at hsame ⊢
      cases hsame with
      | opened hb => exact .answered hb
  | refuse =>
    cases h
    exact .unsaved
  | save n info href =>
    cases h with
    | answered hb =>
      obtain ⟨err, hx⟩ | ⟨-, hx⟩ := update_cases e w .paymentNotFound w.payments (·.id == id)
        (Payment.setGatewayInfo info) (fun t ↦ { w with payments := t }) rfl
      · simp only [execSaving, Env.forCall, Call.exec, PaymentCall.exec, hx]
        exact .unsaved
      · simp only [execSaving, Env.forCall, Call.exec, PaymentCall.exec, hx]
        exact .saved (hb.save href).1 (hb.save href).2
  | lookup | confirm | settle | settled | stray => cases h

/-- What a delivery does next. -/
theorem Stand.gateway (h : Stand ref invoiceID id w s g) (hc : Moves ref invoiceID g c)
    (hkey : Go.trimSpace ((w.settings.lookup "payment.xendit_secret_key").getD "") ≠ "")
    (hinvoice : (w.invoices.get invoiceID).isSome)
    (hlookup : g = .waiting → c = .payments (.getByExternalRef "xendit" ref) → ∃ n, s = .saved n) :
    Stand ref invoiceID id (execSaving c e w).2 s
      ((callbackObserver ref invoiceID).next g c (execSaving c e w).1) := by
  cases hc with
  | plain _ hc =>
    rw [next_plain _ hc]
    exact h.same (Call.exec_offLedger hc.offLedger _ w).1 (Call.exec_offLedger hc.offLedger _ w).2
  | setting _ key =>
    have hsame : (callbackObserver ref invoiceID).next g (.settings key)
        (execSaving (.settings key) e w).1 = g := by
      cases g with
      | waiting =>
        refine if_neg ?_
        rintro ⟨rfl, hblank⟩
        refine hkey ?_
        simp only [execSaving, Env.forCall, Call.exec, orFault] at hblank
        cases hl : w.settings.lookup "payment.xendit_secret_key" <;>
          simpa [found, hl, Except.toOption] using hblank
      | _ => rfl
    rw [hsame]
    exact h.same rfl rfl
  | lookup =>
    obtain ⟨n, rfl⟩ := hlookup rfl rfl
    cases h with
    | saved hb href =>
      obtain ⟨p, hfind, hp, rfl, rfl, hpending⟩ := hb.find href
      simp only [execSaving, Env.forCall, Call.exec, PaymentCall.exec, orFault, hfind, found_some]
      rw [next_found, if_pos hpending]
      exact .window (by simp [hp])
  | confirm n m now =>
    cases h with
    | window hrow =>
      obtain ⟨p, hp⟩ := Option.isSome_iff_exists.mp hrow
      have hfind : w.payments.find (·.id == id) = some p := hp
      have hid := (Payment.get_iff.mp hp).2
      simp only [execSaving, Env.forCall, Call.exec, PaymentCall.exec, orFault, updated, hfind,
        Option.isSome_some, if_true]
      exact .wrote (by simp [Table.get_update, hp, hid, Payment.setStatus])
  | settle n paidAt =>
    cases h with
    | wrote hrow =>
      obtain ⟨inv, hinv⟩ := Option.isSome_iff_exists.mp hinvoice
      have hfind : w.invoices.find (·.id == invoiceID) = some inv := hinv
      have hid := (Invoice.get_iff.mp hinv).2
      simp only [execSaving, Env.forCall, Call.exec, InvoiceCall.exec, orFault, updated, hfind,
        Option.isSome_some, if_true]
      exact .settled ⟨hrow, by simp [Table.get_update, hinv, hid, Invoice.setStatus]⟩
  | settled hc =>
    exact h.same (Call.exec_offLedger hc _ w).1 (Call.exec_offLedger hc _ w).2
  | create | ask | refuse | save | stray => cases h

end Steps

section Run

variable {ref : String} {invoiceID id : ℕ} {w : World} {m : Party → Phase}

/-- What holds at every moment of a run. -/
structure Underway (ref : String) (invoiceID id : ℕ) (w : World) (m : Party → Phase) : Prop where
  stand : Stand ref invoiceID id w (m .server) (m .gateway)
  configured : Go.trimSpace ((w.settings.lookup "payment.xendit_secret_key").getD "") ≠ ""
  invoice : (w.invoices.get invoiceID).isSome

theorem exec_invoice (c : Call) (e : Env) (h : (w.invoices.get invoiceID).isSome) :
    ((c.exec e w).2.invoices.get invoiceID).isSome := by
  obtain hw | ⟨inv, -, hw⟩ | ⟨id, status, paidAt, -, hw⟩ := invoices_cases c e w
  · rwa [hw]
  · obtain ⟨inv', hinv'⟩ := Option.isSome_iff_exists.mp h
    obtain ⟨hmem, hid⟩ := Invoice.get_iff.mp hinv'
    rw [hw, Invoice.get_iff.mpr ⟨Table.mem_insert.mpr (.inl hmem), hid⟩]
    rfl
  · simpa [hw, Table.get_update] using h

theorem Underway.step (h : Underway ref invoiceID id w m) {i : Party} {c : Call} {e : Env}
    (hc : Moves ref invoiceID (m i) c) (hg : LookedUpAfterSave w m i c) (he : Issues ref e) :
    Underway ref invoiceID id (execSaving c e w).2 (Function.update m i
      ((callbackObserver ref invoiceID).next (m i) c (execSaving c e w).1)) := by
  refine ⟨?_, (exec_settings c _ w).symm ▸ h.configured, exec_invoice c _ h.invoice⟩
  cases i with
  | server =>
    rw [Function.update_self, Function.update_of_ne (by decide)]
    exact h.stand.server hc he
  | gateway =>
    rw [Function.update_self, Function.update_of_ne (by decide)]
    refine h.stand.gateway hc h.configured h.invoice ?_
    rintro - rfl
    exact hg

end Run

/-- One `InitiatePayment` and the gateway's callback, before the first call. -/
def paymentOn (w : World) (invoiceID customerID : ℕ) (deliveries : List (String × List Char)) :
    Pool Party Call Call.Reply Bool World Phase where
  state := w
  threads
    | .server => Except.isOk <$> initiatePayment invoiceID customerID
    | .gateway => deliver deliveries
  marks
    | .server => .opening
    | .gateway => .waiting

def paymentAfter (w : World) (ref : String) (invoiceID customerID : ℕ)
    (deliveries : List (String × List Char)) (schedule : List (Party × Env)) :
    Pool Party Call Call.Reply Bool World Phase :=
  (paymentOn w invoiceID customerID deliveries).run execSaving (callbackObserver ref invoiceID)
    schedule

/-- As long as every delivery looks the payment up after its reference has been
saved, an accepted delivery means that the payment is confirmed and its invoice paid. -/
theorem accepted_callback_settles (w : World) (ref : String) (invoiceID customerID : ℕ)
    (deliveries : List (String × List Char)) (schedule : List (Party × Env))
    (hw : Payable ref invoiceID w) (hbodies : ∀ d ∈ deliveries, Pays ref d.2)
    (henv : ∀ a ∈ schedule, Issues ref a.2)
    (hg : (paymentOn w invoiceID customerID deliveries).Guarded execSaving
      (callbackObserver ref invoiceID) LookedUpAfterSave schedule)
    (haccepted : (paymentAfter w ref invoiceID customerID deliveries schedule).result .gateway =
      some true) :
    Settled w.payments.next invoiceID
      (paymentAfter w ref invoiceID customerID deliveries schedule).state := by
  have hstart : (paymentOn w invoiceID customerID deliveries).Sound (callbackObserver ref invoiceID)
      (fun i m accepted ↦ i = .gateway → accepted = true → m = .stray ∨ m = .settled)
      (Underway ref invoiceID w.payments.next) := by
    refine ⟨⟨.opening rfl hw.fresh, hw.configured, hw.invoice⟩, fun i ↦ ?_⟩
    cases i with
    | server =>
      exact (follows_map _ _ _).mpr ((initiatePayment_follows customerID).mono fun _ _ _ ↦ nofun)
    | gateway => exact (deliver_settles hbodies).mono fun _ _ h _ ↦ h
  have hend := hstart.run (Issues ref) (fun v m i c e h hc hg he ↦ h.step hc hg he) hg henv
  rcases hend.result haccepted rfl rfl with hm | hm
  · exact (Stand.not_stray (hm ▸ hend.inv.stand)).elim
  · exact Stand.of_settled (hm ▸ hend.inv.stand)

def paidBody : List Char := "\x7b\"id\":\"inv-1\",\"status\":\"PAID\"\x7d".toList

/-- `n` calls of one party, while the gateway answers with the invoice `inv-1`. -/
def calls (n : ℕ) (i : Party) : List (Party × Env) := List.replicate n (i, .answering "inv-1" 0)

def openInvoice : World := (World.oneInvoice 150000 .active).withGateway

/-- `InitiatePayment` is through, a callback has been accepted, and the payment is lost. -/
def Lost (schedule : List (Party × Env)) : Prop :=
  let p := paymentAfter openInvoice "inv-1" 1 1 [("", paidBody)] schedule
  p.result .server = some true ∧ p.result .gateway = some true ∧
    ¬Settled 1 1 p.state

instance (schedule : List (Party × Env)) : Decidable (Lost schedule) :=
  inferInstanceAs (Decidable (_ ∧ _))

/-- The callback comes after the gateway has created its invoice: once before its
reference is saved, once after this has failed. -/
theorem callback_lost :
    Lost (calls 10 .server ++ calls 11 .gateway ++ calls 1 .server) ∧
      Lost (calls 10 .server ++ [(.server, .broken 0)] ++ calls 11 .gateway) := by
  decide +kernel

theorem pays_paidBody : Pays "inv-1" paidBody := by
  intro event hevent
  have h : parseWebhookEvent paidBody = some ⟨"inv-1", .paid, 0, "xendit"⟩ := by decide +kernel
  obtain rfl := Option.some.inj (hevent.symm.trans h)
  exact ⟨rfl, rfl⟩

/-- A callback after the reference has been saved settles the payment. -/
theorem late_callback_settles : Settled 1 1
    (paymentAfter openInvoice "inv-1" 1 1 [("", paidBody)]
      (calls 11 .server ++ calls 11 .gateway)).state :=
  accepted_callback_settles openInvoice "inv-1" 1 1 [("", paidBody)] _
    ⟨by decide +kernel, by decide +kernel, by decide +kernel⟩ (by simpa using pays_paidBody)
    (by simp [calls, Issues, Env.answering]) (by decide +kernel) (by decide +kernel)

end Rosmon.Concurrent
