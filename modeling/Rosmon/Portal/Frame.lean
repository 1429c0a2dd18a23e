import Rosmon.Portal.Endpoints
import Rosmon.Service.Frame

namespace Rosmon.Portal

open Library Program Store Service Handler

section Base

variable {cid : ℕ} {u v w : Rosmon.World}

/-- Payments of one customer are all that differs. -/
structure OwnPayments (cid : ℕ) (w w' : Rosmon.World) : Prop where
  payments : w'.payments.rows.filter (·.customerID ≠ cid) =
    w.payments.rows.filter (·.customerID ≠ cid)
  invoices : w'.invoices = w.invoices
  subscriptions : w'.subscriptions = w.subscriptions
  customers : w'.customers = w.customers

theorem OwnPayments.refl (cid : ℕ) (w : Rosmon.World) : OwnPayments cid w w := ⟨rfl, rfl, rfl, rfl⟩

/-- A payment of the customer has been created under this key, and nothing else has happened
to what belongs to a customer. -/
def Created (cid id : ℕ) (w v : Rosmon.World) : Prop :=
  OwnPayments cid w v ∧ ∀ p ∈ v.payments, p.id = id → p.customerID = cid

/-- What is left to do once a payment has been created. -/
def afterCreate (id : ℕ) : Rosmon.Call → Prop
  | .settings _ | .xendit _ | .audit _ => True
  | .payments (.updateStatus id' ..) | .payments (.updateGatewayInfo id' _) => id' = id
  | _ => False

theorem afterCreate_of_readsSetting {c : Rosmon.Call} (hc : readsSetting c) (id : ℕ) :
    afterCreate id c := by
  cases c <;> trivial

theorem Created.of_eq {id : ℕ} (h : Created cid id w v) (hp : u.payments = v.payments)
    (hi : u.invoices = v.invoices) (hs : u.subscriptions = v.subscriptions)
    (hc : u.customers = v.customers) : Created cid id w u := by
  refine ⟨⟨?_, hi.trans h.1.invoices, hs.trans h.1.subscriptions, hc.trans h.1.customers⟩, ?_⟩
  · rw [hp]
    exact h.1.payments
  · rw [hp]
    exact h.2

theorem Created.update {id : ℕ} (h : Created cid id w v) (f : Payment → Payment) [KeepsKey f]
    (hf : ∀ p, (f p).customerID = p.customerID) :
    Created cid id w { v with payments := v.payments.update (·.id == id) f } := by
  refine ⟨⟨?_, h.1.invoices, h.1.subscriptions, h.1.customers⟩, fun p hp hid ↦ ?_⟩
  · refine (Table.filter_update fun p hp hid ↦ ?_).trans h.1.payments
    have hown := h.2 p hp (beq_iff_eq.mp hid)
    simp [hf, hown]
  · obtain ⟨q, hq, rfl⟩ := Table.mem_update.mp hp
    by_cases hq' : q.id = id
    · simp [hq', hf, h.2 q hq hq']
    · have hne : (q.id == id) = false := beq_false_of_ne hq'
      simp only [hne] at hid
      exact absurd hid hq'

theorem Created.exec {id : ℕ} {c : Rosmon.Call} (hc : afterCreate id c) (e : Rosmon.Env)
    (h : Created cid id w v) : Created cid id w (c.exec e v).2 := by
  cases c with
  | settings => exact Rosmon.orFault_keeps h h
  | audit => exact Rosmon.orFault_keeps h (h.of_eq rfl rfl rfl rfl)
  | xendit => exact h.of_eq rfl rfl rfl rfl
  | payments c =>
    refine Rosmon.orFault_keeps h ?_
    cases c with
    | updateStatus | updateGatewayInfo =>
      obtain rfl : _ = id := hc
      exact h.update _ fun _ ↦ rfl
    | create | getByID | getByExternalRef => exact hc.elim
  | _ => exact hc.elim

theorem Created.insert {p : Payment} (hp : p.customerID = cid) :
    Created cid w.payments.next w { w with payments := w.payments.insert p } := by
  refine ⟨⟨Table.filter_insert ?_, rfl, rfl, rfl⟩, fun q hq hid ↦ ?_⟩
  · simp [Row.withKey, hp]
  · obtain hq | rfl := Table.mem_insert.mp hq
    · exact absurd hid (Nat.ne_of_lt (w.payments.fresh q hq))
    · exact hp

/-- The rest of a program that has created a payment. -/
theorem wp_created {α : Type} {id : ℕ} {p : Rosmon.Prog α} (hp : p.Only (afterCreate id))
    (h : Created cid id w v) :
    p.wp Rosmon.Call.exec (fun _ ↦ True) (fun _ w' ↦ OwnPayments cid w w') v :=
  wp_mono (hp.wp (fun _ e _ hc _ hv ↦ hv.exec hc e) h) fun _ _ hw' ↦ hw'.1

theorem exec_readsSetting {c : Rosmon.Call} (hc : readsSetting c) (e : Rosmon.Env)
    (w : Rosmon.World) : (c.exec e w).2 = w := by
  cases c with
  | settings key => exact Rosmon.orFault_keeps (P := fun v ↦ v = w) rfl rfl
  | _ => exact hc.elim

theorem exec_getByID (id : ℕ) (e : Rosmon.Env) (w : Rosmon.World) :
    ((Rosmon.Call.invoices (.getByID id)).exec e w).2 = w :=
  Rosmon.orFault_keeps (P := fun v ↦ v = w) rfl rfl

theorem exec_customers (id : ℕ) (e : Rosmon.Env) (w : Rosmon.World) :
    ((Rosmon.Call.customers id).exec e w).2 = w :=
  Rosmon.orFault_keeps (P := fun v ↦ v = w) rfl rfl

theorem wp_readsSetting {α : Type} {p : Rosmon.Prog α} (hp : p.Only readsSetting)
    (w : Rosmon.World) : p.wp Rosmon.Call.exec (fun _ ↦ True) (fun _ v ↦ v = w) w :=
  hp.wp (fun _ e v hc _ hv ↦ (exec_readsSetting hc e v).trans hv) rfl

theorem createPortalPayment_own (invoiceID : ℕ) (proofURL bankName refNum : String) :
    (createPortalPayment invoiceID cid proofURL bankName refNum).wp Rosmon.Call.exec
      (fun _ ↦ True) (fun _ w' ↦ OwnPayments cid w w') w := by
  simp only [createPortalPayment, Rosmon.perform, perform_bind]
  refine wp_invoices_getByID (fun _ ↦ .refl cid w) fun inv _ ↦ ?_
  dsimp only
  split_ifs
  · exact .refl cid w
  · exact .refl cid w
  refine wp_now fun now ↦ wp_payments_create (fun _ ↦ .refl cid w) fun _ ↦ ?_
  exact wp_created ⟨trivial, fun _ ↦ trivial⟩ (.insert rfl)

theorem initiatePayment_own (invoiceID : ℕ) :
    (initiatePayment invoiceID cid).wp Rosmon.Call.exec (fun _ ↦ True)
      (fun _ w' ↦ OwnPayments cid w w') w := by
  simp only [initiatePayment, Rosmon.perform, perform_bind]
  refine (wp_bind _ _ _).mpr (wp_mono (wp_readsSetting buildGateway_reads w) fun r v hv ↦ ?_)
  subst hv
  cases r with
  | error err => exact .refl cid v
  | ok gw =>
    refine wp_invoices_getByID (fun _ ↦ .refl cid v) fun inv _ ↦ ?_
    dsimp only
    split_ifs
    · exact .refl cid v
    · exact .refl cid v
    · exact .refl cid v
    intro e _
    rw [exec_customers]
    cases ((Rosmon.Call.customers cid).exec e v).1 with
    | error err => exact .refl cid v
    | ok cust =>
      refine wp_now fun now ↦ wp_payments_create (fun _ ↦ .refl cid v) fun _ ↦ ?_
      refine wp_created ?_ (.insert rfl)
      refine ((settingStr_reads _ _).mono fun _ hc ↦ afterCreate_of_readsSetting hc _).bind fun appURL ↦ ?_
      refine Only.bind (p := gw.createInvoice _) ?_ fun r ↦ ?_
      · unfold XenditAdapter.createInvoice
        split
        · trivial
        · exact ⟨trivial, fun _ ↦ trivial⟩
      · cases r with
        | error err => exact ⟨rfl, fun _ ↦ trivial⟩
        | ok result => exact ⟨rfl, fun _ ↦ trivial⟩

end Base

/-- What does not belong to the customer is the same in both states. -/
structure OthersKept (cid : ℕ) (w w' : World) : Prop where
  customers : w'.base.customers.rows.filter (·.id ≠ cid) =
    w.base.customers.rows.filter (·.id ≠ cid)
  passwords : ∀ n ≠ cid, w'.passwords n = w.passwords n
  subscriptions : w'.base.subscriptions.rows.filter (·.customerID ≠ cid) =
    w.base.subscriptions.rows.filter (·.customerID ≠ cid)
  invoices : w'.base.invoices.rows.filter (·.customerID ≠ cid) =
    w.base.invoices.rows.filter (·.customerID ≠ cid)
  payments : w'.base.payments.rows.filter (·.customerID ≠ cid) =
    w.base.payments.rows.filter (·.customerID ≠ cid)
  tickets : w'.tickets.rows.filter (·.customerID ≠ cid) =
    w.tickets.rows.filter (·.customerID ≠ cid)

section Portal

variable {key : Option GCM} {cid : ℕ} {w w' : World}

theorem OthersKept.refl (cid : ℕ) (w : World) : OthersKept cid w w :=
  ⟨rfl, fun _ _ ↦ rfl, rfl, rfl, rfl, rfl⟩

theorem OthersKept.of_base (h : OwnPayments cid w.base w'.base)
    (hw' : w' = { w with base := w'.base }) : OthersKept cid w w' where
  customers := by rw [h.customers]
  passwords n _ := by rw [hw']
  subscriptions := by rw [h.subscriptions]
  invoices := by rw [h.invoices]
  payments := h.payments
  tickets := by rw [hw']

/-- The own row is saved. -/
theorem OthersKept.of_saved {cust : Customer} (h : World.Saved key cust w w')
    (hcust : cust.id = cid) : OthersKept cid w w' where
  customers := by
    rw [h.customers]
    refine Table.filter_update fun r _ hr ↦ ?_
    have hrid : r.id = cid := (of_decide_eq_true hr).trans hcust
    have hsaved : (saved cust.toCustomer r).id = cid := (KeepsKey.key_eq r).trans hrid
    simp [hrid, hsaved]
  passwords n hn := h.passwords n (hcust ▸ hn)
  subscriptions := by rw [h.base]
  invoices := by rw [h.base]
  payments := by rw [h.base]
  tickets := by rw [h.tickets]

theorem lift_wp {α : Type} {p : Rosmon.Prog α} {Q : α → Rosmon.World → Prop}
    (h : p.wp Rosmon.Call.exec (fun _ ↦ True) Q w.base) :
    (lift p).wp (Call.exec key) (fun _ ↦ True)
      (fun a w' ↦ Q a w'.base ∧ w' = { w with base := w'.base }) w :=
  wp_lift Env.base World.base (fun base w ↦ { w with base }) (fun _ _ ↦ trivial)
    (fun _ _ _ ↦ rfl) (fun _ _ _ ↦ rfl) (fun _ _ ↦ rfl) (fun _ _ _ ↦ rfl) (fun _ ↦ rfl) h

/-- The calls that only look. -/
def Call.looks : Call → Prop
  | .base c => readsSetting c ∨ ∃ id, c = .invoices (.getByID id)
  | .customer _ | .subscriptions _ | .subscription _ | .invoices _ _ | .payments _ | .tickets _ =>
    True
  | _ => False

theorem Call.exec_looks {c : Call} (hc : c.looks) (e : Env) (w : World) :
    (c.exec key e w).2 = w := by
  cases c with
  | base c =>
    obtain hc | ⟨id, rfl⟩ := hc
    · exact congrArg (fun base ↦ { w with base }) (exec_readsSetting hc e.base w.base)
    · exact congrArg (fun base ↦ { w with base }) (exec_getByID id e.base w.base)
  | customer | subscriptions | subscription | invoices | payments | tickets =>
    exact orFault_keeps _
  | _ => exact hc.elim

theorem wp_looks {α : Type} {p : Prog α} (hp : p.Only Call.looks) :
    p.wp (Call.exec key) (fun _ ↦ True) (fun _ w' ↦ w' = w) w :=
  hp.wp (fun _ e v hc _ hv ↦ (Call.exec_looks hc e v).trans hv) rfl

theorem gatewayEnabled_looks (configured : Bool) : (gatewayEnabled configured).Only Call.looks := by
  unfold gatewayEnabled isEnabled
  split
  · exact Only.bind (Only.lift buildGateway_reads fun _ hc ↦ .inl hc) fun _ ↦ trivial
  · trivial

/-- An id that cannot be read is refused; else the handler goes on. -/
@[elab_as_elim]
theorem withID_of {motive : Prog (Response Body) → Prop} (raw : String)
    (p : ℕ → Prog (Response Body)) (refused : motive (.ret (.failure 400 "INVALID_ID" "invalid id")))
    (read : ∀ id, Go.parseUint raw = some id → motive (p id)) : motive (withID raw p) := by
  unfold withID
  cases h : Go.parseUint raw with
  | none => exact refused
  | some id => exact read id h

theorem uploadProof_frame (configured : Bool) (invoiceID : ℕ)
    (body : Option PortalPaymentUploadRequest) :
    (uploadProof cid configured invoiceID body).wp (Call.exec key) (fun _ ↦ True)
      (fun _ w' ↦ OthersKept cid w w') w := by
  unfold uploadProof
  split
  · exact .refl cid w
  split
  · exact .refl cid w
  split
  · exact .refl cid w
  refine (wp_bind _ _ _).mpr (wp_mono (lift_wp (createPortalPayment_own _ _ _ _))
    fun r v hv ↦ ?_)
  have hkept := OthersKept.of_base hv.1 hv.2
  cases r with
  | error err => exact hkept
  | ok p =>
    exact fun _ _ ↦ ⟨hkept.customers, hkept.passwords, hkept.subscriptions, hkept.invoices,
      hkept.payments, hkept.tickets⟩

theorem payOnline_frame (configured : Bool) (invoiceID : ℕ) :
    (payOnline cid configured invoiceID).wp (Call.exec key) (fun _ ↦ True)
      (fun _ w' ↦ OthersKept cid w w') w := by
  unfold payOnline
  refine (wp_bind _ _ _).mpr (wp_mono (wp_looks (gatewayEnabled_looks configured))
    fun enabled v hv ↦ ?_)
  subst hv
  split
  · exact .refl cid v
  refine (wp_bind _ _ _).mpr (wp_mono (lift_wp (initiatePayment_own _)) fun r w' hw' ↦ ?_)
  cases r <;> exact .of_base hw'.1 hw'.2

theorem changePassword_frame (oldPassword newPassword : String) :
    (changePassword cid oldPassword newPassword).wp (Call.exec key) (fun _ ↦ True)
      (fun _ w' ↦ OthersKept cid w w') w := by
  unfold changePassword
  split
  · exact .refl cid w
  intro e _
  have hread : ((Call.customer cid).exec key e w).2 = w := orFault_keeps _
  rw [hread]
  cases hr : ((Call.customer cid).exec key e w).1 with
  | error err => exact .refl cid w
  | ok cust =>
    obtain ⟨hrow, -⟩ := reveal_ok hr
    obtain ⟨-, hid, -⟩ := World.customer_eq_some.mp hrow
    change wp _ _ _ (if cust.portalPassword = "" then _ else _) w
    split
    · exact .refl cid w
    split
    · exact .refl cid w
    intro e _
    obtain ⟨err, hexec⟩ | ⟨w', hexec, hsaved⟩ :=
      updateCustomer_exec key { cust with portalPassword := newPassword } e w
    · rw [hexec]
      exact .refl cid w
    · rw [hexec]
      exact .of_saved hsaved hid

theorem createMine_frame (body : Option CreateMineRequest) :
    (createMine cid body).wp (Call.exec key) (fun _ ↦ True) (fun _ w' ↦ OthersKept cid w w') w := by
  unfold createMine
  split
  · exact .refl cid w
  next req _ =>
    intro e _
    have hkept : OthersKept cid w ((Call.createTicket (req.ticket cid)).exec key e w).2 := by
      obtain ⟨err, h⟩ | h := orFault_cases e w (w.createTicket (req.ticket cid))
      · exact (congrArg (fun r ↦ OthersKept cid w r.2) h).mpr (.refl cid w)
      · refine (congrArg (fun r ↦ OthersKept cid w r.2) h).mpr ?_
        unfold World.createTicket
        split
        · refine ⟨rfl, fun _ _ ↦ rfl, rfl, rfl, rfl, Table.filter_insert ?_⟩
          simp [Row.withKey, Ticket.withDefaults, CreateMineRequest.ticket]
        · exact .refl cid w
    cases ((Call.createTicket (req.ticket cid)).exec key e w).1 <;> exact hkept

def Request.looks : Request → Prop
  | .payInvoice _ _ | .changePassword _ | .createTicket _ => False
  | _ => True

theorem serve_looks (configured : Bool) {req : Request} (hreq : req.looks) :
    (serve cid configured req).Only Call.looks := by
  cases req with
  | me | subscriptions | listInvoices | paymentHistory | listTickets =>
    exact ⟨trivial, fun r ↦ by cases r <;> trivial⟩
  | subscriptionStatus raw =>
    change (Portal.subscriptionStatus cid raw).Only _
    unfold Portal.subscriptionStatus
    exact withID_of raw _ trivial fun id _ ↦ ⟨trivial, fun r ↦ by cases r <;> trivial⟩
  | getInvoice raw =>
    change (Portal.getInvoice cid raw).Only _
    unfold Portal.getInvoice
    exact withID_of raw _ trivial fun id _ ↦ ⟨.inr ⟨id, rfl⟩, fun r ↦ by cases r <;> trivial⟩
  | gatewayStatus => exact (gatewayEnabled_looks configured).bind fun _ ↦ trivial
  | payInvoice | changePassword | createTicket => exact hreq.elim

/-- No request changes what belongs to another customer. -/
theorem serve_frame (configured : Bool) (req : Request) (w : World) :
    (serve cid configured req).wp (Call.exec key) (fun _ ↦ True)
      (fun _ w' ↦ OthersKept cid w w') w := by
  cases req with
  | payInvoice raw body =>
    change wp _ _ _ (payInvoice cid configured raw body) w
    unfold payInvoice
    refine withID_of raw _ (.refl cid w) fun id _ ↦ ?_
    cases body with
    | some body => exact uploadProof_frame configured id body
    | none => exact payOnline_frame configured id
  | changePassword body =>
    change wp _ _ _ (changePasswordHandler cid body) w
    unfold changePasswordHandler
    split
    · exact .refl cid w
    refine (wp_bind _ _ _).mpr (wp_mono (changePassword_frame _ _) fun r w' hw' ↦ ?_)
    obtain (_ | _ | err) | ⟨⟩ := r <;> exact hw'
  | createTicket body => exact createMine_frame body
  | _ =>
    refine wp_mono (wp_looks (serve_looks configured trivial)) fun _ w' hw' ↦ ?_
    rw [hw']
    exact .refl cid w

end Portal

end Rosmon.Portal
