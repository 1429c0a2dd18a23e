import Rosmon.Portal.Agreement

namespace Rosmon.Portal

open Go Library Program Store Service Handler

/-- The id in the request is that of an invoice or a subscription of somebody else. -/
def Request.Foreign (cid : ℕ) (w : World) : Request → Prop
  | .subscriptionStatus raw => ∃ id sub, parseUint raw = some id ∧
    w.base.subscriptions.find (Subscription.liveAt id) = some sub ∧ sub.customerID ≠ cid
  | .getInvoice raw | .payInvoice raw _ => ∃ id, parseUint raw = some id ∧ ForeignInvoice cid id w
  | _ => False

/-- The key of the payment that the request creates at this time, if it pays an invoice of the
customer. -/
def Request.Keyed (cid : ℕ) (w : World) (now : Time) : Request → String → Prop
  | .payInvoice raw none, k => ∃ id inv, parseUint raw = some id ∧
    w.base.invoices.get id = some inv ∧ inv.customerID = cid ∧
      k = (gatewayPayment inv id cid now).idempotencyKey
  | .payInvoice raw (some (some body)), k => ∃ id inv, parseUint raw = some id ∧
    w.base.invoices.get id = some inv ∧ inv.customerID = cid ∧
      k = (portalPayment inv id cid body.proofURL body.bankName body.referenceNumber
        now).idempotencyKey
  | _, _ => False

/-- The password of the router of the subscription that is asked for, if it is somebody else's,
can be decrypted. -/
def Request.Opens (key : Option GCM) (cid : ℕ) (w : World) : Request → Prop
  | .subscriptionStatus raw => ∀ id sub, parseUint raw = some id →
    w.base.subscriptions.find (Subscription.liveAt id) = some sub → sub.customerID ≠ cid →
      ∃ opened, World.decryptSubscription key sub = .ok opened
  | _ => True

section Endpoints

variable {cid : ℕ} {s t : World} {key : Option GCM} {ok : Env → Prop} {foreign : Prop}

theorem lift_twin {α : Type} (ok' : Rosmon.Env → Prop) {p : Rosmon.Prog α}
    {Q : α → α → Rosmon.World → Rosmon.World → Prop} (hok : ∀ e, ok e → ok' e.base)
    (h : p.Twin Rosmon.Call.exec ok' Q p s.base t.base) :
    (lift p).Twin (Call.exec key) ok (fun a b s t ↦ Q a b s.base t.base) (lift p) s t :=
  Twin.lift Env.base World.base (fun base w ↦ { w with base }) hok (fun _ _ _ ↦ rfl)
    (fun _ _ _ ↦ rfl) (fun _ _ ↦ rfl) h

/-- What a handler makes of two outcomes of its one read. -/
def EndsAlike {ρ : Type} (foreign : Prop) (R : ρ → ρ → Prop) (k : ρ → Prog (Response Body)) :
    Prop :=
  ∀ r r', R r r' → ∃ a a', k r = .ret a ∧ k r' = .ret a' ∧ SameAnswer foreign a a'

theorem endsAlike_eq {ρ : Type} {k : ρ → Prog (Response Body)} (hk : ∀ r, ∃ a, k r = .ret a) :
    EndsAlike foreign Eq k := by
  intro r r' hr
  obtain ⟨a, ha⟩ := hk r
  exact ⟨a, a, ha, hr ▸ ha, .refl foreign a⟩

/-- Somebody else's row is answered like none. -/
theorem endsAlike_sameRead {ρ : Type} {missing : Sentinel} {others : ρ → Prop}
    {k : Except Error ρ → Prog (Response Body)} (refusal : Response Body)
    (hk : ∀ r, ∃ a, k r = .ret a) (hmissing : k (.error (.of missing)) = .ret refusal)
    (hothers : ∀ row, others row → k (.ok row) = .ret refusal) :
    EndsAlike foreign (SameRead missing others) k := by
  have hwithheld (r : Except Error ρ) (hr : Withheld missing others r) : k r = .ret refusal := by
    obtain rfl | ⟨row, rfl, hrow⟩ := hr
    · exact hmissing
    · exact hothers row hrow
  intro r r' hr
  obtain rfl | ⟨hr, hr'⟩ := hr
  · exact endsAlike_eq hk r r rfl
  · exact ⟨refusal, refusal, hwithheld r hr, hwithheld r' hr', .refl foreign refusal⟩

/-- A request that is answered from one read. -/
theorem twin_look {c : Call} (hc : c.looks) {k : c.Reply → Prog (Response Body)}
    {R : c.Reply → c.Reply → Prop} (hk : EndsAlike foreign R k)
    (hreply : ∀ e, R (c.exec key e s).1 (c.exec key e t).1) :
    (Program.call c k).Twin (Call.exec key) ok (fun a b _ _ ↦ SameAnswer foreign a b) (.call c k)
      s t := by
  intro e _
  obtain ⟨a, a', ha, ha', hsame⟩ := hk _ _ (hreply e)
  rw [Call.exec_looks hc, Call.exec_looks hc, ha, ha']
  exact hsame

theorem gatewayEnabled_twin (h : Agree cid s t) (configured : Bool) :
    (gatewayEnabled configured).Twin (Call.exec key) ok
      (fun a b s' t' ↦ a = b ∧ s'.base = s.base ∧ t'.base = t.base) (gatewayEnabled configured)
      s t := by
  unfold gatewayEnabled isEnabled
  split
  · refine (lift_twin (fun _ ↦ True) (fun _ _ ↦ trivial)
      (twin_readsSetting buildGateway_reads h.settings)).bind fun r r' s t hr ↦ ?_
    exact ⟨congrArg Except.isOk hr.1, hr.2⟩
  · exact ⟨rfl, rfl, rfl⟩

theorem subscription_withheld {w : World} {id : ℕ}
    (hforeign : ∀ sub, w.base.subscriptions.find (Subscription.liveAt id) = some sub →
      sub.customerID ≠ cid)
    (hopens : ∀ sub, w.base.subscriptions.find (Subscription.liveAt id) = some sub →
      sub.customerID ≠ cid → ∃ opened, World.decryptSubscription key sub = .ok opened) :
    Withheld .subscriptionNotFound (·.customerID ≠ cid) ((found .subscriptionNotFound
      (w.base.subscriptions.find (Subscription.liveAt id))).bind
        (World.decryptSubscription key)) := by
  cases hrow : w.base.subscriptions.find (Subscription.liveAt id) with
  | none => exact .inl rfl
  | some sub =>
    obtain ⟨opened, hopened⟩ := hopens sub hrow (hforeign sub hrow)
    refine .inr ⟨opened, hopened, ?_⟩
    simp only [World.decryptSubscription] at hopened
    cases hpassword : decryptSecret key sub.mikrotikPassword with
    | error err => simp [hpassword, Except.map] at hopened
    | ok p =>
      simp only [hpassword, Except.map, Except.ok.injEq] at hopened
      exact hopened ▸ hforeign sub hrow

theorem Agree.find_subscription (h : Agree cid s t) (id : ℕ) :
    (∃ sub, s.base.subscriptions.find (Subscription.liveAt id) = some sub ∧
      t.base.subscriptions.find (Subscription.liveAt id) = some sub ∧ sub.customerID = cid) ∨
    (∀ sub, s.base.subscriptions.find (Subscription.liveAt id) = some sub → sub.customerID ≠ cid) ∧
      ∀ sub, t.base.subscriptions.find (Subscription.liveAt id) = some sub →
        sub.customerID ≠ cid :=
  Table.find_owned h.subscriptions fun _ hr ↦ beq_iff_eq.mp (Bool.and_eq_true_iff.mp hr).2

theorem Agree.subscription_reply (h : Agree cid s t) {id : ℕ}
    (hopens : ∀ w, w = s ∨ w = t → ∀ sub,
      w.base.subscriptions.find (Subscription.liveAt id) = some sub → sub.customerID ≠ cid →
        ∃ opened, World.decryptSubscription key sub = .ok opened) (e : Env) :
    SameRead .subscriptionNotFound (·.customerID ≠ cid) ((Call.subscription id).exec key e s).1
      ((Call.subscription id).exec key e t).1 := by
  simp only [Call.exec, orFault]
  cases e.base.fault with
  | some err => exact .inl rfl
  | none =>
    obtain ⟨sub, hs, ht, -⟩ | ⟨hs, ht⟩ := h.find_subscription id
    · rw [hs, ht]
      exact .inl rfl
    · exact .inr ⟨subscription_withheld hs (hopens s (.inl rfl)),
        subscription_withheld ht (hopens t (.inr rfl))⟩

theorem subscriptionStatus_twin (h : Agree cid s t) (raw : String)
    (hs : (Request.subscriptionStatus raw).Opens key cid s)
    (ht : (Request.subscriptionStatus raw).Opens key cid t) :
    (subscriptionStatus cid raw).Twin (Call.exec key) ok (fun a b _ _ ↦ SameAnswer foreign a b)
      (subscriptionStatus cid raw) s t := by
  unfold subscriptionStatus
  refine withID_of raw _ (.refl foreign _) fun id hid ↦ ?_
  have hopens (w : World) (hw : w = s ∨ w = t) (sub : Subscription)
      (hsub : w.base.subscriptions.find (Subscription.liveAt id) = some sub) :
      sub.customerID ≠ cid → ∃ opened, World.decryptSubscription key sub = .ok opened := by
    obtain rfl | rfl := hw
    · exact hs id sub hid hsub
    · exact ht id sub hid hsub
  refine twin_look (c := .subscription id) trivial
    (endsAlike_sameRead (notFound "subscription not found") ?_ ?_ ?_) (h.subscription_reply hopens)
  · exact fun r ↦ by cases r <;> exact ⟨_, rfl⟩
  · rfl
  · exact fun sub hsub ↦ congrArg Program.ret (if_pos hsub)

theorem getInvoice_twin (h : Agree cid s t) (raw : String) :
    (getInvoice cid raw).Twin (Call.exec key) ok (fun a b _ _ ↦ SameAnswer foreign a b)
      (getInvoice cid raw) s t := by
  unfold getInvoice
  refine withID_of raw _ (.refl foreign _) fun id _ ↦ ?_
  refine twin_look (c := .base (.invoices (.getByID id))) (.inr ⟨id, rfl⟩)
    (endsAlike_sameRead (notFound "invoice not found") ?_ ?_ ?_) fun e ↦ (h.read id e.base).sameRead
  · exact fun r ↦ by cases r <;> exact ⟨_, rfl⟩
  · rfl
  · exact fun inv hinv ↦ congrArg Program.ret (if_pos hinv)

/-- What the handlers make of the outcome of a call of the payment service. -/
theorem paid_twin {α : Type} {K : Time → Prop} {unnumbered : α → α}
    {p : Rosmon.Prog (Except Error α)} {k : Except Error α → Prog (Response Body)}
    (hp : p.Twin Rosmon.Call.exec (fun e ↦ K e.now) (fun a b _ _ ↦ Alike foreign unnumbered a b) p
      s.base t.base)
    (message : String) (hfailed : ∀ err, k (.error err) = .ret (payFailed message err))
    (hpaid : ∀ a b, Alike foreign unnumbered (.ok a) (.ok b) → ∀ u v,
      (k (.ok a)).Twin (Call.exec key) (fun e ↦ K e.base.now)
        (fun a b _ _ ↦ SameAnswer foreign a b) (k (.ok b)) u v) :
    (lift p >>= k).Twin (Call.exec key) (fun e ↦ K e.base.now)
      (fun a b _ _ ↦ SameAnswer foreign a b) (lift p >>= k) s t := by
  refine (lift_twin (fun e ↦ K e.now) (fun _ he ↦ he) hp).bind fun r r' u v hr ↦ ?_
  cases r with
  | error err =>
    cases r' with
    | error err' =>
      rw [hfailed, hfailed]
      exact .of_eq (hr message)
    | ok b => exact hr.elim
  | ok a =>
    cases r' with
    | error err' => exact hr.elim
    | ok b => exact hpaid a b hr u v

theorem uploadProof_twin (h : Agree cid s t) {K : Time → Prop} (configured : Bool) (id : ℕ)
    (body : Option PortalPaymentUploadRequest)
    (hkey : ∀ req, body = some req → ∀ inv, s.base.invoices.get id = some inv →
      inv.customerID = cid → ∀ now, K now →
        let k := (portalPayment inv id cid req.proofURL req.bankName req.referenceNumber
          now).idempotencyKey
        Taken k s.base ↔ Taken k t.base) :
    (uploadProof cid configured id body).Twin (Call.exec key) (fun e ↦ K e.base.now)
      (fun a b _ _ ↦ SameAnswer (ForeignInvoice cid id s) a b) (uploadProof cid configured id body)
      s t := by
  unfold uploadProof
  split
  · exact .refl _ _
  next req hreq =>
    split
    · exact .refl _ _
    split
    · exact .refl _ _
    have hbody : body = some req := (Option.filter_eq_some_iff.mp hreq).1
    refine paid_twin (createPortalPayment_twin h id _ _ _ fun inv hrow hinv e he ↦
      hkey req hbody inv hrow hinv e.now he) _ (fun _ ↦ rfl) fun p p' hp u v ↦ ?_
    exact fun _ _ ↦ hp.ok (fun p ↦ .success 201 (.payment (fromModelPayment p))) fun _ ↦ rfl

theorem payOnline_twin (h : Agree cid s t) {K : Time → Prop} (configured : Bool) (id : ℕ)
    (hkey : ∀ inv, s.base.invoices.get id = some inv → inv.customerID = cid → ∀ now, K now →
      let k := (gatewayPayment inv id cid now).idempotencyKey
      Taken k s.base ↔ Taken k t.base) :
    (payOnline cid configured id).Twin (Call.exec key) (fun e ↦ K e.base.now)
      (fun a b _ _ ↦ SameAnswer (ForeignInvoice cid id s) a b) (payOnline cid configured id)
      s t := by
  unfold payOnline
  refine (gatewayEnabled_twin h configured).bind fun enabled _ u v hr ↦ ?_
  obtain ⟨rfl, hu, hv⟩ := hr
  split
  · exact .refl _ _
  have htwin := initiatePayment_twin h id fun inv hrow hinv (e : Rosmon.Env) (he : K e.now) ↦
    hkey inv hrow hinv e.now he
  rw [← hu, ← hv] at htwin
  exact paid_twin htwin _ (fun _ ↦ rfl) fun r r' hr _ _ ↦
    hr.ok (fun r ↦ .success 200 (.initiated r)) fun _ ↦ rfl

/-- A customer that has been read is not in the way of its own phone. -/
theorem phoneTaken_own {customers : Table Store.Customer} {cust : Store.Customer}
    (hrow : customers.find (live cust.id) = some cust) : phoneTaken cust customers = false := by
  have hfree : (customers.find fun r ↦ live cust.id r && r.phone = cust.phone).isNone = false := by
    refine Bool.eq_false_iff.mpr fun hnone ↦ ?_
    have hout := Table.find_eq_none.mp (Option.isNone_iff_eq_none.mp hnone) cust
      (Table.mem_of_find hrow)
    simp [Table.find_sat hrow] at hout
  simp [phoneTaken, hfree]

theorem Agree.save_reply (h : Agree cid s t) {cust : Customer}
    (hrow : s.customer cid = some cust.toCustomer) (portalPassword : String) (e : Env) :
    ((Call.updateCustomer { cust with portalPassword }).exec key e s).1 =
      ((Call.updateCustomer { cust with portalPassword }).exec key e t).1 := by
  have hid : cust.id = cid := (World.customer_eq_some.mp hrow).2.1
  have hfree (w : World) (hw : w.customer cid = some cust.toCustomer) :
      phoneTaken cust.toCustomer w.base.customers = false :=
    phoneTaken_own (hid ▸ hw)
  simp only [Call.exec, orFault, World.save, hfree s hrow, hfree t (h.customer_eq ▸ hrow)]
  cases e.base.fault with
  | some err => rfl
  | none => cases World.encryptPassword key e.nonce portalPassword <;> rfl

theorem changePassword_twin (h : Agree cid s t) (oldPassword newPassword : String) :
    (changePassword cid oldPassword newPassword).Twin (Call.exec key) ok (fun a b _ _ ↦ a = b)
      (changePassword cid oldPassword newPassword) s t := by
  unfold changePassword
  split
  · rfl
  intro e _
  rw [Call.exec_looks (c := .customer cid) trivial, Call.exec_looks (c := .customer cid) trivial,
    ← h.customer_reply]
  cases hr : ((Call.customer cid).exec key e s).1 with
  | error err => rfl
  | ok cust =>
    obtain ⟨hrow, -⟩ := reveal_ok hr
    change Twin _ _ _ (if cust.portalPassword = "" then _ else _)
      (if cust.portalPassword = "" then _ else _) s t
    split
    · rfl
    split
    · rfl
    intro e _
    rw [h.save_reply hrow]
    cases ((Call.updateCustomer { cust with portalPassword := newPassword }).exec key e t).1 <;> rfl

theorem createMine_twin (h : Agree cid s t) (body : Option CreateMineRequest)
    (hforeign : ¬foreign) :
    (createMine cid body).Twin (Call.exec key) ok (fun a b _ _ ↦ SameAnswer foreign a b)
      (createMine cid body) s t := by
  unfold createMine
  split
  · exact .refl foreign _
  next req _ =>
    have hcid : (req.ticket cid).customerID = cid := rfl
    intro e _
    simp only [Call.exec, orFault, World.createTicket, hcid, h.customer]
    cases e.base.fault with
    | some err => exact .refl foreign _
    | none =>
      cases (t.base.customers.get cid).isSome with
      | true => exact ⟨rfl, fun hf ↦ absurd hf hforeign⟩
      | false => exact .refl foreign _

theorem payInvoice_twin (h : Agree cid s t) (configured : Bool) (raw : String)
    (body : Option (Option PortalPaymentUploadRequest)) :
    (payInvoice cid configured raw body).Twin (Call.exec key)
      (fun e ↦ ∀ k, (Request.payInvoice raw body).Keyed cid s e.base.now k →
        (Taken k s.base ↔ Taken k t.base))
      (fun a b _ _ ↦ SameAnswer ((Request.payInvoice raw body).Foreign cid s) a b)
      (payInvoice cid configured raw body) s t := by
  unfold payInvoice
  refine withID_of raw _ (.refl _ _) fun id hid ↦ ?_
  have hforeign : (Request.payInvoice raw body).Foreign cid s → ForeignInvoice cid id s := by
    intro ⟨id', hid', hforeign⟩
    exact Option.some.inj (hid'.symm.trans hid) ▸ hforeign
  cases body with
  | none =>
    refine (payOnline_twin h (K := fun now ↦ ∀ k, (Request.payInvoice raw none).Keyed cid s now k →
      (Taken k s.base ↔ Taken k t.base)) configured id fun inv hrow hinv now hnow ↦ ?_).mono
        fun a b _ _ hsame ↦ hsame.weaken hforeign
    exact hnow _ ⟨id, inv, hid, hrow, hinv, rfl⟩
  | some body =>
    refine (uploadProof_twin h (K := fun now ↦ ∀ k,
      (Request.payInvoice raw (some body)).Keyed cid s now k →
        (Taken k s.base ↔ Taken k t.base)) configured id body fun req hbody inv hrow hinv now hnow ↦
          ?_).mono fun a b _ _ hsame ↦ hsame.weaken hforeign
    subst hbody
    exact hnow _ ⟨id, inv, hid, hrow, hinv, rfl⟩

theorem serve_twin (hcid : 1 ≤ cid) (h : Agree cid s t) (configured : Bool) (req : Request)
    (hs : req.Opens key cid s) (ht : req.Opens key cid t) :
    (serve cid configured req).Twin (Call.exec key)
      (fun e ↦ ∀ k, req.Keyed cid s e.base.now k → (Taken k s.base ↔ Taken k t.base))
      (fun a b _ _ ↦ SameAnswer (req.Foreign cid s) a b) (serve cid configured req) s t := by
  have hends {ρ : Type} {k : Except Error ρ → Prog (Response Body)}
      (hfailed : ∀ err, ∃ a, k (.error err) = .ret a) (hread : ∀ r, ∃ a, k (.ok r) = .ret a) :
      EndsAlike (req.Foreign cid s) Eq k :=
    endsAlike_eq fun r ↦ by cases r with
      | error err => exact hfailed err
      | ok r => exact hread r
  cases req with
  | me =>
    exact twin_look (c := .customer cid) trivial
      (hends (fun _ ↦ ⟨_, rfl⟩) fun _ ↦ ⟨_, rfl⟩) h.customer_reply
  | subscriptions =>
    exact twin_look (c := .subscriptions cid) trivial
      (hends (fun _ ↦ ⟨_, rfl⟩) fun _ ↦ ⟨_, rfl⟩) (h.subscriptions_reply hcid)
  | subscriptionStatus raw => exact subscriptionStatus_twin h raw hs ht
  | listInvoices status =>
    exact twin_look (c := .invoices cid status) trivial
      (hends (fun _ ↦ ⟨_, rfl⟩) fun _ ↦ ⟨_, rfl⟩) (h.invoices_reply hcid status)
  | getInvoice raw => exact getInvoice_twin h raw
  | payInvoice raw body => exact payInvoice_twin h configured raw body
  | paymentHistory =>
    exact twin_look (c := .payments cid) trivial
      (hends (fun _ ↦ ⟨_, rfl⟩) fun _ ↦ ⟨_, rfl⟩) (h.payments_reply hcid)
  | changePassword body =>
    change (changePasswordHandler cid body).Twin _ _ _ (changePasswordHandler cid body) s t
    unfold changePasswordHandler
    split
    · exact .refl _ _
    refine (changePassword_twin h _ _).bind fun r r' _ _ hr ↦ ?_
    subst hr
    obtain (_ | _ | err) | ⟨⟩ := r <;> exact .refl _ _
  | gatewayStatus =>
    refine (gatewayEnabled_twin h configured).bind fun enabled _ _ _ hr ↦ ?_
    obtain ⟨rfl, -, -⟩ := hr
    exact .refl _ _
  | listTickets =>
    exact twin_look (c := .tickets cid) trivial
      (hends (fun _ ↦ ⟨_, rfl⟩) fun _ ↦ ⟨_, rfl⟩) (h.tickets_reply hcid)
  | createTicket body => exact createMine_twin h body id

end Endpoints

/-- The answer to a request, and the state that it leaves behind. -/
def answered (cid : ℕ) (configured : Bool) (key : Option GCM) (req : Request) (env : ℕ → Env)
    (w : World) : Response Body × World :=
  (serve cid configured req).run (Call.exec key) env w

/-- Nobody else's rows are changed by a request, nor do they show in the answer. -/
theorem customers_isolated {cid : ℕ} (hcid : 1 ≤ cid) (configured : Bool) (key : Option GCM)
    (req : Request) (env : ℕ → Env) :
    (∀ w, OthersKept cid w (answered cid configured key req env w).2) ∧
      ∀ s t, Agree cid s t →
        (∀ n k, req.Keyed cid s (env n).base.now k → (Taken k s.base ↔ Taken k t.base)) →
        req.Opens key cid s → req.Opens key cid t →
          anonymous (answered cid configured key req env s).1 =
              anonymous (answered cid configured key req env t).1 ∧
            (req.Foreign cid s → (answered cid configured key req env s).1 =
              (answered cid configured key req env t).1) := by
  refine ⟨fun w ↦ run_of_wp (serve_frame configured req w) env fun _ ↦ trivial, ?_⟩
  intro s t h hkeys hs ht
  have hsame := (serve_twin hcid h configured req hs ht).run hkeys
  exact ⟨hsame.anonymous, hsame.same⟩

/-- The first customer has an invoice to pay. -/
def World.unpaid : World where
  base := (Rosmon.World.oneInvoice 150000 .active).withGateway
  passwords _ := ""
  tickets := .empty
  published := []

/-- The second customer has a payment with this key. -/
def World.withKey (w : World) (idempotencyKey : String) : World :=
  { w with
    base := { w.base with
      payments := w.base.payments.insert
        { id := 0, invoiceID := 2, customerID := 2, amount := 200000, method := "transfer"
          referenceNumber := "", proofURL := "", bankName := "", status := .pending
          confirmedBy := none, confirmedAt := none, rejectionReason := "", idempotencyKey
          gatewayName := "", externalRef := "", gatewayResponse := "", invoiceURL := ""
          expiresAt := none } } }

/-- The second customer has a subscription; this is what is stored as its password. -/
def World.withSubscription (w : World) (mikrotikPassword : String) : World :=
  { w with
    base := { w.base with
      subscriptions := w.base.subscriptions.insert
        { id := 0, customerID := 2, deviceID := 1, pppProfileID := some 1, hotspotProfileID := none
          serviceType := .pppoe, mikrotikUsername := "siti", mikrotikPassword, status := .active
          billingDay := some 1, nextInvoiceDate := none, syncStatus := .synced, syncNotes := ""
          syncRetryCount := 0, activatedAt := some 0, terminatedAt := none, notes := ""
          deletedAt := none } } }

/-- The gateway answers every request. -/
def Env.answering (ref : String) (now : Time) : Env :=
  { Env.calm now with base := .answering ref now }

theorem keys_not_shared :
    anonymous (answered 1 true none (.payInvoice "1" none) (fun _ ↦ .answering "xnd-1" 0)
        .unpaid).1 =
      anonymous (answered 1 true none (.payInvoice "1" none) (fun _ ↦ .answering "xnd-1" 0)
        (World.unpaid.withKey "xendit-inv2-0")).1 := by
  have hfree : ¬Taken "xendit-inv1-0" World.unpaid.base := by
    intro ⟨p, hp, _⟩
    exact Table.not_mem_empty p hp
  have hfree' : ¬Taken "xendit-inv1-0" (World.unpaid.withKey "xendit-inv2-0").base := by
    intro ⟨p, hp, hkey⟩
    obtain hp | rfl := Table.mem_insert.mp hp
    · exact Table.not_mem_empty p hp
    · exact absurd hkey (by decide)
  refine ((customers_isolated (by decide) true none (.payInvoice "1" none)
    fun _ ↦ .answering "xnd-1" 0).2 World.unpaid (World.unpaid.withKey "xendit-inv2-0")
      ⟨rfl, rfl, rfl, rfl, rfl, rfl, rfl⟩ ?_ trivial trivial).1
  intro _ k hk
  obtain ⟨id, inv, hid, -, -, rfl⟩ := hk
  obtain rfl : 1 = id := Option.some.inj ((by decide : some 1 = parseUint "1").trans hid)
  exact iff_of_false hfree hfree'

/-- Somebody else's payment can hold the key that is needed, and a password from before there was
a key can look like a ciphertext that is too short. -/
theorem customers_not_isolated :
    (Agree 1 .unpaid (World.unpaid.withKey "xendit-inv1-0") ∧
      (answered 1 true none (.payInvoice "1" none) (fun _ ↦ .answering "xnd-1" 0) .unpaid).1 =
        .success 200 (.initiated ⟨1, "https://checkout.xendit.co/xnd-1", day⟩) ∧
      (answered 1 true none (.payInvoice "1" none) (fun _ ↦ .answering "xnd-1" 0)
        (World.unpaid.withKey "xendit-inv1-0")).1 =
          .failure 500 "INTERNAL" "gagal membuat link pembayaran") ∧
    Agree 1 .unpaid (World.unpaid.withSubscription "1234") ∧
      (answered 1 true (some default) (.subscriptionStatus "2") (fun _ ↦ .calm 0) .unpaid).1 =
        notFound "subscription not found" ∧
      (answered 1 true (some default) (.subscriptionStatus "2") (fun _ ↦ .calm 0)
        (World.unpaid.withSubscription "1234")).1 =
          .failure 500 "INTERNAL" "store: ciphertext terlalu pendek" :=
  ⟨⟨⟨rfl, rfl, rfl, rfl, rfl, rfl, rfl⟩, by decide +kernel, by decide +kernel⟩,
    ⟨rfl, rfl, rfl, rfl, rfl, rfl, rfl⟩, by decide +kernel, by decide +kernel⟩

end Rosmon.Portal
