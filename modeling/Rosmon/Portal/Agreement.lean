import Rosmon.Library.Twin
import Rosmon.Portal.Frame

namespace Rosmon.Portal

open Go Library Program Store Service Handler

/-- Ids that the database has given to what the request has created. -/
def Body.anonymous : Body → Body
  | .payment r => .payment { r with id := 0 }
  | .initiated r => .initiated { r with paymentID := 0 }
  | .ticket r => .ticket { r with id := 0 }
  | body => body

/-- An answer without the ids that the database has given out for it. -/
def anonymous : Response Body → Response Body
  | .success status body => .success status body.anonymous
  | .failure status code message => .failure status code message

/-- The same answer but for new ids, and the very same one if `strict` holds. -/
structure SameAnswer (strict : Prop) (a b : Response Body) : Prop where
  anonymous : anonymous a = anonymous b
  same : strict → a = b

theorem SameAnswer.refl (strict : Prop) (a : Response Body) : SameAnswer strict a a :=
  ⟨rfl, fun _ ↦ rfl⟩

theorem SameAnswer.weaken {strict strict' : Prop} {a b : Response Body}
    (h : SameAnswer strict a b) (himp : strict' → strict) : SameAnswer strict' a b :=
  ⟨h.anonymous, fun h' ↦ h.same (himp h')⟩

theorem SameAnswer.of_eq {strict : Prop} {a b : Response Body} (h : a = b) : SameAnswer strict a b :=
  h ▸ .refl strict a

section Refusals

/-- The handler answers this error as it answers an unknown invoice. -/
def Refused (err : Error) : Prop :=
  ∀ message, payFailed message err = notFound "invoice not found"

theorem refused_missing : Refused ((Error.of .invoiceNotFound).wrap "payment: get invoice: ") := by
  intro message
  have hclosed : containsAny ((Error.of .invoiceNotFound).wrap "payment: get invoice: ").text
      ["sudah lunas", "sudah dibatalkan"] = false := by decide +kernel
  have hmissing : containsAny ((Error.of .invoiceNotFound).wrap "payment: get invoice: ").text
      ["bukan milik customer", "not found"] = true := by decide +kernel
  simp [payFailed, hclosed, hmissing]

theorem notOwned_text (invoiceID cid : ℕ) : (notOwned invoiceID cid).text.toList =
    "payment: invoice ".toList ++ Nat.toDigits 10 invoiceID ++ " bukan milik customer ".toList ++
      Nat.toDigits 10 cid := by
  change ("payment: invoice " ++ toString invoiceID ++ " bukan milik customer " ++
    toString cid).toList = _
  simp only [String.toList_append, Nat.toString_eq_repr, Nat.toList_repr]

theorem refused_notOwned (invoiceID cid : ℕ) : Refused (notOwned invoiceID cid) := by
  intro message
  -- Neither text of a closed invoice can occur: the message has no `h`.
  have hletter : 'h' ∉ (notOwned invoiceID cid).text.toList := by
    have hdigits (n : ℕ) : 'h' ∉ Nat.toDigits 10 n := fun h ↦
      absurd (Nat.isDigit_of_mem_toDigits (by decide) (by decide) h) (by decide)
    rw [notOwned_text]
    simp only [List.mem_append, hdigits, or_false]
    decide
  have hclosed : containsAny (notOwned invoiceID cid).text
      ["sudah lunas", "sudah dibatalkan"] = false := by
    simp only [containsAny, List.any_cons, List.any_nil, Bool.or_false, Bool.or_eq_false_iff]
    exact ⟨Bool.eq_false_iff.mpr fun h ↦ hletter ((contains_iff.mp h).subset (by decide)),
      Bool.eq_false_iff.mpr fun h ↦ hletter ((contains_iff.mp h).subset (by decide))⟩
  have hforeign : containsAny (notOwned invoiceID cid).text
      ["bukan milik customer", "not found"] = true := by
    simp only [containsAny, List.any_cons, Bool.or_eq_true]
    refine .inl (contains_iff.mpr ⟨"payment: invoice ".toList ++ Nat.toDigits 10 invoiceID ++ [' '],
      ' ' :: Nat.toDigits 10 cid, ?_⟩)
    rw [notOwned_text]
    simp
  simp [payFailed, hclosed, hforeign]

end Refusals

/-- Both states hold the same settings and the same rows of the customer. -/
structure Agree (cid : ℕ) (s t : World) : Prop where
  settings : s.base.settings = t.base.settings
  customer : s.base.customers.get cid = t.base.customers.get cid
  password : s.passwords cid = t.passwords cid
  subscriptions : s.base.subscriptions.rows.filter (·.customerID = cid) =
    t.base.subscriptions.rows.filter (·.customerID = cid)
  invoices : s.base.invoices.rows.filter (·.customerID = cid) =
    t.base.invoices.rows.filter (·.customerID = cid)
  payments : s.base.payments.rows.filter (·.customerID = cid) =
    t.base.payments.rows.filter (·.customerID = cid)
  tickets : s.tickets.rows.filter (·.customerID = cid) =
    t.tickets.rows.filter (·.customerID = cid)

section Reads

variable {cid : ℕ} {s t : World}

theorem Agree.customer_eq (h : Agree cid s t) : s.customer cid = t.customer cid := by
  have hrow (w : World) (cust : Store.Customer) : w.customer cid = some cust ↔
      w.base.customers.get cid = some cust ∧ cust.deletedAt = none := by
    rw [World.customer_eq_some, Table.get_eq_some, and_assoc]
    rfl
  refine Option.ext fun cust ↦ ?_
  rw [hrow, hrow, h.customer]

theorem orFault_congr {α : Type} (e : Env) (r : Except Error α) :
    (orFault e s (r, s)).1 = (orFault e t (r, t)).1 := by
  unfold orFault
  split <;> rfl

variable {key : Option GCM}

theorem Agree.customer_reply (h : Agree cid s t) (e : Env) :
    ((Call.customer cid).exec key e s).1 = ((Call.customer cid).exec key e t).1 := by
  have hreveal : (found .customerNotFound (s.customer cid)).bind (s.reveal key) =
      (found .customerNotFound (t.customer cid)).bind (t.reveal key) := by
    rw [← h.customer_eq]
    cases hrow : s.customer cid with
    | none => rfl
    | some cust =>
      obtain ⟨-, hid, -⟩ := World.customer_eq_some.mp hrow
      simp only [found_some, Except.bind, World.reveal, World.password, hid, h.password]
  simp only [Call.exec, hreveal]
  exact orFault_congr e _

theorem owner_of_ofCustomer (hcid : 1 ≤ cid) {owner : ℕ} (h : ofCustomer cid owner = true) :
    owner = cid := by
  simp only [ofCustomer, Bool.or_eq_true, decide_eq_true_eq] at h
  omega

theorem Agree.subscriptions_reply (h : Agree cid s t) (hcid : 1 ≤ cid) (e : Env) :
    ((Call.subscriptions cid).exec key e s).1 = ((Call.subscriptions cid).exec key e t).1 := by
  have hrows : (s.base.subscriptions.rows.filter fun sub ↦
      sub.live && ofCustomer cid sub.customerID) =
        t.base.subscriptions.rows.filter fun sub ↦ sub.live && ofCustomer cid sub.customerID :=
    Table.filter_owned h.subscriptions fun sub hsub ↦
      decide_eq_true (owner_of_ofCustomer hcid (Bool.and_eq_true_iff.mp hsub).2)
  simp only [Call.exec, hrows]
  exact orFault_congr e _

theorem Agree.invoices_reply (h : Agree cid s t) (hcid : 1 ≤ cid) (status : String) (e : Env) :
    ((Call.invoices cid status).exec key e s).1 = ((Call.invoices cid status).exec key e t).1 := by
  have hrows : (s.base.invoices.rows.filter fun inv ↦
      ofCustomer cid inv.customerID && (status = "" || inv.status.text = status)) =
        t.base.invoices.rows.filter fun inv ↦
          ofCustomer cid inv.customerID && (status = "" || inv.status.text = status) :=
    Table.filter_owned h.invoices fun inv hinv ↦
      decide_eq_true (owner_of_ofCustomer hcid (Bool.and_eq_true_iff.mp hinv).1)
  simp only [Call.exec, hrows]
  exact orFault_congr e _

theorem Agree.payments_reply (h : Agree cid s t) (hcid : 1 ≤ cid) (e : Env) :
    ((Call.payments cid).exec key e s).1 = ((Call.payments cid).exec key e t).1 := by
  have hrows : (s.base.payments.rows.filter fun p ↦ ofCustomer cid p.customerID) =
      t.base.payments.rows.filter fun p ↦ ofCustomer cid p.customerID :=
    Table.filter_owned h.payments fun p hp ↦ decide_eq_true (owner_of_ofCustomer hcid hp)
  simp only [Call.exec, hrows]
  exact orFault_congr e _

theorem Agree.tickets_reply (h : Agree cid s t) (hcid : 1 ≤ cid) (e : Env) :
    ((Call.tickets cid).exec key e s).1 = ((Call.tickets cid).exec key e t).1 := by
  have hown (r : Ticket) (hr : (r.deletedAt = none && ofCustomer cid r.customerID) = true) :
      r.customerID = cid :=
    owner_of_ofCustomer hcid (Bool.and_eq_true_iff.mp hr).2
  have hrows : (s.tickets.rows.filter fun r ↦
      r.deletedAt = none && ofCustomer cid r.customerID) =
        t.tickets.rows.filter fun r ↦ r.deletedAt = none && ofCustomer cid r.customerID :=
    Table.filter_owned h.tickets fun r hr ↦ decide_eq_true (hown r hr)
  -- The customer that is loaded with a ticket is the one that asks.
  have hloaded : ((e.ticketOrder.order (t.tickets.rows.filter fun r ↦
      r.deletedAt = none && ofCustomer cid r.customerID)).map fun r ↦ (r, s.customer r.customerID)) =
        (e.ticketOrder.order (t.tickets.rows.filter fun r ↦
          r.deletedAt = none && ofCustomer cid r.customerID)).map fun r ↦
            (r, t.customer r.customerID) := by
    refine List.map_congr_left fun r hr ↦ ?_
    rw [hown r (List.mem_filter.mp (e.ticketOrder.mem_order.mp hr)).2, h.customer_eq]
  simp only [Call.exec, hrows, hloaded]
  exact orFault_congr e _

end Reads

/-- A payment with this key is there. -/
def Taken (idempotencyKey : String) (w : Rosmon.World) : Prop :=
  ∃ p ∈ w.payments, p.idempotencyKey = idempotencyKey

/-- What both ways to pay end with, seen by the customer: but for new ids the same payment, which
there is none of if `foreign` holds, or errors that the handler answers alike. -/
def Alike {α : Type} (foreign : Prop) (unnumbered : α → α) : Except Error α → Except Error α → Prop
  | .ok a, .ok b => ¬foreign ∧ unnumbered a = unnumbered b
  | .error err, .error err' => ∀ message, payFailed message err = payFailed message err'
  | _, _ => False

theorem Alike.ok {α : Type} {foreign : Prop} {unnumbered : α → α} {a b : α}
    (h : Alike foreign unnumbered (.ok a) (.ok b)) (answer : α → Response Body)
    (hanswer : ∀ a, anonymous (answer (unnumbered a)) = anonymous (answer a)) :
    SameAnswer foreign (answer a) (answer b) where
  anonymous := by rw [← hanswer a, h.2, hanswer b]
  same hforeign := absurd hforeign h.1

/-- The id is that of an invoice of somebody else. -/
def ForeignInvoice (cid id : ℕ) (w : World) : Prop :=
  ∃ inv, w.base.invoices.get id = some inv ∧ inv.customerID ≠ cid

section Payments

variable {α : Type} {cid : ℕ} {s t : World} {ok : Rosmon.Env → Prop}

theorem Agree.find_invoice (h : Agree cid s t) (id : ℕ) :
    (∃ inv, s.base.invoices.get id = some inv ∧ t.base.invoices.get id = some inv ∧
      inv.customerID = cid) ∨
    (∀ inv, s.base.invoices.get id = some inv → inv.customerID ≠ cid) ∧
      ∀ inv, t.base.invoices.get id = some inv → inv.customerID ≠ cid :=
  Table.find_owned h.invoices fun _ hr ↦ beq_iff_eq.mp hr

theorem not_foreignInvoice {id : ℕ} {inv : Invoice} (hrow : s.base.invoices.get id = some inv)
    (hown : inv.customerID = cid) : ¬ForeignInvoice cid id s := by
  intro ⟨inv', hrow', hforeign⟩
  obtain rfl : inv = inv' := Option.some.inj (hrow.symm.trans hrow')
  exact hforeign hown

/-- Nothing has been found for the customer: no row, or one of somebody else. -/
def Withheld {ρ : Type} (missing : Sentinel) (foreign : ρ → Prop) (r : Except Error ρ) : Prop :=
  r = .error (.of missing) ∨ ∃ row, r = .ok row ∧ foreign row

theorem withheld_of {row : Option Invoice} (h : ∀ inv, row = some inv → inv.customerID ≠ cid) :
    Withheld .invoiceNotFound (·.customerID ≠ cid) (found .invoiceNotFound row) := by
  cases row with
  | none => exact .inl rfl
  | some inv => exact .inr ⟨inv, rfl, h inv rfl⟩

/-- Two outcomes of a read that the customer cannot tell apart. -/
def SameRead {ρ : Type} (missing : Sentinel) (foreign : ρ → Prop) (r r' : Except Error ρ) : Prop :=
  r = r' ∨ Withheld missing foreign r ∧ Withheld missing foreign r'

/-- What reading an invoice for the customer yields in two states. -/
inductive Read (cid id : ℕ) (w : World) : Except Error Invoice → Except Error Invoice → Prop
  | failed (err : Error) : Read cid id w (.error err) (.error err)
  | own (inv : Invoice) : w.base.invoices.get id = some inv → inv.customerID = cid →
      Read cid id w (.ok inv) (.ok inv)
  | withheld {a b : Except Error Invoice} : Withheld .invoiceNotFound (·.customerID ≠ cid) a →
      Withheld .invoiceNotFound (·.customerID ≠ cid) b → Read cid id w a b

theorem Read.sameRead {id : ℕ} {r r' : Except Error Invoice} (h : Read cid id s r r') :
    SameRead .invoiceNotFound (·.customerID ≠ cid) r r' := by
  cases h with
  | failed | own => exact .inl rfl
  | withheld hr hr' => exact .inr ⟨hr, hr'⟩

theorem Agree.read (h : Agree cid s t) (id : ℕ) (e : Rosmon.Env) :
    Read cid id s ((Rosmon.Call.invoices (.getByID id)).exec e s.base).1
      ((Rosmon.Call.invoices (.getByID id)).exec e t.base).1 := by
  simp only [Rosmon.Call.exec, Rosmon.orFault, InvoiceCall.exec]
  cases e.fault with
  | some err => exact .failed err
  | none =>
    obtain ⟨inv, hs, ht, hown⟩ | ⟨hs, ht⟩ := h.find_invoice id
    · simp only [hs, ht, found_some]
      exact .own inv hs hown
    · exact .withheld (withheld_of hs) (withheld_of ht)

theorem Agree.customers_reply (h : Agree cid s t) (e : Rosmon.Env) :
    ((Rosmon.Call.customers cid).exec e s.base).1 =
      ((Rosmon.Call.customers cid).exec e t.base).1 := by
  have hcust : (s.base.customers.find fun r ↦ r.deletedAt = none && r.id == cid) =
      t.base.customers.find fun r ↦ r.deletedAt = none && r.id == cid := h.customer_eq
  simp only [Rosmon.Call.exec, Rosmon.orFault, hcust]
  cases e.fault <;> rfl

/-- The beginning of both ways to pay an invoice. -/
theorem twin_getByID (h : Agree cid s t) {id : ℕ} {unnumbered : α → α}
    {k : Except Error Invoice → Rosmon.Prog (Except Error α)}
    (hfailed : ∀ err, k (.error err) = .ret (.error (err.wrap "payment: get invoice: ")))
    (hforeign : ∀ inv, inv.customerID ≠ cid → k (.ok inv) = .ret (.error (notOwned id cid)))
    (hown : ∀ inv, s.base.invoices.get id = some inv → inv.customerID = cid →
      (k (.ok inv)).Twin Rosmon.Call.exec ok
        (fun a b _ _ ↦ Alike (ForeignInvoice cid id s) unnumbered a b) (k (.ok inv))
        s.base t.base) :
    (Program.call (.invoices (.getByID id)) k).Twin Rosmon.Call.exec ok
      (fun a b _ _ ↦ Alike (ForeignInvoice cid id s) unnumbered a b)
      (.call (.invoices (.getByID id)) k) s.base t.base := by
  have hrefused (r : Except Error Invoice)
      (hr : Withheld .invoiceNotFound (·.customerID ≠ cid) r) :
      ∃ err, k r = .ret (.error err) ∧ Refused err := by
    obtain rfl | ⟨inv, rfl, hinv⟩ := hr
    · exact ⟨_, hfailed _, refused_missing⟩
    · exact ⟨_, hforeign inv hinv, refused_notOwned id cid⟩
  intro e _
  rw [exec_getByID, exec_getByID]
  generalize hs : ((Rosmon.Call.invoices (.getByID id)).exec e s.base).1 = a
  generalize ht : ((Rosmon.Call.invoices (.getByID id)).exec e t.base).1 = b
  have hread := h.read id e
  rw [hs, ht] at hread
  cases hread with
  | failed err =>
    rw [hfailed]
    exact fun _ ↦ rfl
  | own inv hrow hinv => exact hown inv hrow hinv
  | withheld ha hb =>
    obtain ⟨err, hka, herr⟩ := hrefused a ha
    obtain ⟨err', hkb, herr'⟩ := hrefused b hb
    rw [hka, hkb]
    exact fun message ↦ (herr message).trans (herr' message).symm

/-- A payment is created in both states, or in neither. -/
theorem twin_create {u v : Rosmon.World} {p : Payment}
    {Q : α → α → Rosmon.World → Rosmon.World → Prop} {k : Except Error Payment → Rosmon.Prog α}
    (hsettings : u.settings = v.settings)
    (hkey : Taken p.idempotencyKey u ↔ Taken p.idempotencyKey v)
    (hfailed : ∀ err, (k (.error err)).Twin Rosmon.Call.exec ok Q (k (.error err)) u v)
    (hcreated : ∀ m n u' v', u'.settings = v'.settings →
      (k (.ok { p with id := m })).Twin Rosmon.Call.exec ok Q (k (.ok { p with id := n })) u' v') :
    (Program.call (.payments (.create p)) k).Twin Rosmon.Call.exec ok Q
      (.call (.payments (.create p)) k) u v := by
  have htaken (w : Rosmon.World) :
      (w.payments.find fun q ↦ q.idempotencyKey = p.idempotencyKey).isSome = true ↔
        Taken p.idempotencyKey w := by
    simp [Table.find, Taken, Table.mem_iff]
  have hfind : (u.payments.find fun q ↦ q.idempotencyKey = p.idempotencyKey).isSome =
      (v.payments.find fun q ↦ q.idempotencyKey = p.idempotencyKey).isSome :=
    Bool.eq_iff_iff.mpr ((htaken u).trans (hkey.trans (htaken v).symm))
  intro e _
  simp only [Rosmon.Call.exec, Rosmon.orFault, PaymentCall.exec, hfind]
  cases e.fault with
  | some err => exact hfailed err
  | none =>
    cases (v.payments.find fun q ↦ q.idempotencyKey = p.idempotencyKey).isSome with
    | true => exact hfailed _
    | false => exact hcreated _ _ _ _ hsettings

theorem twin_readsSetting {u v : Rosmon.World} {p : Rosmon.Prog α} (hp : p.Only readsSetting)
    (hsettings : u.settings = v.settings) :
    p.Twin Rosmon.Call.exec ok (fun a b u' v' ↦ a = b ∧ u' = u ∧ v' = v) p u v := by
  refine hp.twin (I := fun u' v' ↦ u' = u ∧ v' = v) (fun c e u' v' hc _ huv ↦ ?_) ⟨rfl, rfl⟩
  obtain ⟨rfl, rfl⟩ := huv
  refine ⟨?_, exec_readsSetting hc e u', exec_readsSetting hc e v'⟩
  cases c with
  | settings key =>
    simp only [Rosmon.Call.exec, Rosmon.orFault, hsettings]
    cases e.fault <;> rfl
  | _ => exact hc.elim

theorem createInvoice_twin (gw : XenditAdapter) (req req' : CreateInvoiceRequest)
    (u v : Rosmon.World) : (gw.createInvoice req).Twin Rosmon.Call.exec ok (fun a b _ _ ↦ a = b)
      (gw.createInvoice req') u v := by
  unfold XenditAdapter.createInvoice
  split
  · rfl
  · exact fun _ _ ↦ rfl

theorem createPortalPayment_twin (h : Agree cid s t) (id : ℕ) (proofURL bankName refNum : String)
    (hkey : ∀ inv, s.base.invoices.get id = some inv → inv.customerID = cid → ∀ e, ok e →
      let k := (portalPayment inv id cid proofURL bankName refNum e.now).idempotencyKey
      Taken k s.base ↔ Taken k t.base) :
    (createPortalPayment id cid proofURL bankName refNum).Twin Rosmon.Call.exec ok
      (fun a b _ _ ↦ Alike (ForeignInvoice cid id s) (fun p ↦ { p with id := 0 }) a b)
      (createPortalPayment id cid proofURL bankName refNum) s.base t.base := by
  simp only [createPortalPayment, Rosmon.perform, perform_bind]
  refine twin_getByID h (fun _ ↦ rfl) (fun inv hinv ↦ if_pos hinv) fun inv hrow hinv ↦ ?_
  simp only [hinv, ne_eq, not_true_eq_false, if_false]
  split_ifs
  · exact fun _ ↦ rfl
  intro e he
  refine twin_create h.settings (hkey inv hrow hinv e he) (fun _ _ ↦ rfl) fun m n u v _ ↦ ?_
  exact fun _ _ ↦ ⟨not_foreignInvoice hrow hinv, rfl⟩

theorem initiatePayment_twin (h : Agree cid s t) (id : ℕ)
    (hkey : ∀ inv, s.base.invoices.get id = some inv → inv.customerID = cid → ∀ e, ok e →
      let k := (gatewayPayment inv id cid e.now).idempotencyKey
      Taken k s.base ↔ Taken k t.base) :
    (initiatePayment id cid).Twin Rosmon.Call.exec ok
      (fun a b _ _ ↦ Alike (ForeignInvoice cid id s) (fun r ↦ { r with paymentID := 0 }) a b)
      (initiatePayment id cid) s.base t.base := by
  simp only [initiatePayment, Rosmon.perform, perform_bind]
  refine (twin_readsSetting buildGateway_reads h.settings).bind fun r r' u v hr ↦ ?_
  obtain ⟨rfl, rfl, rfl⟩ := hr
  cases r with
  | error err => exact fun _ ↦ rfl
  | ok gw =>
    refine twin_getByID h (fun _ ↦ rfl) (fun inv hinv ↦ if_pos hinv) fun inv hrow hinv ↦ ?_
    simp only [hinv, ne_eq, not_true_eq_false, if_false]
    split_ifs
    · exact fun _ ↦ rfl
    · exact fun _ ↦ rfl
    intro e _
    rw [exec_customers, exec_customers, h.customers_reply]
    cases ((Rosmon.Call.customers cid).exec e t.base).1 with
    | error err => exact fun _ ↦ rfl
    | ok cust =>
      intro e he
      refine twin_create h.settings (hkey inv hrow hinv e he) (fun _ _ ↦ rfl) fun m n u v huv ↦ ?_
      refine (twin_readsSetting (settingStr_reads _ _) huv).bind fun appURL _ u v hr ↦ ?_
      obtain ⟨rfl, rfl, rfl⟩ := hr
      refine (createInvoice_twin gw _ _ _ _).bind fun r _ u v hr ↦ ?_
      subst hr
      -- The reply to the last write is not looked at.
      cases r with
      | error err => exact fun _ _ _ ↦ rfl
      | ok result => exact fun _ _ ↦ ⟨not_foreignInvoice hrow hinv, rfl⟩

end Payments

end Rosmon.Portal
