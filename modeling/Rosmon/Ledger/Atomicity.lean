import Rosmon.Ledger.Operation

namespace Rosmon.Ledger

open Library Store Program Service Handler

/-- The calls that settle: a manual payment, the confirmation of a pending one and
a `paid` event of the gateway. -/
inductive Settlement
  | createManual (p : Payment) (actor : Option ℕ)
  | confirm (paymentID : ℕ) (actor : Option ℕ)
  | paidEvent (gatewayName externalRef : String) (amount : ℤ)

namespace Settlement

def prog : Settlement → Prog (Except Error Unit)
  | .createManual p actor => (·.map fun _ ↦ ()) <$> Service.createManual p actor
  | .confirm paymentID actor => (·.map fun _ ↦ ()) <$> Service.confirm paymentID actor
  | .paidEvent gatewayName externalRef amount =>
    processWebhook ⟨externalRef, .paid, amount, gatewayName⟩

/-- The payment a settlement is about. -/
def paymentID : Settlement → World → Option ℕ
  | .createManual _ _, w => some w.payments.next
  | .confirm paymentID _, _ => some paymentID
  | .paidEvent gatewayName externalRef _, w =>
    (w.payments.find (Payment.named gatewayName externalRef)).map (·.id)

def operation : Settlement → Operation
  | .createManual p actor => .createManual p actor
  | .confirm paymentID actor => .confirm paymentID actor
  | .paidEvent gatewayName externalRef amount =>
    .processWebhook ⟨externalRef, .paid, amount, gatewayName⟩

end Settlement

/-- A service that a settlement has to give back. -/
def Lapsed (sub : Subscription) : Prop := sub.status = .isolir ∨ sub.status = .suspended

/-- The subscription is active again and the router will be told. -/
def Restored (t : Table Subscription) (id : ℕ) : Prop :=
  ∃ sub, t.find (Subscription.liveAt id) = some sub ∧ sub.status = .active ∧ sub.syncStatus.pending

/-- The payment is confirmed, its invoice paid and its service restored. -/
def Done (w w' : World) (id : ℕ) : Prop :=
  ∃ p inv, w'.payments.get id = some p ∧ p.status = .confirmed ∧
    w'.invoices.get p.invoiceID = some inv ∧ inv.status = .paid ∧
    ∀ sub, w.subscriptions.find (Subscription.liveAt inv.subscriptionID) = some sub →
      Lapsed sub → Restored w'.subscriptions inv.subscriptionID

theorem restored_iff {t : Table Subscription} {id : ℕ} {sub : Subscription}
    (h : t.find (Subscription.liveAt id) = some sub) :
    Restored t id ↔ sub.status = .active ∧ sub.syncStatus.pending := by
  simp [Restored, h]

section Writes

variable {e : Env} {v : World} {id : ℕ} {sub : Subscription}
variable (h : v.subscriptions.find (Subscription.liveAt id) = some sub)

include h

theorem find_updateStatus (status : SubscriptionStatus) :
    (Call.exec (.subscriptions (.updateStatus id status none none)) e v).2.subscriptions.find
      (Subscription.liveAt id) =
        some (if e.fault = none then sub.setStatus status none none e.now else sub) := by
  cases hf : e.fault with
  | none =>
    have hfind := Table.find_update v.subscriptions (p := Subscription.liveAt id)
      (f := Subscription.setStatus status none none e.now) (q := Subscription.liveAt id) fun _ ↦ rfl
    simp [Call.exec, orFault, hf, SubscriptionCall.exec, updated, hfind, h, Table.find_sat h]
  | some err => simp [Call.exec, orFault, hf, h]

theorem find_updateSyncStatus (status : SyncStatus) (notes : String) :
    (Call.exec (.subscriptions (.updateSyncStatus id status notes)) e v).2.subscriptions.find
      (Subscription.liveAt id) =
        some (if e.fault = none then sub.setSyncStatus status notes else sub) := by
  cases hf : e.fault with
  | none =>
    have hfind := Table.find_update v.subscriptions (p := Subscription.liveAt id)
      (f := Subscription.setSyncStatus status notes) (q := Subscription.liveAt id) fun _ ↦ rfl
    simp [Call.exec, orFault, hf, SubscriptionCall.exec, updated, hfind, h, Table.find_sat h]
  | some err => simp [Call.exec, orFault, hf, h]

/-- Two writes bring a lapsed subscription back: the first must succeed, the second
may fail only where the router was to be told something anyway. -/
theorem restored_after_writes (hlapsed : Lapsed sub) {e' : Env} {status : SyncStatus}
    (hstatus : status.pending) (notes : String) :
    Restored (Call.exec (.subscriptions (.updateSyncStatus id status notes)) e'
      (Call.exec (.subscriptions (.updateStatus id .active none none)) e v).2).2.subscriptions id ↔
        e.fault = none ∧ (e'.fault = none ∨ sub.syncStatus.pending) := by
  have hne : sub.status ≠ .active := by
    rcases hlapsed with h | h <;> simp [h]
  rw [restored_iff (find_updateSyncStatus (find_updateStatus h .active) status notes)]
  by_cases he : e.fault = none <;> by_cases he' : e'.fault = none <;>
    simp [he, he', Subscription.setStatus, Subscription.setSyncStatus, hne, hstatus]

end Writes

/-- The run of `restoreSubscription` on a lapsed subscription. -/
theorem restoreSubscription_run (env : ℕ → Env) (w : World) {id : ℕ} {sub : Subscription}
    (hsub : w.subscriptions.find (Subscription.liveAt id) = some sub) (hlapsed : Lapsed sub) :
    Restored ((restoreSubscription id).run Call.exec env w).2.subscriptions id ↔
      (env 0).fault = none ∧ (env 1).fault = none ∧
        ((env 2).fault = none ∨ sub.syncStatus.pending) := by
  have hid : sub.id = id := by
    have h := Table.find_sat hsub
    simp only [Subscription.liveAt, Bool.and_eq_true, beq_iff_eq] at h
    exact h.2
  have hne : sub.status ≠ .active := by
    rcases hlapsed with h | h <;> simp [h]
  simp only [restoreSubscription, perform_bind, run_call]
  cases h0 : (env 0).fault with
  | some err => simp [Call.exec, orFault, h0, restored_iff hsub, hne]
  | none =>
    have hget : Call.exec (.subscriptions (.get id)) (env 0) w = (.ok sub, w) := by
      simp [Call.exec, orFault, h0, SubscriptionCall.exec, hsub]
    subst hid
    simp only [hget]
    rcases hlapsed with hs | hs
    · simpa [hs] using restored_after_writes hsub (.inl hs) rfl _
    · simpa [hs] using restored_after_writes hsub (.inr hs) rfl _

theorem restoreService_run (env : ℕ → Env) (w : World) (invoiceID : ℕ) (inv : Invoice)
    (hinv : w.invoices.get invoiceID = some inv) {sub : Subscription}
    (hsub : w.subscriptions.find (Subscription.liveAt inv.subscriptionID) = some sub)
    (hlapsed : Lapsed sub) :
    Restored ((restoreService invoiceID).run Call.exec env w).2.subscriptions
      inv.subscriptionID ↔ (env 0).fault = none ∧ (env 1).fault = none ∧
        (env 2).fault = none ∧ ((env 3).fault = none ∨ sub.syncStatus.pending) := by
  simp only [restoreService, perform_bind, run_call]
  cases h0 : (env 0).fault with
  | some err =>
    have hne : sub.status ≠ .active := by
      rcases hlapsed with h | h <;> simp [h]
    simp [Call.exec, orFault, h0, restored_iff hsub, hne]
  | none =>
    have hget : Call.exec (.invoices (.getByID invoiceID)) (env 0) w = (.ok inv, w) := by
      simp [Call.exec, orFault, h0, InvoiceCall.exec, hinv]
    simp only [hget]
    obtain ⟨m, h⟩ := run_bind Call.exec (restoreSubscription inv.subscriptionID)
      (notifyPaid inv) (fun n ↦ env (n + 1)) w
    rw [h, (run_inert (notifyPaid_inert inv _) _ _).2.2,
      restoreSubscription_run _ w hsub hlapsed]
    simp

/-- The run of a settlement: the payment write lies behind it, and every later call
may fail without a word. -/
theorem applySettlement_run (p : Payment) (env : ℕ → Env) (w : World) :
    let w' := ((applySettlement p).run Call.exec env w).2
    w'.payments = w.payments ∧
      w'.invoices = (if (env 1).fault = none then w.invoices.update (·.id == p.invoiceID)
        (Invoice.setStatus .paid (some (env 0).now) (env 1).now) else w.invoices) ∧
      ∀ inv, w.invoices.get p.invoiceID = some inv → ∀ sub,
        w.subscriptions.find (Subscription.liveAt inv.subscriptionID) = some sub → Lapsed sub →
          (Restored w'.subscriptions inv.subscriptionID ↔ (env 2).fault = none ∧
            (env 3).fault = none ∧ (env 4).fault = none ∧
              ((env 5).fault = none ∨ sub.syncStatus.pending)) := by
  simp only [applySettlement, perform_bind, run_call]
  have hoff := run_offLedger (restoreService_offLedger p.invoiceID)
  cases h1 : (env 1).fault with
  | some err =>
    simp only [Call.exec, orFault, h1, reduceCtorEq, if_false]
    refine ⟨(hoff _ _).1, (hoff _ _).2, fun inv hinv sub hsub hlapsed ↦ ?_⟩
    simpa using restoreService_run (fun n ↦ env (n + 2)) w _ inv hinv hsub hlapsed
  | none =>
    simp only [Call.exec, orFault, h1, if_true]
    refine ⟨(hoff _ _).1, (hoff _ _).2, fun inv hinv sub hsub hlapsed ↦ ?_⟩
    have hid : inv.id = p.invoiceID := (Invoice.get_iff.mp hinv).2
    have hrun := restoreService_run (fun n ↦ env (n + 2))
      { w with invoices := (w.invoices.update (·.id == p.invoiceID)
          (Invoice.setStatus .paid (some (env 0).now) (env 1).now)) }
      p.invoiceID (inv.setStatus .paid (some (env 0).now) (env 1).now) (by simp [Table.get_update, hinv, hid]) hsub hlapsed
    exact hrun

/-- The calls of a settlement, numbered from its start, do all that is asked of
them: the invoice is written unless it is paid already, and a lapsed service is
read and restored. -/
def Completes (env : ℕ → Env) (w : World) (invoiceID : ℕ) : Prop :=
  ∃ inv, w.invoices.get invoiceID = some inv ∧ ((env 1).fault = none ∨ inv.status = .paid) ∧
    ∀ sub, w.subscriptions.find (Subscription.liveAt inv.subscriptionID) = some sub → Lapsed sub →
      (env 2).fault = none ∧ (env 3).fault = none ∧ (env 4).fault = none ∧
        ((env 5).fault = none ∨ sub.syncStatus.pending)

theorem done_iff_completes (env : ℕ → Env) {w v : World} {p : Payment} {id : ℕ}
    (hinv : v.invoices = w.invoices) (hsub : v.subscriptions = w.subscriptions)
    (hpay : ∃ q, v.payments.get id = some q ∧ q.status = .confirmed ∧ q.invoiceID = p.invoiceID)
    {α : Type} {k : Prog α} (hk : k.Only Call.inert) :
    Done w ((applySettlement p >>= fun _ ↦ k).run Call.exec env v).2 id ↔
      Completes env w p.invoiceID := by
  obtain ⟨q, hq, hc, hi⟩ := hpay
  obtain ⟨m, h⟩ := run_bind Call.exec (applySettlement p) (fun _ ↦ k) env v
  obtain ⟨hpay, hinvs, hrest⟩ := applySettlement_run p env v
  obtain ⟨hp', hi', hs'⟩ := run_inert hk (fun n ↦ env (n + m))
    ((applySettlement p).run Call.exec env v).2
  have hget : ∀ inv', ((applySettlement p).run Call.exec env v).2.invoices.get p.invoiceID =
      some inv' ↔ ∃ inv, w.invoices.get p.invoiceID = some inv ∧
        inv' = if (env 1).fault = none
          then inv.setStatus .paid (some (env 0).now) (env 1).now else inv := by
    intro inv'
    rw [hinvs, hinv]
    split
    · rw [Table.get_update, Option.map_eq_some_iff]
      refine exists_congr fun inv ↦ and_congr_right fun hi ↦ ?_
      have hid : inv.id = p.invoiceID := (Invoice.get_iff.mp hi).2
      simp [hid, eq_comm]
    · simp [eq_comm]
  have hsame : ∀ inv : Invoice, (if (env 1).fault = none then
      inv.setStatus .paid (some (env 0).now) (env 1).now else inv).subscriptionID =
        inv.subscriptionID := fun inv ↦ by split <;> rfl
  rw [h]
  simp only [Done, hp', hi', hs', hpay, hq, Option.some.injEq]
  constructor
  · rintro ⟨_, _, rfl, -, hinv', hpaid, hsubs⟩
    rw [hi, hget] at hinv'
    obtain ⟨inv, hi0, rfl⟩ := hinv'
    refine ⟨inv, hi0, ?_, fun sub hs hl ↦ ?_⟩
    · by_cases h1 : (env 1).fault = none
      · exact .inl h1
      · exact .inr (by simpa [h1] using hpaid)
    · rw [hsame] at hsubs
      exact (hrest inv (hinv ▸ hi0) sub (hsub ▸ hs) hl).mp (hsubs sub hs hl)
  · rintro ⟨inv, hi0, hpaid, hsubs⟩
    refine ⟨q, _, rfl, hc, by rw [hi, hget]; exact ⟨inv, hi0, rfl⟩, ?_, fun sub hs hl ↦ ?_⟩
    · split
      · rfl
      · next h1 => exact hpaid.resolve_left h1
    · rw [hsame] at hs ⊢
      exact (hrest inv (hinv ▸ hi0) sub (hsub ▸ hs) hl).mpr (hsubs sub hs hl)

/-- What is left of an operation once its payment is written: the settlement, and
an inert rest that returns `r`. -/
theorem settles_then (env : ℕ → Env) {w v : World} {p : Payment} {id : ℕ}
    (hinv : v.invoices = w.invoices) (hsub : v.subscriptions = w.subscriptions)
    (hpay : ∃ q, v.payments.get id = some q ∧ q.status = .confirmed ∧ q.invoiceID = p.invoiceID)
    {α : Type} {r : α} (actor : Option ℕ) (n : ℕ) :
    let run := (applySettlement p >>= fun _ ↦ audit actor "payment_confirmed" "payment" n >>=
      fun _ ↦ Program.ret r).run Call.exec env v
    run.1 = r ∧ (Done w run.2 id ↔ Completes env w p.invoiceID) := by
  constructor
  · obtain ⟨m, h⟩ := run_bind Call.exec (applySettlement p)
      (fun _ ↦ audit actor "payment_confirmed" "payment" n >>= fun _ ↦ Program.ret r) env v
    rw [h]
    rfl
  · exact done_iff_completes env hinv hsub hpay
      ((audit_inert _ _ _ _).bind fun _ ↦ trivial)

section CreateManual

variable (env : ℕ → Env) (w : World) (p : Payment) (actor : Option ℕ)

theorem createManual_refused (h : Operation.manualSettles p w = none ∨ (env 0).fault ≠ none ∨
    (env 2).fault ≠ none) :
    ∃ err, (Service.createManual p actor).run Call.exec env w = (.error err, w) := by
  simp only [Service.createManual, perform_bind, run_call]
  cases h0 : (env 0).fault with
  | some err => simp [Call.exec, orFault, h0]
  | none =>
    cases hinv : w.invoices.get p.invoiceID with
    | none => simp [Call.exec, orFault, h0, InvoiceCall.exec, hinv]
    | some inv =>
      have hget : Call.exec (.invoices (.getByID p.invoiceID)) (env 0) w = (.ok inv, w) := by
        simp [Call.exec, orFault, h0, InvoiceCall.exec, hinv]
      simp only [hget]
      split_ifs with hcust hclosed
      · exact ⟨_, rfl⟩
      · exact ⟨_, rfl⟩
      cases h2 : (env 2).fault with
      | some err => simp [Call.exec, orFault, h2]
      | none =>
        cases hkey : w.payments.find fun q ↦ q.idempotencyKey = p.idempotencyKey with
        | none => simp_all [Operation.manualSettles, Option.filter]
        | some q => simp [Call.exec, orFault, h2, PaymentCall.exec, hkey]

theorem createManual_proceeds {i : ℕ} (h : Operation.manualSettles p w = some i)
    (h0 : (env 0).fault = none) (h2 : (env 2).fault = none) :
    ∃ r, let run := (Service.createManual p actor).run Call.exec env w
      run.1 = .ok r ∧
        (Done w run.2 w.payments.next ↔ Completes (fun n ↦ env (n + 3)) w i) := by
  obtain ⟨inv, hinv, rfl⟩ := Option.map_eq_some_iff.mp h
  obtain ⟨hinv, hp⟩ := Option.filter_eq_some_iff.mp hinv
  simp only [Bool.and_eq_true, decide_eq_true_eq, Option.isNone_iff_eq_none] at hp
  obtain ⟨⟨⟨hcust, hpaid⟩, hcancelled⟩, hkey⟩ := hp
  have hid : p.invoiceID = inv.id := (Invoice.get_iff.mp hinv).2.symm
  have hget : Call.exec (.invoices (.getByID p.invoiceID)) (env 0) w = (.ok inv, w) := by
    simp [Call.exec, orFault, h0, InvoiceCall.exec, hinv]
  simp only [Service.createManual, perform_bind, run_call, hget, hcust, hpaid, hcancelled,
    ne_eq, not_true_eq_false, if_false, or_self]
  simp only [Call.exec, orFault, h2, PaymentCall.exec, hkey, Option.isSome_none,
    Bool.false_eq_true, if_false]
  rw [← hid]
  exact ⟨_, settles_then (fun n ↦ env (n + 3)) rfl rfl
    ⟨_, Table.get_insert_self _ _, rfl, rfl⟩ actor _⟩

end CreateManual

section Pending

variable (env : ℕ → Env) (w : World) (actor : Option ℕ)

/-- The row of a payment after the write that confirms it. -/
theorem get_confirmed {t : Table Payment} {p : Payment} (hp : p ∈ t) (actor : Option ℕ)
    (now : Time) : (t.update (·.id == p.id) (Payment.setStatus .confirmed actor (some now) "")).get
      p.id = some (p.setStatus .confirmed actor (some now) "") := by
  rw [Table.get_update, Payment.get_iff.mpr ⟨hp, rfl⟩]
  simp

theorem confirm_refused (id : ℕ) (h : Operation.settles (.confirm id actor) w = none ∨
    (env 0).fault ≠ none ∨ (env 2).fault ≠ none) :
    ∃ err, (Service.confirm id actor).run Call.exec env w = (.error err, w) := by
  simp only [Service.confirm, perform_bind, run_call]
  cases h0 : (env 0).fault with
  | some err => simp [Call.exec, orFault, h0]
  | none =>
    cases hp : w.payments.get id with
    | none => simp [Call.exec, orFault, h0, PaymentCall.exec, hp]
    | some p =>
      have hget : Call.exec (.payments (.getByID id)) (env 0) w = (.ok p, w) := by
        simp [Call.exec, orFault, h0, PaymentCall.exec, hp]
      simp only [hget]
      split_ifs with hpending
      · exact ⟨_, rfl⟩
      cases h2 : (env 2).fault with
      | some err => simp [Call.exec, orFault, h2]
      | none => simp_all [Operation.settles, Option.filter]

theorem confirm_proceeds (id : ℕ) {i : ℕ} (h : Operation.settles (.confirm id actor) w = some i)
    (h0 : (env 0).fault = none) (h2 : (env 2).fault = none) :
    ∃ r, let run := (Service.confirm id actor).run Call.exec env w
      run.1 = .ok r ∧ (Done w run.2 id ↔ Completes (fun n ↦ env (n + 3)) w i) := by
  obtain ⟨p, hp, rfl⟩ := Option.map_eq_some_iff.mp h
  obtain ⟨hp, hpending⟩ := Option.filter_eq_some_iff.mp hp
  obtain ⟨hm, rfl⟩ := Payment.get_iff.mp hp
  replace hpending : p.status = .pending := of_decide_eq_true hpending
  have hget : Call.exec (.payments (.getByID p.id)) (env 0) w = (.ok p, w) := by
    simp [Call.exec, orFault, h0, PaymentCall.exec, hp]
  simp only [Service.confirm, perform_bind, run_call, hget, hpending, ne_eq, not_true_eq_false,
    if_false]
  simp only [Call.exec, orFault, h2, PaymentCall.exec, updated, Payment.find_of_mem hm, Option.isSome_some, if_true]
  exact ⟨_, settles_then (fun n ↦ env (n + 3)) rfl rfl
    ⟨p.setStatus .confirmed actor (some (env 1).now) "", get_confirmed hm _ _, rfl, rfl⟩ actor _⟩

section PaidEvent

variable (gatewayName externalRef : String) (amount : ℤ)

theorem paidEvent_unread (h : (env 0).fault ≠ none ∨
    w.payments.find (Payment.named gatewayName externalRef) = none) :
    ∃ err, (processWebhook ⟨externalRef, .paid, amount, gatewayName⟩).run Call.exec env w =
      (.error err, w) := by
  simp only [processWebhook, perform_bind, run_call]
  cases h0 : (env 0).fault with
  | some err => simp [Call.exec, orFault, h0]
  | none => simp [Call.exec, orFault, h0, PaymentCall.exec, h.resolve_left (· h0)]

variable {p : Payment} (h0 : (env 0).fault = none)
  (hp : w.payments.find (Payment.named gatewayName externalRef) = some p)

include hp h0

theorem paidEvent_decided (hs : p.status ≠ .pending) :
    (processWebhook ⟨externalRef, .paid, amount, gatewayName⟩).run Call.exec env w =
      (.ok (), w) := by
  have hdone : p.status = .confirmed ∨ p.status = .rejected := by
    cases h : p.status <;> simp_all
  simp [processWebhook, Call.exec, orFault, h0, PaymentCall.exec, hp, hdone]

theorem paidEvent_unwritten (hs : p.status = .pending) (h2 : (env 2).fault ≠ none) :
    ∃ err, (processWebhook ⟨externalRef, .paid, amount, gatewayName⟩).run Call.exec env w =
      (.error err, w) := by
  obtain ⟨err, h2⟩ := Option.ne_none_iff_exists'.mp h2
  simp [processWebhook, webhookConfirm, Call.exec, orFault, h0, h2, PaymentCall.exec, hp, hs]

theorem paidEvent_proceeds (hs : p.status = .pending) (h2 : (env 2).fault = none) :
    let run := (processWebhook ⟨externalRef, .paid, amount, gatewayName⟩).run Call.exec env w
    run.1 = .ok () ∧ (Done w run.2 p.id ↔ Completes (fun n ↦ env (n + 3)) w p.invoiceID) := by
  have hm := Table.mem_of_find hp
  have hget : Call.exec (.payments (.getByExternalRef gatewayName externalRef)) (env 0) w =
      (.ok p, w) := by
    simp [Call.exec, orFault, h0, PaymentCall.exec, hp]
  simp only [processWebhook, perform_bind, run_call, hget, hs, reduceCtorEq, or_self, if_false,
    webhookConfirm]
  simp only [Call.exec, orFault, h2, PaymentCall.exec, updated, Payment.find_of_mem hm, Option.isSome_some, if_true]
  exact settles_then (fun n ↦ env (n + 3)) rfl rfl
    ⟨p.setStatus .confirmed none (some (env 1).now) "", get_confirmed hm _ _, rfl, rfl⟩ none _

end PaidEvent

end Pending

/-- All or nothing: no error and everything done, or an error and nothing changed. -/
def Settlement.Atomic (s : Settlement) (env : ℕ → Env) (w : World) : Prop :=
  let run := s.prog.run Call.exec env w
  (run.1 = .ok () ∧ ∃ id ∈ s.paymentID w, Done w run.2 id) ∨
    (∃ err, run.1 = .error err) ∧ run.2.payments = w.payments ∧ run.2.invoices = w.invoices ∧
      run.2.subscriptions = w.subscriptions

/-- A payment decided before: it is confirmed, its invoice paid and no service of it
is lapsed. -/
def AlreadyDone (w : World) (p : Payment) : Prop :=
  p.status = .confirmed ∧ ∃ inv, w.invoices.get p.invoiceID = some inv ∧ inv.status = .paid ∧
    ∀ sub, w.subscriptions.find (Subscription.liveAt inv.subscriptionID) = some sub → ¬Lapsed sub

/-- When a settlement is all or nothing, in terms of the state it starts in and the
calls that fail. One that gets to its payment is, if the first read or the write
of the payment fails or if the rest completes; an event about a decided payment
is, if there is nothing left to do for it. -/
def Settlement.Safe (s : Settlement) (env : ℕ → Env) (w : World) : Prop :=
  match s.operation.settles w with
  | some i => (env 0).fault ≠ none ∨ (env 2).fault ≠ none ∨ Completes (fun n ↦ env (n + 3)) w i
  | none => match s with
    | .paidEvent gatewayName externalRef _ => (env 0).fault ≠ none ∨
      ∀ p, w.payments.find (Payment.named gatewayName externalRef) = some p → AlreadyDone w p
    | _ => True

section Atomic

variable {s : Settlement} {env : ℕ → Env} {w : World}

theorem Settlement.Atomic.of_error (h : ∃ err, s.prog.run Call.exec env w = (.error err, w)) :
    s.Atomic env w := by
  obtain ⟨err, h⟩ := h
  exact .inr (by simp [h])

theorem Settlement.atomic_iff_done {id : ℕ} (hid : s.paymentID w = some id)
    (h : (s.prog.run Call.exec env w).1 = .ok ()) :
    s.Atomic env w ↔ Done w (s.prog.run Call.exec env w).2 id := by
  simp [Atomic, h, hid]

/-- A settlement that gets to its payment. -/
theorem Settlement.atomic_iff_safe {i id : ℕ} (ht : s.operation.settles w = some i)
    (hid : s.paymentID w = some id)
    (hrefused : (env 0).fault ≠ none ∨ (env 2).fault ≠ none →
      ∃ err, s.prog.run Call.exec env w = (.error err, w))
    (hproceeds : (env 0).fault = none → (env 2).fault = none →
      (s.prog.run Call.exec env w).1 = .ok () ∧ (Done w (s.prog.run Call.exec env w).2 id ↔
        Completes (fun n ↦ env (n + 3)) w i)) :
    s.Atomic env w ↔ s.Safe env w := by
  simp only [Safe, ht]
  by_cases hf : (env 0).fault ≠ none ∨ (env 2).fault ≠ none
  · exact iff_of_true (.of_error (hrefused hf)) (or_assoc.mp (.inl hf))
  · obtain ⟨h0, h2⟩ := not_or.mp hf
    obtain ⟨hok, hdone⟩ := hproceeds (not_not.mp h0) (not_not.mp h2)
    rw [atomic_iff_done hid hok, hdone]
    exact ⟨fun h ↦ .inr (.inr h), fun h ↦ (h.resolve_left h0).resolve_left h2⟩

theorem done_self_iff {p : Payment} (hp : p ∈ w.payments) : Done w w p.id ↔ AlreadyDone w p := by
  have hget : w.payments.get p.id = some p := Payment.get_iff.mpr ⟨hp, rfl⟩
  simp only [Done, AlreadyDone, hget, Option.some.injEq]
  constructor
  · rintro ⟨_, inv, rfl, hc, hinv, hpaid, hsubs⟩
    refine ⟨hc, inv, hinv, hpaid, fun sub hsub hl ↦ ?_⟩
    have hactive := ((restored_iff hsub).mp (hsubs sub hsub hl)).1
    rcases hl with h | h <;> simp [h] at hactive
  · rintro ⟨hc, inv, hinv, hpaid, hsubs⟩
    exact ⟨p, inv, rfl, hc, hinv, hpaid, fun sub hsub hl ↦ absurd hl (hsubs sub hsub)⟩

theorem createManual_atomic_iff (p : Payment) (actor : Option ℕ) :
    (Settlement.createManual p actor).Atomic env w ↔
      (Settlement.createManual p actor).Safe env w := by
  have hrefused (h : Operation.manualSettles p w = none ∨ (env 0).fault ≠ none ∨
      (env 2).fault ≠ none) :
      ∃ err, (Settlement.createManual p actor).prog.run Call.exec env w = (.error err, w) := by
    obtain ⟨err, h⟩ := createManual_refused env w p actor h
    exact ⟨err, by simp [Settlement.prog, run_map, h, Except.map]⟩
  cases ht : Operation.manualSettles p w with
  | none =>
    refine iff_of_true (.of_error (hrefused (.inl ht))) ?_
    simp [Settlement.Safe, Settlement.operation, Operation.settles, ht]
  | some i =>
    refine Settlement.atomic_iff_safe ht rfl (fun hf ↦ hrefused (.inr hf)) fun h0 h2 ↦ ?_
    obtain ⟨r, hr, hdone⟩ := createManual_proceeds env w p actor ht h0 h2
    simp only [Settlement.prog, run_map, hr, hdone]
    exact ⟨rfl, trivial⟩

theorem confirm_atomic_iff (id : ℕ) (actor : Option ℕ) :
    (Settlement.confirm id actor).Atomic env w ↔ (Settlement.confirm id actor).Safe env w := by
  have hrefused (h : Operation.settles (.confirm id actor) w = none ∨ (env 0).fault ≠ none ∨
      (env 2).fault ≠ none) :
      ∃ err, (Settlement.confirm id actor).prog.run Call.exec env w = (.error err, w) := by
    obtain ⟨err, h⟩ := confirm_refused env w actor id h
    exact ⟨err, by simp [Settlement.prog, run_map, h, Except.map]⟩
  cases ht : Operation.settles (.confirm id actor) w with
  | none =>
    refine iff_of_true (.of_error (hrefused (.inl ht))) ?_
    simp [Settlement.Safe, Settlement.operation, ht]
  | some i =>
    refine Settlement.atomic_iff_safe ht rfl (fun hf ↦ hrefused (.inr hf)) fun h0 h2 ↦ ?_
    obtain ⟨r, hr, hdone⟩ := confirm_proceeds env w actor id ht h0 h2
    simp only [Settlement.prog, run_map, hr, hdone]
    exact ⟨rfl, trivial⟩

theorem paidEvent_atomic_iff (g r : String) (n : ℤ) :
    (Settlement.paidEvent g r n).Atomic env w ↔ (Settlement.paidEvent g r n).Safe env w := by
  cases hp : w.payments.find (Payment.named g r) with
  | none =>
    refine iff_of_true (.of_error (paidEvent_unread env w g r n (.inr hp))) ?_
    simp [Settlement.Safe, Settlement.operation, Operation.settles, hp]
  | some p =>
    have hid : (Settlement.paidEvent g r n).paymentID w = some p.id := by
      simp [Settlement.paymentID, hp]
    by_cases hs : p.status = .pending
    · have ht : (Settlement.paidEvent g r n).operation.settles w = some p.invoiceID := by
        simp [Settlement.operation, Operation.settles, hp, Option.filter, hs]
      refine Settlement.atomic_iff_safe ht hid (fun hf ↦ ?_)
        fun h0 h2 ↦ paidEvent_proceeds env w g r n h0 hp hs h2
      by_cases h0 : (env 0).fault = none
      · exact paidEvent_unwritten env w g r n h0 hp hs (hf.resolve_left (· h0))
      · exact paidEvent_unread env w g r n (.inl h0)
    · have ht : (Settlement.paidEvent g r n).operation.settles w = none := by
        simp [Settlement.operation, Operation.settles, hp, Option.filter, hs]
      by_cases h0 : (env 0).fault = none
      · have h : (Settlement.paidEvent g r n).prog.run Call.exec env w = (.ok (), w) :=
          paidEvent_decided env w g r n h0 hp hs
        rw [Settlement.atomic_iff_done hid (congrArg Prod.fst h), h,
          done_self_iff (Table.mem_of_find hp)]
        simp [Settlement.Safe, ht, h0, hp]
      · refine iff_of_true (.of_error (paidEvent_unread env w g r n (.inl h0))) ?_
        simp [Settlement.Safe, ht, h0]

/-- A settlement is all or nothing exactly when no call fails between the write of
its payment and the end of what is to be done for it. -/
theorem settlement_atomic_iff (s : Settlement) (env : ℕ → Env) (w : World) :
    s.Atomic env w ↔ s.Safe env w := by
  cases s with
  | createManual p actor => exact createManual_atomic_iff p actor
  | confirm id actor => exact confirm_atomic_iff id actor
  | paidEvent gatewayName externalRef amount =>
    exact paidEvent_atomic_iff gatewayName externalRef amount

end Atomic

/-- Cash for the whole invoice, as `Collect` hands it over. -/
def cash : Settlement :=
  .createManual (manualPayment ⟨1, 1, 150000, "cash", "", "", "", "code:ABCD1234"⟩) none

/-- Only the write to the invoice fails. -/
def invoiceWriteFails (n : ℕ) : Env := if n = 4 then .broken 0 else .calm 0

/-- The payment is confirmed and reported as a success, and the invoice stays unpaid;
the same collection is then refused as a duplicate. -/
theorem invoice_left_unpaid :
    ¬cash.Atomic invoiceWriteFails (World.oneInvoice 150000 .active) ∧
      let w := (cash.prog.run Call.exec invoiceWriteFails (World.oneInvoice 150000 .active)).2
      w.payments.rows.map (·.status) = [.confirmed] ∧ w.invoices.rows.map (·.status) = [.issued] ∧
        (cash.prog.run Call.exec (fun _ ↦ .calm 1) w).1 =
          .error (.duplicateKey "idx_payments_idempotency_key") := by
  refine ⟨?_, by decide +kernel⟩
  have hok : (cash.prog.run Call.exec invoiceWriteFails (World.oneInvoice 150000 .active)).1 =
      .ok () := by decide +kernel
  have hunpaid : ∀ inv ∈ (cash.prog.run Call.exec invoiceWriteFails
      (World.oneInvoice 150000 .active)).2.invoices, inv.status ≠ .paid := by decide +kernel
  rintro (⟨-, id, -, p, inv, -, -, hinv, hpaid, -⟩ | ⟨⟨err, herr⟩, -⟩)
  · exact hunpaid inv (Invoice.get_iff.mp hinv).1 hpaid
  · rw [hok] at herr
    cases herr

end Rosmon.Ledger
