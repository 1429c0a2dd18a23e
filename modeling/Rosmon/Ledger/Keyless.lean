import Rosmon.Ledger.Quiet

namespace Rosmon.Ledger

open Library Store Program Service Handler

/-- Some payment has the key. -/
def KeyTaken (key : String) (w : World) : Prop := ∃ p ∈ w.payments, p.idempotencyKey = key

/-- The request is accepted, its payment is recorded as confirmed, and its invoice is paid. -/
structure Paid (req : PaymentCreateRequest) (answer : Response Payment) (w : World) : Prop where
  accepted : answer.Accepted
  recorded : ∃ p ∈ w.payments, p.invoiceID = req.invoiceID ∧
    p.idempotencyKey = req.idempotencyKey ∧ p.status = .confirmed
  paid : ∃ inv ∈ w.invoices, inv.id = req.invoiceID ∧ inv.status = .paid

section Keys

variable {ok : Env → Prop} {key : String} {w : World} {req : PaymentCreateRequest}

theorem find_none_iff_not_taken :
    w.payments.find (fun q ↦ q.idempotencyKey = key) = none ↔ ¬KeyTaken key w := by
  rw [Table.find_eq_none, KeyTaken]
  simp

theorem keyTaken_insert (p : Payment) :
    KeyTaken p.idempotencyKey { w with payments := w.payments.insert p } :=
  ⟨_, Table.mem_insert.mpr (.inr rfl), rfl⟩

/-- A key that is taken stays taken: no call deletes a payment or changes its key. -/
theorem exec_keyTaken (c : Call) (e : Env) (w : World) (h : KeyTaken key w) :
    KeyTaken key (c.exec e w).2 := by
  cases c with
  | payments c =>
    refine orFault_keeps h ?_
    obtain ⟨p, hp, hkey⟩ := h
    have hupdate {f : Payment → Payment} [KeepsKey f] (id : ℕ)
        (hf : ∀ q, (f q).idempotencyKey = q.idempotencyKey) :
        ∃ q ∈ w.payments.update (·.id == id) f, q.idempotencyKey = key := by
      refine ⟨_, Table.mem_update.mpr ⟨p, hp, rfl⟩, ?_⟩
      split_ifs
      · exact (hf p).trans hkey
      · exact hkey
    cases c with
    | create q =>
      simp only [PaymentCall.exec, KeyTaken]
      split_ifs
      · exact ⟨p, hp, hkey⟩
      · exact ⟨p, Table.mem_insert.mpr (.inl hp), hkey⟩
    | getByID | getByExternalRef => exact ⟨p, hp, hkey⟩
    | updateStatus id | updateGatewayInfo id =>
      apply hupdate id
      exact fun _ ↦ rfl
  | now | newPaymentCode | notify | xendit | device | contextDone | rangeKeys => exact h
  | _ => exact orFault_keeps h h

/-- A request is accepted only if its key is free, and takes it. -/
theorem create_takes (req : PaymentCreateRequest) (actor : Option ℕ) :
    (create req actor).wp Call.exec ok (fun r u ↦ r.Accepted →
      ¬KeyTaken req.idempotencyKey w ∧ KeyTaken req.idempotencyKey u) w := by
  have hrefused {u : World} (err : Error) (h : (if err.isUniqueViolation then
      .failure 409 "CONFLICT" "pembayaran dengan key ini sudah pernah diproses"
      else writeErr err : Response Payment).Accepted) :
      ¬KeyTaken req.idempotencyKey w ∧ KeyTaken req.idempotencyKey u := by
    split_ifs at h
    · exact absurd h (by decide)
    · exact absurd h (writeErr_not_accepted err)
  unfold create
  split_ifs with hvalid
  swap
  · exact fun h ↦ absurd h (by decide)
  simp only [createManual, perform_bind, call_bind]
  apply wp_invoices_getByID
  · exact fun err ↦ hrefused _
  intro inv hinv
  dsimp only
  split_ifs
  · exact hrefused _
  · exact hrefused _
  refine wp_now fun now ↦ wp_payments_create (fun err ↦ hrefused _) fun hfree ↦ ?_
  refine wp_mono (wp_keeps exec_keyTaken _ (keyTaken_insert _)) fun r u hu _ ↦ ⟨?_, hu⟩
  exact find_none_iff_not_taken.mp hfree

/-- A request for a payable invoice is refused as a duplicate if its key is taken. -/
theorem create_conflict (hok : ∀ e, ok e → e.fault = none) (hvalid : req.valid) {inv : Invoice}
    (hinv : w.invoices.get req.invoiceID = some inv) (hcustomer : inv.customerID = req.customerID)
    (hopen : Open inv) (htaken : KeyTaken req.idempotencyKey w) (actor : Option ℕ) :
    (create req actor).wp Call.exec ok (fun r u ↦ u = w ∧
      r = .failure 409 "CONFLICT" "pembayaran dengan key ini sudah pernah diproses") w := by
  have hclosed : ¬(inv.status = .paid ∨ inv.status = .cancelled) := not_or.mpr hopen
  have hinv' : w.invoices.get (manualPayment req).invoiceID = some inv := hinv
  have hcustomer' : ¬inv.customerID ≠ (manualPayment req).customerID := not_not.mpr hcustomer
  have hfind : (w.payments.find fun q ↦ q.idempotencyKey = req.idempotencyKey).isSome := by
    rw [Option.isSome_iff_ne_none]
    exact fun hfree ↦ find_none_iff_not_taken.mp hfree htaken
  simp only [create, hvalid, not_true_eq_false, if_false, createManual, perform_bind, call_bind]
  refine quiet_invoices hok fun e he ↦ ?_
  simp only [InvoiceCall.exec, hinv', found_some, hcustomer', hclosed, if_false]
  refine wp_now fun now ↦ quiet_payments hok ?_
  have hrefused : (PaymentCall.create { manualPayment req with
      status := .confirmed, confirmedBy := actor, confirmedAt := some now }).exec w.payments =
      (.error (.duplicateKey "idx_payments_idempotency_key"), w.payments) := if_pos hfind
  rw [hrefused]
  exact ⟨rfl, rfl⟩

end Keys

/-- Two requests to record a payment, and what the server does between them. -/
structure TwoRequests where
  before : World
  first : PaymentCreateRequest
  second : PaymentCreateRequest
  between : Prog Unit
  actor : Option ℕ
  env : ℕ → Env
  betweenEnv : ℕ → Env
  secondEnv : ℕ → Env

def TwoRequests.firstRun (t : TwoRequests) : Response Payment × World :=
  (create t.first t.actor).run Call.exec t.env t.before

def TwoRequests.secondRun (t : TwoRequests) : Response Payment × World :=
  (create t.second t.actor).run Call.exec t.secondEnv
    (t.between.run Call.exec t.betweenEnv t.firstRun.2).2

/-- Of two requests without a key at most one comes through, whatever their invoices are. -/
theorem keyless_payments_collide (t : TwoRequests) (hfirst : t.first.idempotencyKey = "")
    (hsecond : t.second.idempotencyKey = "") :
    ¬(Paid t.first t.firstRun.1 t.firstRun.2 ∧ Paid t.second t.secondRun.1 t.secondRun.2) := by
  intro h
  have htakes (req : PaymentCreateRequest) (w : World) :
      (create req t.actor).wp Call.exec (fun _ ↦ True) (fun r u ↦ r.Accepted →
        ¬KeyTaken req.idempotencyKey w ∧ KeyTaken req.idempotencyKey u) w := create_takes req t.actor
  have htaken := (run_of_wp (htakes t.first _) t.env (fun _ ↦ trivial) h.1.accepted).2
  have hfree := (run_of_wp (htakes t.second _) t.secondEnv (fun _ ↦ trivial) h.2.accepted).1
  rw [hfirst] at htaken
  rw [hsecond] at hfree
  exact hfree (run_keeps exec_keyTaken t.between t.betweenEnv htaken)

instance (inv : Invoice) : Decidable (Open inv) := inferInstanceAs (Decidable (_ ∧ _))

def transfer (invoiceID : ℕ) : PaymentCreateRequest where
  invoiceID
  customerID := 1
  amount := 150000
  method := "transfer"
  referenceNumber := ""
  proofURL := ""
  bankName := "BCA"
  idempotencyKey := ""

/-- Transfers for the two open invoices of a customer. -/
def twoTransfers : TwoRequests where
  before :=
    let w := World.oneInvoice 150000 .active
    { w with
      invoices := w.invoices.insert {
        id := 0, invoiceNumber := "INV-2", customerID := 1, subscriptionID := 1, amount := 150000
        periodStart := 30 * day, periodEnd := 60 * day, dueDate := 37 * day, status := .issued
        paymentCode := "EFGH5678", issuedAt := some 0, paidAt := none, notes := "" } }
  first := transfer 1
  second := transfer 2
  between := .ret ()
  actor := none
  env := fun _ ↦ .calm 0
  betweenEnv := fun _ ↦ .calm 0
  secondEnv := fun _ ↦ .calm 0

theorem transfers_collide :
    ¬(Paid twoTransfers.first twoTransfers.firstRun.1 twoTransfers.firstRun.2 ∧
      Paid twoTransfers.second twoTransfers.secondRun.1 twoTransfers.secondRun.2) :=
  keyless_payments_collide twoTransfers rfl rfl

/-- Both invoices are open, the first transfer is recorded, the second is refused as a
duplicate and its invoice stays open. -/
theorem second_transfer_refused :
    (∀ inv ∈ twoTransfers.before.invoices, Open inv) ∧ twoTransfers.firstRun.1.Accepted ∧
    twoTransfers.secondRun.1 =
      .failure 409 "CONFLICT" "pembayaran dengan key ini sudah pernah diproses" ∧
    twoTransfers.secondRun.2.invoices.rows.map (·.status) = [.paid, .issued] :=
  ⟨by decide +kernel, by decide +kernel, by decide +kernel, by decide +kernel⟩

end Rosmon.Ledger
