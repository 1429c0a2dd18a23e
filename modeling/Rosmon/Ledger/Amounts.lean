import Mathlib.Algebra.Order.BigOperators.Group.List
import Mathlib.Algebra.Order.Group.Int
import Rosmon.Ledger.SingleSettlement

namespace Rosmon.Ledger

open Library Store Program Run Service Handler

/-- What a payment adds to the confirmed amount of an invoice. -/
def contribution (i : ℕ) (p : Payment) : ℤ :=
  if p.status = .confirmed ∧ p.invoiceID = i then p.amount else 0

/-- The amounts of the confirmed payments of an invoice, added up. -/
def confirmedAmount (t : Table Payment) (i : ℕ) : ℤ := (t.rows.map (contribution i)).sum

/-- No amount is negative, every pending payment would cover its invoice and every
paid invoice is covered. -/
structure Covered (t : Table Payment) (u : Table Invoice) : Prop where
  invoices_nonneg : ∀ inv ∈ u, 0 ≤ inv.amount
  payments_nonneg : ∀ p ∈ t, 0 ≤ p.amount
  pending : ∀ p ∈ t, p.status = .pending → ∀ inv ∈ u, inv.id = p.invoiceID → inv.amount ≤ p.amount
  paid : ∀ inv ∈ u, inv.status = .paid → inv.amount ≤ confirmedAmount t inv.id

variable {t : Table Payment} {u u' : Table Invoice} {p : Payment} {i : ℕ}

theorem contribution_nonneg (h : 0 ≤ p.amount) (i : ℕ) : 0 ≤ contribution i p := by
  unfold contribution
  split
  · exact h
  · exact le_rfl

theorem confirmedAmount_insert (t : Table Payment) (p : Payment) (i : ℕ) :
    confirmedAmount (t.insert p) i = confirmedAmount t i + contribution i p := by
  simp only [confirmedAmount, Table.insert, List.map_append, List.map_cons, List.map_nil,
    List.sum_append, List.sum_cons, List.sum_nil, add_zero]
  rfl

/-- Deciding a pending payment takes nothing away from any invoice. -/
theorem confirmedAmount_setStatus (hp : p ∈ t) (hpending : p.status = .pending)
    (hamount : 0 ≤ p.amount) (status : PaymentStatus) (actor : Option ℕ) (now : Option Time)
    (reason : String) (i : ℕ) : confirmedAmount t i ≤ confirmedAmount
      (t.update (·.id == p.id) (Payment.setStatus status actor now reason)) i := by
  simp only [confirmedAmount, Table.update, List.map_map]
  refine List.sum_le_sum fun q hq ↦ ?_
  by_cases hid : q.id = p.id
  · obtain rfl := Table.eq_of_key hq hp hid
    have h := contribution_nonneg (p := q.setStatus status actor now reason) hamount i
    simpa [contribution, hpending] using h
  · simp [hid]

theorem le_confirmedAmount (h : ∀ q ∈ t, 0 ≤ q.amount) (hp : p ∈ t) (hs : p.status = .confirmed) :
    p.amount ≤ confirmedAmount t p.invoiceID := by
  refine List.single_le_sum (fun x hx ↦ ?_) p.amount ?_
  · obtain ⟨q, hq, rfl⟩ := List.mem_map.mp hx
    exact contribution_nonneg (h q hq) _
  · exact List.mem_map.mpr ⟨p, hp, by simp [contribution, hs]⟩

namespace Covered

theorem of_empty (hu : ∀ inv ∈ u, 0 ≤ inv.amount ∧ inv.status ≠ .paid) : Covered .empty u where
  invoices_nonneg inv hinv := (hu inv hinv).1
  payments_nonneg p hp := absurd hp (Table.not_mem_empty p)
  pending p hp := absurd hp (Table.not_mem_empty p)
  paid inv hinv hs := absurd hs (hu inv hinv).2

theorem insert (h : Covered t u) (hp : 0 ≤ p.amount) (hpending : p.status = .pending →
    ∀ inv ∈ u, inv.id = p.invoiceID → inv.amount ≤ p.amount) : Covered (t.insert p) u where
  invoices_nonneg := h.invoices_nonneg
  payments_nonneg q hq := by
    rcases Table.mem_insert.mp hq with hq | rfl
    · exact h.payments_nonneg q hq
    · exact hp
  pending q hq hs := by
    rcases Table.mem_insert.mp hq with hq | rfl
    · exact h.pending q hq hs
    · exact hpending hs
  paid inv hinv hs := by
    have hold := h.paid inv hinv hs
    have hnew := contribution_nonneg hp inv.id
    rw [confirmedAmount_insert]
    omega

theorem decide (h : Covered t u) (hp : p ∈ t) (hpending : p.status = .pending)
    (status : PaymentStatus) (hstatus : status ≠ .pending) (actor : Option ℕ) (now : Option Time)
    (reason : String) :
    Covered (t.update (·.id == p.id) (Payment.setStatus status actor now reason)) u where
  invoices_nonneg := h.invoices_nonneg
  payments_nonneg q hq := by
    rcases (Table.mem_update_row hp fun _ ↦ rfl).mp hq with rfl | ⟨hq, -⟩
    · exact h.payments_nonneg p hp
    · exact h.payments_nonneg q hq
  pending q hq hs := by
    rcases (Table.mem_update_row hp fun _ ↦ rfl).mp hq with rfl | ⟨hq, -⟩
    · exact absurd hs hstatus
    · exact h.pending q hq hs
  paid inv hinv hs := (h.paid inv hinv hs).trans
    (confirmedAmount_setStatus hp hpending (h.payments_nonneg p hp) status actor now reason inv.id)

theorem setInvoice (h : Covered t u) (status : InvoiceStatus)
    (hpaid : status = .paid → ∀ inv ∈ u, inv.id = i → inv.amount ≤ confirmedAmount t i)
    (paidAt : Option Time) (now : Time) :
    Covered t (u.update (·.id == i) (Invoice.setStatus status paidAt now)) where
  invoices_nonneg inv' hinv' := by
    obtain ⟨inv, hinv, rfl⟩ := Table.mem_update.mp hinv'
    split <;> exact h.invoices_nonneg inv hinv
  payments_nonneg := h.payments_nonneg
  pending q hq hs inv' hinv' hid := by
    obtain ⟨inv, hinv, rfl⟩ := Table.mem_update.mp hinv'
    split at hid <;> split <;> exact h.pending q hq hs inv hinv hid
  paid inv' hinv' hs := by
    obtain ⟨inv, hinv, rfl⟩ := Table.mem_update.mp hinv'
    split at hs
    next hid =>
      have hid' : inv.id = i := by simpa using hid
      rw [if_pos hid]
      exact (hpaid hs inv hinv hid').trans_eq (congrArg _ hid'.symm)
    next hid => simpa [hid] using h.paid inv hinv hs

/-- A settlement is covered by the confirmed payment it is made for. -/
theorem settled (h : Covered t u) (hs : Settled i u u') (hp : p ∈ t) (hi : p.invoiceID = i)
    (hc : p.status = .confirmed) (hfull : ∀ inv ∈ u, inv.id = i → inv.amount ≤ p.amount) :
    Covered t u' := by
  obtain rfl | ⟨paidAt, now, rfl⟩ := hs
  · exact h
  · refine h.setInvoice .paid (fun _ inv hinv hid ↦ (hfull inv hinv hid).trans ?_) _ _
    exact hi ▸ le_confirmedAmount h.payments_nonneg hp hc

end Covered

theorem Effect.covered {w : World} {op : Operation} {t : Table Payment} {u : Table Invoice}
    (he : Effect w op t u) (h : Covered w.payments w.invoices) (hfull : op.Full w) :
    Covered t u := by
  cases he with
  | nothing => exact h
  | @opened inv p hinv hid hopen hamount hstatus =>
    refine h.insert (hamount ▸ h.invoices_nonneg inv hinv) fun _ inv' hinv' hid' ↦ ?_
    exact Table.eq_of_key hinv hinv' (hid.symm.trans hid'.symm) ▸ hamount.ge
  | rejected hp hpending => exact h.decide hp hpending .rejected nofun _ _ _
  | @confirmed p actor now _ hp hpending hop ht =>
    refine (h.decide hp hpending .confirmed nofun actor (some now) "").settled ht
      (Table.mem_update_of hp (beq_self_eq_true p.id)) rfl rfl (h.pending p hp hpending)
  | @collected inv p _ hinv hid hopen hcover hstatus hop ht =>
    have hle := hcover hfull
    refine (h.insert ((h.invoices_nonneg inv hinv).trans hle) fun hs ↦ ?_).settled ht
      (Table.mem_insert.mpr (.inr rfl)) rfl hstatus fun inv' hinv' hid' ↦ ?_
    · simp [hs] at hstatus
    · exact Table.eq_of_key hinv hinv' (hid.symm.trans hid'.symm) ▸ hle
  | cancelled hinv hunpaid => exact h.setInvoice .cancelled nofun none _

/-- As long as no manual payment is smaller than its invoice, paid invoices are
covered by their confirmed payments. The amount an event reports plays no part. -/
theorem paid_invoices_are_covered (w : World) (steps : List Step)
    (hw : Covered w.payments w.invoices) (hg : Guarded exec (fun w a ↦ a.1.Full w) w steps) :
    (∀ w' ∈ states exec w steps, ∀ inv ∈ w'.invoices, inv.status = .paid →
      inv.amount ≤ confirmedAmount w'.payments inv.id) ∧
    ∀ (event : PaymentEvent) (amount : ℤ),
      processWebhook { event with amount } = processWebhook event := by
  refine ⟨fun w' hw' ↦ ?_, fun event amount ↦ ?_⟩
  · exact (invariant (I := fun w ↦ Covered w.payments w.invoices)
      (fun w a h hg ↦ (exec_effect w a).covered h hg) hw hg w' hw').paid
  · unfold processWebhook
    refine congrArg _ (funext fun r ↦ ?_)
    cases r <;> rfl

/-- One rupiah in cash for an invoice of 150000. -/
def oneRupiah : PaymentCreateRequest :=
  ⟨1, 1, 1, "cash", "", "", "", "manual-1"⟩

/-- An invoice that costs 150000 is paid for by one rupiah in cash, and another one
by a gateway event that reports one rupiah. -/
theorem one_rupiah_pays : oneRupiah.valid ∧
    (¬∀ w' ∈ states exec (World.oneInvoice 150000 .active)
        [(.createManual (manualPayment oneRupiah) none, fun _ ↦ .calm 0)],
      ∀ inv ∈ w'.invoices, inv.status = .paid →
        inv.amount ≤ confirmedAmount w'.payments inv.id) ∧
    (exec (exec (World.oneInvoice 150000 .active).withGateway
        (.initiatePayment 1 1, fun _ ↦ .answering "inv-1" 0))
        (.processWebhook ⟨"inv-1", .paid, 1, "xendit"⟩, fun _ ↦ .calm 1)).payments.rows.map
      (fun p ↦ (p.status, p.amount)) = [(.confirmed, 150000)] := by
  decide +kernel

/-- The invoice is paid in cash, in full. -/
def inFull : List Step :=
  [(.createManual (manualPayment { oneRupiah with amount := 150000 }) none, fun _ ↦ .calm 0)]

theorem full_cash_covers : (states exec (World.oneInvoice 150000 .active) inFull).Forall fun w' ↦
    ∀ inv ∈ w'.invoices, inv.status = .paid → inv.amount ≤ confirmedAmount w'.payments inv.id := by
  have hfull : ∀ inv ∈ (World.oneInvoice 150000 .active).invoices, inv.id = 1 →
      inv.amount ≤ 150000 := by decide +kernel
  have hg : Guarded exec (fun w a ↦ a.1.Full w) (World.oneInvoice 150000 .active) inFull :=
    ⟨hfull, trivial⟩
  exact List.forall_iff_forall_mem.mpr
    (paid_invoices_are_covered _ _ (.of_empty (by decide +kernel)) hg).1

end Rosmon.Ledger
