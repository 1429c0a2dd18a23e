import Rosmon.Ledger.SingleSettlement

namespace Rosmon.Ledger

open Library Store Program Run

/-- From the first table to a later one, cancelled invoices stay cancelled and
paid ones stay as they are, the time of payment included. -/
structure KeepsClosed (t t' : Table Invoice) : Prop where
  cancelled : ∀ inv ∈ t, inv.status = .cancelled → ∃ inv' ∈ t', inv'.id = inv.id ∧
    inv'.status = .cancelled
  paid : ∀ inv ∈ t, inv.status = .paid → inv ∈ t'

namespace KeepsClosed

instance (t t' : Table Invoice) : Decidable (KeepsClosed t t') :=
  decidable_of_iff ((∀ inv ∈ t, inv.status = .cancelled → ∃ inv' ∈ t', inv'.id = inv.id ∧
    inv'.status = .cancelled) ∧ ∀ inv ∈ t, inv.status = .paid → inv ∈ t')
    ⟨fun h ↦ ⟨h.1, h.2⟩, fun h ↦ ⟨h.1, h.2⟩⟩

theorem refl (t : Table Invoice) : KeepsClosed t t :=
  ⟨fun inv h hs ↦ ⟨inv, h, rfl, hs⟩, fun _ h _ ↦ h⟩

theorem trans {t u v : Table Invoice} (h : KeepsClosed t u) (h' : KeepsClosed u v) :
    KeepsClosed t v where
  cancelled inv hi hs := by
    obtain ⟨inv', hi', hid', hs'⟩ := h.cancelled inv hi hs
    obtain ⟨inv'', hi'', hid'', hs''⟩ := h'.cancelled inv' hi' hs'
    exact ⟨inv'', hi'', hid''.trans hid', hs''⟩
  paid inv hi hs := h'.paid inv (h.paid inv hi hs) hs

/-- A write to one row is harmless when that row is open, or is not paid and gets
cancelled. -/
theorem update {t : Table Invoice} {i : ℕ} {status : InvoiceStatus} {paidAt : Option Time}
    {now : Time} (h : ∀ inv ∈ t, inv.id = i → inv.status ≠ .paid ∧
      (inv.status = .cancelled → status = .cancelled)) :
    KeepsClosed t (t.update (·.id == i) (Invoice.setStatus status paidAt now)) where
  cancelled inv hi hs := by
    by_cases hid : inv.id = i
    · exact ⟨_, Table.mem_update_of hi (by simpa using hid), rfl, (h inv hi hid).2 hs⟩
    · exact ⟨inv, Table.mem_update_of_not hi (by simpa using hid), rfl, hs⟩
  paid inv hi hs :=
    Table.mem_update_of_not hi (by simpa using fun hid ↦ (h inv hi hid).1 hs)

end KeepsClosed

/-- Where the operation is about to confirm a payment, its invoice is neither
paid nor cancelled. -/
def OpenSettlement (w : World) (op : Operation) : Prop :=
  ∀ i ∈ op.settles w, ∀ inv ∈ w.invoices, inv.id = i → Open inv

instance (w : World) (op : Operation) : Decidable (OpenSettlement w op) :=
  inferInstanceAs (Decidable (∀ i ∈ op.settles w, ∀ inv ∈ w.invoices,
    inv.id = i → inv.status ≠ .paid ∧ inv.status ≠ .cancelled))

variable {w : World} {op : Operation} {t : Table Payment} {t' : Table Invoice}

theorem Settled.keeps_closed {i : ℕ} {u u' : Table Invoice} (h : Settled i u u')
    (hopen : ∀ inv ∈ u, inv.id = i → Open inv) : KeepsClosed u u' := by
  obtain rfl | ⟨paidAt, now, rfl⟩ := h
  · exact .refl _
  · exact .update fun inv hinv hid ↦
      ⟨(hopen inv hinv hid).1, fun hc ↦ absurd hc (hopen inv hinv hid).2⟩

theorem Effect.keeps_closed (he : Effect w op t t') (hg : OpenSettlement w op) :
    KeepsClosed w.invoices t' := by
  cases he with
  | nothing | opened | rejected => exact .refl _
  | confirmed hp hpending hop ht => exact ht.keeps_closed (hg _ hop)
  | collected hinv hid hopen hfull hstatus hop ht => exact ht.keeps_closed (hg _ hop)
  | cancelled hinv hunpaid =>
    exact .update fun inv' hinv' hid ↦
      ⟨Table.eq_of_key hinv' hinv hid ▸ hunpaid, fun _ ↦ rfl⟩

/-- A settlement whose invoice is closed does not keep it so. -/
theorem Confirmation.reopens {now : Time} {i : ℕ}
    (hc : Confirmation (· = .calm now) w i t t') (h : KeepsClosed w.invoices t')
    (hnow : ∀ inv ∈ w.invoices, inv.paidAt ≠ some now) {inv : Invoice} (hinv : inv ∈ w.invoices)
    (hid : inv.id = i) : Open inv := by
  have ht : t' = w.invoices.update (·.id == i) (Invoice.setStatus .paid (some now) now) := by
    cases hc with
    | confirmed _ _ _ ht | collected _ _ ht =>
      obtain ⟨e, e', rfl, rfl, rfl⟩ := ht
      rfl
  have hpaid : inv.setStatus .paid (some now) now ∈ t' := by
    rw [ht]
    exact Table.mem_update_of hinv (by simpa using hid)
  constructor
  · intro hs
    have heq := Table.eq_of_key (h.paid inv hinv hs) hpaid rfl
    exact hnow inv hinv (congrArg Invoice.paidAt heq)
  · intro hs
    obtain ⟨inv', hi', hid', hs'⟩ := h.cancelled inv hinv hs
    rw [Table.eq_of_key hi' hpaid hid'] at hs'
    cases hs'

/-- As long as every confirmation is for an invoice that is still open, what is
cancelled never becomes paid and what is paid keeps its time of payment; a
confirmation for a closed invoice breaks this unless a call fails. -/
theorem closed_invoices_stay_closed (w : World) :
    (∀ steps : List Step, Guarded exec (fun w a ↦ OpenSettlement w a.1) w steps →
      (states exec w steps).Pairwise fun v v' ↦ KeepsClosed v.invoices v'.invoices) ∧
    ∀ (op : Operation) (now : Time), (∀ inv ∈ w.invoices, inv.paidAt ≠ some now) →
      KeepsClosed w.invoices (exec w (op, fun _ ↦ .calm now)).invoices → OpenSettlement w op := by
  constructor
  · intro steps hg
    exact (pairwise (r := fun v v' ↦ KeepsClosed v.invoices v'.invoices) (fun _ ↦ .refl _)
      (fun _ _ _ ↦ .trans) (fun w a hg ↦ (exec_effect w a).keeps_closed hg) hg).2
  · intro op now hnow h i hi inv hinv hid
    have hok : ∀ e, e = Env.calm now → e.fault = none := by
      rintro _ rfl
      rfl
    have hc := run_of_wp (op.confirms_of_settles hok hi) (fun _ ↦ .calm now) fun _ ↦ rfl
    exact hc.reopens h hnow hinv hid

/-- A proof of transfer is uploaded, the invoice cancelled, the upload confirmed. -/
def confirmAfterCancel : List Step :=
  [(.createPortalPayment 1 1 "a.jpg" "BCA" "R-1", fun _ ↦ .calm 0),
    (.cancel 1 none, fun _ ↦ .calm 1), (.confirm 1 none, fun _ ↦ .calm 2)]

theorem cancelled_invoice_gets_paid :
    ¬(states exec (World.oneInvoice 150000 .active) confirmAfterCancel).Pairwise
      fun v v' ↦ KeepsClosed v.invoices v'.invoices := by
  decide +kernel

/-- A cash payment, then an attempt to cancel what it has paid. -/
def cancelAfterPayment : List Step :=
  [(.collect ⟨"ABCD1234", ""⟩ none, fun _ ↦ .calm 0), (.cancel 1 none, fun _ ↦ .calm 1)]

theorem paid_invoice_is_not_cancelled :
    (states exec (World.oneInvoice 150000 .active) cancelAfterPayment).Pairwise
      fun v v' ↦ KeepsClosed v.invoices v'.invoices :=
  (closed_invoices_stay_closed _).1 _ (by decide +kernel)

end Rosmon.Ledger
