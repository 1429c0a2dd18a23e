import Rosmon.Ledger.Quiet

namespace Rosmon.Ledger

open Library Store Program Run

/-- An operation and what the outside world offers to its calls. -/
abbrev Step := Operation × (ℕ → Env)

def exec (w : World) (a : Step) : World := (a.1.prog.run Call.exec a.2 w).2

theorem exec_effect (w : World) (a : Step) :
    Effect w a.1 (exec w a).payments (exec w a).invoices := by
  have h : a.1.prog.wp Call.exec (fun _ ↦ True) (fun _ w' ↦ Effect w a.1 w'.payments w'.invoices) w :=
    a.1.effect w
  exact run_of_wp h a.2 fun _ ↦ trivial

/-- No call of the step fails. -/
def Quiet (a : Step) : Prop := ∀ n, (a.2 n).fault = none

section Confirmed

/-- No invoice has two confirmed payments. -/
def AtMostOneConfirmed (t : Table Payment) : Prop :=
  ∀ p ∈ t, ∀ q ∈ t, p.status = .confirmed → q.status = .confirmed →
    p.invoiceID = q.invoiceID → p = q

instance (t : Table Payment) : Decidable (AtMostOneConfirmed t) :=
  inferInstanceAs (Decidable (∀ p ∈ t, ∀ q ∈ t, _))

/-- Where the operation is about to confirm a payment, no payment of that invoice
is confirmed yet. -/
def FirstConfirmation (w : World) (op : Operation) : Prop :=
  ∀ i ∈ op.settles w, ∀ p ∈ w.payments, p.status = .confirmed → p.invoiceID ≠ i

instance (w : World) (op : Operation) : Decidable (FirstConfirmation w op) :=
  inferInstanceAs (Decidable (∀ i ∈ op.settles w, ∀ p ∈ w.payments, _))

variable {t : Table Payment}

theorem AtMostOneConfirmed.insert {p : Payment} (h : AtMostOneConfirmed t)
    (hp : p.status = .confirmed → ∀ q ∈ t, q.status = .confirmed → q.invoiceID ≠ p.invoiceID) :
    AtMostOneConfirmed (t.insert p) := by
  intro a ha b hb hca hcb hab
  rcases Table.mem_insert.mp ha with ha | rfl <;> rcases Table.mem_insert.mp hb with hb | rfl
  · exact h a ha b hb hca hcb hab
  · exact absurd hab (hp hcb a ha hca)
  · exact absurd hab.symm (hp hca b hb hcb)
  · rfl

/-- The new status of one payment is harmless unless it is the second confirmation. -/
theorem AtMostOneConfirmed.setStatus {p : Payment} {status : PaymentStatus} {actor : Option ℕ}
    {now : Option Time} {reason : String} (h : AtMostOneConfirmed t)
    (hp : status = .confirmed →
      ∀ q ∈ t, q.status = .confirmed → q.invoiceID ≠ p.invoiceID) (hpt : p ∈ t) :
    AtMostOneConfirmed (t.update (·.id == p.id) (Payment.setStatus status actor now reason)) := by
  intro a ha b hb hca hcb hab
  rcases (Table.mem_update_row hpt fun _ ↦ rfl).mp ha with rfl | ⟨ha, hak⟩ <;>
    rcases (Table.mem_update_row hpt fun _ ↦ rfl).mp hb with rfl | ⟨hb, hbk⟩
  · rfl
  · exact absurd hab.symm (hp hca b hb hcb)
  · exact absurd hab (hp hcb a ha hca)
  · exact h a ha b hb hca hcb hab

theorem Effect.at_most_one {w : World} {op : Operation} {t : Table Payment} {t' : Table Invoice}
    (he : Effect w op t t') (h : AtMostOneConfirmed w.payments) (hg : FirstConfirmation w op) :
    AtMostOneConfirmed t := by
  cases he with
  | nothing => exact h
  | opened hinv hid hopen hamount hstatus => exact h.insert fun hc ↦ absurd hc hstatus
  | rejected hp hpending => exact h.setStatus nofun hp
  | confirmed hp hpending hop ht => exact h.setStatus (fun _ ↦ hg _ hop) hp
  | collected hinv hid hopen hfull hstatus hop ht => exact h.insert fun _ ↦ hg _ hop
  | cancelled hinv hunpaid => exact h

/-- A confirmation after which there is at most one was the first. -/
theorem Confirmation.first {ok : Env → Prop} {w : World} {i : ℕ} {t : Table Payment}
    {t' : Table Invoice} (hc : Confirmation ok w i t t') (h : AtMostOneConfirmed t)
    {q : Payment} (hq : q ∈ w.payments) (hs : q.status = .confirmed) : q.invoiceID ≠ i := by
  rintro hi
  cases hc with
  | @confirmed p actor now _ hp hpending hid ht =>
    have hne : Row.key q ≠ Row.key p := fun hk ↦ by
      simp [Table.eq_of_key hq hp hk, hpending] at hs
    have heq := h q (Table.mem_update_of_not hq (beq_false_of_ne hne)) _
      (Table.mem_update_of hp (beq_self_eq_true p.id)) hs rfl (hi.trans hid.symm)
    exact hne (heq ▸ rfl)
  | @collected p _ hstatus hid ht =>
    have hq' := Table.mem_insert.mpr (.inl hq : q ∈ w.payments ∨ q = Row.withKey _ p)
    have hp' := Table.mem_insert.mpr (.inr rfl : _ ∨ Row.withKey w.payments.next p = _)
    have heq := h q hq' _ hp' hs hstatus (hi.trans hid.symm)
    have hfresh := w.payments.fresh q hq
    rw [heq, Row.key_withKey] at hfresh
    exact absurd hfresh (lt_irrefl _)

/-- As long as every confirmation is the first one of its invoice, no invoice ever
has two confirmed payments; where no call fails that is also necessary. -/
theorem at_most_one_confirmed (w : World) (steps : List Step)
    (hw : AtMostOneConfirmed w.payments) :
    (Guarded exec (fun w a ↦ FirstConfirmation w a.1) w steps →
      ∀ w' ∈ states exec w steps, AtMostOneConfirmed w'.payments) ∧
    ((∀ a ∈ steps, Quiet a) → (∀ w' ∈ states exec w steps, AtMostOneConfirmed w'.payments) →
      Guarded exec (fun w a ↦ FirstConfirmation w a.1) w steps) := by
  refine ⟨invariant (fun w a h hg ↦ (exec_effect w a).at_most_one h hg) hw,
    guarded_of_states fun w a ha h i hi p hp hs ↦ ?_⟩
  have hok : ∀ e : Env, e.fault = none → e.fault = none := fun _ h ↦ h
  have hc := run_of_wp (a.1.confirms_of_settles hok hi) a.2 ha
  exact hc.first h hp hs

/-- Two transfer proofs uploaded for one invoice, both confirmed. -/
def doubleUpload : List Step :=
  [.createPortalPayment 1 1 "a.jpg" "BCA" "R-1", .createPortalPayment 1 1 "b.jpg" "BCA" "R-2",
    .confirm 1 none, .confirm 2 none].zipIdx.map fun (op, n) ↦
      (op, fun _ ↦ .calm (day * n))

theorem double_upload_confirmed_twice :
    AtMostOneConfirmed (World.oneInvoice 150000 .active).payments ∧
      ¬∀ w' ∈ states exec (World.oneInvoice 150000 .active) doubleUpload,
        AtMostOneConfirmed w'.payments := by
  decide +kernel

/-- Until the second confirmation all is well. -/
theorem double_upload_confirmed_once :
    (states exec (World.oneInvoice 150000 .active) (doubleUpload.take 3)).Forall
      fun w' ↦ AtMostOneConfirmed w'.payments :=
  List.forall_iff_forall_mem.mpr
    ((at_most_one_confirmed _ _ (by decide +kernel)).1 (by decide +kernel))

end Confirmed

end Rosmon.Ledger
