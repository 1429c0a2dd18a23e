import Rosmon.Handler.Handlers
import Rosmon.Ledger.Atomicity
import Rosmon.Sync.Quiet

namespace Rosmon.Sync

open Library Store Program Service Job Handler Ledger

/-- A settlement makes the subscription active. -/
def Reinstates (w : World) (id : ℕ) (p : Payment) (env : ℕ → Env) : Prop :=
  (∃ sub ∈ w.row id, sub.status ≠ .active) ∧
    ∃ sub ∈ ((applySettlement p).run Call.exec env w).2.row id, sub.status = .active

/-- The suspension check that follows leaves it so. -/
def StaysActive (w : World) (id : ℕ) (p : Payment) (env env' : ℕ → Env) : Prop :=
  ∃ sub ∈ (suspensionCheck.run Call.exec env'
    ((applySettlement p).run Call.exec env w).2).2.row id, sub.status = .active

instance (w : World) (id : ℕ) (p : Payment) (env : ℕ → Env) : Decidable (Reinstates w id p env) :=
  inferInstanceAs (Decidable ((∃ sub ∈ w.row id, sub.status ≠ .active) ∧
    ∃ sub ∈ ((applySettlement p).run Call.exec env w).2.row id, sub.status = .active))

instance (w : World) (id : ℕ) (p : Payment) (env env' : ℕ → Env) :
    Decidable (StaysActive w id p env env') :=
  inferInstanceAs (Decidable (∃ sub ∈ (suspensionCheck.run Call.exec env'
    ((applySettlement p).run Call.exec env w).2).2.row id, sub.status = .active))

/-- An unpaid invoice for which the check takes a subscription out of service. -/
def Delinquent (w : World) (id : ℕ) (now : Time) (inv : Invoice) : Prop :=
  inv.subscriptionID = id ∧ inv.overdueAt now ∧
    (w.hardSuspendAfter ≤ daysPastDue now inv ∨ w.isolirAfter ≤ daysPastDue now inv)

section Check

variable {w : World} {now : Time} {id : ℕ}

theorem mem_overdueInvoices {inv : Invoice} :
    inv ∈ w.overdueInvoices now ↔ inv ∈ w.invoices ∧ inv.overdueAt now := by
  simp only [World.overdueInvoices, List.mem_filter, Table.mem_iff]

/-- An active subscription is left alone just if it has no delinquent invoice. -/
theorem checked_active_iff {sub : Subscription} (hactive : sub.status = .active) :
    (w.checked now id sub).status = .active ↔ ∀ inv ∈ w.invoices, ¬Delinquent w id now inv := by
  have hspared : (w.checked now id sub).status = .active ↔
      id ∉ w.toSuspend now ∧ id ∉ w.toIsolate now := by
    unfold World.checked demote
    split_ifs <;> simp_all [Subscription.demand]
  rw [hspared]
  simp only [World.toSuspend, World.toIsolate, mem_suspendCandidates, mem_isolirCandidates,
    mem_overdueInvoices]
  constructor
  · intro h inv hmem hdelinquent
    obtain ⟨hid, hoverdue, hdays⟩ := hdelinquent
    have hsuspend : ¬w.hardSuspendAfter ≤ daysPastDue now inv :=
      fun hdays ↦ h.1 ⟨inv, ⟨hmem, hoverdue⟩, hid, hdays⟩
    have hisolate := hdays.resolve_left hsuspend
    exact h.2 ⟨inv, ⟨hmem, hoverdue⟩, hid, Int.not_le.mp hsuspend, hisolate⟩
  · intro h
    constructor
    · intro hsuspend
      obtain ⟨inv, hinv, hid, hdays⟩ := hsuspend
      exact h inv hinv.1 ⟨hid, hinv.2, .inl hdays⟩
    · intro hisolate
      obtain ⟨inv, hinv, hid, -, hdays⟩ := hisolate
      exact h inv hinv.1 ⟨hid, hinv.2, .inr hdays⟩

theorem Delinquent.congr {w' : World} (h : SameTerms w w') (inv : Invoice) :
    Delinquent w' id now inv ↔ Delinquent w id now inv := by
  simp only [Delinquent, World.hardSuspendAfter, World.isolirAfter, World.settingInt, h.settings]

end Check

/-- A paid invoice is not delinquent. -/
theorem delinquent_setStatus_paid {w : World} {id : ℕ} {now at' now' : Time} {inv : Invoice} :
    ¬Delinquent w id now (inv.setStatus .paid (some at') now') := by
  intro h
  simpa [Invoice.overdueAt, Invoice.setStatus] using h.2.1

/-- What is delinquent after a settlement has been so before, and is not what has been
paid. -/
theorem delinquent_settled (w : World) (id : ℕ) (now : Time) (p : Payment) (env : ℕ → Env) :
    (∃ inv ∈ ((applySettlement p).run Call.exec env w).2.invoices, Delinquent w id now inv) ↔
      ∃ inv ∈ w.invoices, Delinquent w id now inv ∧
        ¬(inv.id = p.invoiceID ∧ (env 1).fault = none) := by
  obtain ⟨-, hinvoices, -⟩ := applySettlement_run p env w
  rw [hinvoices]
  by_cases hwritten : (env 1).fault = none
  · simp only [hwritten, if_true, and_true]
    constructor
    · intro h
      obtain ⟨inv', hmem, hdelinquent⟩ := h
      obtain ⟨inv, hinv, rfl⟩ := Table.mem_update.mp hmem
      by_cases hid : inv.id = p.invoiceID
      · simp only [hid, beq_self_eq_true, if_true] at hdelinquent
        exact absurd hdelinquent delinquent_setStatus_paid
      · simp only [beq_iff_eq, hid, if_false] at hdelinquent
        exact ⟨inv, hinv, hdelinquent, hid⟩
    · intro h
      obtain ⟨inv, hinv, hdelinquent, hid⟩ := h
      exact ⟨inv, Table.mem_update_of_not hinv (by simpa using hid), hdelinquent⟩
  · simp only [hwritten, if_false, and_false, not_false_eq_true, and_true]

/-- A subscription that a settlement has made active stays so just if no other invoice of
it calls for taking it out of service again, nor the settled one in case it could not be
written. -/
theorem stays_active_iff (w : World) (id : ℕ) (p : Payment) (env : ℕ → Env)
    (hreinstates : Reinstates w id p env) (env' : ℕ → Env) (henv' : ∀ n, (env' n).Quiet) :
    StaysActive w id p env env' ↔ ∀ inv ∈ w.invoices, Delinquent w id (env' 0).now inv →
      inv.id = p.invoiceID ∧ (env 1).fault = none := by
  obtain ⟨-, sub, hrow, hactive⟩ := hreinstates
  have hsettled := delinquent_settled w id (env' 0).now p env
  have hterms := run_sameTerms (applySettlement p) env w
  unfold StaysActive
  generalize ((applySettlement p).run Call.exec env w).2 = u at hrow hsettled hterms ⊢
  have hchecked := (suspensionCheck_run henv' (w := u)).rows id
  rw [Option.mem_def.mp hrow, Option.map_some] at hchecked
  simp only [hchecked, Option.mem_some_iff, exists_eq_left', checked_active_iff hactive,
    Delinquent.congr hterms]
  constructor
  · intro h inv hinv hdelinquent
    by_contra hother
    obtain ⟨inv', hinv', hdelinquent'⟩ := hsettled.mpr ⟨inv, hinv, hdelinquent, hother⟩
    exact h inv' hinv' hdelinquent'
  · intro h inv hinv hdelinquent
    obtain ⟨inv', hinv', hdelinquent', hother⟩ := hsettled.mp ⟨inv, hinv, hdelinquent⟩
    exact hother (h inv' hinv' hdelinquent')

/-- The settlement of the first of the invoices. -/
def settlesFirst : Payment := manualPayment ⟨1, 1, 150000, "cash", "", "", "", ""⟩

/-- An isolated subscription whose only invoice is settled. -/
theorem only_invoice_stays_active : StaysActive (World.oneInvoice 150000 .isolir) 1 settlesFirst
    (fun _ ↦ Env.calm (12 * day)) fun _ ↦ Env.calm (12 * day) :=
  (stays_active_iff _ 1 settlesFirst (fun _ ↦ Env.calm (12 * day)) (by decide +kernel) _
    fun _ ↦ Env.calm_quiet _).mpr (by
      intro inv hinv _
      obtain rfl : inv = _ := List.mem_singleton.mp hinv
      exact ⟨rfl, rfl⟩)

/-- A suspended subscription, and a second invoice that is five days late. -/
def twoInvoices : World :=
  { World.oneInvoice 150000 .suspended with
    invoices := (World.oneInvoice 150000 .suspended).invoices.insert
      { id := 0, invoiceNumber := "INV-2", customerID := 1, subscriptionID := 1, amount := 150000
        periodStart := 30 * day, periodEnd := 60 * day, dueDate := 37 * day, status := .issued
        paymentCode := "EFGH5678", issuedAt := some (30 * day), paidAt := none, notes := "" } }

/-- Once the first invoice is settled, the check isolates the subscription for the second. -/
theorem second_invoice_isolates :
    Reinstates twoInvoices 1 settlesFirst (fun _ ↦ Env.calm (42 * day)) ∧
      ¬StaysActive twoInvoices 1 settlesFirst (fun _ ↦ Env.calm (42 * day))
        fun _ ↦ Env.calm (42 * day) := by
  constructor <;> decide +kernel

end Rosmon.Sync
