import Rosmon.Billing.Effects
import Rosmon.Billing.Months

namespace Rosmon.Billing

open Go Library Store Program Service Job

/-- No active subscription has a date on or before the day. -/
def CaughtUp (today : Time) (w : World) : Prop :=
  ∀ sub ∈ w.subscriptions, sub.live → sub.status = .active →
    ∀ due ∈ sub.nextInvoiceDate, today < Time.truncateDay due

instance (today : Time) (w : World) : Decidable (CaughtUp today w) :=
  inferInstanceAs (Decidable (∀ sub ∈ w.subscriptions, sub.live → sub.status = .active →
    ∀ due ∈ sub.nextInvoiceDate, today < Time.truncateDay due))

/-- Each active subscription with a date on or before the day is due just on that day. -/
def InTime (today : Time) (w : World) : Prop :=
  ∀ sub ∈ w.subscriptions, sub.live → sub.status = .active →
    ∀ due ∈ sub.nextInvoiceDate, Time.truncateDay due ≤ today → w.Due today sub

instance (today : Time) (w : World) : Decidable (InTime today w) :=
  inferInstanceAs (Decidable (∀ sub ∈ w.subscriptions, sub.live → sub.status = .active →
    ∀ due ∈ sub.nextInvoiceDate, Time.truncateDay due ≤ today → w.Due today sub))

section Rows

variable {w : World} {today : Time} {sub : Subscription}

theorem caughtUp_iff : CaughtUp today w ↔ ∀ id, ∀ sub ∈ w.row id, sub.status = .active →
    ∀ due ∈ sub.nextInvoiceDate, today < Time.truncateDay due := by
  constructor
  · intro h id sub hsub
    obtain ⟨hmem, hlive, -⟩ := row_iff.mp hsub
    exact h sub hmem hlive
  · intro h sub hmem hlive
    exact h sub.id sub (row_of_mem hmem hlive)

theorem inTime_iff : InTime today w ↔ ∀ id, ∀ sub ∈ w.row id, sub.status = .active →
    ∀ due ∈ sub.nextInvoiceDate, Time.truncateDay due ≤ today → w.Due today sub := by
  constructor
  · intro h id sub hsub
    obtain ⟨hmem, hlive, -⟩ := row_iff.mp hsub
    exact h sub hmem hlive
  · intro h sub hmem hlive
    exact h sub.id sub (row_of_mem hmem hlive)

theorem charged_status : (w.charged today sub).status = sub.status := by
  unfold World.charged
  split_ifs <;> rfl

/-- A row that has been charged has a later date, and one that has not the same as before. -/
theorem charged_later_iff :
    (∀ due ∈ (w.charged today sub).nextInvoiceDate, today < Time.truncateDay due) ↔
      ∀ due ∈ sub.nextInvoiceDate, Time.truncateDay due ≤ today → w.Due today sub := by
  by_cases hdue : w.Due today sub
  · obtain ⟨hday, -⟩ := id hdue
    obtain ⟨due, hnext, rfl⟩ := Option.map_eq_some_iff.mp hday
    have hlater := lt_nextInvoiceDate due (w.billingDay sub)
    simp only [World.charged, hdue, if_true, hnext, Option.map_some, Option.mem_some_iff,
      forall_eq', truncateDay_nextInvoiceDate, hlater, implies_true]
  · simp only [World.charged, hdue, if_false, imp_false, not_le]

end Rows

/-- An active subscription with an invoice for the first day of 1970, and this date. -/
def dueOn (due : Time) : World :=
  { World.oneInvoice 150000 .active with
    subscriptions := (World.oneInvoice 150000 .active).subscriptions.update (fun _ ↦ true)
      (·.setNextInvoiceDate due) }

end Rosmon.Billing
