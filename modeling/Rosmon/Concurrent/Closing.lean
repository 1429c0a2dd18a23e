import Mathlib.Data.Fintype.Basic
import Rosmon.Handler.Handlers
import Rosmon.Job.Frame

namespace Rosmon.Concurrent

open Library Store Program Service

/-- The work that writes to the status of an invoice. -/
inductive Task
  | createManual (p : Payment) (actor : Option ℕ)
  | confirm (paymentID : ℕ) (actor : Option ℕ)
  | processWebhook (event : PaymentEvent)
  | suspensionCheck
  | cancel (invoiceID : ℕ) (actor : Option ℕ)

def Task.prog : Task → Prog Unit
  | .createManual p actor => (fun _ ↦ ()) <$> Service.createManual p actor
  | .confirm paymentID actor => (fun _ ↦ ()) <$> Service.confirm paymentID actor
  | .processWebhook event => (fun _ ↦ ()) <$> Service.processWebhook event
  | .suspensionCheck => (fun _ ↦ ()) <$> Job.suspensionCheck
  | .cancel invoiceID actor => (fun _ ↦ ()) <$> Handler.cancel invoiceID actor

/-- What is known of a task: whether it settles, or has still to read what it is
going to close, or which invoices it has read as unpaid and may still write to. -/
inductive Intent
  | settling
  | sweeping
  | cancelling
  | closing (todo : List ℕ)

def Intent.todo : Intent → List ℕ
  | .closing todo => todo
  | _ => []

def Task.intent : Task → Intent
  | .suspensionCheck => .sweeping
  | .cancel _ _ => .cancelling
  | _ => .settling

/-- The invoices the job is about to mark as overdue. -/
def issuedIDs (invs : List Invoice) : List ℕ := (invs.filter (·.status = .issued)).map (·.id)

/-- A task writes no status but `paid` to an invoice that is not on its list, and
takes an invoice off the list when it writes to it. It creates no paid invoice. -/
def closingObserver : Monitor Call Call.Reply Intent where
  allows m
    | .invoices (.updateStatus id status _) => status = .paid ∨ id ∈ m.todo
    | .invoices (.create inv) => inv.status ≠ .paid
    | _ => True
  next
    | .sweeping, .invoices (.listOverdue _), .ok invs => .closing (issuedIDs invs)
    | .cancelling, .invoices (.getByID id), .ok inv =>
      .closing (if inv.status = .paid then [] else [id])
    | .closing todo, .invoices (.updateStatus id _ _), _ => .closing (todo.erase id)
    | m, _, _ => m

section Follows

/-- Off the ledger nothing happens to the mark of a task that has nothing to read
for its list. -/
theorem resting_follows {α : Type} {p : Prog α} (hp : p.Only Call.offLedger) {m : Intent}
    (hm : m = .settling ∨ ∃ todo, m = .closing todo) :
    p.Follows closingObserver (fun m' _ ↦ m' = m) m := by
  refine hp.follows (fun m' c hm' hc ↦ ?_) rfl
  subst hm'
  rcases hm with rfl | ⟨todo, rfl⟩
  all_goals
    cases c with
    | invoices c =>
      cases c with
      | create | updateStatus => cases hc
      | _ => exact ⟨trivial, fun r ↦ rfl⟩
    | _ => exact ⟨trivial, fun r ↦ rfl⟩

theorem audit_offLedger (userID : Option ℕ) (action entityType : String) (entityID : ℕ) :
    (audit userID action entityType entityID).Only Call.offLedger :=
  (audit_inert _ _ _ _).mono fun _ h ↦ h.offLedger

/-- The end that all settlements share. -/
theorem settle_follows {α : Type} (p : Payment) (userID : Option ℕ) (action entityType : String)
    (entityID : ℕ) (r : α) :
    (applySettlement p >>= fun _ ↦ audit userID action entityType entityID >>= fun _ ↦
      .ret r).Follows closingObserver (fun _ _ ↦ True) .settling := by
  simp only [applySettlement, perform_bind, call_bind, follows_call]
  refine ⟨trivial, fun _ ↦ ⟨.inl rfl, fun _ ↦ ?_⟩⟩
  refine (resting_follows (restoreService_offLedger _) (.inl rfl)).bind fun m _ hm ↦ ?_
  subst hm
  exact (resting_follows (audit_offLedger _ _ _ _) (.inl rfl)).bind fun _ _ _ ↦ trivial

theorem createManual_follows (p : Payment) (actor : Option ℕ) :
    (Service.createManual p actor).Follows closingObserver (fun _ _ ↦ True) .settling := by
  simp only [Service.createManual, perform_bind, follows_call]
  refine ⟨trivial, ?_⟩
  rintro (err | inv)
  · trivial
  dsimp only
  split_ifs
  · trivial
  · trivial
  refine ⟨trivial, fun now ↦ ⟨trivial, ?_⟩⟩
  rintro (err | p)
  · trivial
  · exact settle_follows ..

theorem confirm_settling (paymentID : ℕ) (actor : Option ℕ) :
    (Service.confirm paymentID actor).Follows closingObserver (fun _ _ ↦ True) .settling := by
  simp only [Service.confirm, perform_bind, follows_call]
  refine ⟨trivial, ?_⟩
  rintro (err | p)
  · trivial
  dsimp only
  split_ifs
  · trivial
  refine ⟨trivial, fun now ↦ ⟨trivial, ?_⟩⟩
  rintro (err | ⟨⟩)
  · trivial
  · exact settle_follows ..

theorem processWebhook_follows (event : PaymentEvent) :
    (Service.processWebhook event).Follows closingObserver (fun _ _ ↦ True) .settling := by
  simp only [Service.processWebhook, perform_bind, follows_call]
  refine ⟨trivial, ?_⟩
  rintro (err | p)
  · trivial
  dsimp only
  split_ifs
  · trivial
  have refused : (webhookReject p event.status).Follows closingObserver (fun _ _ ↦ True)
      .settling := by
    simp only [webhookReject, perform_bind, follows_call]
    refine ⟨trivial, ?_⟩
    rintro (err | ⟨⟩)
    · trivial
    · exact (resting_follows (audit_offLedger _ _ _ _) (.inl rfl)).bind fun _ _ _ ↦ trivial
  split
  · simp only [webhookConfirm, perform_bind, follows_call]
    refine ⟨trivial, fun now ↦ ⟨trivial, ?_⟩⟩
    rintro (err | ⟨⟩)
    · trivial
    · exact settle_follows ..
  · exact refused
  · exact refused
  · trivial

theorem cancel_follows (invoiceID : ℕ) (actor : Option ℕ) :
    (Handler.cancel invoiceID actor).Follows closingObserver (fun _ _ ↦ True) .cancelling := by
  simp only [Handler.cancel, perform_bind, follows_call]
  refine ⟨trivial, ?_⟩
  rintro (err | inv)
  · trivial
  dsimp only
  split_ifs with hpaid
  · trivial
  simp only [closingObserver, hpaid, if_false]
  refine ⟨.inr (by simp [Intent.todo]), ?_⟩
  rintro (err | ⟨⟩)
  · trivial
  · exact (resting_follows (audit_offLedger _ _ _ _) (.inr ⟨_, rfl⟩)).bind fun _ _ _ ↦ trivial

/-- While `invs` is still to be visited, the list holds what is issued among them. -/
theorem markOverdue_follows (inv : Invoice) (invs : List Invoice) :
    (Job.markOverdue inv).Follows closingObserver (fun m _ ↦ m = .closing (issuedIDs invs))
      (.closing (issuedIDs (inv :: invs))) := by
  unfold Job.markOverdue
  split_ifs with hissued
  · simp [issuedIDs, hissued]
  simp only [perform_bind, follows_call]
  rw [not_not] at hissued
  have hcons : issuedIDs (inv :: invs) = inv.id :: issuedIDs invs := by simp [issuedIDs, hissued]
  refine ⟨.inr (by simp [Intent.todo, hcons]), ?_⟩
  simp only [closingObserver, hcons, List.erase_cons_head]
  rintro (err | ⟨⟩)
  · rfl
  · have hquiet : (Job.notifyCustomer inv.customerID "invoice_overdue" (Job.invoiceVars inv)).Only
        Call.offLedger := (Job.notifyCustomer_informs _ _ _).mono fun _ h ↦ h.inert.offLedger
    exact resting_follows hquiet (.inr ⟨_, rfl⟩)

theorem sweeping_follows {α : Type} {p : Prog α} (hp : p.Only Job.reminds) :
    p.Follows closingObserver (fun m _ ↦ m = .sweeping) .sweeping := by
  refine hp.follows (fun m c hm hc ↦ ?_) rfl
  subst hm
  cases c with
  | invoices c =>
    cases c with
    | listDueForBilling => exact ⟨trivial, fun r ↦ rfl⟩
    | _ => cases hc
  | _ => exact ⟨trivial, fun r ↦ rfl⟩

/-- Nothing is left to write when the invoices have all been visited. -/
theorem suspensionCheck_follows :
    Job.suspensionCheck.Follows closingObserver (fun _ _ ↦ True) .sweeping := by
  have setting (key : String) (dflt : ℤ) := sweeping_follows
    ((Job.settingInt_informs key dflt).mono fun _ h ↦ Job.reminds_of_informs h)
  simp only [Job.suspensionCheck, perform_bind, follows_call]
  refine ⟨trivial, fun now ↦ (setting _ _).bind ?_⟩
  rintro _ isolirAfter rfl
  refine (setting _ _).bind ?_
  rintro _ hardSuspendAfter rfl
  refine (sweeping_follows (Job.sendReminders_reminds now)).bind ?_
  rintro _ ⟨⟩ rfl
  refine ⟨trivial, ?_⟩
  rintro (err | invs)
  · trivial
  refine (Follows.forM (fun invs (m : Intent) ↦ m = .closing (issuedIDs invs)) ?_ rfl).bind ?_
  · rintro inv invs _ rfl
    exact markOverdue_follows inv invs
  rintro _ ⟨⟩ rfl
  have rest {α : Type} {p : Prog α} (hp : p.Only Call.offLedger) :=
    resting_follows hp (.inr ⟨issuedIDs [], rfl⟩)
  refine ⟨trivial, fun order ↦ (rest (Only.forM fun id _ ↦ (Job.isolir_only _ id).mono fun _ h ↦ h.1)).bind ?_⟩
  rintro _ ⟨⟩ rfl
  refine ⟨trivial, fun order ↦ (rest (Only.forM fun id _ ↦ (Job.hardSuspend_only id).mono fun _ h ↦ h.1)).bind ?_⟩
  exact fun _ _ _ ↦ trivial

end Follows

end Rosmon.Concurrent
