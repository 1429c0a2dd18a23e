import Rosmon.Concurrent.Batch
import Rosmon.Handler.Handlers

namespace Rosmon.Concurrent

open Library Store Program Service Job

variable {ι : Type} [DecidableEq ι]

/-- Where a request is stored, no `Run` that has read the row of the subscription
may still write its outcome. -/
def NoneHeld (_ : World) (m : ι → Batch) (_ : ι) : Call → Prop
  | .subscriptions (.updateSyncStatus id status _) =>
    status.pending = true → ∀ j, id ∉ (m j).ids
  | _ => True

instance [Fintype ι] (w : World) (m : ι → Batch) (i : ι) (c : Call) :
    Decidable (NoneHeld w m i c) := by
  unfold NoneHeld
  split <;> infer_instance

/-- The call reads the row in a batch of the outbox. -/
def readsRow (id : ℕ) : (c : Call) → c.Reply → Prop
  | .subscriptions (.listPendingSync _), .ok subs => id ∈ subs.map (·.id)
  | _, _ => False

/-- The call stores a request for the subscription. -/
def storesRequest (id : ℕ) : (c : Call) → c.Reply → Prop
  | .subscriptions (.updateSyncStatus n status _), .ok () => n = id ∧ status.pending = true
  | _, _ => False

/-- The call writes `synced` or `error` for the subscription. -/
def writesOutcome (id : ℕ) : (c : Call) → c.Reply → Prop
  | .subscriptions (.updateSyncStatus n status _), .ok () => n = id ∧ status.pending = false
  | _, _ => False

instance (id : ℕ) (c : Call) (r : c.Reply) : Decidable (readsRow id c r) := by
  unfold readsRow
  split <;> infer_instance

instance (id : ℕ) (c : Call) (r : c.Reply) : Decidable (storesRequest id c r) := by
  unfold storesRequest
  split <;> infer_instance

instance (id : ℕ) (c : Call) (r : c.Reply) : Decidable (writesOutcome id c r) := by
  unfold writesOutcome
  split <;> infer_instance

def workersOn (w : World) (workers : ι → Worker) : Pool ι Call Call.Reply Unit World Batch where
  state := w
  threads i := (workers i).prog
  marks _ := .unread

/-- The workers after a schedule. -/
def workersAfter (w : World) (workers : ι → Worker) (schedule : List (ι × Env)) :
    Pool ι Call Call.Reply Unit World Batch :=
  (workersOn w workers).run Call.exec batchObserver schedule

/-- A `Run` reads the row at `a₀`, somebody stores a request for it at `a₁`, and the
same `Run` overwrites the request with its outcome at `a₂`. -/
structure Overwrites (w : World) (workers : ι → Worker) (id : ℕ) (s₀ : List (ι × Env))
    (a₀ : ι × Env) (s₁ : List (ι × Env)) (a₁ : ι × Env) (s₂ : List (ι × Env)) (a₂ : ι × Env) :
    Prop where
  read : (workersAfter w workers s₀).Does Call.exec (readsRow id) a₀
  stored : (workersAfter w workers (s₀ ++ a₀ :: s₁)).Does Call.exec (storesRequest id) a₁
  same : a₂.1 = a₀.1
  overwritten : (workersAfter w workers (s₀ ++ a₀ :: s₁ ++ a₁ :: s₂)).Does Call.exec
    (writesOutcome id) a₂

section Run

variable {w : World} {workers : ι → Worker} {id : ℕ} {s₀ s₁ s₂ : List (ι × Env)}
  {a₀ a₁ a₂ : ι × Env}

theorem workersAfter_append (w : World) (workers : ι → Worker) (s t : List (ι × Env)) :
    workersAfter w workers (s ++ t) = (workersAfter w workers s).run Call.exec batchObserver t :=
  Pool.run_append _ _ _ _ _

theorem workersAfter_sound {s : List (ι × Env)}
    (hs : (workersOn w workers).Guarded Call.exec batchObserver NoneHeld s) :
    (workersAfter w workers s).Sound batchObserver (fun _ _ _ ↦ True) fun _ _ ↦ True := by
  have hstart : (workersOn w workers).Sound batchObserver (fun _ _ _ ↦ True) fun _ _ ↦ True :=
    ⟨trivial, fun i ↦ (workers i).follows⟩
  exact hstart.run (fun _ ↦ True) (fun _ _ _ _ _ _ _ _ _ ↦ trivial) hs fun _ _ ↦ trivial

/-- A row a `Run` has done with does not come back to it. -/
theorem next_held (ids : List ℕ) (c : Call) (r : c.Reply) :
    ∃ ids', batchObserver.next (.held ids) c r = .held ids' ∧ ids' ⊆ ids := by
  cases c with
  | subscriptions c =>
    cases c with
    | updateSyncStatus id status notes => exact ⟨_, rfl, List.erase_subset⟩
    | incrSyncRetry id notes =>
      rcases r with err | retryCount
      · exact ⟨_, rfl, List.erase_subset⟩
      · by_cases h : outboxEscalationThreshold ≤ retryCount
        · exact ⟨ids, by simp only [batchObserver, h, if_true], List.Subset.refl _⟩
        · exact ⟨ids.erase id, by simp only [batchObserver, h, if_false], List.erase_subset⟩
    | _ => exact ⟨ids, rfl, List.Subset.refl _⟩
  | contextDone =>
    cases r with
    | true => exact ⟨[], rfl, List.nil_subset _⟩
    | false => exact ⟨ids, rfl, List.Subset.refl _⟩
  | _ => exact ⟨ids, rfl, List.Subset.refl _⟩

/-- The `Run` that reads a row has read its batch. -/
theorem reads_held {p : Pool ι Call Call.Reply Unit World Batch}
    (h : p.Does Call.exec (readsRow id) a₀) :
    ∃ ids, (p.step Call.exec batchObserver a₀).marks a₀.1 = .held ids := by
  obtain ⟨c, k, hc, hread⟩ := h.call
  rw [Pool.step_marks hc]
  generalize (c.exec a₀.2 p.state).1 = r at hread
  unfold readsRow at hread
  split at hread
  · cases p.marks a₀.1 with
    | unread => exact ⟨_, rfl⟩
    | held ids => exact ⟨ids, rfl⟩
  · cases hread

/-- As long as no request is stored while a `Run` that has read the row may still
write its outcome, no request is overwritten by a `Run` that had read the row before. -/
theorem no_request_overwritten (w : World) (workers : ι → Worker) (id : ℕ)
    (s₀ s₁ s₂ : List (ι × Env)) (a₀ a₁ a₂ : ι × Env)
    (hg : (workersOn w workers).Guarded Call.exec batchObserver NoneHeld
      (s₀ ++ a₀ :: s₁ ++ a₁ :: s₂)) : ¬Overwrites w workers id s₀ a₀ s₁ a₁ s₂ a₂ := by
  rintro ⟨hread, hstored, hsame, hoverwritten⟩
  -- From the batch on the mark of the `Run` is a list of held rows.
  have hheld : ∃ ids, (workersAfter w workers (s₀ ++ a₀ :: s₁)).marks a₀.1 = .held ids := by
    rw [workersAfter_append, Pool.run_cons]
    refine Pool.run_marks (fun m : Batch ↦ ∃ ids, m = .held ids) ?_ (reads_held hread) s₁
    rintro _ c r ⟨ids, rfl⟩
    obtain ⟨ids', h, -⟩ := next_held ids c r
    exact ⟨ids', h⟩
  -- When the request is stored, the row is not among them, nor will it ever be again.
  have hreleased : ∃ ids, (workersAfter w workers (s₀ ++ a₀ :: s₁ ++ a₁ :: s₂)).marks a₀.1 =
      .held ids ∧ id ∉ ids := by
    obtain ⟨ids, hids⟩ := hheld
    rw [workersAfter_append]
    refine Pool.run_marks (fun m : Batch ↦ ∃ ids, m = .held ids ∧ id ∉ ids) ?_ ⟨ids, hids, ?_⟩ _
    · rintro _ c r ⟨ids, rfl, hid⟩
      obtain ⟨ids', h, hsub⟩ := next_held ids c r
      exact ⟨ids', h, fun hmem ↦ hid (hsub hmem)⟩
    · obtain ⟨c, k, hc, hstore⟩ := hstored.call
      have hnone := ((Pool.guarded_append _ _ _).mp hg).2.1.call hc
      generalize (c.exec a₁.2 _).1 = r at hstore
      unfold storesRequest at hstore
      split at hstore
      · obtain ⟨rfl, hpending⟩ := hstore
        have h := hnone hpending a₀.1
        rwa [show (Pool.run Call.exec batchObserver _ _).marks a₀.1 = .held ids from hids] at h
      · cases hstore
  obtain ⟨ids, hids, hid⟩ := hreleased
  obtain ⟨c, k, hc, hwrite⟩ := hoverwritten.call
  have hfollows := (workersAfter_sound hg).follows a₂.1
  rw [hc, hsame, hids] at hfollows
  generalize (c.exec a₂.2 _).1 = r at hwrite
  unfold writesOutcome at hwrite
  split at hwrite
  · obtain ⟨rfl, hdone⟩ := hwrite
    rcases hfollows.1 with hpending | hmem
    · simp [hpending] at hdone
    · exact hid hmem
  · cases hwrite

end Run

/-- Four days after the due date the subscription has been isolated and its request
is waiting. The router knows the customer under the normal profile. -/
def isolated : World :=
  (Job.suspensionCheck.run Call.exec (fun _ ↦ .calm (11 * day))
    { World.oneInvoice 150000 .active with
      routers := fun _ ↦ ⟨[⟨"*1", "budi", "rahasia", "pppoe", "paket-10M", false⟩], [], 2⟩ }).2

/-- The outbox against the settlement of the overdue invoice. -/
def outboxAgainstPayment : Bool → Worker
  | true => .outbox
  | false => .settlement (Handler.manualPayment ⟨1, 1, 150000, "cash", "", "", "", "m-1"⟩)

def turn (i : Bool) : Bool × Env := (i, .calm (11 * day))

/-- While `Run` is busy isolating the customer, the invoice is paid and the normal
profile asked for. Then `Run` reports that all is done. -/
theorem payment_request_lost :
    Overwrites isolated outboxAgainstPayment 1 [] (turn true)
        (List.replicate 5 (turn true) ++ List.replicate 5 (turn false)) (turn false) []
        (turn true) ∧
      let w := (workersAfter isolated outboxAgainstPayment
        (List.replicate 6 (turn true) ++ List.replicate 6 (turn false) ++ [turn true])).state
      (∀ sub ∈ w.subscriptions, sub.status = .active ∧ sub.syncStatus = .synced) ∧
        (w.routers 1).secrets.map (·.profile) = ["isolir"] := by
  refine ⟨⟨?_, ?_, rfl, ?_⟩, ?_⟩
  all_goals decide +kernel

/-- A payment after the end of the `Run` loses nothing. -/
theorem later_payment_request_kept : ¬Overwrites isolated outboxAgainstPayment 1 [] (turn true)
    (List.replicate 6 (turn true) ++ List.replicate 5 (turn false)) (turn false) [] (turn true) :=
  no_request_overwritten _ _ _ _ _ _ _ _ _ (by decide +kernel)

end Rosmon.Concurrent
