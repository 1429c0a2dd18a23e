import Mathlib.Data.Fintype.Basic
import Rosmon.Job.Frame

namespace Rosmon.Concurrent

open Library Store Program Service Job

/-- `OutboxJob.Run` and the work that stores requests for it. -/
inductive Worker
  | outbox
  | settlement (p : Payment)
  | suspensionCheck
  | reconciler

def Worker.prog : Worker → Prog Unit
  | .outbox => (fun _ ↦ ()) <$> outboxRun
  | .settlement p => applySettlement p
  | .suspensionCheck => (fun _ ↦ ()) <$> Job.suspensionCheck
  | .reconciler => (fun _ ↦ ()) <$> reconcilerRun

/-- The rows of its batch a `Run` has read and may still write the outcome of. -/
inductive Batch
  | unread
  | held (ids : List ℕ)

def Batch.ids : Batch → List ℕ
  | .unread => []
  | .held ids => ids

/-- A `Run` writes the outcome of each row of its batch once, or leaves the request
standing. -/
def batchObserver : Monitor Call Call.Reply Batch where
  allows m
    | .subscriptions (.updateSyncStatus id status _) => status.pending = true ∨ id ∈ m.ids
    | _ => True
  next
    | .unread, .subscriptions (.listPendingSync _), .ok subs => .held (subs.map (·.id))
    | .held ids, .subscriptions (.updateSyncStatus id _ _), _ => .held (ids.erase id)
    | .held ids, .subscriptions (.incrSyncRetry id _), r => match r with
      | .ok retryCount =>
        if outboxEscalationThreshold ≤ retryCount then .held ids else .held (ids.erase id)
      | .error _ => .held (ids.erase id)
    | .held ids, .contextDone, done => .held (if done then [] else ids)
    | m, _, _ => m

section Follows

/-- Whoever stores nothing but requests is let through. -/
theorem keepsRequests_follows {α : Type} {p : Prog α} (hp : p.Only Call.keepsRequests)
    (m : Batch) : p.Follows batchObserver (fun _ _ ↦ True) m := by
  refine hp.follows (I := fun _ ↦ True) (fun m c _ hc ↦ ⟨?_, fun _ ↦ trivial⟩) trivial
  cases c with
  | subscriptions c =>
    cases c with
    | updateSyncStatus => exact .inl hc
    | _ => trivial
  | _ => trivial

theorem serves_follows {α : Type} {p : Prog α} (hp : p.Only serves) (ids : List ℕ) :
    p.Follows batchObserver (fun m _ ↦ m = .held ids) (.held ids) := by
  refine hp.follows (fun m c hm hc ↦ ?_) rfl
  subst hm
  cases c <;> first | exact hc.elim | exact ⟨trivial, fun _ ↦ rfl⟩

theorem syncFailed_follows (sub : Subscription) (err : Error) (ids : List ℕ) :
    (syncFailed sub err).Follows batchObserver (fun m _ ↦ m = .held ids)
      (.held (sub.id :: ids)) := by
  simp only [syncFailed, perform_bind, follows_call]
  refine ⟨trivial, ?_⟩
  rintro (err' | retryCount)
  · simp [batchObserver, outboxEscalationThreshold]
  dsimp only
  split_ifs with hthreshold
  · simp only [batchObserver, hthreshold, if_true]
    refine ⟨.inr (by simp [Batch.ids]), fun _ ↦ ?_⟩
    simp only [List.erase_cons_head]
    exact serves_follows (escalate_serves _ _ _) ids
  · simp [batchObserver, hthreshold]

theorem outboxLoop_follows (subs : List Subscription) :
    (outboxLoop subs).Follows batchObserver (fun _ _ ↦ True) (.held (subs.map (·.id))) := by
  induction subs with
  | nil => trivial
  | cons sub subs ih =>
    simp only [outboxLoop, perform_bind, follows_call, List.map_cons]
    refine ⟨trivial, ?_⟩
    rintro (_ | _)
    · refine (serves_follows (applySync_serves sub) _).bind ?_
      rintro _ (err | ⟨⟩) rfl
      · refine (syncFailed_follows sub err _).bind ?_
        rintro _ ⟨⟩ rfl
        exact ih
      · refine ⟨.inr (by simp [Batch.ids]), fun _ ↦ ?_⟩
        show (outboxLoop subs).Follows batchObserver (fun _ _ ↦ True)
          (.held ((sub.id :: subs.map (·.id)).erase sub.id))
        rwa [List.erase_cons_head]
    · trivial

theorem outboxRun_follows : outboxRun.Follows batchObserver (fun _ _ ↦ True) .unread := by
  simp only [outboxRun, perform_bind, follows_call]
  refine ⟨trivial, ?_⟩
  rintro (err | subs)
  · trivial
  · exact outboxLoop_follows subs

theorem Worker.follows (worker : Worker) :
    worker.prog.Follows batchObserver (fun _ _ ↦ True) .unread := by
  cases worker with
  | outbox => exact (follows_map _ _ _).mpr outboxRun_follows
  | settlement p =>
    exact keepsRequests_follows ((applySettlement_only p).mono fun _ h ↦ h.1) _
  | suspensionCheck =>
    exact (follows_map _ _ _).mpr
      (keepsRequests_follows (suspensionCheck_only.mono fun _ h ↦ h.1) _)
  | reconciler =>
    exact (follows_map _ _ _).mpr (keepsRequests_follows reconcilerRun_keepsRequests _)

end Follows

end Rosmon.Concurrent
