import Rosmon.Job.Frame
import Rosmon.Sync.Commands

namespace Rosmon

open Library Store Program Job

/-- Rewriting the live row under one id, but not whether it is live. -/
theorem row_update {w : World} {id : ℕ} {f : Subscription → Subscription} [KeepsKey f]
    (hf : ∀ r, (f r).live = r.live) (n : ℕ) :
    ({ w with subscriptions := w.subscriptions.update (Subscription.liveAt id) f } : World).row n =
      if n = id then (w.row n).map f else w.row n := by
  have hlive : ∀ r, Subscription.liveAt n (f r) = Subscription.liveAt n r := by
    intro r
    have hid : (f r).id = r.id := KeepsKey.key_eq r
    simp [Subscription.liveAt, hf, hid]
  have hfind := Table.find_update w.subscriptions (p := Subscription.liveAt id) hlive
  simp only [World.row, hfind]
  cases h : w.subscriptions.find (Subscription.liveAt n) with
  | none => simp
  | some r =>
    have hr := (row_iff.mp h).2
    by_cases hn : n = id
    · simp [Subscription.liveAt, hr, hn]
    · simp [Subscription.liveAt, hr, hn]

/-- `w'` differs from `w` at most in the live row under one id, which is `sub`, and in
what is logged and sent. -/
structure Writes (id : ℕ) (sub : Subscription) (w w' : World) : Prop where
  rest : w' = { w with
    subscriptions := w'.subscriptions
    outgoing := w'.outgoing
    auditLogs := w'.auditLogs }
  here : w'.row id = some sub
  elsewhere : ∀ n, n ≠ id → w'.row n = w.row n
  dead : ∀ r, r.live = false → (r ∈ w'.subscriptions ↔ r ∈ w.subscriptions)

namespace Writes

variable {id : ℕ} {sub sub' : Subscription} {u v w : World}

theorem refl (h : w.row id = some sub) : Writes id sub w w :=
  ⟨rfl, h, fun _ _ ↦ rfl, fun _ _ ↦ Iff.rfl⟩

theorem trans (h : Writes id sub u v) (h' : Writes id sub' v w) : Writes id sub' u w := by
  refine ⟨?_, h'.here, fun n hn ↦ (h'.elsewhere n hn).trans (h.elsewhere n hn),
    fun r hr ↦ (h'.dead r hr).trans (h.dead r hr)⟩
  have hw := h'.rest
  rw [h.rest] at hw
  exact hw

theorem routers (h : Writes id sub u v) : v.routers = u.routers := by
  rw [h.rest]

theorem record (h : Writes id sub u v) (l : Login) : v.record l = u.record l := by
  simp only [World.record, h.routers]

theorem of_update (h : w.row id = some sub) {f : Subscription → Subscription} [KeepsKey f]
    (hf : ∀ r, (f r).live = r.live) : Writes id (f sub) w
      { w with subscriptions := w.subscriptions.update (Subscription.liveAt id) f } := by
  refine ⟨rfl, ?_, fun n hn ↦ ?_, fun r hr ↦ ?_⟩
  · rw [row_update hf, if_pos rfl, h, Option.map_some]
  · rw [row_update hf, if_neg hn]
  · have hkept : ∀ q : Subscription, (if Subscription.liveAt id q then f q else q) = r ↔ q = r := by
      intro q
      split
      next hq =>
        have hql : q.live = true := by
          simp only [Subscription.liveAt, Bool.and_eq_true] at hq
          exact hq.1
        constructor
        · rintro rfl
          rw [hf, hql] at hr
          cases hr
        · rintro rfl
          rw [hql] at hr
          cases hr
      next => exact Iff.rfl
    simp only [Table.mem_update, hkept, exists_eq_right]

end Writes

section Rules

variable {α : Type} {ok : Env → Prop} {Q : α → World → Prop} {w : World}

theorem wp_subscriptions {c : SubscriptionCall} {k : Except Error c.Result → Prog α}
    (h : ∀ e, ok e → (k (c.exec e.now e.subscriptionOrder w.subscriptions).1).wp execCommands ok Q
      { w with subscriptions := (c.exec e.now e.subscriptionOrder w.subscriptions).2 }) :
    (Program.call (.subscriptions c) k).wp execCommands ok Q w := fun e he ↦ h e he

theorem wp_invoices {c : InvoiceCall} {k : Except Error c.Result → Prog α}
    (h : ∀ e, ok e → (k (c.exec e.now e.invoiceOrder w.invoices).1).wp execCommands ok Q
      { w with invoices := (c.exec e.now e.invoiceOrder w.invoices).2 }) :
    (Program.call (.invoices c) k).wp execCommands ok Q w := fun e he ↦ h e he

theorem wp_clock {k : Time → Prog α} (h : ∀ e, ok e → (k e.now).wp execCommands ok Q w) :
    (Program.call .now k).wp execCommands ok Q w := fun e he ↦ h e he

/-- A write to a row that is there. -/
theorem wp_updateSyncStatus {id : ℕ} {status : SyncStatus} {notes : String} {sub : Subscription}
    (hrow : w.row id = some sub) {k : Except Error Unit → Prog α}
    (h : ∀ w', Writes id (sub.setSyncStatus status notes) w w' →
      (k (.ok ())).wp execCommands ok Q w') :
    (Program.call (.subscriptions (.updateSyncStatus id status notes)) k).wp execCommands ok Q w := by
  refine wp_subscriptions fun e he ↦ ?_
  have hfind : w.subscriptions.find (Subscription.liveAt id) = some sub := hrow
  simp only [SubscriptionCall.exec, updated, hfind, Option.isSome_some, if_true]
  exact h _ (.of_update hrow fun _ ↦ rfl)

theorem wp_incrSyncRetry {id : ℕ} {notes : String} {sub : Subscription}
    (hrow : w.row id = some sub) {k : Except Error ℤ → Prog α}
    (h : ∀ w', Writes id (sub.bumpRetry notes) w w' →
      (k (.ok (sub.syncRetryCount + 1))).wp execCommands ok Q w') :
    (Program.call (.subscriptions (.incrSyncRetry id notes)) k).wp execCommands ok Q w := by
  refine wp_subscriptions fun e he ↦ ?_
  have hput := Writes.of_update hrow (f := Subscription.bumpRetry notes) fun _ ↦ rfl
  have hfind : (w.subscriptions.update (Subscription.liveAt id) (Subscription.bumpRetry notes)).find
    (Subscription.liveAt id) = some (sub.bumpRetry notes) := hput.here
  simp only [SubscriptionCall.exec, hfind]
  exact h _ hput

/-- What merely informs or reminds leaves everything else as it is. -/
theorem wp_reminds {p : Prog α} (hp : p.Only reminds) :
    p.wp execCommands ok (fun _ w' ↦ ∃ sent, w' = { w with outgoing := sent }) w := by
  refine hp.wp (I := fun w' ↦ ∃ sent, w' = { w with outgoing := sent }) ?_ ⟨w.outgoing, rfl⟩
  rintro c e _ hc - ⟨sent, rfl⟩
  cases c with
  | now | contextDone => exact ⟨sent, rfl⟩
  | customers | settings =>
    exact orFault_keeps (P := fun w' ↦ ∃ sent, w' = { w with outgoing := sent })
      ⟨sent, rfl⟩ ⟨sent, rfl⟩
  | invoices c =>
    cases c with
    | listDueForBilling =>
      exact orFault_keeps (P := fun w' ↦ ∃ sent, w' = { w with outgoing := sent })
        ⟨sent, rfl⟩ ⟨sent, rfl⟩
    | _ => exact hc.elim
  | notify n => exact ⟨_, rfl⟩
  | _ => exact hc.elim

end Rules

end Rosmon
