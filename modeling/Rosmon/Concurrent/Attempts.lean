import Rosmon.Concurrent.Batch
import Rosmon.Library.Run

namespace Rosmon.Concurrent

open Library Store Program Service Job

/-- What a `Run` of the outbox is about to do: the rows of its batch that it has still to write
the outcome of, and the one that has reached the threshold. -/
structure Round where
  ids : List ℕ
  due : Option ℕ

def Round.none : Round := ⟨[], .none⟩

/-- A `Run` counts a failure of each row of its batch at most once, and gives up on the row that
has just been counted for the last time. -/
def roundObserver : Monitor Call Call.Reply Round where
  allows m
    | .subscriptions (.updateSyncStatus id .error _) => m.due = some id ∧ id ∈ m.ids
    | .subscriptions (.updateSyncStatus id .synced _) => m.due = .none ∧ id ∈ m.ids
    | .subscriptions (.incrSyncRetry id _) => m.due = .none ∧ id ∈ m.ids
    | .subscriptions (.listPendingSync _) => m = .none
    | .subscriptions _ => False
    | _ => True
  next m
    | .subscriptions (.listPendingSync _), .ok subs => ⟨subs.map (·.id), .none⟩
    | .subscriptions (.incrSyncRetry id _), .ok retryCount =>
      if outboxEscalationThreshold ≤ retryCount then ⟨m.ids, some id⟩ else ⟨m.ids.erase id, .none⟩
    | .subscriptions (.incrSyncRetry id _), .error _ => ⟨m.ids.erase id, .none⟩
    | .subscriptions (.updateSyncStatus id _ _), _ => ⟨m.ids.erase id, .none⟩
    | _, _ => m

section Follows

theorem serves_round {α : Type} {p : Prog α} (hp : p.Only serves) (m : Round) :
    p.Follows roundObserver (fun m' _ ↦ m' = m) m := by
  refine hp.follows (fun m' c hm hc ↦ ?_) rfl
  subst hm
  cases c <;> first | exact hc.elim | exact ⟨trivial, fun _ ↦ rfl⟩

theorem syncFailed_round (sub : Subscription) (err : Error) (ids : List ℕ) :
    (syncFailed sub err).Follows roundObserver (fun m _ ↦ m = ⟨ids, .none⟩)
      ⟨sub.id :: ids, .none⟩ := by
  simp only [syncFailed, perform_bind, follows_call]
  refine ⟨⟨rfl, List.mem_cons_self⟩, fun r ↦ ?_⟩
  cases r with
  | error err' => simp [roundObserver, outboxEscalationThreshold]
  | ok retryCount =>
    dsimp only
    split_ifs with hthreshold
    · simp only [roundObserver, hthreshold, if_true]
      refine ⟨⟨rfl, List.mem_cons_self⟩, fun _ ↦ ?_⟩
      simp only [List.erase_cons_head]
      exact serves_round (escalate_serves _ _ _) _
    · simp [roundObserver, hthreshold]

theorem outboxLoop_round (subs : List Subscription) :
    (outboxLoop subs).Follows roundObserver (fun _ _ ↦ True) ⟨subs.map (·.id), .none⟩ := by
  induction subs with
  | nil => trivial
  | cons sub subs ih =>
    simp only [outboxLoop, perform_bind, follows_call, List.map_cons]
    refine ⟨trivial, fun done ↦ ?_⟩
    cases done with
    | true => trivial
    | false =>
      refine (serves_round (applySync_serves sub) _).bind fun m r hm ↦ ?_
      subst hm
      cases r with
      | error err =>
        refine (syncFailed_round sub err _).bind fun m _ hm ↦ ?_
        subst hm
        exact ih
      | ok _ =>
        refine ⟨⟨rfl, List.mem_cons_self⟩, fun _ ↦ ?_⟩
        show (outboxLoop subs).Follows roundObserver (fun _ _ ↦ True)
          ⟨(sub.id :: subs.map (·.id)).erase sub.id, .none⟩
        rwa [List.erase_cons_head]

theorem outboxRun_round :
    outboxRun.Follows roundObserver (fun _ _ ↦ True) Round.none := by
  simp only [outboxRun, perform_bind, follows_call]
  refine ⟨rfl, fun r ↦ ?_⟩
  cases r with
  | error err => trivial
  | ok subs => exact outboxLoop_round subs

end Follows

/-- Whose failures in a row are counted: those of the request that is pending, or all since the
subscription was synced. -/
inductive Scope
  | request
  | subscription
  deriving DecidableEq

/-- What the history says of each subscription: how often it has failed in a row, and whether its
request was there when the batch was read. -/
structure Tally where
  failures : ℕ → ℕ
  read : ℕ → Bool

namespace Tally

def reset (t : Tally) (id : ℕ) : Tally :=
  ⟨Function.update t.failures id 0, Function.update t.read id false⟩

/-- Another request takes the place of the one that has been counted. -/
def replaced (t : Tally) : Scope → ℕ → Tally
  | .request, id => t.reset id
  | .subscription, _ => t

def failed (t : Tally) (id : ℕ) : Tally :=
  { t with failures := Function.update t.failures id (t.failures id + 1) }

/-- Only an attempt at a request that is still pending counts. -/
def next (scope : Scope) (t : Tally) : (c : Call) → c.Reply → Tally
  | .subscriptions (.listPendingSync _), .ok _ => { t with read := fun _ ↦ true }
  | .subscriptions (.create _), .ok sub => t.replaced scope sub.id
  | .subscriptions (.updateSyncStatus id status _), .ok _ =>
    if status = .synced then t.reset id else if status = .error then t else t.replaced scope id
  | .subscriptions (.incrSyncRetry id _), _ => if t.read id then t.failed id else t
  | _, _ => t

end Tally

/-- The calls that are left to the other writers: requests are stored, and a row that is created
comes with nothing counted. -/
def Call.foreign : Call → Bool
  | .subscriptions (.listPendingSync _) | .subscriptions (.incrSyncRetry ..)
  | .subscriptions (.update _) => false
  | .subscriptions (.updateSyncStatus _ status _) => status.pending
  | .subscriptions (.create sub) => sub.syncRetryCount == 0
  | _ => true

section Foreign

/-- The calls of a writer are the calls of another writer. -/
def foreign (c : Call) : Prop := Call.foreign c = true

theorem foreign_of_informs {c : Call} (hc : informs c) : foreign c := by
  cases c with
  | customers | settings | notify => rfl
  | _ => exact hc.elim

theorem foreign_of_reminds {c : Call} (hc : reminds c) : foreign c := by
  cases c with
  | now | contextDone | invoices => rfl
  | _ => exact foreign_of_informs hc

theorem audit_foreign (userID : Option ℕ) (action entityType : String) (entityID : ℕ) :
    (audit userID action entityType entityID).Only foreign := ⟨rfl, fun _ ↦ trivial⟩

theorem restoreSubscription_foreign (subscriptionID : ℕ) :
    (restoreSubscription subscriptionID).Only foreign := by
  simp only [restoreSubscription, perform_bind, only_call]
  refine ⟨rfl, fun r ↦ ?_⟩
  cases r with
  | error err => trivial
  | ok sub =>
    dsimp only
    split
    · exact ⟨rfl, fun _ ↦ ⟨rfl, fun _ ↦ trivial⟩⟩
    · exact ⟨rfl, fun _ ↦ ⟨rfl, fun _ ↦ trivial⟩⟩
    · trivial

theorem applySettlement_foreign (p : Payment) : (applySettlement p).Only foreign := by
  refine ⟨rfl, fun _ ↦ ⟨rfl, fun _ ↦ ⟨rfl, fun r ↦ ?_⟩⟩⟩
  cases r with
  | error err => trivial
  | ok inv =>
    exact (restoreSubscription_foreign _).bind fun b ↦
      (notifyPaid_informs inv b).mono fun _ ↦ foreign_of_informs

theorem downgrade_foreign (eligible : List SubscriptionStatus) (status : SubscriptionStatus)
    {syncStatus : SyncStatus} (hsync : syncStatus.pending = true) (syncNotes slug : String)
    (subID : ℕ) : (downgrade eligible status syncStatus syncNotes slug subID).Only foreign := by
  simp only [downgrade, perform_bind, only_call]
  refine ⟨rfl, fun r ↦ ?_⟩
  cases r with
  | error err => trivial
  | ok sub =>
    dsimp only
    split
    · trivial
    refine ⟨rfl, fun r ↦ ?_⟩
    cases r with
    | error err => trivial
    | ok _ =>
      refine ⟨hsync, fun _ ↦ ?_⟩
      exact (audit_foreign _ _ _ _).bind fun _ ↦
        (notifyCustomer_informs _ _ _).mono fun _ ↦ foreign_of_informs

theorem suspensionCheck_foreign : Job.suspensionCheck.Only foreign := by
  have hsetting (key : String) (dflt : ℤ) : (Job.settingInt key dflt).Only foreign :=
    (settingInt_informs key dflt).mono fun _ ↦ foreign_of_informs
  refine ⟨rfl, fun now ↦ ?_⟩
  refine (hsetting _ _).bind fun _ ↦ (hsetting _ _).bind fun _ ↦ ?_
  refine ((sendReminders_reminds now).mono fun _ ↦ foreign_of_reminds).bind fun _ ↦ ?_
  refine ⟨rfl, fun r ↦ ?_⟩
  cases r with
  | error err => trivial
  | ok invs =>
    refine (Only.forM fun inv _ ↦ ?_).bind fun _ ↦ ⟨rfl, fun _ ↦ ?_⟩
    · unfold markOverdue
      split
      · trivial
      refine ⟨rfl, fun r ↦ ?_⟩
      cases r with
      | error err => trivial
      | ok _ => exact (notifyCustomer_informs _ _ _).mono fun _ ↦ foreign_of_informs
    · refine (Only.forM fun id _ ↦ ?_).bind fun _ ↦ ⟨rfl, fun _ ↦ ?_⟩
      · unfold isolir
        split
        · trivial
        · exact downgrade_foreign _ _ rfl _ _ _
      · exact (Only.forM fun id _ ↦ downgrade_foreign _ _ rfl _ _ _).bind fun _ ↦ trivial

theorem reconcile_foreign (sub : Subscription) : (reconcile sub).Only foreign := by
  unfold reconcile
  split
  · trivial
  split
  · trivial
  have hdrift : (checkDrift sub).Only foreign := by
    refine ⟨rfl, fun r ↦ ?_⟩
    cases r with
    | error err => trivial
    | ok _ =>
      refine ⟨rfl, fun r ↦ ?_⟩
      cases r <;> trivial
  refine hdrift.bind fun drift ↦ ?_
  split
  · trivial
  · exact ⟨rfl, fun _ ↦ audit_foreign _ _ _ _⟩

theorem reconcilerRun_foreign : reconcilerRun.Only foreign := by
  refine ⟨rfl, fun r ↦ ?_⟩
  cases r with
  | error err => trivial
  | ok subs =>
    induction subs with
    | nil => trivial
    | cons sub subs ih =>
      refine ⟨rfl, fun done ↦ ?_⟩
      cases done with
      | true => trivial
      | false => exact (reconcile_foreign sub).bind fun _ ↦ ih

/-- The work beside the outbox is made of such calls. -/
theorem Worker.foreign {worker : Worker} (h : worker ≠ .outbox) :
    worker.prog.Only Concurrent.foreign := by
  cases worker with
  | outbox => exact absurd rfl h
  | settlement p => exact applySettlement_foreign p
  | suspensionCheck => exact suspensionCheck_foreign.bind fun _ ↦ trivial
  | reconciler => exact reconcilerRun_foreign.bind fun _ ↦ trivial

end Foreign

/-- The server with its outbox: what is left of the current `Run`, and what is noted of it. -/
structure Office where
  world : World
  run : Prog (Except Error Unit)
  round : Round
  tally : Tally

/-- A new `Run` begins when the last one is over; the calls of the other writers come in between. -/
inductive Move
  | start
  | outbox (e : Env)
  | other (c : Call) (foreign : Call.foreign c = true) (e : Env)

namespace Office

/-- The failures that are counted at the beginning are taken to be those of the requests. -/
def opening (w : World) : Office where
  world := w
  run := .ret (.ok ())
  round := .none
  tally := ⟨fun id ↦ (w.subscriptions.get id).elim 0 (·.syncRetryCount.toNat), fun _ ↦ false⟩

def step (scope : Scope) (o : Office) : Move → Office
  | .start => match o.run with
    | .ret _ => { o with run := outboxRun, round := .none }
    | .call _ _ => o
  | .outbox e => match o.run with
    | .ret _ => o
    | .call c k =>
      let r := c.exec e o.world
      { world := r.2, run := k r.1, round := roundObserver.next o.round c r.1
        tally := o.tally.next scope c r.1 }
  | .other c _ e =>
    let r := c.exec e o.world
    { o with world := r.2, tally := o.tally.next scope c r.1 }

/-- The outbox moves a subscription to `error` only after so many failures. -/
def Patient (scope : Scope) (o : Office) : Move → Prop
  | .outbox e => ∀ sub ∈ o.world.subscriptions, sub.syncStatus ≠ .error →
    ∀ sub' ∈ (o.step scope (.outbox e)).world.subscriptions.get sub.id, sub'.syncStatus = .error →
      outboxEscalationThreshold ≤ o.tally.failures sub.id
  | _ => True

end Office

/-- The row that a new subscription comes to. -/
def rowFor (t : Table Subscription) (sub : Subscription) : ℕ :=
  match t.find (Subscription.sameLogin sub) with
  | some existing => existing.id
  | none => t.next

/-- No more has been counted for a row than has failed. -/
def Counts (t : Table Subscription) (failures : ℕ → ℕ) : Prop :=
  ∀ sub ∈ t, sub.syncRetryCount ≤ failures sub.id

section Counting

variable {t : Table Subscription} {f f' : ℕ → ℕ}

theorem Counts.mono (h : Counts t f) (hf : ∀ n, f n ≤ f' n) : Counts t f' := fun sub hsub ↦
  (h sub hsub).trans (by exact_mod_cast hf sub.id)

theorem counts_update {p : Subscription → Bool} {g : Subscription → Subscription} [KeepsKey g]
    (hg : ∀ r ∈ t, p r = true → (g r).syncRetryCount ≤ f r.id)
    (hrest : ∀ r ∈ t, p r = false → r.syncRetryCount ≤ f r.id) : Counts (t.update p g) f := by
  intro sub hsub
  obtain ⟨r, hr, rfl⟩ := Table.mem_update.mp hsub
  cases hp : p r with
  | true =>
    have hid : (g r).id = r.id := KeepsKey.key_eq r
    simp only [if_true, hid]
    exact hg r hr hp
  | false => simpa using hrest r hr hp

theorem counts_same {p : Subscription → Bool} {g : Subscription → Subscription} [KeepsKey g]
    (h : Counts t f) (hg : ∀ r, (g r).syncRetryCount = r.syncRetryCount) :
    Counts (t.update p g) f :=
  counts_update (fun r hr _ ↦ (hg r).trans_le (h r hr)) fun r hr _ ↦ h r hr

theorem id_of_liveAt {id : ℕ} {r : Subscription} (h : Subscription.liveAt id r = true) :
    r.id = id := by
  simp only [Subscription.liveAt, Bool.and_eq_true, beq_iff_eq] at h
  exact h.2

/-- The only row under an id. -/
theorem live_of_found {id : ℕ} (h : (t.find (Subscription.liveAt id)).isSome) {r : Subscription}
    (hr : r ∈ t) (hid : r.id = id) : Subscription.liveAt id r = true := by
  obtain ⟨q, hq⟩ := Option.isSome_iff_exists.mp h
  have hsat := Table.find_sat hq
  rwa [Table.eq_of_key hr (Table.mem_of_find hq) (hid.trans (id_of_liveAt hsat).symm)]

/-- A request or an outcome is written. -/
theorem counts_setSyncStatus {id : ℕ} {status : SyncStatus} {notes : String} (h : Counts t f)
    (hfound : (t.find (Subscription.liveAt id)).isSome) (hrest : ∀ n, n ≠ id → f n ≤ f' n)
    (hid : status ≠ .synced → ∀ sub ∈ t.get id, sub.syncRetryCount ≤ f' id) :
    Counts (t.update (Subscription.liveAt id) (Subscription.setSyncStatus status notes)) f' := by
  refine counts_update (fun r hr hp ↦ ?_) fun r hr hp ↦ ?_
  · have hrid := id_of_liveAt hp
    by_cases hsynced : status = .synced
    · simp [Subscription.setSyncStatus, hsynced]
    · simp only [Subscription.setSyncStatus, hsynced, if_false]
      exact hrid ▸ hid hsynced r (Table.get_eq_some.mpr ⟨hr, hrid⟩)
  · have hrid : r.id ≠ id := by
      intro hrid
      rw [live_of_found hfound hr hrid] at hp
      cases hp
    exact (h r hr).trans (by exact_mod_cast hrest r.id hrid)

/-- A retry is counted. -/
theorem counts_bumpRetry {id : ℕ} {notes : String} (h : Counts t f) (hrest : ∀ n, f n ≤ f' n)
    (hid : f id + 1 ≤ f' id) :
    Counts (t.update (Subscription.liveAt id) (Subscription.bumpRetry notes)) f' := by
  refine counts_update (fun r hr hp ↦ ?_) fun r hr _ ↦ h.mono hrest r hr
  have hcount := h r hr
  rw [id_of_liveAt hp] at hcount ⊢
  simp only [Subscription.bumpRetry]
  omega

/-- The number of retries that comes back. -/
theorem retryCount_le {id : ℕ} {notes : String} {now : Time} {arrange : Arrangement Subscription}
    {n : ℤ} (h : Counts (t.update (Subscription.liveAt id) (Subscription.bumpRetry notes)) f)
    (hn : ((SubscriptionCall.incrSyncRetry id notes).exec now arrange t).1 = .ok n) : n ≤ f id := by
  simp only [SubscriptionCall.exec] at hn
  cases hfind : (t.update (Subscription.liveAt id) (Subscription.bumpRetry notes)).find
      (Subscription.liveAt id) with
  | none => simp [hfind, Except.map] at hn
  | some r =>
    simp only [hfind, found_some, Except.map, Except.ok.injEq] at hn
    have hcount := h r (Table.mem_of_find hfind)
    rw [id_of_liveAt (Table.find_sat hfind)] at hcount
    exact hn ▸ hcount

theorem counts_create {sub : Subscription} (h : Counts t f) (hnew : sub.syncRetryCount ≤ 0)
    (hrest : ∀ n, n ≠ rowFor t sub → f n ≤ f' n) (now : Time) (arrange : Arrangement Subscription) :
    (∃ s, ((SubscriptionCall.create sub).exec now arrange t).1 = .ok s ∧ s.id = rowFor t sub) ∧
        Counts ((SubscriptionCall.create sub).exec now arrange t).2 f' ∨
      (∃ err, ((SubscriptionCall.create sub).exec now arrange t).1 = .error err) ∧
        ((SubscriptionCall.create sub).exec now arrange t).2 = t := by
  unfold rowFor at hrest ⊢
  simp only [SubscriptionCall.exec]
  cases hfind : t.find (Subscription.sameLogin sub) with
  | none =>
    simp only [hfind] at hrest
    refine .inl ⟨⟨_, rfl, rfl⟩, fun r hr ↦ ?_⟩
    obtain hr | rfl := Table.mem_insert.mp hr
    · have hid : r.id ≠ t.next := Nat.ne_of_lt (t.fresh r hr)
      exact (h r hr).trans (by exact_mod_cast hrest r.id hid)
    · exact hnew.trans (Int.natCast_nonneg _)
  | some existing =>
    simp only [hfind] at hrest
    dsimp only
    split_ifs with hlive
    · exact .inr ⟨⟨_, rfl⟩, rfl⟩
    · unfold saveSubscription
      split_ifs with htaken
      · exact .inr ⟨⟨_, rfl⟩, rfl⟩
      · refine .inl ⟨⟨_, rfl, rfl⟩, ?_⟩
        refine counts_update (fun r _ _ ↦ hnew.trans (Int.natCast_nonneg _)) fun r hr hp ↦ ?_
        have hid : r.id ≠ existing.id := by simpa using hp
        exact (h r hr).trans (by exact_mod_cast hrest r.id hid)

end Counting

namespace Office

/-- Another writer stores a request where nothing has been counted, and not from under a `Run`. -/
def Orderly (o : Office) : Move → Prop
  | .other (.subscriptions (.updateSyncStatus id _ _)) _ _ =>
    id ∉ o.round.ids ∧ ∀ sub ∈ o.world.subscriptions.get id, sub.syncRetryCount ≤ 0
  | .other (.subscriptions (.create sub)) _ _ => rowFor o.world.subscriptions sub ∉ o.round.ids
  | _ => True

structure Sound (o : Office) : Prop where
  follows : o.run.Follows roundObserver (fun _ _ ↦ True) o.round
  counts : Counts o.world.subscriptions o.tally.failures
  read : ∀ id ∈ o.round.ids, o.tally.read id = true
  distinct : o.round.ids.Nodup
  due : ∀ id ∈ o.round.due, id ∈ o.round.ids ∧ outboxEscalationThreshold ≤ o.tally.failures id

theorem sound_opening (w : World) : (opening w).Sound := by
  refine ⟨trivial, fun sub hsub ↦ ?_, fun id hid ↦ ?_, List.nodup_nil, fun id hid ↦ ?_⟩
  · have hget : w.subscriptions.get sub.id = some sub := Table.get_eq_some.mpr ⟨hsub, rfl⟩
    simp only [opening, hget, Option.elim]
    exact Int.self_le_toNat _
  · cases hid
  · cases hid

theorem exec_subscriptions (c : SubscriptionCall) (e : Env) (w : World) :
    (∃ err, (Call.subscriptions c).exec e w = (.error err, w)) ∨
      (Call.subscriptions c).exec e w = ((c.exec e.now e.subscriptionOrder w.subscriptions).1,
        { w with subscriptions := (c.exec e.now e.subscriptionOrder w.subscriptions).2 }) := by
  obtain h | ⟨err, h⟩ := orFault_cases e w ((c.exec e.now e.subscriptionOrder w.subscriptions).1,
    { w with subscriptions := (c.exec e.now e.subscriptionOrder w.subscriptions).2 })
  · exact .inr h
  · exact .inl ⟨err, h⟩

/-- Calls that have nothing to do with subscriptions. -/
theorem exec_elsewhere {c : Call} (hc : ∀ s, c ≠ .subscriptions s) (e : Env) (w : World) :
    (c.exec e w).2.subscriptions = w.subscriptions := by
  cases c with
  | subscriptions s => exact absurd rfl (hc s)
  | payments | invoices | registrations | customers | customerByPhone | createCustomer
  | pppProfiles | hotspotProfiles | settings | nextVal | portalPassword | audit | router =>
    exact orFault_keeps (P := fun v ↦ v.subscriptions = w.subscriptions) rfl rfl
  | now | newPaymentCode | notify | device | contextDone | rangeKeys | xendit => rfl

theorem next_elsewhere {c : Call} (hc : ∀ s, c ≠ .subscriptions s) (scope : Scope) (t : Tally)
    (m : Round) (r : c.Reply) : t.next scope c r = t ∧ roundObserver.next m c r = m := by
  cases c with
  | subscriptions s => exact absurd rfl (hc s)
  | _ => exact ⟨rfl, rfl⟩

/-- A write of a request or of an outcome has not found its row, or it has. -/
theorem updateSyncStatus_cases (id : ℕ) (status : SyncStatus) (notes : String) (e : Env)
    (w : World) :
    (∃ err, (Call.subscriptions (.updateSyncStatus id status notes)).exec e w = (.error err, w)) ∨
      (w.subscriptions.find (Subscription.liveAt id)).isSome ∧
        (Call.subscriptions (.updateSyncStatus id status notes)).exec e w = (.ok (), { w with
          subscriptions := w.subscriptions.update (Subscription.liveAt id)
            (Subscription.setSyncStatus status notes) }) := by
  obtain h | ⟨hfound, h⟩ := update_cases e w .subscriptionNotFound w.subscriptions
    (Subscription.liveAt id) (Subscription.setSyncStatus status notes)
    (fun t ↦ { w with subscriptions := t }) rfl
  · exact .inl h
  · exact .inr ⟨hfound, h⟩

section Steps

variable {scope : Scope} {o : Office}

/-- What becomes of the tally of a row when the request of a row is replaced. -/
theorem replaced_kept (t : Tally) (scope : Scope) {id n : ℕ} (h : scope = .request → n ≠ id) :
    (t.replaced scope id).read n = t.read n ∧ (t.replaced scope id).failures n = t.failures n := by
  cases scope with
  | subscription => exact ⟨rfl, rfl⟩
  | request => simp only [Tally.replaced, Tally.reset, Function.update_of_ne (h rfl), and_self]

theorem reset_kept (t : Tally) {id n : ℕ} (h : n ≠ id) :
    (t.reset id).read n = t.read n ∧ (t.reset id).failures n = t.failures n := by
  simp only [Tally.reset, Function.update_of_ne h, and_self]

/-- What is not noted and leaves the counts alone. -/
theorem unnoted_counts (h : o.Sound) {c : SubscriptionCall}
    (hnext : ∀ r, o.tally.next scope (.subscriptions c) r = o.tally)
    (hexec : ∀ now arrange, Counts (c.exec now arrange o.world.subscriptions).2 o.tally.failures)
    (e : Env) :
    let r := (Call.subscriptions c).exec e o.world
    Counts r.2.subscriptions (o.tally.next scope (.subscriptions c) r.1).failures ∧
      ∀ id ∈ o.round.ids, (o.tally.next scope (.subscriptions c) r.1).read id = o.tally.read id ∧
        (o.tally.next scope (.subscriptions c) r.1).failures id = o.tally.failures id := by
  intro r
  rw [hnext]
  refine ⟨?_, fun _ _ ↦ ⟨rfl, rfl⟩⟩
  obtain ⟨err, he⟩ | he := exec_subscriptions c e o.world
  · simp only [r, he]
    exact h.counts
  · simp only [r, he]
    exact hexec e.now e.subscriptionOrder

/-- A request that another writer stores. -/
theorem other_counts (h : o.Sound) {c : SubscriptionCall} {e : Env}
    {hforeign : Call.foreign (.subscriptions c) = true}
    (horderly : scope = .request → o.Orderly (.other (.subscriptions c) hforeign e)) :
    let r := (Call.subscriptions c).exec e o.world
    Counts r.2.subscriptions (o.tally.next scope (.subscriptions c) r.1).failures ∧
      ∀ id ∈ o.round.ids, (o.tally.next scope (.subscriptions c) r.1).read id = o.tally.read id ∧
        (o.tally.next scope (.subscriptions c) r.1).failures id = o.tally.failures id := by
  intro r
  cases c with
  | listPendingSync | incrSyncRetry | update => cases hforeign
  | updateSyncStatus id status notes =>
    have hpending : status.pending = true := hforeign
    have hsynced : status ≠ .synced := by
      intro hstatus
      rw [hstatus] at hpending
      cases hpending
    have herror : status ≠ .error := by
      intro hstatus
      rw [hstatus] at hpending
      cases hpending
    obtain ⟨err, hexec⟩ | ⟨hfound, hexec⟩ := updateSyncStatus_cases id status notes e o.world
    · simp only [r, hexec]
      exact ⟨h.counts, fun _ _ ↦ ⟨rfl, rfl⟩⟩
    · simp only [r, hexec, Tally.next, hsynced, herror, if_false]
      refine ⟨counts_setSyncStatus h.counts hfound (fun n hn ↦ ?_) fun _ sub hsub ↦ ?_,
        fun n hn ↦ replaced_kept o.tally scope fun hscope ↦ ?_⟩
      · exact (replaced_kept o.tally scope fun _ ↦ hn).2.ge
      · cases scope with
        | request => exact ((horderly rfl).2 sub hsub).trans (Int.natCast_nonneg _)
        | subscription =>
          obtain ⟨hmem, rfl⟩ := Table.get_eq_some.mp hsub
          exact h.counts sub hmem
      · exact fun hid ↦ (horderly hscope).1 (hid ▸ hn)
  | create sub =>
    have hnew : sub.syncRetryCount ≤ 0 := by
      have hzero : sub.syncRetryCount = 0 := by simpa [Call.foreign] using hforeign
      exact hzero.le
    obtain ⟨err, hexec⟩ | hexec := exec_subscriptions (.create sub) e o.world
    · simp only [r, hexec]
      exact ⟨h.counts, fun _ _ ↦ ⟨rfl, rfl⟩⟩
    simp only [r, hexec]
    have hrest : ∀ n, n ≠ rowFor o.world.subscriptions sub → o.tally.failures n ≤
        (o.tally.replaced scope (rowFor o.world.subscriptions sub)).failures n :=
      fun n hn ↦ (replaced_kept o.tally scope fun _ ↦ hn).2.ge
    obtain ⟨⟨s, hs, hid⟩, hcounts⟩ | ⟨⟨err, herr⟩, hsame⟩ :=
      counts_create h.counts hnew hrest e.now e.subscriptionOrder
    · simp only [hs, Tally.next, hid]
      exact ⟨hcounts, fun n hn ↦ replaced_kept o.tally scope fun hscope hnid ↦
        horderly hscope (hnid ▸ hn)⟩
    · rw [herr, hsame]
      exact ⟨h.counts, fun _ _ ↦ ⟨rfl, rfl⟩⟩
  | list | listByStatus | get =>
    refine unnoted_counts h ?_ ?_ e
    · exact fun _ ↦ rfl
    · exact fun _ _ ↦ h.counts
  | updateStatus | updateNextInvoiceDate | delete =>
    refine unnoted_counts h ?_ ?_ e
    · exact fun _ ↦ rfl
    · exact fun _ _ ↦ counts_same h.counts fun _ ↦ rfl

theorem Sound.other (h : o.Sound) {c : Call} {hforeign : Call.foreign c = true} {e : Env}
    (horderly : scope = .request → o.Orderly (.other c hforeign e)) :
    (o.step scope (.other c hforeign e)).Sound := by
  by_cases hc : ∃ s, c = .subscriptions s
  · obtain ⟨s, rfl⟩ := hc
    obtain ⟨hcounts, hkept⟩ := other_counts h horderly
    refine ⟨h.follows, hcounts, fun id hid ↦ ?_, h.distinct, fun id hid ↦ ?_⟩
    · exact (hkept id hid).1.trans (h.read id hid)
    · obtain ⟨hmem, hmany⟩ := h.due id hid
      refine ⟨hmem, hmany.trans ?_⟩
      exact_mod_cast (hkept id hmem).2.ge
  · have hne : ∀ s, c ≠ .subscriptions s := fun s hs ↦ hc ⟨s, hs⟩
    obtain ⟨htally, -⟩ := next_elsewhere hne scope o.tally o.round (c.exec e o.world).1
    have hcounts := h.counts
    rw [← exec_elsewhere hne e o.world] at hcounts
    refine ⟨h.follows, ?_, ?_, h.distinct, ?_⟩
    · simpa only [Office.step, htally] using hcounts
    · simpa only [Office.step, htally] using h.read
    · simpa only [Office.step, htally] using h.due

theorem Sound.start (h : o.Sound) : (o.step scope .start).Sound := by
  unfold Office.step
  cases hrun : o.run with
  | ret r =>
    refine ⟨outboxRun_round, h.counts, fun id hid ↦ ?_, List.nodup_nil, fun id hid ↦ ?_⟩
    · cases hid
    · cases hid
  | call c k => exact h

/-- The row that is done with leaves the batch. -/
theorem erase_kept (h : o.Sound) (n : ℕ) {tally : Tally}
    (hkept : ∀ id, id ≠ n → tally.read id = o.tally.read id) :
    (∀ id ∈ o.round.ids.erase n, tally.read id = true) ∧ (o.round.ids.erase n).Nodup := by
  refine ⟨fun id hid ↦ ?_, h.distinct.erase n⟩
  obtain ⟨hne, hmem⟩ := h.distinct.mem_erase_iff.mp hid
  rw [hkept id hne]
  exact h.read id hmem

/-- No row is in a batch twice. -/
theorem batch_nodup {limit : ℕ} {e : Env} {w : World} {subs : List Subscription}
    (h : ((Call.subscriptions (.listPendingSync limit)).exec e w).1 = .ok subs) :
    (subs.map (·.id)).Nodup := by
  obtain ⟨err, hexec⟩ | hexec := exec_subscriptions (.listPendingSync limit) e w
  · rw [hexec] at h
    cases h
  · rw [hexec] at h
    simp only [SubscriptionCall.exec, Except.ok.injEq] at h
    rw [← h]
    have hrows : (w.subscriptions.rows.map (·.id)).Nodup :=
      List.pairwise_map.mpr (w.subscriptions.sorted.imp Nat.ne_of_lt)
    have hpending : ((w.subscriptions.rows.filter fun s ↦ s.live && s.syncStatus.pending).map
        (·.id)).Nodup := hrows.sublist (List.filter_sublist.map _)
    have horder := ((e.subscriptionOrder.perm _).map (·.id)).nodup_iff.mpr hpending
    exact horder.sublist ((List.take_sublist _ _).map _)

/-- A failure is counted, and the row is given up or left for the next time. -/
theorem Sound.incrSyncRetry (h : o.Sound) {id : ℕ} {notes : String}
    {k : Except Error ℤ → Prog (Except Error Unit)}
    (hrun : o.run = .call (.subscriptions (.incrSyncRetry id notes)) k) (e : Env) :
    (o.step scope (.outbox e)).Sound := by
  have hfollows := h.follows
  rw [hrun] at hfollows
  obtain ⟨⟨-, hid⟩, hnext⟩ := hfollows
  have hread := h.read id hid
  have hcounts : Counts (o.world.subscriptions.update (Subscription.liveAt id)
      (Subscription.bumpRetry notes)) (o.tally.failed id).failures := by
    refine counts_bumpRetry h.counts (fun n ↦ ?_) ?_
    · simp only [Tally.failed, Function.update_apply]
      split_ifs with hn
      · exact hn ▸ Nat.le_succ _
      · exact Nat.le_refl _
    · simp only [Tally.failed, Function.update_self, Nat.le_refl]
  have hmore : Counts o.world.subscriptions (o.tally.failed id).failures := by
    refine h.counts.mono fun n ↦ ?_
    simp only [Tally.failed, Function.update_apply]
    split_ifs with hn
    · exact hn ▸ Nat.le_succ _
    · exact Nat.le_refl _
  have hsame : ∀ n, n ≠ id → (o.tally.failed id).read n = o.tally.read n := fun _ _ ↦ rfl
  have herase := erase_kept h id hsame
  simp only [Office.step, hrun, Tally.next, hread, if_true]
  obtain ⟨err, hexec⟩ | hexec := exec_subscriptions (.incrSyncRetry id notes) e o.world
  · rw [hexec]
    refine ⟨hnext (.error err), hmore, herase.1, herase.2, fun n hn ↦ ?_⟩
    cases hn
  · rw [hexec]
    cases hreply : ((SubscriptionCall.incrSyncRetry id notes).exec e.now e.subscriptionOrder
        o.world.subscriptions).1 with
    | error err =>
      refine ⟨hnext (.error err), hcounts, herase.1, herase.2, fun n hn ↦ ?_⟩
      cases hn
    | ok retryCount =>
      have hfollows := hnext (.ok retryCount)
      by_cases hthreshold : outboxEscalationThreshold ≤ retryCount
      · simp only [roundObserver, hthreshold, if_true] at hfollows ⊢
        refine ⟨hfollows, hcounts, h.read, h.distinct, fun n hn ↦ ?_⟩
        obtain rfl := Option.some.inj hn
        exact ⟨hid, hthreshold.trans (retryCount_le hcounts hreply)⟩
      · simp only [roundObserver, hthreshold, if_false] at hfollows ⊢
        refine ⟨hfollows, hcounts, herase.1, herase.2, fun n hn ↦ ?_⟩
        cases hn

/-- An outcome is written. -/
theorem Sound.updateSyncStatus (h : o.Sound) {id : ℕ} {status : SyncStatus} {notes : String}
    {k : Except Error Unit → Prog (Except Error Unit)}
    (hrun : o.run = .call (.subscriptions (.updateSyncStatus id status notes)) k) (e : Env) :
    (o.step scope (.outbox e)).Sound := by
  have hfollows := h.follows
  rw [hrun] at hfollows
  obtain ⟨hallows, hnext⟩ := hfollows
  have houtcome : status = .synced ∨ status = .error := by
    cases status <;> first | exact .inl rfl | exact .inr rfl | exact hallows.elim
  have hnone (tally : Tally) (hkept : ∀ n, n ≠ id → tally.read n = o.tally.read n) (r)
      {w : World} (hcounts : Counts w.subscriptions tally.failures) :
      Sound ⟨w, k r, roundObserver.next o.round
        (.subscriptions (.updateSyncStatus id status notes)) r, tally⟩ := by
    have herase := erase_kept h id hkept
    refine ⟨hnext r, hcounts, herase.1, herase.2, fun n hn ↦ ?_⟩
    cases hn
  simp only [Office.step, hrun]
  obtain ⟨err, hexec⟩ | ⟨hfound, hexec⟩ := updateSyncStatus_cases id status notes e o.world
  · rw [hexec]
    exact hnone o.tally (fun _ _ ↦ rfl) (.error err) h.counts
  · rw [hexec]
    obtain rfl | rfl := houtcome
    · exact hnone (o.tally.reset id) (fun n hn ↦ (reset_kept _ hn).1) (.ok ())
        (counts_setSyncStatus h.counts hfound (fun n hn ↦ (reset_kept _ hn).2.ge)
          fun hsynced ↦ absurd rfl hsynced)
    · exact hnone o.tally (fun _ _ ↦ rfl) (.ok ()) (counts_same h.counts fun _ ↦ rfl)

theorem Sound.outbox (h : o.Sound) (e : Env) : (o.step scope (.outbox e)).Sound := by
  cases hrun : o.run with
  | ret r => simpa only [Office.step, hrun] using h
  | call c k =>
    have hfollows := h.follows
    rw [hrun] at hfollows
    obtain ⟨hallows, hnext⟩ := hfollows
    by_cases hc : ∃ s, c = .subscriptions s
    · obtain ⟨s, rfl⟩ := hc
      cases s with
      | incrSyncRetry id notes => exact h.incrSyncRetry hrun e
      | updateSyncStatus id status notes => exact h.updateSyncStatus hrun e
      | listPendingSync limit =>
        simp only [Office.step, hrun]
        have hreads :
            ((Call.subscriptions (.listPendingSync limit)).exec e o.world).2 = o.world := by
          obtain ⟨err, hexec⟩ | hexec := exec_subscriptions (.listPendingSync limit) e o.world <;>
            rw [hexec]
          rfl
        rw [hreads]
        cases hreply : ((Call.subscriptions (.listPendingSync limit)).exec e o.world).1 with
        | error err => exact ⟨hnext (.error err), h.counts, h.read, h.distinct, h.due⟩
        | ok subs =>
          refine ⟨hnext (.ok subs), h.counts, fun _ _ ↦ rfl, batch_nodup hreply, fun id hid ↦ ?_⟩
          cases hid
      | list | listByStatus | get | create | update | updateStatus | updateNextInvoiceDate
      | delete => exact hallows.elim
    · have hne : ∀ s, c ≠ .subscriptions s := fun s hs ↦ hc ⟨s, hs⟩
      obtain ⟨htally, hround⟩ := next_elsewhere hne scope o.tally o.round (c.exec e o.world).1
      have hnext' := hnext (c.exec e o.world).1
      have hcounts := h.counts
      rw [← exec_elsewhere hne e o.world] at hcounts
      simp only [Office.step, hrun, htally, hround]
      exact ⟨hround ▸ hnext', hcounts, h.read, h.distinct, h.due⟩

/-- One step, whoever takes it. -/
theorem Sound.step (h : o.Sound) {move : Move} (horderly : scope = .request → o.Orderly move) :
    (o.step scope move).Sound := by
  cases move with
  | start => exact h.start
  | outbox e => exact h.outbox e
  | other c hforeign e => exact h.other horderly

/-- A row that a `Run` moves to `error` is the one it has just counted for the last time. -/
theorem Sound.patient (h : o.Sound) (move : Move) : o.Patient scope move := by
  cases move with
  | start | other => trivial
  | outbox e =>
    intro sub hsub hbefore sub' hsub' herror
    have hget : o.world.subscriptions.get sub.id = some sub := Table.get_eq_some.mpr ⟨hsub, rfl⟩
    have hunchanged : o.world.subscriptions.get sub.id ≠ some sub' := by
      intro hsame
      rw [hget] at hsame
      obtain rfl := Option.some.inj hsame
      exact hbefore herror
    cases hrun : o.run with
    | ret r =>
      simp only [Office.step, hrun] at hsub'
      exact absurd hsub' hunchanged
    | call c k =>
      simp only [Office.step, hrun] at hsub'
      by_cases hc : ∃ s, c = .subscriptions s
      swap
      · rw [exec_elsewhere (fun s hs ↦ hc ⟨s, hs⟩)] at hsub'
        exact absurd hsub' hunchanged
      obtain ⟨s, rfl⟩ := hc
      have hallows := h.follows
      rw [hrun] at hallows
      replace hallows := hallows.1
      obtain ⟨err, hexec⟩ | hexec := exec_subscriptions s e o.world
      · rw [hexec] at hsub'
        exact absurd hsub' hunchanged
      rw [hexec] at hsub'
      cases s with
      | listPendingSync limit => exact absurd hsub' hunchanged
      | incrSyncRetry id notes =>
        simp only [SubscriptionCall.exec, Table.get_update, hget, Option.map_some,
          Option.mem_some_iff] at hsub'
        subst hsub'
        split_ifs at herror
        · exact absurd herror hbefore
        · exact absurd herror hbefore
      | updateSyncStatus id status notes =>
        simp only [SubscriptionCall.exec, updated, Table.get_update, hget, Option.map_some,
          Option.mem_some_iff] at hsub'
        subst hsub'
        split_ifs at herror with hat
        · have hstatus : status = .error := herror
          subst hstatus
          exact id_of_liveAt hat ▸ (h.due id hallows.1).2
        · exact absurd herror hbefore
      | list | listByStatus | get | create | update | updateStatus | updateNextInvoiceDate
      | delete => exact hallows.elim

end Steps

end Office

section Samples

instance (scope : Scope) (o : Office) (move : Move) : Decidable (o.Patient scope move) := by
  cases move with
  | outbox e =>
    unfold Office.Patient
    infer_instance
  | start | other => exact isTrue trivial

/-- A `Run` in which the call fails that comes after `n` others. -/
def failing (n : ℕ) : List Move :=
  .start :: (List.replicate n (Env.calm 0) ++ Env.broken 0 :: List.replicate 4 (Env.calm 0)).map
    .outbox

/-- Another writer stores a request for the first subscription. -/
def stores (status : SyncStatus) (h : status.pending = true) : Move :=
  .other (.subscriptions (.updateSyncStatus 1 status "")) h (Env.calm 0)

end Samples

end Rosmon.Concurrent
