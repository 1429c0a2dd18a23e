import Rosmon.Sync.Fulfil
import Rosmon.Sync.Rows

namespace Rosmon

open Library Store Mikrotik Program Service Job

/-- The row of a request after an attempt that has failed. -/
def Store.Subscription.failedSync (sub : Subscription) (err : Error) : Subscription :=
  let sub := sub.bumpRetry err.text
  if outboxEscalationThreshold ≤ sub.syncRetryCount then sub.setSyncStatus .error err.text
  else sub

/-- The server may be shut down. -/
def Stops (ok : Env → Prop) : Prop := ∃ e, ok e ∧ e.stopping = true

/-- What `Run` has made of a row it has read with its batch, and of its record. -/
inductive Outcome (ok : Env → Prop) (w : World) (sub : Subscription) :
    Option Subscription → Option Record → Prop
  | untouched (h : Stops ok) : Outcome ok w sub (some sub) (w.record sub.login)
  | offline (h : sub.deviceID ∉ w.connected) :
    Outcome ok w sub (some (sub.setSyncStatus .synced "")) (w.record sub.login)
  | served {o : Option Record} (h : sub.deviceID ∈ w.connected)
      (hf : w.fulfil sub (w.account sub.login) = some (o.map Record.account)) :
    Outcome ok w sub (some (sub.setSyncStatus .synced "")) o
  | failed {o : Option Record} (err : Error) (h : sub.deviceID ∈ w.connected)
      (hr : Faulty ok ∨
        w.fulfil sub (w.account sub.login) = none ∧ o = w.record sub.login) :
    Outcome ok w sub (some (sub.failedSync err)) o

/-- `w'` is `w` after a batch: every row of it has its outcome, and the rest of the
rows and of the records are as they were. -/
structure Worked (ok : Env → Prop) (w : World) (subs : List Subscription) (w' : World) : Prop where
  wellFormed : ∀ id, (w'.routers id).WellFormed
  terms : SameTerms w w'
  outcome : ∀ sub ∈ subs, Outcome ok w sub (w'.row sub.id) (w'.record sub.login)
  rows : ∀ n, (∀ sub ∈ subs, sub.id ≠ n) → w'.row n = w.row n
  records : ∀ l, (∀ sub ∈ subs, sub.login ≠ l) → w'.record l = w.record l
  dead : ∀ r, r.live = false → (r ∈ w'.subscriptions ↔ r ∈ w.subscriptions)

/-- Rows of different subscriptions at different logins. -/
def Apart (subs : List Subscription) : Prop :=
  subs.Pairwise fun a b ↦ a.id ≠ b.id ∧ a.login ≠ b.login

theorem Outcome.congr {ok : Env → Prop} {u w : World} {sub : Subscription}
    {row : Option Subscription} {o : Option Record} (h : Outcome ok u sub row o)
    (hterms : SameTerms w u) (hrecord : u.record sub.login = w.record sub.login) :
    Outcome ok w sub row o := by
  have hfulfil : u.fulfil sub = w.fulfil sub := by
    simp only [World.fulfil, hterms.normalName, hterms.targetName]
  have haccount : u.account sub.login = w.account sub.login := by
    simp only [World.account, hrecord]
  cases h with
  | untouched h =>
    rw [hrecord]
    exact .untouched h
  | offline h =>
    rw [hrecord]
    exact .offline (hterms.connected ▸ h)
  | served h hf => exact .served (hterms.connected ▸ h) (hfulfil ▸ haccount ▸ hf)
  | failed err h hr =>
    exact .failed err (hterms.connected ▸ h) (hfulfil ▸ haccount ▸ hrecord ▸ hr)

theorem failedSync_syncStatus (sub : Subscription) (err : Error) :
    (sub.failedSync err).syncStatus = sub.syncStatus ∨
      (sub.failedSync err).syncStatus = .error := by
  simp only [Subscription.failedSync]
  split
  · exact .inr rfl
  · exact .inl rfl

theorem failedSync_login (sub : Subscription) (err : Error) :
    (sub.failedSync err).login = sub.login := by
  simp only [Subscription.failedSync]
  split <;> rfl

section Outcomes

variable {ok : Env → Prop} {w : World} {sub : Subscription} {r : Option Subscription}
  {o : Option Record}

theorem Outcome.row_some (h : Outcome ok w sub r o) : ∃ sub', r = some sub' := by
  cases h <;> exact ⟨_, rfl⟩

theorem Outcome.login {sub' : Subscription} (h : Outcome ok w sub (some sub') o) :
    sub'.login = sub.login := by
  cases h with
  | untouched | offline | served => rfl
  | failed err => exact failedSync_login sub err

/-- What it means for a request to count as synced. -/
theorem Outcome.synced {sub' : Subscription} (h : Outcome ok w sub (some sub') o)
    (hpending : sub.syncStatus.pending) (hsynced : sub'.syncStatus = .synced) :
    sub.deviceID ∉ w.connected ∨
      sub.deviceID ∈ w.connected ∧
        w.fulfil sub (w.account sub.login) = some (o.map Record.account) := by
  cases h with
  | untouched => simp [hsynced, SyncStatus.pending] at hpending
  | offline h => exact .inl h
  | served h hf => exact .inr ⟨h, hf⟩
  | failed err h hr =>
    rcases failedSync_syncStatus sub err with h | h
    · rw [← h, hsynced] at hpending
      cases hpending
    · rw [h] at hsynced
      cases hsynced

section Quiet

variable (h : Outcome ok w sub r o) (hfaulty : ¬Faulty ok) (hstops : ¬Stops ok)

include h hstops

/-- When nobody stops the server, a request for a device that is offline counts as synced. -/
theorem Outcome.quiet_offline (hdevice : sub.deviceID ∉ w.connected) :
    r = some (sub.setSyncStatus .synced "") := by
  cases h with
  | untouched h => exact absurd h hstops
  | offline => rfl
  | served h | failed _ h => exact absurd h hdevice

include hfaulty

/-- When nothing fails, a request that the router can take is taken. -/
theorem Outcome.quiet_served (hdevice : sub.deviceID ∈ w.connected) {a : Option Account}
    (ha : w.fulfil sub (w.account sub.login) = some a) :
    r = some (sub.setSyncStatus .synced "") ∧ o.map Record.account = a := by
  cases h with
  | untouched h => exact absurd h hstops
  | offline h => exact absurd hdevice h
  | served _ hf => exact ⟨rfl, Option.some.inj (hf ▸ ha)⟩
  | failed _ _ hr =>
    rw [(hr.resolve_left hfaulty).1] at ha
    cases ha

/-- When nothing fails, a request that the router cannot take leaves it as it is. -/
theorem Outcome.quiet_refused (hdevice : sub.deviceID ∈ w.connected)
    (hnone : w.fulfil sub (w.account sub.login) = none) :
    (∃ err, r = some (sub.failedSync err)) ∧ o = w.record sub.login := by
  cases h with
  | untouched h => exact absurd h hstops
  | offline h => exact absurd hdevice h
  | served _ hf =>
    rw [hnone] at hf
    cases hf
  | failed err _ hr => exact ⟨⟨err, rfl⟩, (hr.resolve_left hfaulty).2⟩

end Quiet

end Outcomes

namespace Worked

variable {ok : Env → Prop} {u w w' : World} {sub : Subscription} {subs : List Subscription}

/-- A live row of the batch is found again under its key. -/
theorem row_of_mem (h : Worked ok w subs w') (hsub : sub ∈ w.subscriptions) (hlive : sub.live)
    {sub' : Subscription} (hsub' : sub' ∈ w'.subscriptions) (hid : sub'.id = sub.id) :
    w'.row sub.id = some sub' := by
  refine row_iff.mpr ⟨hsub', ?_, hid⟩
  by_contra hdead
  have hold := (h.dead sub' (by simpa using hdead)).mp hsub'
  exact hdead (Table.eq_of_key hsub hold hid.symm ▸ hlive)

theorem nil (hw : ∀ id, (w.routers id).WellFormed) : Worked ok w [] w :=
  ⟨hw, .refl w, by simp, fun _ _ ↦ rfl, fun _ _ ↦ rfl, fun _ _ ↦ Iff.rfl⟩

/-- The loop has been left. -/
theorem stopped (hw : ∀ id, (w.routers id).WellFormed) (h : Stops ok)
    (hrows : ∀ sub ∈ subs, w.row sub.id = some sub) : Worked ok w subs w := by
  refine ⟨hw, .refl w, fun sub hsub ↦ ?_, fun _ _ ↦ rfl, fun _ _ ↦ rfl, fun _ _ ↦ Iff.rfl⟩
  rw [hrows sub hsub]
  exact .untouched h

theorem cons (h : Worked ok w [sub] u) (h' : Worked ok u subs w') (ha : Apart (sub :: subs)) :
    Worked ok w (sub :: subs) w' := by
  obtain ⟨hapart, -⟩ := List.pairwise_cons.mp ha
  refine ⟨h'.wellFormed, h.terms.trans h'.terms, ?_, ?_, ?_, ?_⟩
  · intro s hs
    rcases List.mem_cons.mp hs with rfl | hs
    · rw [h'.rows s.id fun t ht ↦ (hapart t ht).1.symm,
        h'.records s.login fun t ht ↦ (hapart t ht).2.symm]
      exact h.outcome s (by simp)
    · refine (h'.outcome s hs).congr h.terms (h.records s.login ?_)
      intro t ht
      rw [List.mem_singleton.mp ht]
      exact (hapart s hs).2
  · intro n hn
    rw [h'.rows n fun t ht ↦ hn t (List.mem_cons_of_mem _ ht)]
    refine h.rows n fun t ht ↦ hn t ?_
    rw [List.mem_singleton.mp ht]
    exact List.mem_cons_self
  · intro l hl
    rw [h'.records l fun t ht ↦ hl t (List.mem_cons_of_mem _ ht)]
    refine h.records l fun t ht ↦ hl t ?_
    rw [List.mem_singleton.mp ht]
    exact List.mem_cons_self
  · intro r hr
    exact (h'.dead r hr).trans (h.dead r hr)

end Worked

section Rules

variable {ok : Env → Prop} (hok : ∀ e, ok e → e.Honest) {w : World}
  (hw : ∀ id, (w.routers id).WellFormed)

/-- An attempt for a device that is offline is none, and succeeds. -/
inductive Attempted (ok : Env → Prop) (w : World) (sub : Subscription) :
    Except Error Unit → World → Prop
  | offline (h : sub.deviceID ∉ w.connected) : Attempted ok w sub (.ok ()) w
  | online {r : Except Error Unit} {w' : World} (h : sub.deviceID ∈ w.connected)
      (hends : Ends ok sub.login (w.fulfil sub) w r w') : Attempted ok w sub r w'

include hok hw in
theorem applySync_attempted {sub : Subscription} (hpending : sub.syncStatus.pending) :
    (applySync sub).wp execCommands ok (Attempted ok w sub) w := by
  simp only [applySync, perform_bind]
  intro e _
  by_cases hdevice : sub.deviceID ∈ w.connected
  · simp only [execCommands, Call.exec, hdevice, if_true]
    exact wp_mono (doSync_ends hok hw hpending) fun r w' h ↦ .online hdevice h
  · simp only [execCommands, Call.exec, hdevice, if_false]
    exact .offline hdevice

theorem escalate_informs (sub : Subscription) (err : Error) (retryCount : ℤ) :
    (escalate sub err retryCount).Only informs := by
  simp only [escalate, perform_bind, only_call]
  refine ⟨trivial, ?_⟩
  intro r
  cases r with
  | error err => trivial
  | ok adminPhone =>
    dsimp only
    split
    · trivial
    · exact ⟨trivial, fun _ ↦ trivial⟩

theorem syncFailed_writes {sub : Subscription} (hrow : w.row sub.id = some sub) (err : Error) :
    (syncFailed sub err).wp execCommands ok
      (fun _ w' ↦ Writes sub.id (sub.failedSync err) w w') w := by
  simp only [syncFailed, perform_bind]
  refine wp_incrSyncRetry hrow fun u hu ↦ ?_
  dsimp only
  have hretry : (sub.bumpRetry err.text).syncRetryCount = sub.syncRetryCount + 1 := rfl
  split_ifs with hthreshold
  · refine wp_updateSyncStatus hu.here fun v hv ↦ ?_
    refine wp_mono (wp_reminds ((escalate_informs _ _ _).mono fun _ ↦ reminds_of_informs)) ?_
    rintro _ _ ⟨sent, rfl⟩
    have hfailed : sub.failedSync err = (sub.bumpRetry err.text).setSyncStatus .error err.text := by
      simp only [Subscription.failedSync, hretry, hthreshold, if_true]
    rw [hfailed]
    refine (hu.trans hv).trans ⟨rfl, hv.here, fun _ _ ↦ rfl, fun _ _ ↦ Iff.rfl⟩
  · have hfailed : sub.failedSync err = sub.bumpRetry err.text := by
      simp only [Subscription.failedSync, hretry, hthreshold, if_false]
    rw [hfailed]
    exact hu

/-- One round of the loop. -/
theorem Worked.of_attempt {sub : Subscription} {r : Except Error Unit} {u w' : World}
    {row : Subscription} (h : Attempted ok w sub r u) (hwr : Writes sub.id row u w')
    (hw : ∀ id, (w.routers id).WellFormed)
    (hrow : match r with
      | .ok () => row = sub.setSyncStatus .synced ""
      | .error err => row = sub.failedSync err) : Worked ok w [sub] w' := by
  have hput : Puts sub.login (u.record sub.login) w u := by
    cases h with
    | offline => exact .refl hw _
    | online _ hends => cases hends with
      | done _ h => exact h.here ▸ h
      | refused h _ => exact h.here ▸ h
  have hsubs : u.subscriptions = w.subscriptions := by rw [hput.rest]
  have hterms : SameTerms w w' := by
    refine hput.sameTerms.trans ?_
    rw [hwr.rest]
    exact ⟨rfl, rfl, rfl, rfl⟩
  have hrows : ∀ n, u.row n = w.row n := by
    intro n
    simp only [World.row, hsubs]
  refine ⟨hwr.routers ▸ hput.wellFormed, hterms, ?_, ?_, ?_, ?_⟩
  · intro s hs
    obtain rfl := List.mem_singleton.mp hs
    rw [hwr.here, hwr.record]
    cases h with
    | offline h =>
      rw [hrow]
      exact .offline h
    | online h hends => cases hends with
      | done hf hput' =>
        rw [hrow, hput'.here]
        exact .served h hf
      | refused hput' hr =>
        rw [hrow, hput'.here]
        exact .failed _ h hr
  · intro n hn
    exact (hwr.elsewhere n (hn sub (by simp)).symm).trans (hrows n)
  · intro l hl
    rw [hwr.record]
    exact hput.elsewhere l (hl sub (by simp)).symm
  · intro q hq
    rw [hwr.dead q hq, hsubs]

include hok

/-- The loop rule, by induction on the batch. -/
theorem outboxLoop_worked (subs : List Subscription) (hw : ∀ id, (w.routers id).WellFormed)
    (hsubs : ∀ sub ∈ subs, w.row sub.id = some sub ∧ sub.syncStatus.pending)
    (ha : Apart subs) :
    (outboxLoop subs).wp execCommands ok (fun _ w' ↦ Worked ok w subs w') w := by
  induction subs generalizing w with
  | nil => exact .nil hw
  | cons sub subs ih =>
    obtain ⟨hrow, hpending⟩ := hsubs sub (by simp)
    obtain ⟨hapart, hrest⟩ := List.pairwise_cons.mp ha
    have hnext : ∀ u, Worked ok w [sub] u →
        (outboxLoop subs).wp execCommands ok (fun _ w' ↦ Worked ok w (sub :: subs) w') u := by
      intro u hu
      refine wp_mono (ih hu.wellFormed (fun s hs ↦ ?_) hrest) fun _ w' h ↦ hu.cons h ha
      rw [hu.rows s.id fun t ht ↦ by rw [List.mem_singleton.mp ht]; exact (hapart s hs).1]
      exact hsubs s (List.mem_cons_of_mem _ hs)
    simp only [outboxLoop, perform_bind]
    intro e he
    show Program.wp execCommands ok _ _ w
    cases hstop : e.stopping with
    | true =>
      simp only [execCommands, Call.isCommand, Call.exec, hstop]
      exact .stopped hw ⟨e, he, hstop⟩ fun s hs ↦ (hsubs s hs).1
    | false =>
      simp only [execCommands, Call.isCommand, Call.exec, hstop]
      refine (wp_bind _ _ _).mpr (wp_mono (applySync_attempted hok hw hpending) fun r u h ↦ ?_)
      have hrow' : u.row sub.id = some sub := by
        cases h with
        | offline => exact hrow
        | online _ hends => cases hends with
          | done _ h | refused h _ =>
            rw [h.rest]
            exact hrow
      cases r with
      | error err =>
        refine (wp_bind _ _ _).mpr (wp_mono (syncFailed_writes hrow' err) fun _ v hv ↦ ?_)
        exact hnext v (.of_attempt h hv hw rfl)
      | ok =>
        refine wp_updateSyncStatus hrow' fun v hv ↦ ?_
        exact hnext v (.of_attempt h hv hw rfl)

/-- The rows `ListPendingSync` chooses its batch from. -/
def pendingRows (t : Table Subscription) : List Subscription :=
  t.rows.filter fun s ↦ s.live && s.syncStatus.pending

omit hok in
theorem mem_pendingRows {t : Table Subscription} {sub : Subscription} :
    sub ∈ pendingRows t ↔ sub ∈ t ∧ sub.live ∧ sub.syncStatus.pending := by
  simp [pendingRows, Table.mem_iff]

omit hok in
theorem pendingRows_apart {t : Table Subscription} (h : UniqueLogins t) : Apart (pendingRows t) := by
  have hids : (pendingRows t).Pairwise (·.id < ·.id) := t.sorted.sublist List.filter_sublist
  refine hids.imp_of_mem fun {a b} ha hb hlt ↦ ⟨Nat.ne_of_lt hlt, fun heq ↦ ?_⟩
  obtain ⟨hma, hla, -⟩ := mem_pendingRows.mp ha
  obtain ⟨hmb, hlb, -⟩ := mem_pendingRows.mp hb
  rw [h a hma b hmb hla hlb heq] at hlt
  exact Nat.lt_irrefl _ hlt

/-- The batch of a `Run` that reads the table in this order. -/
def batch (e : Env) (w : World) : List Subscription :=
  (e.subscriptionOrder.order (pendingRows w.subscriptions)).take outboxBatchSize

omit hok in
theorem mem_of_batch {e : Env} {sub : Subscription} (h : sub ∈ batch e w) :
    sub ∈ pendingRows w.subscriptions :=
  e.subscriptionOrder.mem_order.mp (List.mem_of_mem_take h)

theorem batch_worked (hw : w.Sane) (e : Env) : (outboxLoop (batch e w)).wp execCommands ok
    (fun _ w' ↦ Worked ok w (batch e w) w') w := by
  refine outboxLoop_worked hok (batch e w) hw.routers (fun sub hsub ↦ ?_) ?_
  · obtain ⟨hmem, hlive, hpending⟩ := mem_pendingRows.mp (mem_of_batch hsub)
    exact ⟨row_of_mem hmem hlive, hpending⟩
  · have hapart : Apart (e.subscriptionOrder.order (pendingRows w.subscriptions)) :=
      ((e.subscriptionOrder.perm _).pairwise_iff fun h ↦ ⟨h.1.symm, h.2.symm⟩).mpr
        (pendingRows_apart hw.logins)
    exact hapart.sublist (List.take_sublist _ _)

/-- `OutboxJob.Run`. -/
theorem outboxRun_worked (hw : w.Sane) : outboxRun.wp execCommands ok
    (fun _ w' ↦ ∃ e, ok e ∧ Worked ok w (batch e w) w') w := by
  simp only [outboxRun, perform_bind]
  refine wp_subscriptions fun e he ↦ ?_
  exact wp_mono (batch_worked hok hw e) fun _ w' h ↦ ⟨e, he, h⟩

end Rules

end Rosmon
