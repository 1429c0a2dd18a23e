import Rosmon.Billing.Schedule
import Rosmon.Concurrent.Batch
import Rosmon.Records.Requests

namespace Rosmon.Concurrent

open Library Store Program Service Job Handler Billing Records

/-- The columns that several writers write. -/
structure Columns where
  status : SubscriptionStatus
  syncStatus : SyncStatus
  syncRetryCount : ℤ
  nextInvoiceDate : Option Time
  deriving DecidableEq

namespace Columns

def setStatus (status : SubscriptionStatus) (now : Time) (c : Columns) : Columns :=
  { c with
    status
    nextInvoiceDate :=
      if status = .active then c.nextInvoiceDate <|> some now.truncateDay else c.nextInvoiceDate }

def setSyncStatus (syncStatus : SyncStatus) (c : Columns) : Columns :=
  { c with
    syncStatus
    syncRetryCount := if syncStatus = .synced then 0 else c.syncRetryCount }

def bumpRetry (c : Columns) : Columns := { c with syncRetryCount := c.syncRetryCount + 1 }

def setDate (next : Option Time) (c : Columns) : Columns := { c with nextInvoiceDate := next }

end Columns

def columnsOf (sub : Subscription) : Columns :=
  ⟨sub.status, sub.syncStatus, sub.syncRetryCount, sub.nextInvoiceDate⟩

def columns (id : ℕ) (w : World) : Option Columns := (w.subscriptions.get id).map columnsOf

/-- What a write that has come through, on this row or another one, makes of the columns. -/
def written {α : Type} (r : Except Error α) (here : Prop) [Decidable here]
    (g : Columns → Columns) (cols : Option Columns) : Option Columns :=
  match r with
  | .ok _ => if here then cols.map g else cols
  | .error _ => cols

/-- Who works on subscriptions. -/
inductive RowWriter
  | update (id : ℕ) (req : SubscriptionUpdateRequest)
  | completeInstall (id : ℕ) (req : RegistrationCompleteInstallRequest) (actor : Option ℕ)
  | settlement (p : Payment)
  | suspensionCheck
  | billingRun
  | outbox

namespace RowWriter

def prog : RowWriter → Prog Unit
  | .update id req => (fun _ ↦ ()) <$> updateSubscription id req
  | .completeInstall id req actor => (fun _ ↦ ()) <$> Handler.completeInstall id req actor
  | .settlement p => applySettlement p
  | .suspensionCheck => (fun _ ↦ ()) <$> Job.suspensionCheck
  | .billingRun => (fun _ ↦ ()) <$> Job.billingRun
  | .outbox => (fun _ ↦ ()) <$> outboxRun

/-- An installation saves its row to move the date of the next invoice, an update saves
it for other columns. -/
def movesDate : RowWriter → Bool
  | .completeInstall .. => true
  | _ => false

/-- What a call means to make of the columns of a row. -/
def means (writer : RowWriter) (id : ℕ) (c : Call) (e : Env) (r : c.Reply) (cols : Option Columns) :
    Option Columns :=
  match c, r with
  | .subscriptions (.create _), .ok sub => if sub.id = id then some (columnsOf sub) else cols
  | .subscriptions (.update sub), .ok _ =>
    if sub.id = id ∧ writer.movesDate then cols.map (Columns.setDate sub.nextInvoiceDate) else cols
  | .subscriptions (.updateStatus n status _ _), r =>
    written r (n = id) (Columns.setStatus status e.now) cols
  | .subscriptions (.updateSyncStatus n syncStatus _), r =>
    written r (n = id) (Columns.setSyncStatus syncStatus) cols
  | .subscriptions (.incrSyncRetry n _), r => written r (n = id) Columns.bumpRetry cols
  | .subscriptions (.updateNextInvoiceDate n next), r =>
    written r (n = id) (Columns.setDate (some next)) cols
  | _, _ => cols

end RowWriter

/-- The copy of a row that a writer works on. -/
structure Copy where
  movesDate : Bool
  row : Option Subscription

/-- The columns that the writer does not mean to change by saving the row. -/
def Copy.kept (m : Copy) (sub : Subscription) : Columns :=
  if m.movesDate then (columnsOf sub).setDate none else columnsOf sub

/-- A row is saved under its id and with the columns it was read with. -/
def copyObserver : Monitor Call Call.Reply Copy where
  allows m c := match c with
    | .subscriptions (.update sub) => ∃ old ∈ m.row, sub.id = old.id ∧ m.kept sub = m.kept old
    | _ => True
  next m c r := match c, r with
    | .subscriptions (.get _), .ok sub => { m with row := some sub }
    | .subscriptions (.create _), .ok sub => { m with row := some sub }
    | _, _ => m

/-- Nobody has written to the columns since the row was read. -/
def Copy.Fresh (w : World) (m : Copy) : Call → Prop
  | .subscriptions (.update sub) => ∀ old ∈ m.row, ∀ stored ∈ w.subscriptions.get sub.id,
    m.kept stored = m.kept old
  | _ => True

section Following

variable {α : Type} {m : Copy}

theorem targeted_follows {p : Prog α} (hp : p.Only Call.targeted) (m : Copy) :
    p.Follows copyObserver (fun _ _ ↦ True) m := by
  refine hp.follows (I := fun _ ↦ True) (fun m c _ hc ↦ ⟨?_, fun _ ↦ trivial⟩) trivial
  cases c with
  | subscriptions c =>
    cases c with
    | update => exact hc.elim
    | _ => trivial
  | _ => trivial

/-- Calls that have nothing to do with subscriptions. -/
def offRows : Call → Prop
  | .subscriptions _ => False
  | _ => True

theorem offRows_follows {p : Prog α} (hp : p.Only offRows) (m : Copy) :
    p.Follows copyObserver (fun m' _ ↦ m' = m) m := by
  refine hp.follows (fun m' c hm hc ↦ ?_) rfl
  cases c with
  | subscriptions => exact hc.elim
  | _ => exact ⟨trivial, fun _ ↦ hm⟩

theorem offRows_targeted {c : Call} (hc : offRows c) : c.targeted := by
  cases c with
  | subscriptions => exact hc.elim
  | _ => trivial

theorem serves_offRows {c : Call} (hc : serves c) : offRows c := by
  cases c <;> trivial

theorem informs_offRows {c : Call} (hc : informs c) : offRows c := by
  cases c <;> trivial

theorem issues_offRows {c : Call} (hc : issues c) : offRows c := by
  cases c <;> trivial

theorem syncFailed_targeted (sub : Subscription) (err : Error) :
    (syncFailed sub err).Only Call.targeted := by
  simp only [syncFailed, perform_bind, only_call]
  refine ⟨trivial, fun r ↦ ?_⟩
  split_ifs
  · refine ⟨trivial, fun _ ↦ (escalate_serves _ _ _).mono fun _ h ↦ ?_⟩
    exact offRows_targeted (serves_offRows h)
  · trivial

theorem outboxRun_targeted : outboxRun.Only Call.targeted := by
  refine ⟨trivial, fun r ↦ ?_⟩
  cases r with
  | error err => trivial
  | ok subs =>
    induction subs with
    | nil => trivial
    | cons sub subs ih =>
      refine ⟨trivial, fun done ↦ ?_⟩
      cases done with
      | true => trivial
      | false =>
        have hsync := (applySync_serves sub).mono fun _ h ↦ offRows_targeted (serves_offRows h)
        refine hsync.bind fun r ↦ ?_
        cases r with
        | ok _ => exact ⟨trivial, fun _ ↦ ih⟩
        | error err => exact (syncFailed_targeted sub err).bind fun _ ↦ ih

theorem bill_targeted (today : Time) (dueDays : ℤ) (sub : Subscription) :
    (bill today dueDays sub).Only Call.targeted := by
  unfold bill
  cases sub.nextInvoiceDate with
  | none => trivial
  | some due =>
    dsimp only
    split
    · trivial
    have hinvoice := (generateForSubscription_issues sub today dueDays).mono
      fun _ h ↦ offRows_targeted (issues_offRows h)
    refine hinvoice.bind fun r ↦ ?_
    cases r with
    | error err => trivial
    | ok inv =>
      have hrest (next : Time) : (do
          let _ ← perform (.subscriptions (.updateNextInvoiceDate sub.id next))
          notifyCustomer sub.customerID "invoice_issued" (issuedVars inv)).Only Call.targeted :=
        ⟨trivial, fun _ ↦ (notifyCustomer_informs _ _ _).mono fun _ h ↦ h.inert.targeted⟩
      dsimp only
      split
      · exact hrest _
      · have hsetting := (Job.settingInt_informs "billing.default_billing_day" 1).mono
          fun _ h ↦ h.inert.targeted
        exact hsetting.bind fun _ ↦ hrest _

theorem billingRun_targeted : billingRun.Only Call.targeted := by
  have hsetting := (Job.settingInt_informs "billing.invoice_due_days" 7).mono
    fun _ h ↦ h.inert.targeted
  refine ⟨trivial, fun now ↦ hsetting.bind fun dueDays ↦ ⟨trivial, fun r ↦ ?_⟩⟩
  cases r with
  | error err => trivial
  | ok subs =>
    induction subs with
    | nil => trivial
    | cons sub subs ih =>
      refine ⟨trivial, fun done ↦ ?_⟩
      cases done with
      | true => trivial
      | false => exact (bill_targeted _ dueDays sub).bind fun _ ↦ ih

theorem updateSubscription_follows (id : ℕ) (req : SubscriptionUpdateRequest) :
    (updateSubscription id req).Follows copyObserver (fun _ _ ↦ True) ⟨false, none⟩ := by
  unfold updateSubscription withSubscription
  split_ifs
  swap
  · trivial
  simp only [perform_bind, follows_call]
  refine ⟨trivial, fun r ↦ ?_⟩
  cases r with
  | error err => trivial
  | ok sub =>
    refine Follows.bind (offRows_follows (changedProfile_only ?_) _) fun m r hm ↦ ?_
    · exact fun _ ↦ ⟨trivial, fun _ ↦ trivial⟩
    subst hm
    cases r with
    | error answer => trivial
    | ok ppp =>
    refine Follows.bind (offRows_follows (changedProfile_only ?_) _) fun m r hm ↦ ?_
    · exact fun _ ↦ ⟨trivial, fun _ ↦ trivial⟩
    subst hm
    cases r with
    | error answer => trivial
    | ok hotspot =>
      refine ⟨⟨sub, rfl, rfl, rfl⟩, fun r ↦ ?_⟩
      cases r with
      | error err => trivial
      | ok _ =>
        have hset := (trySetOnRouter_serves (req.apply ppp hotspot sub)
          (newProfileName ppp hotspot)).mono fun _ ↦ serves_offRows
        exact (offRows_follows hset _).bind fun _ _ _ ↦ trivial

theorem firstInvoice_follows (sub : Subscription) (today : Time) :
    (firstInvoice sub today).Follows copyObserver (fun _ _ ↦ True) ⟨true, some sub⟩ := by
  have hsetting (key : String) (dflt : ℤ) : (Service.settingInt key dflt).Only offRows :=
    ((settingStr_informs key "").mono fun _ ↦ informs_offRows).bind fun _ ↦ trivial
  have hgenerate (dueDays : ℤ) : (generateForSubscription sub today dueDays).Only offRows :=
    (generateForSubscription_issues sub today dueDays).mono fun _ ↦ issues_offRows
  refine (offRows_follows (hsetting _ _) _).bind fun m dueDays hm ↦ ?_
  refine (offRows_follows (hgenerate dueDays) _).bind fun m' r hm' ↦ ?_
  subst hm hm'
  cases r with
  | error err => trivial
  | ok inv =>
    dsimp only
    split
    · exact ⟨⟨sub, rfl, rfl, rfl⟩, fun _ ↦ trivial⟩
    · refine (offRows_follows (hsetting _ _) _).bind fun m _ hm ↦ ?_
      subst hm
      exact ⟨⟨sub, rfl, rfl, rfl⟩, fun _ ↦ trivial⟩

theorem completeInstall_follows (id : ℕ) (req : RegistrationCompleteInstallRequest)
    (actor : Option ℕ) : (completeInstall id req actor).Follows copyObserver (fun _ _ ↦ True)
      ⟨true, none⟩ := by
  unfold completeInstall
  split_ifs
  · trivial
  · trivial
  swap
  · trivial
  refine ⟨trivial, fun r ↦ ?_⟩
  cases r with
  | error err => trivial
  | ok reg =>
    simp only [perform_bind, pure_eq]
    dsimp only [Program.bind]
    split
    swap
    · trivial
    refine ⟨trivial, fun clock ↦ ⟨trivial, fun now ↦ ⟨trivial, fun r ↦ ?_⟩⟩⟩
    cases r with
    | error err => trivial
    | ok sub =>
      refine (firstInvoice_follows sub _).bind fun m body _ ↦ ⟨trivial, fun _ ↦ ?_⟩
      refine Follows.bind (targeted_follows ?_ _) fun _ _ _ ↦ ?_
      · exact (audit_inert _ _ _ _).mono fun _ h ↦ h.targeted
      refine Follows.bind (targeted_follows ?_ _) fun _ _ _ ↦ trivial
      exact (welcome_greets _).mono fun _ h ↦ h.inert.targeted

theorem RowWriter.follows (writer : RowWriter) :
    writer.prog.Follows copyObserver (fun _ _ ↦ True) ⟨writer.movesDate, none⟩ := by
  cases writer with
  | update id req => exact (follows_map _ _ _).mpr (updateSubscription_follows id req)
  | completeInstall id req actor =>
    exact (follows_map _ _ _).mpr (completeInstall_follows id req actor)
  | settlement p => exact targeted_follows ((applySettlement_only p).mono fun _ h ↦ h.2) _
  | suspensionCheck =>
    exact (follows_map _ _ _).mpr (targeted_follows (suspensionCheck_only.mono fun _ h ↦ h.2) _)
  | billingRun => exact (follows_map _ _ _).mpr (targeted_follows billingRun_targeted _)
  | outbox => exact (follows_map _ _ _).mpr (targeted_follows outboxRun_targeted _)

end Following

section Steps

variable {id : ℕ} {writer : RowWriter} {w : World} {m : Copy} {e : Env}

/-- A targeted write changes the columns of the row it is for. -/
theorem columns_update {t : Table Subscription} {n : ℕ} {f : Subscription → Subscription}
    [KeepsKey f] {g : Columns → Columns} (hf : ∀ r, columnsOf (f r) = g (columnsOf r))
    (hfound : (t.find (Subscription.liveAt n)).isSome) :
    ((t.update (Subscription.liveAt n) f).get id).map columnsOf =
      if n = id then ((t.get id).map columnsOf).map g else (t.get id).map columnsOf := by
  rw [Table.get_update]
  cases hr : t.get id with
  | none => simp
  | some r =>
    obtain ⟨hmem, hid⟩ := subscription_get_iff.mp hr
    by_cases hn : n = id
    · obtain ⟨row, hrow⟩ := Option.isSome_iff_exists.mp hfound
      have hsat := Table.find_sat hrow
      have hkey : row.id = n := by
        simp only [Subscription.liveAt, Bool.and_eq_true, beq_iff_eq] at hsat
        exact hsat.2
      obtain rfl : row = r := Table.eq_of_key (Table.mem_of_find hrow) hmem
        ((hkey.trans hn).trans hid.symm)
      simp [hn, hn ▸ hsat, hf]
    · have hnot : Subscription.liveAt n r = false := by
        simp only [Subscription.liveAt, Bool.and_eq_false_iff, beq_eq_false_iff_ne]
        exact .inr fun h ↦ hn (h.symm.trans hid)
      simp [hn, hnot]

theorem written_update {n : ℕ} {f : Subscription → Subscription} [KeepsKey f]
    {g : Columns → Columns} (hf : ∀ r, columnsOf (f r) = g (columnsOf r)) :
    columns id (orFault e w ((updated .subscriptionNotFound w.subscriptions
      (Subscription.liveAt n) f).1, { w with subscriptions := (updated .subscriptionNotFound
        w.subscriptions (Subscription.liveAt n) f).2 })).2 =
    written (orFault e w ((updated .subscriptionNotFound w.subscriptions
      (Subscription.liveAt n) f).1, { w with subscriptions := (updated .subscriptionNotFound
        w.subscriptions (Subscription.liveAt n) f).2 })).1 (n = id) g (columns id w) := by
  obtain ⟨err, h⟩ | ⟨hfound, h⟩ := update_cases e w .subscriptionNotFound w.subscriptions
    (Subscription.liveAt n) f (fun t ↦ { w with subscriptions := t }) rfl
  · rw [h]
    rfl
  · rw [h]
    exact columns_update hf hfound

theorem next_movesDate (m : Copy) (c : Call) (r : c.Reply) :
    (copyObserver.next m c r).movesDate = m.movesDate := by
  simp only [copyObserver]
  split <;> rfl

theorem columnsOf_kept {sub stored : Subscription} (h : m.kept sub = m.kept stored) :
    columnsOf sub = if m.movesDate then (columnsOf stored).setDate sub.nextInvoiceDate
      else columnsOf stored := by
  unfold Copy.kept at h
  split_ifs at h ⊢ with hmoves
  · have hdate := congrArg (Columns.setDate sub.nextInvoiceDate) h
    exact hdate
  · exact h

theorem columns_incr (n : ℕ) (notes : String) :
    columns id ((Call.subscriptions (.incrSyncRetry n notes)).exec e w).2 =
      written ((Call.subscriptions (.incrSyncRetry n notes)).exec e w).1 (n = id)
        Columns.bumpRetry (columns id w) := by
  cases hfound : w.subscriptions.find (Subscription.liveAt n) with
  | none =>
    have hsame : w.subscriptions.update (Subscription.liveAt n)
        (Subscription.bumpRetry notes) = w.subscriptions :=
      Table.update_of_none (Table.find_eq_none.mp hfound)
    have hrefused : (SubscriptionCall.incrSyncRetry n notes).exec e.now e.subscriptionOrder
        w.subscriptions = (.error (.of .subscriptionNotFound), w.subscriptions) := by
      simp only [SubscriptionCall.exec, hsame, hfound, found_none, Except.map]
    obtain h | ⟨err, h⟩ := orFault_cases (α := ℤ) e w (.error (.of .subscriptionNotFound), w)
    · simp only [Call.exec, hrefused, h, written]
    · simp only [Call.exec, hrefused, h, written]
  | some row =>
    generalize ht : w.subscriptions.update (Subscription.liveAt n)
      (Subscription.bumpRetry notes) = t
    have hfind : t.find (Subscription.liveAt n) = some (row.bumpRetry notes) := by
      rw [← ht, Table.find_update _ (f := Subscription.bumpRetry notes) fun _ ↦ rfl, hfound]
      exact congrArg some (if_pos (Table.find_sat hfound))
    have hmade : (SubscriptionCall.incrSyncRetry n notes).exec e.now e.subscriptionOrder
        w.subscriptions = (.ok (row.syncRetryCount + 1), t) := by
      simp only [SubscriptionCall.exec, ht, hfind, found_some, Except.map, Subscription.bumpRetry]
    obtain h | ⟨err, h⟩ := orFault_cases (α := ℤ) e w
      (.ok (row.syncRetryCount + 1), { w with subscriptions := t })
    · simp only [Call.exec, hmade, h, written]
      subst ht
      exact columns_update (fun _ ↦ rfl) (Option.isSome_iff_exists.mpr ⟨row, hfound⟩)
    · simp only [Call.exec, hmade, h, written]

theorem columns_keep {t : Table Subscription} {q : Subscription → Bool}
    {f : Subscription → Subscription} [KeepsKey f] (hf : ∀ r, columnsOf (f r) = columnsOf r) :
    ((t.update q f).get id).map columnsOf = (t.get id).map columnsOf := by
  rw [Table.get_update, Option.map_map]
  refine congrArg (fun g ↦ (t.get id).map g) (funext fun r ↦ ?_)
  rw [Function.comp_apply]
  split_ifs
  · exact hf r
  · rfl

/-- Each call does to the columns of a row what it means to. -/
theorem columns_step {c : Call} (hm : m.movesDate = writer.movesDate)
    (ha : copyObserver.allows m c) (hg : m.Fresh w c) :
    columns id (c.exec e w).2 = writer.means id c e (c.exec e w).1 (columns id w) := by
  cases c with
  | subscriptions c =>
    cases c with
    | list | listByStatus | get | listPendingSync =>
      exact orFault_keeps (P := fun v ↦ columns id v = columns id w) rfl rfl
    | delete =>
      exact orFault_keeps (P := fun v ↦ columns id v = columns id w) rfl
        (columns_keep fun _ ↦ rfl)
    | create sub =>
      generalize hmade : (SubscriptionCall.create sub).exec e.now e.subscriptionOrder
        w.subscriptions = made
      obtain ⟨r, t⟩ := made
      obtain h | ⟨err, h⟩ := orFault_cases e w (r, { w with subscriptions := t })
      · cases r with
        | error err =>
          obtain rfl := create_error hmade
          simp only [Call.exec, hmade, h, RowWriter.means]
        | ok sub' =>
          simp only [Call.exec, hmade, h, RowWriter.means, columns, get_create hmade, eq_comm]
          split_ifs <;> rfl
      · simp only [Call.exec, hmade, h, RowWriter.means]
    | update sub =>
      generalize hmade : saveSubscription (.of .subscriptionUsernameTaken) sub w.subscriptions =
        made
      obtain ⟨r, t⟩ := made
      obtain h | ⟨err, h⟩ := orFault_cases e w (r, { w with subscriptions := t })
      · cases r with
        | error err =>
          obtain rfl := save_error hmade
          simp only [Call.exec, SubscriptionCall.exec, hmade, h, RowWriter.means]
        | ok _ =>
          simp only [Call.exec, SubscriptionCall.exec, hmade, h, RowWriter.means, columns,
            get_save hmade, eq_comm]
          by_cases hid : id = sub.id
          · subst hid
            cases hstored : w.subscriptions.get sub.id with
            | none => simp
            | some stored =>
              obtain ⟨old, hold, -, hkept⟩ := ha
              have hsaved := columnsOf_kept (hkept.trans (hg old hold stored hstored).symm)
              rw [hm] at hsaved
              cases hmoves : writer.movesDate with
              | true => simp [hsaved, hmoves]
              | false => simp [hsaved, hmoves]
          · simp [hid]
      · simp only [Call.exec, SubscriptionCall.exec, hmade, h, RowWriter.means]
    | updateStatus n status activatedAt terminatedAt => exact written_update fun _ ↦ rfl
    | updateSyncStatus n syncStatus syncNotes => exact written_update fun _ ↦ rfl
    | updateNextInvoiceDate n next => exact written_update fun _ ↦ rfl
    | incrSyncRetry n notes => exact columns_incr n notes
  | now | newPaymentCode | notify | xendit | device | contextDone | rangeKeys => rfl
  | _ => exact orFault_keeps (P := fun v ↦ columns id v = columns id w) rfl rfl

end Steps

section Interleaved

variable {ι : Type} [DecidableEq ι] (w : World) (id : ℕ) (writers : ι → RowWriter)

/-- Any number of writers, before their first call. -/
def writersOn : Pool ι Call Call.Reply Unit World Copy where
  state := w
  threads i := (writers i).prog
  marks i := ⟨(writers i).movesDate, none⟩

def rowsAfter (schedule : List (ι × Env)) : World :=
  ((writersOn w writers).run Call.exec copyObserver schedule).state

/-- What the writers mean to make of the columns of a row, write after write. -/
def meantColumns (schedule : List (ι × Env)) : Option Columns :=
  (writersOn w writers).meansAll Call.exec copyObserver (fun i ↦ (writers i).means id) schedule
    (columns id w)

/-- No row is saved after somebody else has written to columns that are to be kept. -/
def SavesFresh {ι : Type} (w : World) (m : ι → Copy) (i : ι) (c : Call) : Prop := (m i).Fresh w c

end Interleaved

/-- As long as no stale copy is saved, the columns of a row hold what was last written to
them on purpose. -/
theorem columns_hold {ι : Type} [DecidableEq ι] (w : World) (id : ℕ) (writers : ι → RowWriter)
    (schedule : List (ι × Env))
    (hg : (writersOn w writers).Guarded Call.exec copyObserver SavesFresh schedule) :
    columns id (rowsAfter w writers schedule) = meantColumns w id writers schedule := by
  have hstart : (writersOn w writers).Sound copyObserver (fun _ _ _ ↦ True)
      fun _ m ↦ ∀ i, (m i).movesDate = (writers i).movesDate :=
    ⟨fun _ ↦ rfl, fun i ↦ (writers i).follows⟩
  refine hstart.view (fun _ ↦ True) (columns id) (fun i ↦ (writers i).means id) ?_ ?_ hg
    fun _ _ ↦ trivial
  · intro u m i c e hm _ _ _ j
    by_cases hj : j = i
    · subst hj
      rw [Function.update_self, next_movesDate]
      exact hm j
    · rw [Function.update_of_ne hj]
      exact hm j
  · intro u m i c e hm ha hfresh _
    exact columns_step (hm i) ha hfresh

instance {ι : Type} (w : World) (m : ι → Copy) (i : ι) (c : Call) :
    Decidable (SavesFresh w m i c) := by
  unfold SavesFresh Copy.Fresh
  split <;> infer_instance

/-- A note is added while the customer is isolated for an invoice that is overdue. -/
def noteAgainstIsolation : Bool → RowWriter
  | true => .suspensionCheck
  | false => .update 1
    { pppProfileID := none, hotspotProfileID := none, mikrotikPassword := none
      billingDay := none, notes := some "ganti kabel" }

/-- A registration is installed while the outbox runs. -/
def installAgainstOutbox : Bool → RowWriter
  | true => .outbox
  | false => .completeInstall 1 (Billing.siti 5) none

def elevenDays (order : List Bool) : List (Bool × Env) := order.map fun i ↦ (i, .calm (11 * day))

/-- The note is added after the isolation. -/
theorem note_after_isolation :
    columns 1 (rowsAfter (World.oneInvoice 150000 .active) noteAgainstIsolation
      (elevenDays (List.replicate 20 true ++ [false, false]))) =
    meantColumns (World.oneInvoice 150000 .active) 1 noteAgainstIsolation
      (elevenDays (List.replicate 20 true ++ [false, false])) :=
  columns_hold _ _ _ _ (by decide +kernel)

/-- The note takes back the isolation, and the installation takes back what the outbox has
reported. -/
theorem isolation_taken_back :
    columns 1 (rowsAfter (World.oneInvoice 150000 .active) noteAgainstIsolation
        (elevenDays (false :: List.replicate 20 true ++ [false]))) ≠
      meantColumns (World.oneInvoice 150000 .active) 1 noteAgainstIsolation
        (elevenDays (false :: List.replicate 20 true ++ [false])) ∧
    columns 2 (rowsAfter Billing.registered installAgainstOutbox
        (elevenDays (List.replicate 4 false ++ List.replicate 20 true ++ List.replicate 10 false))) ≠
      meantColumns Billing.registered 2 installAgainstOutbox
        (elevenDays (List.replicate 4 false ++ List.replicate 20 true ++
          List.replicate 10 false)) :=
  ⟨by decide +kernel, by decide +kernel⟩

end Rosmon.Concurrent
