import Rosmon.Job.Outbox
import Rosmon.Job.Reconciler
import Rosmon.Job.Suspension
import Rosmon.Service.Frame

namespace Rosmon.Job

open Library Store Program Service

theorem settingInt_informs (key : String) (dflt : ℤ) : (settingInt key dflt).Only informs := by
  simp only [settingInt, perform_bind, only_call]
  refine ⟨trivial, fun r ↦ ?_⟩
  cases r <;> trivial

theorem notifyCustomer_informs (customerID : ℕ) (slug : String) (extra : List (String × String)) :
    (notifyCustomer customerID slug extra).Only informs := by
  simp only [notifyCustomer, settingStr, perform_bind, only_call]
  refine ⟨trivial, ?_⟩
  rintro (err | cust)
  · trivial
  dsimp only
  split
  · trivial
  refine ⟨trivial, ?_⟩
  rintro (err | v)
  · exact ⟨trivial, fun _ ↦ trivial⟩
  · dsimp only
    split <;> exact ⟨trivial, fun _ ↦ trivial⟩

/-- What the job does before it lists the overdue invoices. -/
def reminds : Call → Prop
  | .now | .contextDone | .invoices (.listDueForBilling _) => True
  | c => informs c

theorem reminds_of_informs {c : Call} (hc : informs c) : reminds c := by
  cases c <;> trivial

theorem sendReminders_reminds (now : Time) : (sendReminders now).Only reminds := by
  simp only [sendReminders, perform_bind, only_call]
  refine ⟨trivial, ?_⟩
  rintro (err | invs)
  · trivial
  · induction invs with
    | nil => trivial
    | cons inv invs ih =>
      simp only [remind, perform_bind, only_call]
      refine ⟨trivial, fun done ↦ ?_⟩
      split
      · trivial
      · exact ((notifyCustomer_informs _ _ _).mono fun _ ↦ reminds_of_informs).bind fun _ ↦ ih

theorem downgrade_only (eligible : List SubscriptionStatus) (status : SubscriptionStatus)
    {syncStatus : SyncStatus} (hsync : syncStatus.pending = true) (syncNotes slug : String)
    (subID : ℕ) : (downgrade eligible status syncStatus syncNotes slug subID).Only
      fun c ↦ c.offLedger ∧ c.keepsRequests ∧ c.targeted := by
  have hinert {c : Call} (h : c.inert) : c.offLedger ∧ c.keepsRequests ∧ c.targeted :=
    ⟨h.offLedger, h.keepsRequests, h.targeted⟩
  simp only [downgrade, perform_bind, only_call]
  refine ⟨⟨trivial, trivial, trivial⟩, fun r ↦ ?_⟩
  cases r with
  | error err => trivial
  | ok sub =>
    dsimp only
    split
    · trivial
    refine ⟨⟨trivial, trivial, trivial⟩, fun r ↦ ?_⟩
    cases r with
    | error err => trivial
    | ok _ =>
      refine ⟨⟨trivial, hsync, trivial⟩, fun _ ↦ ?_⟩
      exact ((audit_inert _ _ _ _).mono fun _ ↦ hinert).bind fun _ ↦
        (notifyCustomer_informs _ _ _).mono fun _ h ↦ hinert h.inert

theorem isolir_only (suspend : List ℕ) (subID : ℕ) :
    (isolir suspend subID).Only fun c ↦ c.offLedger ∧ c.keepsRequests ∧ c.targeted := by
  unfold isolir
  split
  · trivial
  · exact downgrade_only _ _ rfl _ _ _

theorem hardSuspend_only (subID : ℕ) :
    (hardSuspend subID).Only fun c ↦ c.offLedger ∧ c.keepsRequests ∧ c.targeted :=
  downgrade_only _ _ rfl _ _ _

theorem informs.asks {c : Call} (h : informs c) : c.keepsRequests ∧ c.targeted :=
  ⟨h.inert.keepsRequests, h.inert.targeted⟩

theorem markOverdue_only (inv : Invoice) :
    (markOverdue inv).Only fun c ↦ c.keepsRequests ∧ c.targeted := by
  unfold markOverdue
  split
  · trivial
  refine ⟨⟨trivial, trivial⟩, fun r ↦ ?_⟩
  cases r with
  | error err => trivial
  | ok _ => exact (notifyCustomer_informs _ _ _).mono fun _ ↦ informs.asks

theorem reminds.asks {c : Call} (hc : reminds c) : c.keepsRequests ∧ c.targeted := by
  cases c with
  | subscriptions => cases hc
  | _ => exact ⟨trivial, trivial⟩

theorem suspensionCheck_only :
    suspensionCheck.Only fun c ↦ c.keepsRequests ∧ c.targeted := by
  have hsetting (key : String) (dflt : ℤ) :
      (settingInt key dflt).Only fun c ↦ c.keepsRequests ∧ c.targeted :=
    (settingInt_informs key dflt).mono fun _ ↦ informs.asks
  refine ⟨⟨trivial, trivial⟩, fun now ↦ ?_⟩
  refine (hsetting _ _).bind fun _ ↦ (hsetting _ _).bind fun _ ↦ ?_
  refine ((sendReminders_reminds now).mono fun _ ↦ reminds.asks).bind fun _ ↦ ?_
  refine ⟨⟨trivial, trivial⟩, fun r ↦ ?_⟩
  cases r with
  | error err => trivial
  | ok invs =>
    refine (Only.forM fun inv _ ↦ markOverdue_only inv).bind fun _ ↦ ?_
    refine ⟨⟨trivial, trivial⟩, fun _ ↦ ?_⟩
    refine (Only.forM fun id _ ↦ (isolir_only _ id).mono fun _ h ↦ h.2).bind fun _ ↦ ?_
    refine ⟨⟨trivial, trivial⟩, fun _ ↦ ?_⟩
    exact (Only.forM fun id _ ↦ (hardSuspend_only id).mono fun _ h ↦ h.2).bind fun _ ↦ trivial

theorem checkDrift_keepsRequests (sub : Subscription) : (checkDrift sub).Only Call.keepsRequests := by
  refine ⟨trivial, ?_⟩
  rintro (err | ⟨⟩)
  · trivial
  refine ⟨trivial, ?_⟩
  rintro (err | row) <;> trivial

theorem reconcile_keepsRequests (sub : Subscription) :
    (reconcile sub).Only Call.keepsRequests := by
  unfold reconcile
  split
  · trivial
  split
  · trivial
  refine (checkDrift_keepsRequests sub).bind fun drift ↦ ?_
  split
  · trivial
  exact ⟨rfl, fun _ ↦ (audit_inert _ _ _ _).mono fun _ h ↦ h.keepsRequests⟩

theorem reconcilerRun_keepsRequests : reconcilerRun.Only Call.keepsRequests := by
  refine ⟨trivial, ?_⟩
  rintro (err | subs)
  · trivial
  induction subs with
  | nil => trivial
  | cons sub subs ih =>
    refine ⟨trivial, fun done ↦ ?_⟩
    cases done with
    | true => trivial
    | false => exact (reconcile_keepsRequests sub).bind fun _ ↦ ih

/-- What `Run` needs to carry out one request, or to report that it cannot. -/
def serves : Call → Prop
  | .device _ | .router .. | .pppProfiles _ | .hotspotProfiles _ | .settings _ | .notify _ => True
  | _ => False

theorem normalProfile_serves (sub : Subscription) : (normalProfile sub).Only serves := by
  unfold normalProfile
  split
  · exact ⟨trivial, fun _ ↦ trivial⟩
  · exact ⟨trivial, fun _ ↦ trivial⟩
  · trivial

theorem withRecord_serves (sub : Subscription) {change : Mikrotik.Record → Prog (Except Error Unit)}
    (hchange : ∀ row, (change row).Only serves) : (withRecord sub change).Only serves := by
  refine ⟨trivial, ?_⟩
  rintro (err | row)
  · trivial
  · exact hchange row

theorem isolirProfile_serves : isolirProfile.Only serves := by
  refine ⟨trivial, ?_⟩
  rintro (err | v) <;> trivial

theorem doProfileChange_serves (sub : Subscription) : (doProfileChange sub).Only serves := by
  have hset (target : String) : (withRecord sub fun row ↦
      onRouter sub (.setProfile row.id target)).Only serves :=
    withRecord_serves sub fun _ ↦ ⟨trivial, fun _ ↦ trivial⟩
  unfold doProfileChange
  split
  · exact isolirProfile_serves.bind hset
  · exact (normalProfile_serves sub).bind hset

theorem doDisable_serves (sub : Subscription) (disabled : Bool) :
    (doDisable sub disabled).Only serves :=
  withRecord_serves sub fun _ ↦ ⟨trivial, fun _ ↦ trivial⟩

theorem doCreate_serves (sub : Subscription) : (doCreate sub).Only serves := by
  refine (normalProfile_serves sub).bind fun profile ↦ ⟨trivial, ?_⟩
  rintro (err | id) <;> trivial

theorem doEnable_serves (sub : Subscription) : (doEnable sub).Only serves := by
  refine (doProfileChange_serves sub).bind ?_
  rintro (err | ⟨⟩)
  · trivial
  · exact doDisable_serves sub false

theorem applySync_serves (sub : Subscription) : (applySync sub).Only serves := by
  refine ⟨trivial, ?_⟩
  rintro (err | ⟨⟩)
  · trivial
  show (doSync sub).Only serves
  unfold doSync
  split
  · exact doCreate_serves sub
  · exact doProfileChange_serves sub
  · exact doDisable_serves sub true
  · exact doEnable_serves sub
  · exact withRecord_serves sub fun _ ↦ ⟨trivial, fun _ ↦ trivial⟩
  · trivial
  · trivial

theorem escalate_serves (sub : Subscription) (syncErr : Error) (retryCount : ℤ) :
    (escalate sub syncErr retryCount).Only serves := by
  simp only [escalate, perform_bind, only_call]
  refine ⟨trivial, ?_⟩
  rintro (err | phone)
  · trivial
  dsimp only
  split
  · trivial
  · exact ⟨trivial, fun _ ↦ trivial⟩

end Rosmon.Job
