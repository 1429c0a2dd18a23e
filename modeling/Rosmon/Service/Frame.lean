import Rosmon.Rules
import Rosmon.Service.Billing
import Rosmon.Service.Payment

namespace Rosmon.Service

open Library Store Program

/-- The calls a notification is made of. -/
def informs : Call → Prop
  | .customers _ | .settings _ | .notify _ => True
  | _ => False

theorem informs.inert {c : Call} (hc : informs c) : c.inert := by
  cases c <;> trivial

def readsSetting : Call → Prop
  | .settings _ => True
  | _ => False

theorem readsSetting.informs {c : Call} (hc : readsSetting c) : informs c := by
  cases c <;> trivial

theorem settingStr_reads (key dflt : String) : (settingStr key dflt).Only readsSetting := by
  simp only [settingStr, perform_bind, only_call]
  refine ⟨trivial, fun r ↦ ?_⟩
  cases r <;> trivial

theorem settingStr_informs (key dflt : String) : (settingStr key dflt).Only informs :=
  (settingStr_reads key dflt).mono fun _ ↦ readsSetting.informs

theorem settingStr_inert (key dflt : String) : (settingStr key dflt).Only Call.inert :=
  (settingStr_informs key dflt).mono fun _ ↦ informs.inert

theorem settingInt_reads (key : String) (dflt : ℤ) : (settingInt key dflt).Only readsSetting :=
  (settingStr_reads key "").bind fun _ ↦ trivial

theorem settingInt_inert (key : String) (dflt : ℤ) :
    (settingInt key dflt).Only Call.inert :=
  (settingInt_reads key dflt).mono fun _ hc ↦ hc.informs.inert

theorem buildGateway_reads : buildGateway.Only readsSetting := by
  refine (settingStr_reads _ _).bind fun enabled ↦ ?_
  split
  · trivial
  refine (settingStr_reads _ _).bind fun secretKey ↦ ?_
  split
  · trivial
  exact (settingStr_reads _ _).bind fun _ ↦ (settingInt_reads _ _).bind fun _ ↦ trivial

theorem buildGateway_inert : buildGateway.Only Call.inert :=
  buildGateway_reads.mono fun _ hc ↦ hc.informs.inert

theorem audit_inert (userID : Option ℕ) (action entityType : String) (entityID : ℕ) :
    (audit userID action entityType entityID).Only Call.inert :=
  ⟨trivial, fun _ ↦ trivial⟩

theorem notifyPaid_informs (inv : Invoice) (restored : Bool) :
    (notifyPaid inv restored).Only informs := by
  simp only [notifyPaid, perform_bind, only_call]
  refine ⟨trivial, fun r ↦ ?_⟩
  cases r with
  | error err => trivial
  | ok cust =>
    dsimp only
    split
    · trivial
    refine ⟨trivial, fun _ ↦ ?_⟩
    split
    · exact (settingStr_informs _ _).bind fun _ ↦ ⟨trivial, fun _ ↦ trivial⟩
    · trivial

theorem notifyPaid_inert (inv : Invoice) (restored : Bool) :
    (notifyPaid inv restored).Only Call.inert :=
  (notifyPaid_informs inv restored).mono fun _ ↦ informs.inert

theorem notifyRejected_inert (p : Payment) : (notifyRejected p).Only Call.inert := by
  simp only [notifyRejected, perform_bind, only_call]
  refine ⟨trivial, fun r ↦ ?_⟩
  cases r with
  | error err => trivial
  | ok cust =>
    dsimp only
    split
    · trivial
    refine ⟨rfl, fun r ↦ ?_⟩
    cases r with
    | error err => trivial
    | ok inv => exact ⟨trivial, fun _ ↦ trivial⟩

theorem restoreSubscription_only (subscriptionID : ℕ) :
    (restoreSubscription subscriptionID).Only
      fun c ↦ c.offLedger ∧ c.keepsRequests ∧ c.targeted := by
  simp only [restoreSubscription, perform_bind, only_call]
  refine ⟨⟨trivial, trivial, trivial⟩, fun r ↦ ?_⟩
  cases r with
  | error err => trivial
  | ok sub =>
    dsimp only
    split
    · exact ⟨⟨trivial, trivial, trivial⟩, fun _ ↦ ⟨⟨trivial, rfl, trivial⟩, fun _ ↦ trivial⟩⟩
    · exact ⟨⟨trivial, trivial, trivial⟩, fun _ ↦ ⟨⟨trivial, rfl, trivial⟩, fun _ ↦ trivial⟩⟩
    · trivial

theorem restoreService_only (invoiceID : ℕ) :
    (restoreService invoiceID).Only
      fun c ↦ c.offLedger ∧ c.keepsRequests ∧ c.targeted := by
  refine ⟨⟨rfl, trivial, trivial⟩, ?_⟩
  rintro (err | inv)
  · trivial
  · exact (restoreSubscription_only _).bind fun b ↦
      (notifyPaid_inert inv b).mono fun _ h ↦ ⟨h.offLedger, h.keepsRequests, h.targeted⟩

theorem restoreService_offLedger (invoiceID : ℕ) :
    (restoreService invoiceID).Only Call.offLedger :=
  (restoreService_only invoiceID).mono fun _ h ↦ h.1

theorem applySettlement_only (p : Payment) :
    (applySettlement p).Only fun c ↦ c.keepsRequests ∧ c.targeted :=
  ⟨⟨trivial, trivial⟩, fun _ ↦ ⟨⟨trivial, trivial⟩,
    fun _ ↦ (restoreService_only _).mono fun _ h ↦ h.2⟩⟩

/-- What it takes to make an invoice. -/
def issues : Call → Prop
  | .pppProfiles _ | .hotspotProfiles _ | .now | .nextVal _ | .newPaymentCode
  | .invoices (.create _) => True
  | _ => False

theorem resolveProfileInfo_issues (sub : Subscription) :
    (resolveProfileInfo sub).Only issues := by
  unfold resolveProfileInfo
  cases sub.serviceType with
  | pppoe => cases sub.pppProfileID <;> simp [issues]
  | hotspot => cases sub.hotspotProfileID <;> simp [issues]

theorem generateForSubscription_issues (sub : Subscription) (periodStart : Time) (dueDays : ℤ) :
    (generateForSubscription sub periodStart dueDays).Only issues := by
  refine (resolveProfileInfo_issues sub).bind fun r ↦ ?_
  cases r with
  | error err => trivial
  | ok info =>
    refine ⟨trivial, fun now ↦ ⟨trivial, fun seq ↦ ?_⟩⟩
    cases seq with
    | error err => trivial
    | ok seq => exact ⟨trivial, fun code ↦ ⟨trivial, fun _ ↦ trivial⟩⟩

theorem createInvoice_offLedger (gw : XenditAdapter) (req : CreateInvoiceRequest) :
    (gw.createInvoice req).Only Call.offLedger := by
  unfold XenditAdapter.createInvoice
  split
  · trivial
  · exact ⟨trivial, fun _ ↦ trivial⟩

end Rosmon.Service
