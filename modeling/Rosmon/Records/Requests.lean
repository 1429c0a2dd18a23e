import Rosmon.Billing.Installation
import Rosmon.Frame
import Rosmon.Handler.Invoices
import Rosmon.Records.Contracts

namespace Rosmon.Records

open Go Library Store Program Service Job Handler Billing

variable {α : Type} {ok : Env → Prop} {Q : α → World → Prop} {w : World} {sub : Subscription}

section Clerical

theorem inert_clerical {c : Call} (hc : c.inert) : clerical c := by
  cases c with
  | invoices c | subscriptions c => cases c <;> trivial
  | _ => trivial

theorem serves_clerical {c : Call} (hc : serves c) : clerical c := by
  cases c with
  | invoices | subscriptions => cases hc
  | _ => trivial

variable {P : Call → Prop}

theorem whileOnline_only {offline : String} {p : Prog String} (hdevice : P (.device sub.deviceID))
    (hp : p.Only P) : (whileOnline sub offline p).Only P := by
  refine ⟨hdevice, fun r ↦ ?_⟩
  cases r with
  | error err => trivial
  | ok _ => exact hp

theorem lookup_only {absent : Prog String} {present : Mikrotik.Record → Prog String}
    (hbyName : P (.router sub.deviceID sub.serviceType (.byName sub.mikrotikUsername)))
    (habsent : absent.Only P) (hpresent : ∀ row, (present row).Only P) :
    (lookup sub absent present).Only P := by
  refine ⟨hbyName, fun r ↦ ?_⟩
  cases r with
  | error err =>
    change (if _ then _ else _ : Prog String).Only P
    split_ifs
    · exact habsent
    · trivial
  | ok row => exact hpresent row

theorem resolveProfileForSub_serves (sub : Subscription) (status : SubscriptionStatus) :
    (resolveProfileForSub sub status).Only serves :=
  (normalProfile_serves sub).bind fun _ ↦ isolirProfile_serves.bind fun _ ↦ trivial

theorem tryProvisionOnRouter_serves (sub : Subscription) (profileName : String) (disabled : Bool) :
    (tryProvisionOnRouter sub profileName disabled).Only serves :=
  whileOnline_only trivial ⟨trivial, fun _ ↦ trivial⟩

theorem trySetOnRouter_serves (sub : Subscription) (newProfileName : String) :
    (trySetOnRouter sub newProfileName).Only serves := by
  refine whileOnline_only trivial (lookup_only trivial ?_ fun row ↦ ⟨trivial, fun _ ↦ trivial⟩)
  exact (resolveProfileForSub_serves _ _).bind fun _ ↦ tryProvisionOnRouter_serves _ _ _

theorem tryRemoveOnRouter_serves (sub : Subscription) : (tryRemoveOnRouter sub).Only serves :=
  whileOnline_only trivial (lookup_only trivial trivial fun _ ↦ ⟨trivial, fun _ ↦ trivial⟩)

end Clerical

theorem changedProfile_only {P : Call → Prop} {current requested : Option ℕ} {deviceID : ℕ}
    {kind : String} {missing : Sentinel} {get : ℕ → Prog (Except Error Profile)}
    (hget : ∀ id, (get id).Only P) :
    (changedProfile current requested deviceID kind missing get).Only P := by
  unfold changedProfile
  cases requested with
  | none => trivial
  | some id =>
    dsimp only
    split_ifs
    · trivial
    · refine (hget id).bind fun r ↦ ?_
      cases r with
      | error err => trivial
      | ok p =>
        dsimp only
        split_ifs <;> trivial

section Generating

theorem resolveProfileInfo_clerical (sub : Subscription) :
    (resolveProfileInfo sub).Only clerical := by
  unfold resolveProfileInfo
  cases sub.serviceType with
  | pppoe => cases sub.pppProfileID <;> simp [clerical]
  | hotspot => cases sub.hotspotProfileID <;> simp [clerical]

/-- The invoice is for the subscription and its customer. -/
theorem Bills.generate {P : ℕ → ℕ → Prop} {v : World} (h : Bills P v w)
    (hP : P sub.id sub.customerID) (periodStart : Time) (dueDays : ℤ) (override : Option ℤ)
    {f : Except Error Invoice → Prog α}
    (hf : ∀ r u, Bills P v u → (f r).wp Call.exec ok Q u) :
    (generateForSubscriptionWithAmount sub periodStart dueDays override >>= f).wp
      Call.exec ok Q w := by
  unfold generateForSubscriptionWithAmount
  rw [wp_bind]
  refine h.bind (resolveProfileInfo_clerical sub) fun r u hu ↦ ?_
  cases r with
  | error err => exact hf _ _ hu
  | ok info =>
    refine hu.call (by exact trivial) fun now u hu ↦ hu.call (by exact trivial) fun seq u hu ↦ ?_
    cases seq with
    | error err => exact hf _ _ hu
    | ok seq =>
      refine hu.call (by exact trivial) fun code u hu ↦ fun e _ ↦ hf _ _ (hu.trans ?_)
      refine orFault_keeps (P := Bills P u) (.refl P u) ⟨fun _ ↦ rfl, fun inv hinv ↦ ?_⟩
      rw [InvoiceCall.exec] at hinv
      split_ifs at hinv
      · exact .inl ⟨inv, hinv, rfl, rfl⟩
      · rcases Table.mem_insert.mp hinv with hinv | hinv
        · exact .inl ⟨inv, hinv, rfl, rfl⟩
        · rw [hinv]
          exact .inr hP

end Generating

/-- A subscription has been made, and the new invoices are for it. -/
structure Opens (w : World) (sub : Subscription) (id : ℕ) (w' : World) : Prop where
  reused : ∀ r, w.subscriptions.get id = some r →
    w.subscriptions.find (Subscription.sameLogin sub) = some r ∧ r.live = false
  contracts : ∀ n, contract w' n = if n = id then some (contractOf sub) else contract w n
  invoices : ∀ inv ∈ w'.invoices, (∃ old ∈ w.invoices,
    old.subscriptionID = inv.subscriptionID ∧ old.customerID = inv.customerID) ∨
      inv.subscriptionID = id ∧ inv.customerID = sub.customerID

section Installing

theorem Bills.of_sameRows {u : World} (h : SameRows w u) (P : ℕ → ℕ → Prop) : Bills P w u :=
  .of_eq (fun n ↦ by rw [contract, contract, h.subscriptions]) h.invoices

theorem exec_sameRows {c : Call} (hc : c.inert) (e : Env) (w : World) :
    SameRows w (c.exec e w).2 := by
  obtain ⟨-, hinvoices, hsubscriptions⟩ := Call.exec_inert hc e w
  exact ⟨hinvoices, hsubscriptions, Call.exec_sameTerms c e w⟩

theorem wp_sameRows_call {c : Call} (hc : c.inert) {k : c.Reply → Prog α}
    (hk : ∀ r u, SameRows w u → (k r).wp Call.exec ok Q u) :
    (Program.call c k).wp Call.exec ok Q w := fun e _ ↦ hk _ _ (exec_sameRows hc e w)

/-- What follows a `Create` bills nobody else. -/
theorem opens_of_bills {u v : World} {id : ℕ} {t : Table Subscription} (hu : SameRows w u)
    (hmade : Creates u.subscriptions sub id t)
    (hbills : Bills (fun n c ↦ n = id ∧ c = sub.customerID) { u with subscriptions := t } v) :
    Opens w sub id v := by
  refine ⟨?_, fun n ↦ ?_, ?_⟩
  · rw [← hu.subscriptions]
    exact hmade.reused
  · have hcontract := hmade.contracts n
    rw [hu.subscriptions] at hcontract
    exact (hbills.contracts n).trans hcontract
  · rw [← hu.invoices]
    exact hbills.invoices

theorem settingInt_clerical (key : String) (dflt : ℤ) :
    (Service.settingInt key dflt).Only clerical :=
  (settingInt_inert key dflt).mono fun _ ↦ inert_clerical

/-- The row is saved with the contract it has. -/
theorem Bills.save {P : ℕ → ℕ → Prop} {v : World} (h : Bills P v w)
    (hcontract : contract v sub.id = some (contractOf sub)) {k : Except Error Unit → Prog α}
    (hk : ∀ r u, Bills P v u → (k r).wp Call.exec ok Q u) :
    (Program.call (.subscriptions (.update sub)) k).wp Call.exec ok Q w := by
  refine wp_saveRow (fun err ↦ hk _ w h) fun t' ht' ↦ hk _ _ (h.trans (.of_eq (fun n ↦ ?_) rfl))
  refine (ht' n).trans ?_
  split_ifs with hn
  · rw [hn, h.contracts, hcontract]
    rfl
  · rfl

theorem firstInvoice_bills (hcontract : contract w sub.id = some (contractOf sub)) (today : Time) :
    (firstInvoice sub today).wp Call.exec ok
      (fun _ u ↦ Bills (fun n c ↦ n = sub.id ∧ c = sub.customerID) w u) w := by
  unfold firstInvoice
  refine (Bills.refl (fun n c ↦ n = sub.id ∧ c = sub.customerID) w).bind
    (settingInt_clerical _ _) fun dueDays u hu ↦ hu.generate ⟨rfl, rfl⟩ _ _ _ fun r u hu ↦ ?_
  cases r with
  | error err => exact hu
  | ok inv =>
    cases hday : sub.billingDay with
    | some billingDay =>
      apply hu.save
      · exact hcontract
      · exact fun _ _ hu ↦ hu
    | none =>
      refine hu.bind (settingInt_clerical _ _) fun billingDay u hu ↦ ?_
      apply hu.save
      · exact hcontract
      · exact fun _ _ hu ↦ hu

/-- The request names a profile of its service. -/
def profileGiven (req : RegistrationCompleteInstallRequest) : Bool :=
  match req.serviceType with
  | .pppoe => req.pppProfileID.isSome
  | .hotspot => req.hotspotProfileID.isSome

/-- The request is one that `CompleteInstall` acts on. -/
def complete (req : RegistrationCompleteInstallRequest) : Prop := req.valid ∧ profileGiven req

instance (req : RegistrationCompleteInstallRequest) : Decidable (complete req) :=
  inferInstanceAs (Decidable (_ ∧ _))

/-- How `CompleteInstall` ends. -/
inductive Completes (w : World) (id : ℕ) (req : RegistrationCompleteInstallRequest) :
    Response CompleteInstallResponse → World → Prop
  | refused {r : Response CompleteInstallResponse} {w' : World} (h : ¬r.Accepted)
      (hw' : Bills (fun _ _ ↦ False) w w') : Completes w id req r w'
  | installed {body : CompleteInstallResponse} {w' : World} {reg : Registration} {customerID n : ℕ}
      (hreq : complete req) (hreg : w.registrations.get id = some reg)
      (hstatus : reg.status = .approved) (hcustomer : reg.customerID = some customerID)
      (hw' : Opens w (installedSubscription req customerID 0 0) n w') :
      Completes w id req (.success 201 body) w'

theorem wp_registrations_get {id : ℕ} {k : Except Error Registration → Prog α}
    (herr : ∀ err, (k (.error err)).wp Call.exec ok Q w)
    (hok : ∀ reg, w.registrations.get id = some reg → (k (.ok reg)).wp Call.exec ok Q w) :
    (Program.call (.registrations (.get id)) k).wp Call.exec ok Q w := by
  intro e _
  obtain ⟨err, h⟩ | ⟨reg, hreg, h⟩ := read_cases e w .registrationNotFound (w.registrations.get id)
  · exact wp_reply h (herr err)
  · exact wp_reply h (hok reg hreg)

theorem completes_failure {id : ℕ} {req : RegistrationCompleteInstallRequest} {w' : World}
    {status : ℕ} {code message : String} (hstatus : ¬(200 ≤ status ∧ status < 300))
    (hw' : Bills (fun _ _ ↦ False) w w') : Completes w id req (.failure status code message) w' :=
  .refused hstatus hw'

theorem completeInstall_completes (w : World) (id : ℕ) (req : RegistrationCompleteInstallRequest)
    (actor : Option ℕ) : (completeInstall id req actor).wp Call.exec ok (Completes w id req) w := by
  unfold completeInstall
  have hnone := Bills.refl (fun _ _ ↦ False) w
  split_ifs with hvalid hppp hhotspot
  · exact completes_failure (by decide) hnone
  · exact completes_failure (by decide) hnone
  swap
  · exact completes_failure (by decide) hnone
  have hreq : complete req := by
    refine ⟨by simpa using hvalid, ?_⟩
    unfold profileGiven
    cases hservice : req.serviceType <;> simp_all [Option.isSome_iff_ne_none]
  apply wp_registrations_get
  · intro err
    change Completes w id req (if err.is .registrationNotFound then _ else _) w
    split_ifs
    · exact completes_failure (by decide) hnone
    · exact .refused (writeErr_not_accepted err) hnone
  intro reg hreg
  simp only [perform_bind, pure_eq]
  dsimp only [Program.bind]
  split
  swap
  · exact completes_failure (by decide) hnone
  rename_i customerID hstatus hcustomer
  refine wp_sameRows_call (by exact trivial) fun clock u hu ↦ ?_
  refine wp_sameRows_call (by exact trivial) fun now u₁ hu₁ ↦ ?_
  have hu' := hu.trans hu₁
  apply wp_create (by exact rfl)
  · intro err
    dsimp only [wp_ret]
    split_ifs
    · exact completes_failure (by decide) (.of_sameRows hu' _)
    · exact .refused (writeErr_not_accepted err) (.of_sameRows hu' _)
  intro n t' hmade
  have hmade' : Creates u₁.subscriptions (installedSubscription req customerID 0 0) n t' :=
    ⟨hmade.reused, hmade.contracts⟩
  have hcontract := hmade.contracts n
  rw [if_pos rfl] at hcontract
  refine (wp_bind _ _ _).mpr (wp_mono (firstInvoice_bills ?_ _) fun body v hv ↦ ?_)
  · exact hcontract
  refine hv.call (by exact trivial) fun _ v hv ↦ ?_
  refine hv.bind ((audit_inert _ _ _ _).mono fun _ ↦ inert_clerical) fun _ v hv ↦ ?_
  refine hv.bind ((welcome_greets _).mono fun _ h ↦ inert_clerical h.inert) fun _ v hv ↦ ?_
  exact .installed hreq hreg hstatus hcustomer (opens_of_bills hu' hmade' hv)

end Installing

section Creating

theorem wp_pppProfiles {id : ℕ} {k : Except Error Profile → Prog α}
    (herr : ∀ err, (k (.error err)).wp Call.exec ok Q w)
    (hok : ∀ p, profileRow w .pppoe id = some p → (k (.ok p)).wp Call.exec ok Q w) :
    (Program.call (.pppProfiles id) k).wp Call.exec ok Q w := by
  intro e _
  obtain ⟨err, h⟩ | ⟨p, hp, h⟩ := read_cases e w .pppProfileNotFound
    (w.pppProfiles.find fun r ↦ r.deletedAt = none && r.id == id)
  · exact wp_reply h (herr err)
  · exact wp_reply h (hok p hp)

theorem wp_hotspotProfiles {id : ℕ} {k : Except Error Profile → Prog α}
    (herr : ∀ err, (k (.error err)).wp Call.exec ok Q w)
    (hok : ∀ p, profileRow w .hotspot id = some p → (k (.ok p)).wp Call.exec ok Q w) :
    (Program.call (.hotspotProfiles id) k).wp Call.exec ok Q w := by
  intro e _
  obtain ⟨err, h⟩ | ⟨p, hp, h⟩ := read_cases e w .hotspotProfileNotFound
    (w.hotspotProfiles.find fun r ↦ r.deletedAt = none && r.id == id)
  · exact wp_reply h (herr err)
  · exact wp_reply h (hok p hp)

theorem fits_of_checked {req : SubscriptionCreateRequest} {id : ℕ} {p : Profile} {text : String}
    (hid : (contractOf (newSubscription req)).profileID = some id)
    (hp : profileRow w req.serviceType id = some p)
    (hok : (if p.deviceID ≠ req.deviceID then .error (.new text) else .ok p.name :
      Except Error String).isOk) : (contractOf (newSubscription req)).Fits w := by
  refine ⟨id, hid, p, hp, ?_⟩
  by_contra hdevice
  have hdevice' : p.deviceID ≠ req.deviceID := hdevice
  rw [if_pos hdevice'] at hok
  cases hok

/-- The profile of a new subscription has been looked up. -/
theorem resolveProfileNameForCreate_fits (req : SubscriptionCreateRequest) :
    (resolveProfileNameForCreate req).wp Call.exec ok
      (fun r u ↦ u = w ∧ (r.isOk → (contractOf (newSubscription req)).Fits w)) w := by
  unfold resolveProfileNameForCreate
  cases hservice : req.serviceType with
  | pppoe =>
    have hcolumn : (contractOf (newSubscription req)).profileID = req.pppProfileID := by
      simp only [Contract.profileID, contractOf, newSubscription, Subscription.login, hservice]
    cases hid : req.pppProfileID with
    | none => exact ⟨rfl, fun hok ↦ by cases hok⟩
    | some id =>
      apply wp_pppProfiles
      · exact fun err ↦ ⟨rfl, fun hok ↦ by cases hok⟩
      · intro p hp
        rw [← hservice] at hp
        exact ⟨rfl, fits_of_checked (hcolumn.trans hid) hp⟩
  | hotspot =>
    have hcolumn : (contractOf (newSubscription req)).profileID = req.hotspotProfileID := by
      simp only [Contract.profileID, contractOf, newSubscription, Subscription.login, hservice]
    cases hid : req.hotspotProfileID with
    | none => exact ⟨rfl, fun hok ↦ by cases hok⟩
    | some id =>
      apply wp_hotspotProfiles
      · exact fun err ↦ ⟨rfl, fun hok ↦ by cases hok⟩
      · intro p hp
        rw [← hservice] at hp
        exact ⟨rfl, fits_of_checked (hcolumn.trans hid) hp⟩

/-- How `Create` ends. -/
inductive Created (w : World) (req : SubscriptionCreateRequest) :
    Response SubscriptionWriteResponse → World → Prop
  | refused {r : Response SubscriptionWriteResponse} {w' : World} (h : ¬r.Accepted)
      (hw' : Bills (fun _ _ ↦ False) w w') : Created w req r w'
  | created {body : SubscriptionWriteResponse} {w' : World} {n : ℕ}
      (hfits : (contractOf (newSubscription req)).Fits w)
      (hw' : Opens w (newSubscription req) n w') : Created w req (.success 201 body) w'

theorem createSubscription_created (w : World) (req : SubscriptionCreateRequest)
    (actor : Option ℕ) : (createSubscription req actor).wp Call.exec ok (Created w req) w := by
  have hfailure {u : World} (hu : SameRows w u) {status : ℕ} {code message : String}
      (hstatus : ¬(200 ≤ status ∧ status < 300)) :
      Created w req (.failure status code message) u := .refused hstatus (.of_sameRows hu _)
  have hself : SameRows w w := ⟨rfl, rfl, .refl w⟩
  unfold createSubscription
  split_ifs
  swap
  · exact hfailure hself (by decide)
  simp only [perform_bind]
  refine wp_sameRows_call (by exact trivial) fun r u hu ↦ ?_
  cases r with
  | error err =>
    change Created w req (if err.is .customerNotFound then _ else _) u
    split_ifs
    · exact hfailure hu (by decide)
    · exact .refused (writeErr_not_accepted err) (.of_sameRows hu _)
  | ok cust =>
  refine (wp_bind _ _ _).mpr (wp_mono (resolveProfileNameForCreate_fits req) ?_)
  intro r v hv
  obtain ⟨rfl, hfits⟩ := hv
  cases r with
  | error err => exact hfailure hu (by decide)
  | ok profileName =>
  have hfits' := (hfits rfl).congr hu.terms.symm
  apply wp_create (by exact rfl)
  · intro err
    change Created w req (if err.is .subscriptionUsernameTaken then _ else _) v
    split_ifs
    · exact hfailure hu (by decide)
    · exact .refused (writeErr_not_accepted err) (.of_sameRows hu _)
  intro n t' hmade
  have hbills := Bills.refl (fun n' c ↦ n' = n ∧ c = (newSubscription req).customerID)
    { v with subscriptions := t' }
  refine hbills.bind ((tryProvisionOnRouter_serves _ _ _).mono fun _ ↦ serves_clerical) ?_
  intro warning u₁ hu₁
  have haudit := (audit_inert actor "subscription_created" "subscription" n).mono
    fun _ ↦ inert_clerical
  split_ifs
  · refine hu₁.call (by exact trivial) fun now u₁ hu₁ ↦ ?_
    refine hu₁.call (by exact trivial) fun r u₁ hu₁ ↦ ?_
    cases r with
    | error err =>
      refine hu₁.call (by exact trivial) fun _ u₁ hu₁ ↦ hu₁.bind haudit fun _ u₁ hu₁ ↦ ?_
      exact .created hfits' (opens_of_bills hu hmade hu₁)
    | ok _ =>
      refine hu₁.call (by exact trivial) fun _ u₁ hu₁ ↦ hu₁.bind haudit fun _ u₁ hu₁ ↦ ?_
      exact .created hfits' (opens_of_bills hu hmade hu₁)
  · refine hu₁.bind haudit fun _ u₁ hu₁ ↦ ?_
    exact .created hfits' (opens_of_bills hu hmade hu₁)

end Creating

section Billing

theorem wp_row {id : ℕ} {k : Except Error Subscription → Prog α}
    (herr : ∀ err, (k (.error err)).wp Call.exec ok Q w)
    (hok : ∀ sub, w.subscriptions.get id = some sub → sub.id = id →
      (k (.ok sub)).wp Call.exec ok Q w) :
    (Program.call (.subscriptions (.get id)) k).wp Call.exec ok Q w := by
  refine wp_subscriptions_get herr fun sub hrow ↦ ?_
  obtain ⟨hmem, -, hid⟩ := row_iff.mp hrow
  exact hok sub (subscription_get_iff.mpr ⟨hmem, hid⟩) hid

/-- The customer under whose name a subscription runs, or ran. -/
def owner (w : World) (n : ℕ) : Option ℕ := (contract w n).map Contract.customerID

theorem owner_of_get {n : ℕ} (h : w.subscriptions.get n = some sub) :
    owner w n = some sub.customerID := by
  rw [owner, contract, contractIn, h]
  rfl

theorem generateInvoice_bills (w : World) (req : InvoiceGenerateRequest) (actor : Option ℕ) :
    (generateInvoice req actor).wp Call.exec ok
      (fun _ u ↦ Bills (fun n c ↦ owner w n = some c) w u) w := by
  have hself := Bills.refl (fun n c ↦ owner w n = some c) w
  unfold generateInvoice
  by_cases hvalid : req.valid
  swap
  · rw [if_pos hvalid]
    exact hself
  rw [if_neg (not_not.mpr hvalid)]
  cases req.periodStart with
  | absent | malformed => exact hself
  | date periodStart =>
    simp only [perform_bind]
    apply wp_row
    · exact fun _ ↦ hself
    intro sub hsub hid
    by_cases hcustomer : sub.customerID = req.customerID
    swap
    · simp only [ne_eq, hcustomer, not_false_eq_true, if_true]
      exact hself
    simp only [ne_eq, hcustomer, not_true_eq_false, if_false]
    refine hself.generate (hid ▸ owner_of_get hsub) _ _ _ fun r u hu ↦ ?_
    cases r with
    | error err => exact hu
    | ok inv => exact hu.bind ((audit_inert _ _ _ _).mono fun _ ↦ inert_clerical) fun _ _ h ↦ h

theorem advance_clerical (id : ℕ) (customerID : ℕ) (next : Time) (inv : Invoice) :
    (perform (.subscriptions (.updateNextInvoiceDate id next)) >>= fun _ ↦
      notifyCustomer customerID "invoice_issued" (issuedVars inv)).Only clerical :=
  ⟨trivial, fun _ ↦ (notifyCustomer_informs _ _ _).mono fun _ h ↦ inert_clerical h.inert⟩

theorem bill_bills {P : ℕ → ℕ → Prop} {v : World} (h : Bills P v w) (hP : P sub.id sub.customerID)
    (today : Time) (dueDays : ℤ) :
    (bill today dueDays sub).wp Call.exec ok (fun _ u ↦ Bills P v u) w := by
  unfold bill
  cases sub.nextInvoiceDate with
  | none => exact h
  | some due =>
    dsimp only
    split_ifs
    · exact h
    refine h.generate hP _ _ _ fun r u hu ↦ ?_
    cases r with
    | error err => exact hu
    | ok inv =>
      cases sub.billingDay with
      | some billingDay =>
        exact wp_mono (wp_clerical (advance_clerical _ _ _ inv) P u) fun _ _ h ↦ hu.trans h
      | none =>
        refine hu.bind ?_ fun billingDay u hu ↦ ?_
        · exact (settingInt_informs _ _).mono fun _ h ↦ inert_clerical h.inert
        · exact wp_mono (wp_clerical (advance_clerical _ _ _ inv) P u) fun _ _ h ↦ hu.trans h

theorem billingLoop_bills {P : ℕ → ℕ → Prop} {v : World} (h : Bills P v w) (today : Time)
    (dueDays : ℤ) {subs : List Subscription} (hsubs : ∀ sub ∈ subs, P sub.id sub.customerID) :
    (billingLoop today dueDays subs).wp Call.exec ok (fun _ u ↦ Bills P v u) w := by
  induction subs generalizing w with
  | nil => exact h
  | cons sub subs ih =>
    simp only [billingLoop, perform_bind]
    refine h.call (by exact trivial) fun done u hu ↦ ?_
    cases done with
    | true => exact hu
    | false =>
      have hsub := hsubs sub List.mem_cons_self
      refine (wp_bind _ _ _).mpr (wp_mono (bill_bills hu hsub today dueDays) fun _ u hu ↦ ?_)
      exact ih hu fun sub hsub ↦ hsubs sub (List.mem_cons_of_mem _ hsub)

theorem wp_listByStatus {status : SubscriptionStatus}
    {k : Except Error (List Subscription) → Prog α}
    (herr : ∀ err, (k (.error err)).wp Call.exec ok Q w)
    (hok : ∀ subs, (∀ sub ∈ subs, sub ∈ w.subscriptions) → (k (.ok subs)).wp Call.exec ok Q w) :
    (Program.call (.subscriptions (.listByStatus status)) k).wp Call.exec ok Q w := by
  intro e _
  obtain h | ⟨err, h⟩ := orFault_cases e w (.ok (e.subscriptionOrder.order
    (w.subscriptions.rows.filter fun s ↦ s.live && s.status = status)), w)
  · have hrows : ∀ sub ∈ e.subscriptionOrder.order (w.subscriptions.rows.filter fun s ↦
        s.live && s.status = status), sub ∈ w.subscriptions := by
      intro sub hsub
      rw [Arrangement.mem_order] at hsub
      exact (List.mem_filter.mp hsub).1
    simpa only [Call.exec, SubscriptionCall.exec, h] using hok _ hrows
  · simpa only [Call.exec, SubscriptionCall.exec, h] using herr err

theorem billingRun_bills (w : World) : billingRun.wp Call.exec ok
    (fun _ u ↦ Bills (fun n c ↦ owner w n = some c) w u) w := by
  have hself := Bills.refl (fun n c ↦ owner w n = some c) w
  have hsetting := (settingInt_informs "billing.invoice_due_days" 7).mono
    fun _ h ↦ inert_clerical h.inert
  refine hself.call (by exact trivial) fun now u hu ↦ hu.bind hsetting fun dueDays u hu ↦ ?_
  apply wp_listByStatus
  · exact fun _ ↦ hu
  intro subs hsubs
  refine billingLoop_bills hu _ _ fun sub hsub ↦ ?_
  have howner : owner u sub.id = some sub.customerID :=
    owner_of_get (subscription_get_iff.mpr ⟨hsubs sub hsub, rfl⟩)
  rwa [owner, hu.contracts] at howner

end Billing

end Rosmon.Records
