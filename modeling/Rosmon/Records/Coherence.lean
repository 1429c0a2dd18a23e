import Rosmon.Billing.Schedule
import Rosmon.Handler.Profiles
import Rosmon.Records.Requests

namespace Rosmon.Records

open Library Store Mikrotik Program Service Job Handler Billing Sync

/-- What writes to the columns for profiles, and what makes profiles. -/
inductive Change
  | create (req : SubscriptionCreateRequest)
  | update (id : ℕ) (req : SubscriptionUpdateRequest)
  | completeInstall (id : ℕ) (req : RegistrationCompleteInstallRequest)
  | createProfile (service : ServiceType) (deviceID : ℕ) (req : ProfileCreateRequest)

/-- A change, and what the outside world offers while it is made. -/
structure Edit where
  change : Change
  actor : Option ℕ
  env : ℕ → Env

def edit (w : World) (t : Edit) : World :=
  match t.change with
  | .create req => ((createSubscription req t.actor).run Call.exec t.env w).2
  | .update id req => ((updateSubscription id req).run Call.exec t.env w).2
  | .completeInstall id req =>
    ((Handler.completeInstall id req t.actor).run Call.exec t.env w).2
  | .createProfile service deviceID req =>
    (Handler.createProfile service deviceID req (t.env 0) w).2

/-- Each live subscription has a profile of its own service, which exists on its device. -/
def Coherent (w : World) : Prop := ∀ sub ∈ w.subscriptions, sub.live → (contractOf sub).Fits w

/-- The profile that a command names. -/
def profileName : RouterCall → String
  | .add args => args.profile
  | .setProfile _ profile | .set _ _ profile _ => profile
  | .byName _ | .setDisabled .. | .remove _ => ""

def profileTable (w : World) : ServiceType → Table Profile
  | .pppoe => w.pppProfiles
  | .hotspot => w.hotspotProfiles

/-- The command names no profile, or one of the service of the subscription. -/
def OwnName (w : World) (sub : Subscription) : Call → Prop
  | .router _ _ c => profileName c = "" ∨ ∃ p ∈ profileTable w sub.serviceType,
    p.deletedAt = none ∧ p.deviceID = sub.deviceID ∧ p.name = profileName c
  | _ => True

/-- An update sends the router no name of a profile of the other service. -/
def SendsOwn (w : World) (t : Edit) : Prop :=
  match t.change with
  | .update id req =>
    ∀ sub ∈ w.row id, ∀ c ∈ (updateSubscription id req).calls Call.exec t.env w, OwnName w sub c
  | _ => True

/-- The request asks for another profile than that of the row. -/
def asksFor (current requested : Option ℕ) : Prop := ∃ id ∈ requested, current ≠ some id

/-- The last profile that the request changes is one of the service of the row. -/
def AsksForOwn (sub : Subscription) (req : SubscriptionUpdateRequest) : Prop :=
  match sub.serviceType with
  | .pppoe => ¬asksFor sub.hotspotProfileID req.hotspotProfileID
  | .hotspot => asksFor sub.pppProfileID req.pppProfileID →
    asksFor sub.hotspotProfileID req.hotspotProfileID

/-- The profile of an installation exists on its device, and an update that is accepted
asks last for a profile of its own service. -/
def Change.Checked (w : World) : Change → Prop
  | .completeInstall id req => complete req → ∀ reg ∈ w.registrations.get id,
    reg.status = .approved → ∀ customerID ∈ reg.customerID,
      (contractOf (installedSubscription req customerID 0 0)).Fits w
  | .update id req => ∀ sub ∈ w.row id, (accepts w sub req).isSome → AsksForOwn sub req
  | _ => True

section Profiles

variable {t : Table Profile} {p : Profile} {id : ℕ}

theorem find_profile_iff :
    (t.find fun r ↦ r.deletedAt = none && r.id == id) = some p ↔
      p ∈ t ∧ p.deletedAt = none ∧ p.id = id := by
  constructor
  · intro h
    have hsat := Table.find_sat h
    simp only [Bool.and_eq_true, decide_eq_true_eq, beq_iff_eq] at hsat
    exact ⟨Table.mem_of_find h, hsat⟩
  · rintro ⟨hmem, hlive, rfl⟩
    cases h : t.find fun r ↦ r.deletedAt = none && r.id == p.id with
    | none =>
      have hno := Table.find_eq_none.mp h p hmem
      simp [hlive] at hno
    | some q =>
      have hsat := Table.find_sat h
      simp only [Bool.and_eq_true, decide_eq_true_eq, beq_iff_eq] at hsat
      exact congrArg some (Table.eq_of_key (Table.mem_of_find h) hmem hsat.2)

/-- A live profile stays, whatever is made. -/
theorem mem_insertProfile (hp : p ∈ t) (hlive : p.deletedAt = none) (new : Profile) :
    p ∈ (insertProfile new t).2 := by
  unfold insertProfile
  split
  · rename_i existing hfind
    split_ifs with hused
    · exact hp
    · refine Table.mem_update_of_not hp ?_
      rw [beq_eq_false_iff_ne]
      intro hid
      obtain rfl := Table.eq_of_key hp (Table.mem_of_find hfind) hid
      exact hused (.inl hlive)
  · exact Table.mem_insert.mpr (.inl hp)

theorem profileRow_createProfile {w : World} {service : ServiceType}
    (hp : profileRow w service id = some p) (kind : ServiceType) (deviceID : ℕ)
    (req : ProfileCreateRequest) (e : Env) :
    profileRow (createProfile kind deviceID req e w).2 service id = some p := by
  unfold createProfile
  split_ifs
  swap
  · exact hp
  cases kind <;>
    refine orFault_keeps (P := fun u ↦ profileRow u service id = some p) hp ?_ <;>
    cases service <;> first | exact hp | skip
  all_goals
    obtain ⟨hmem, hlive, hid⟩ := find_profile_iff.mp hp
    exact find_profile_iff.mpr ⟨mem_insertProfile hmem hlive _, hlive, hid⟩

theorem createProfile_subscriptions (kind : ServiceType) (deviceID : ℕ)
    (req : ProfileCreateRequest) (e : Env) (w : World) :
    (createProfile kind deviceID req e w).2.subscriptions = w.subscriptions := by
  unfold createProfile
  split_ifs
  · cases kind <;> exact orFault_keeps (P := fun u ↦ u.subscriptions = w.subscriptions) rfl rfl
  · rfl

end Profiles

section Updating

variable {ok : Env → Prop} {w : World} {id : ℕ} {sub : Subscription}
  {req : SubscriptionUpdateRequest} {ppp hotspot : Option (ℕ × String)}

/-- A change of profile that is not refused. -/
theorem changedTo_cases {t : Table Profile} {deviceID : ℕ} {current requested : Option ℕ}
    {change : Option (ℕ × String)} (h : changedTo t deviceID current requested = some change) :
    change = none ∧ ¬asksFor current requested ∨
      ∃ id p, change = some (id, p.name) ∧ asksFor current requested ∧
        t.find (fun r ↦ r.deletedAt = none && r.id == id) = some p ∧ p.deviceID = deviceID := by
  unfold changedTo at h
  cases requested with
  | none =>
    refine .inl ⟨(Option.some.inj h).symm, ?_⟩
    rintro ⟨id, hid, -⟩
    cases hid
  | some id =>
    dsimp only at h
    split_ifs at h with hsame
    · refine .inl ⟨(Option.some.inj h).symm, ?_⟩
      rintro ⟨id', hid, hne⟩
      exact hne (hid ▸ hsame)
    · cases hfind : t.find (fun r ↦ r.deletedAt = none && r.id == id) with
      | none =>
        rw [hfind] at h
        cases h
      | some p =>
        rw [hfind] at h
        dsimp only at h
        split_ifs at h with hdevice
        exact .inr ⟨id, p, (Option.some.inj h).symm, ⟨id, rfl, hsame⟩, hfind, not_not.mp hdevice⟩

/-- The column that counts is left alone, or holds the profile that has been looked up. -/
theorem fits_change {c c' : Contract} {requested : Option ℕ} {change : Option (ℕ × String)}
    (hc : c.Fits w) (hlogin : c'.login = c.login)
    (hchange : changedTo (profileTable w c.login.service) c.login.deviceID c.profileID requested =
      some change)
    (hcolumn : c'.profileID = (change.map (·.1) <|> c.profileID)) : c'.Fits w := by
  unfold Contract.Fits
  rw [hlogin]
  rcases changedTo_cases hchange with ⟨rfl, -⟩ | ⟨id, p, rfl, -, hfind, hdevice⟩
  · rw [hcolumn]
    exact hc
  · refine ⟨id, hcolumn, p, ?_, hdevice⟩
    cases hservice : c.login.service with
    | pppoe =>
      rw [hservice] at hfind
      exact hfind
    | hotspot =>
      rw [hservice] at hfind
      exact hfind

theorem apply_fits (hfits : (contractOf sub).Fits w)
    (hppp : changedTo w.pppProfiles sub.deviceID sub.pppProfileID req.pppProfileID = some ppp)
    (hhotspot : changedTo w.hotspotProfiles sub.deviceID sub.hotspotProfileID
      req.hotspotProfileID = some hotspot) : (contractOf (req.apply ppp hotspot sub)).Fits w := by
  have hlogin : (contractOf (req.apply ppp hotspot sub)).login = (contractOf sub).login := rfl
  cases hservice : sub.serviceType with
  | pppoe =>
    have hcolumn : (contractOf sub).profileID = sub.pppProfileID := by
      simp only [Contract.profileID, contractOf, Subscription.login, hservice]
    apply fits_change hfits hlogin
    · rw [hcolumn, show (contractOf sub).login.service = .pppoe from hservice]
      exact hppp
    · rw [hcolumn]
      simp only [Contract.profileID, contractOf, SubscriptionUpdateRequest.apply,
        Subscription.login, hservice]
  | hotspot =>
    have hcolumn : (contractOf sub).profileID = sub.hotspotProfileID := by
      simp only [Contract.profileID, contractOf, Subscription.login, hservice]
    apply fits_change hfits hlogin
    · rw [hcolumn, show (contractOf sub).login.service = .hotspot from hservice]
      exact hhotspot
    · rw [hcolumn]
      simp only [Contract.profileID, contractOf, SubscriptionUpdateRequest.apply,
        Subscription.login, hservice]

/-- The contract of the row is that of before, or one that fits. -/
def Revised (w w' : World) : Prop :=
  ∀ n c, contract w' n = some c → contract w n = some c ∨ c.Fits w

theorem revised_bills {P : ℕ → ℕ → Prop} {u v : World} (h : Revised w u) (hv : Bills P u v) :
    Revised w v := by
  intro n c hc
  rw [hv.contracts] at hc
  exact h n c hc

theorem revised_opens {n : ℕ} {w' : World} (h : Opens w sub n w')
    (hfits : (contractOf sub).Fits w) : Revised w w' := by
  intro m c hc
  rw [h.contracts] at hc
  split_ifs at hc
  · rw [← Option.some.inj hc]
    exact .inr hfits
  · exact .inl hc

theorem revised_refl (w : World) : Revised w w := fun _ _ hc ↦ .inl hc

theorem updateSubscription_revised (hw : Coherent w) (id : ℕ) (req : SubscriptionUpdateRequest) :
    (updateSubscription id req).wp Call.exec ok (fun _ u ↦ Revised w u) w := by
  unfold updateSubscription withSubscription
  by_cases hvalid : req.valid
  swap
  · rw [if_pos hvalid]
    exact revised_refl w
  rw [if_neg (not_not.mpr hvalid)]
  simp only [perform_bind]
  apply wp_subscriptions_get
  · exact fun _ ↦ revised_refl w
  intro sub hrow
  obtain ⟨hmem, hlive, hid⟩ := row_iff.mp hrow
  refine (wp_bind _ _ _).mpr
    (wp_mono (changedProfile_checked fun id ↦ pppProfiles_looked id) fun r u hr ↦ ?_)
  obtain ⟨rfl, hppp⟩ := hr
  cases r with
  | error answer => exact revised_refl u
  | ok ppp =>
  refine (wp_bind _ _ _).mpr
    (wp_mono (changedProfile_checked fun id ↦ hotspotProfiles_looked id) fun r v hr ↦ ?_)
  obtain ⟨rfl, hhotspot⟩ := hr
  cases r with
  | error answer => exact revised_refl v
  | ok hotspot =>
  apply wp_saveRow
  · exact fun _ ↦ revised_refl v
  intro t' ht'
  have hsaved : Revised v { v with subscriptions := t' } := by
    intro n c hc
    have hcontract := (ht' n).symm.trans hc
    split_ifs at hcontract
    · obtain ⟨-, -, rfl⟩ := Option.map_eq_some_iff.mp hcontract
      exact .inr (apply_fits (hw sub hmem hlive) hppp hhotspot)
    · exact .inl hcontract
  refine (wp_bind _ _ _).mpr (wp_mono (wp_clerical
    ((trySetOnRouter_serves _ _).mono fun _ ↦ serves_clerical) (fun _ _ ↦ False) _) ?_)
  exact fun _ _ hbills ↦ revised_bills hsaved hbills

/-- What is sent under the name of a profile. -/
def sendsOnly (name : String) : Call → Prop
  | .router _ _ c => profileName c = "" ∨ profileName c = name
  | _ => True

theorem resolveProfileForSub_sendsOnly (sub : Subscription) (status : SubscriptionStatus)
    (name : String) : (resolveProfileForSub sub status).Only (sendsOnly name) := by
  have hnormal : (normalProfile sub).Only (sendsOnly name) := by
    unfold normalProfile
    split
    · exact ⟨trivial, fun _ ↦ trivial⟩
    · exact ⟨trivial, fun _ ↦ trivial⟩
    · trivial
  refine hnormal.bind fun _ ↦ Only.bind ⟨trivial, fun r ↦ ?_⟩ fun _ ↦ trivial
  cases r <;> trivial

theorem trySetOnRouter_sendsOnly (sub : Subscription) (name : String) :
    (trySetOnRouter sub name).Only (sendsOnly name) := by
  refine whileOnline_only trivial (lookup_only (.inl rfl) ?_ fun row ↦ ⟨.inr rfl, fun _ ↦ trivial⟩)
  refine (resolveProfileForSub_sendsOnly _ _ _).bind fun _ ↦ ?_
  exact whileOnline_only trivial ⟨.inr rfl, fun _ ↦ trivial⟩

/-- The name that is sent is empty, or that of the profile that has been looked up. -/
theorem newProfileName_own
    (hppp : changedTo w.pppProfiles sub.deviceID sub.pppProfileID req.pppProfileID = some ppp)
    (hhotspot : changedTo w.hotspotProfiles sub.deviceID sub.hotspotProfileID
      req.hotspotProfileID = some hotspot)
    (hown : AsksForOwn sub req) {c : Call} (hc : sendsOnly (newProfileName ppp hotspot) c) :
    OwnName w sub c := by
  cases c with
  | router deviceID service c =>
    rcases hc with hempty | hname
    · exact .inl hempty
    rw [OwnName, hname]
    cases hservice : sub.serviceType with
    | pppoe =>
      rw [AsksForOwn, hservice] at hown
      rcases changedTo_cases hhotspot with ⟨rfl, -⟩ | ⟨_, _, -, hasks, -⟩
      swap
      · exact absurd hasks hown
      rcases changedTo_cases hppp with ⟨rfl, -⟩ | ⟨id, p, rfl, -, hfind, hdevice⟩
      · exact .inl rfl
      · obtain ⟨hmem, hlive, -⟩ := find_profile_iff.mp hfind
        exact .inr ⟨p, hmem, hlive, hdevice, rfl⟩
    | hotspot =>
      rw [AsksForOwn, hservice] at hown
      rcases changedTo_cases hhotspot with ⟨rfl, hasks⟩ | ⟨id, p, rfl, -, hfind, hdevice⟩
      · rcases changedTo_cases hppp with ⟨rfl, -⟩ | ⟨_, _, -, hasks', -⟩
        · exact .inl rfl
        · exact absurd (hown hasks') hasks
      · obtain ⟨hmem, hlive, -⟩ := find_profile_iff.mp hfind
        exact .inr ⟨p, hmem, hlive, hdevice, rfl⟩
  | _ => trivial

theorem makes_subscriptions_get {P : Call → Prop} {α : Type}
    {k : Except Error Subscription → Prog α} (hget : P (.subscriptions (.get id)))
    (herr : ∀ err, (k (.error err)).Makes Call.exec P w)
    (hok : ∀ sub, w.row id = some sub → (k (.ok sub)).Makes Call.exec P w) :
    (Program.call (.subscriptions (.get id)) k).Makes Call.exec P w := by
  apply makes_call hget
  intro e
  obtain ⟨err, h⟩ | ⟨sub, hs, h⟩ := read_cases e w .subscriptionNotFound
    (w.subscriptions.find (Subscription.liveAt id))
  · simpa only [Call.exec, SubscriptionCall.exec, h] using herr err
  · simpa only [Call.exec, SubscriptionCall.exec, h] using hok sub hs

/-- The commands of an update carry no name, or that of a profile of the service. -/
theorem updateSubscription_makes (hrow : w.row id = some sub)
    (hown : (accepts w sub req).isSome → AsksForOwn sub req) :
    (updateSubscription id req).Makes Call.exec (OwnName w sub) w := by
  unfold updateSubscription withSubscription
  by_cases hvalid : req.valid
  swap
  · rw [if_pos hvalid]
    exact makes_ret _ _ _
  rw [if_neg (not_not.mpr hvalid)]
  simp only [perform_bind]
  apply makes_subscriptions_get
  · trivial
  · exact fun _ ↦ makes_ret _ _ _
  intro sub' hrow'
  obtain rfl := Option.some.inj (hrow.symm.trans hrow')
  apply makes_bind
  · apply Only.makes
    apply changedProfile_only
    exact fun _ ↦ ⟨trivial, fun _ ↦ trivial⟩
  refine wp_mono (changedProfile_checked fun id ↦ pppProfiles_looked id) fun r u hr ↦ ?_
  obtain ⟨rfl, hppp⟩ := hr
  cases r with
  | error answer => exact makes_ret _ _ _
  | ok ppp =>
  apply makes_bind
  · apply Only.makes
    apply changedProfile_only
    exact fun _ ↦ ⟨trivial, fun _ ↦ trivial⟩
  refine wp_mono (changedProfile_checked fun id ↦ hotspotProfiles_looked id) fun r v hr ↦ ?_
  obtain ⟨rfl, hhotspot⟩ := hr
  cases r with
  | error answer => exact makes_ret _ _ _
  | ok hotspot =>
  have hppp' : changedTo v.pppProfiles sub.deviceID sub.pppProfileID req.pppProfileID =
    some ppp := hppp
  have hhotspot' : changedTo v.hotspotProfiles sub.deviceID sub.hotspotProfileID
    req.hotspotProfileID = some hotspot := hhotspot
  have hasks : AsksForOwn sub req := by
    apply hown
    simp only [accepts, hvalid, if_true, hppp', hhotspot', Option.isSome_some]
  apply makes_call
  · trivial
  intro e
  generalize ((Call.subscriptions (.update (req.apply ppp hotspot sub))).exec e v).2 = t
  cases ((Call.subscriptions (.update (req.apply ppp hotspot sub))).exec e v).1 with
  | error err => exact makes_ret _ _ _
  | ok _ =>
    apply Only.makes
    refine Only.bind ?_ fun _ ↦ trivial
    apply (trySetOnRouter_sendsOnly _ _).mono
    exact fun c hc ↦ newProfileName_own hppp' hhotspot' hasks hc

end Updating

section Steps

variable {w w' : World}

theorem coherent_revised (hw : Coherent w) (h : Revised w w') (hterms : SameTerms w w') :
    Coherent w' := by
  intro sub hmem hlive
  have hget : w'.subscriptions.get sub.id = some sub := subscription_get_iff.mpr ⟨hmem, rfl⟩
  have hcontract : contract w' sub.id = some (contractOf sub) := by
    rw [contract, contractIn, hget]
    rfl
  apply Contract.Fits.congr _ hterms
  rcases h _ _ hcontract with hold | hfits
  · obtain ⟨old, hold, heq⟩ := Option.map_eq_some_iff.mp hold
    have hlive' : old.live = true := (congrArg Contract.live heq).trans hlive
    rw [← heq]
    exact hw old (subscription_get_iff.mp hold).1 hlive'
  · exact hfits

theorem created_revised {req : SubscriptionCreateRequest}
    {r : Response SubscriptionWriteResponse} (h : Created w req r w') : Revised w w' := by
  cases h with
  | refused _ hw' => exact revised_bills (revised_refl w) hw'
  | created hfits hw' => exact revised_opens hw' hfits

theorem completes_revised {id : ℕ} {req : RegistrationCompleteInstallRequest}
    {r : Response CompleteInstallResponse} (h : Completes w id req r w')
    (hchecked : (Change.completeInstall id req).Checked w) : Revised w w' := by
  cases h with
  | refused _ hw' => exact revised_bills (revised_refl w) hw'
  | installed hreq hreg hstatus hcustomer hw' =>
    exact revised_opens hw' (hchecked hreq _ hreg hstatus _ hcustomer)

theorem coherent_createProfile (hw : Coherent w) (service : ServiceType) (deviceID : ℕ)
    (req : ProfileCreateRequest) (e : Env) :
    Coherent (Handler.createProfile service deviceID req e w).2 := by
  intro sub hmem hlive
  rw [createProfile_subscriptions] at hmem
  obtain ⟨id, hid, p, hp, hdevice⟩ := hw sub hmem hlive
  exact ⟨id, hid, p, profileRow_createProfile hp service deviceID req e, hdevice⟩

theorem edit_coherent (hw : Coherent w) (t : Edit) (hchecked : t.change.Checked w) :
    Coherent (edit w t) := by
  obtain ⟨change, actor, env⟩ := t
  cases change with
  | create req =>
    have hends : (createSubscription req actor).wp Call.exec (fun _ ↦ True) (Created w req) w :=
      createSubscription_created w req actor
    have hrevised := created_revised (run_of_wp hends env fun _ ↦ trivial)
    exact coherent_revised hw hrevised (run_sameTerms _ env w)
  | update id req =>
    have hends : (updateSubscription id req).wp Call.exec (fun _ ↦ True)
        (fun _ u ↦ Revised w u) w := updateSubscription_revised hw id req
    exact coherent_revised hw (run_of_wp hends env fun _ ↦ trivial) (run_sameTerms _ env w)
  | completeInstall id req =>
    have hends : (Handler.completeInstall id req actor).wp Call.exec (fun _ ↦ True)
        (Completes w id req) w := completeInstall_completes w id req actor
    have hrevised := completes_revised (run_of_wp hends env fun _ ↦ trivial) hchecked
    exact coherent_revised hw hrevised (run_sameTerms _ env w)
  | createProfile service deviceID req => exact coherent_createProfile hw service deviceID req _

theorem edit_sendsOwn (t : Edit) (hchecked : t.change.Checked w) : SendsOwn w t := by
  obtain ⟨change, actor, env⟩ := t
  cases change with
  | update id req =>
    intro sub hrow
    exact updateSubscription_makes hrow (hchecked sub hrow) env
  | create | completeInstall | createProfile => trivial

end Steps

/-- As long as installations name profiles of their device and updates ask for profiles of
their own service, profiles stay where they belong and only their names are sent. -/
theorem profiles_coherent (w : World) (hw : Coherent w) (edits : List Edit)
    (hguard : Run.Guarded edit (fun w t ↦ t.change.Checked w) w edits) :
    (∀ u ∈ Run.states edit w edits, Coherent u) ∧ Run.Guarded edit SendsOwn w edits := by
  constructor
  · exact Run.invariant (fun u t hu hchecked ↦ edit_coherent hu t hchecked) hw hguard
  · exact Run.guarded_mono (fun u t hchecked ↦ edit_sendsOwn t hchecked) hguard

instance (current requested : Option ℕ) : Decidable (asksFor current requested) :=
  inferInstanceAs (Decidable (∃ id ∈ requested, _))

instance (sub : Subscription) (req : SubscriptionUpdateRequest) :
    Decidable (AsksForOwn sub req) := by
  unfold AsksForOwn
  split <;> infer_instance

instance (w : World) (c : Contract) : Decidable (c.Fits w) :=
  inferInstanceAs (Decidable (∃ id ∈ c.profileID, ∃ p ∈ _, _))

instance (w : World) (change : Change) : Decidable (change.Checked w) := by
  unfold Change.Checked
  split <;> infer_instance

instance (w : World) : Decidable (Coherent w) :=
  inferInstanceAs (Decidable (∀ sub ∈ w.subscriptions, _))

instance (w : World) (sub : Subscription) (c : Call) : Decidable (OwnName w sub c) := by
  unfold OwnName
  split <;> infer_instance

instance (w : World) (t : Edit) : Decidable (SendsOwn w t) := by
  unfold SendsOwn
  split <;> infer_instance

/-- A device with a profile for each service, and another device with one. -/
def twoServices : World :=
  { Billing.registered with
    pppProfiles := (Billing.registered.pppProfiles.insert
      { id := 0, deviceID := 2, name := "paket-20M", priceMonthly := 250000, deletedAt := none })
    hotspotProfiles := Table.empty.insert
      { id := 0, deviceID := 1, name := "voucher", priceMonthly := 50000, deletedAt := none }
    routers := fun _ ↦ ⟨[⟨"*1", "budi", "rahasia", "pppoe", "paket-10M", false⟩], [], 2⟩ }

def edited (change : Change) : Edit where
  change
  actor := none
  env := fun _ ↦ .calm 0

def askFor (ppp hotspot : Option ℕ) : SubscriptionUpdateRequest where
  pppProfileID := ppp
  hotspotProfileID := hotspot
  mikrotikPassword := none
  billingDay := none
  notes := none

def ownEdits : List Edit :=
  [edited (.createProfile .pppoe 1 ⟨"paket-50M", 400000⟩),
    edited (.update 1 (askFor (some 3) none)), edited (.completeInstall 1 (Billing.siti 5))]

theorem own_profiles_coherent :
    (∀ u ∈ Run.states edit twoServices ownEdits, Coherent u) ∧
      Run.Guarded edit SendsOwn twoServices ownEdits :=
  profiles_coherent _ (by decide +kernel) _ (by decide +kernel)

/-- An installation takes a profile of another device, and an update sends the name of a
profile of the other service. -/
theorem foreign_profiles :
    (¬∀ u ∈ Run.states edit twoServices
      [edited (.completeInstall 1 { Billing.siti 5 with pppProfileID := some 2 })], Coherent u) ∧
    ¬Run.Guarded edit SendsOwn twoServices [edited (.update 1 (askFor none (some 1)))] :=
  ⟨by decide +kernel, by decide +kernel⟩

end Rosmon.Records
