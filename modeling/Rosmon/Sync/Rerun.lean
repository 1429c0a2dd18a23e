import Rosmon.Sync.Quiet
import Rosmon.Sync.SyncedRows

namespace Rosmon

open Library Store Mikrotik Program Job

/-- A request that makes of the account what it is already. -/
def World.Settled (w : World) (sub : Subscription) : Prop :=
  sub.deviceID ∈ w.connected → w.fulfil sub (w.account sub.login) = some (w.account sub.login)

/-- The profile that is taken when the one asked for cannot be read. -/
def Store.Subscription.fallbackName (sub : Subscription) : String :=
  if sub.status = .isolir then "isolir" else ""

section Unchanged

theorem Mikrotik.Router.setRecords_self (r : Router) (service : ServiceType) :
    r.setRecords service (r.records service) = r := by
  cases service <;> rfl

/-- A record that is as the command wants it stays as it is, and so do the others. -/
theorem Mikrotik.Router.change_same {r : Router} {service : ServiceType} {name : String}
    {row : Record} (h : r.WellFormed) (hrow : r.record service name = some row)
    {f : Record → Record} (hf : f row = row) :
    r.change service row.id (List.map fun row' ↦ if row'.id = row.id then f row' else row') =
      (.ok (), r) := by
  have hsame : ∀ row' ∈ r.records service, (if row'.id = row.id then f row' else row') = row' := by
    intro row' hrow'
    split_ifs with hid
    · rw [(h.id_eq hrow hrow').mp hid, hf]
    · rfl
  rw [Router.change_found h hrow, List.map_congr_left hsame, List.map_id', Router.setRecords_self]

variable {w : World} {sub : Subscription} (hw : ∀ id, (w.routers id).WellFormed)

include hw

/-- A command that finds all in order. -/
theorem setProfile_same {row : Record} (hrow : w.record sub.login = some row) {profile : String}
    (h : orDefault profile row.profile = row.profile) :
    (onRouter sub (.setProfile row.id profile)).wp execCommands Env.Quiet
      (fun r w' ↦ r = .ok () ∧ w' = w) w := by
  refine wp_router (fun e err he hf ↦ ?_) ?_
  · rw [he.1] at hf
    cases hf
  · have hsame : RouterCall.exec sub.serviceType (.setProfile row.id profile)
        (w.routers sub.deviceID) = (.ok (), w.routers sub.deviceID) :=
      Router.change_same (f := fun row ↦ { row with profile := orDefault profile row.profile })
        (hw _) hrow (by rw [h])
    rw [hsame, Function.update_eq_self]
    exact ⟨rfl, rfl⟩

theorem setDisabled_same {row : Record} (hrow : w.record sub.login = some row) {disabled : Bool}
    (h : disabled = row.disabled) :
    (onRouter sub (.setDisabled row.id disabled)).wp execCommands Env.Quiet
      (fun r w' ↦ r = .ok () ∧ w' = w) w := by
  refine wp_router (fun e err he hf ↦ ?_) ?_
  · rw [he.1] at hf
    cases hf
  · have hsame : RouterCall.exec sub.serviceType (.setDisabled row.id disabled)
        (w.routers sub.deviceID) = (.ok (), w.routers sub.deviceID) :=
      Router.change_same (f := fun row ↦ { row with disabled }) (hw _) hrow (by rw [h])
    rw [hsame, Function.update_eq_self]
    exact ⟨rfl, rfl⟩

omit hw

theorem withRecord_same {change : Record → Prog (Except Error Unit)}
    {g : Account → Option Account}
    (h : forRecord sub g (w.account sub.login) = some (w.account sub.login))
    (hchange : ∀ row, w.record sub.login = some row → g row.account = some row.account →
      (change row).wp execCommands Env.Quiet (fun r w' ↦ r = .ok () ∧ w' = w) w) :
    (withRecord sub change).wp execCommands Env.Quiet (fun r w' ↦ r = .ok () ∧ w' = w) w := by
  unfold forRecord at h
  split_ifs at h with hname
  simp only [withRecord, onRouter, perform_bind]
  refine wp_byName (l := sub.login) (fun _ ↦ quiet_honest) ?_ ?_ ?_
  · intro err _ hr
    exact (hr.elim quiet_not_faulty hname).elim
  · intro _ _
    exact ⟨rfl, rfl⟩
  · intro row _ hrow
    exact hchange row hrow (by simpa [World.account, hrow] using h)

include hw

theorem doProfileChange_same {g : Account → Option Account}
    (h : forRecord sub g (w.account sub.login) = some (w.account sub.login))
    (hg : ∀ row, w.record sub.login = some row → g row.account = some row.account →
      orDefault (w.targetName sub) row.profile = row.profile) :
    (doProfileChange sub).wp execCommands Env.Quiet (fun r w' ↦ r = .ok () ∧ w' = w) w := by
  have hset : ∀ profile, w.targetName sub = profile →
      (withRecord sub fun row ↦ onRouter sub (.setProfile row.id profile)).wp
        execCommands Env.Quiet (fun r w' ↦ r = .ok () ∧ w' = w) w := by
    rintro _ rfl
    exact withRecord_same h fun row hrow hsame ↦ setProfile_same hw hrow (hg row hrow hsame)
  unfold doProfileChange
  split_ifs with hstatus
  · exact wp_isolirProfile (hset _ (if_pos hstatus))
  · exact wp_normalProfile (hset _ (if_neg hstatus))

theorem doDisable_same {disabled : Bool} {g : Account → Option Account}
    (h : forRecord sub g (w.account sub.login) = some (w.account sub.login))
    (hg : ∀ row, w.record sub.login = some row → g row.account = some row.account →
      disabled = row.disabled) :
    (doDisable sub disabled).wp execCommands Env.Quiet (fun r w' ↦ r = .ok () ∧ w' = w) w :=
  withRecord_same h fun row hrow hsame ↦ setDisabled_same hw hrow (hg row hrow hsame)

/-- When nothing fails, a request that is settled succeeds and changes nothing. -/
theorem applySync_same (h : w.Settled sub) :
    (applySync sub).wp execCommands Env.Quiet (fun r w' ↦ r = .ok () ∧ w' = w) w := by
  refine wp_device (fun hdevice ↦ ?_) fun _ _ ↦ ⟨rfl, rfl⟩
  have hfulfil := h hdevice
  unfold doSync
  unfold World.fulfil at hfulfil
  cases hs : sub.syncStatus with
  | pendingCreate =>
    simp only [hs] at hfulfil
    split_ifs at hfulfil with hrefused
    simp [← Option.some.inj hfulfil] at hrefused
  | pendingProfileChange =>
    simp only [hs] at hfulfil
    refine doProfileChange_same hw hfulfil fun row hrow hsame ↦ ?_
    exact congrArg Account.profile (Option.some.inj hsame)
  | pendingDisable =>
    simp only [hs] at hfulfil
    refine doDisable_same hw hfulfil fun row hrow hsame ↦ ?_
    exact congrArg Account.disabled (Option.some.inj hsame)
  | pendingEnable =>
    simp only [hs] at hfulfil
    have hprofile := doProfileChange_same hw hfulfil fun row hrow hsame ↦
      congrArg Account.profile (Option.some.inj hsame)
    refine (wp_bind (doProfileChange sub) _ w).mpr (wp_mono hprofile ?_)
    rintro r w' ⟨rfl, rfl⟩
    refine doDisable_same hw hfulfil fun row hrow hsame ↦ ?_
    exact congrArg Account.disabled (Option.some.inj hsame)
  | pendingDelete =>
    simp only [hs] at hfulfil
    exact withRecord_same hfulfil fun row hrow hsame ↦ nomatch hsame
  | synced | error => exact ⟨rfl, rfl⟩

end Unchanged

section First

variable {w : World} {sub : Subscription}

/-- The request creates a record that is not there. -/
def World.Adds (w : World) (sub : Subscription) : Prop :=
  sub.syncStatus = .pendingCreate ∧ sub.deviceID ∈ w.connected ∧ sub.mikrotikUsername ≠ "" ∧
    w.account sub.login = none

/-- It makes no difference in the end if the profile that is asked for could not be read
at first. -/
def World.Lenient (w : World) (sub : Subscription) : Prop :=
  sub.syncStatus = .pendingProfileChange ∨ sub.syncStatus = .pendingEnable →
    sub.deviceID ∈ w.connected → ∀ a ∈ w.account sub.login,
      (a.withProfile sub.fallbackName).withProfile (w.targetName sub) =
        a.withProfile sub.fallbackName

theorem SameTerms.fulfil {w w' : World} (h : SameTerms w w') (sub : Subscription) :
    w'.fulfil sub = w.fulfil sub := by
  simp only [World.fulfil, h.normalName, h.targetName]

theorem withProfile_again (a : Account) (profile : String) :
    (a.withProfile profile).withProfile profile = a.withProfile profile := by
  by_cases h : profile = "" <;> simp [Account.withProfile, orDefault, h]

theorem forRecord_again {g g' : Account → Option Account} {a b : Option Account}
    (h : forRecord sub g a = some b) (hg : ∀ c ∈ a, ∀ d ∈ g c, g' d = some d) :
    forRecord sub g' b = some b := by
  unfold forRecord at h ⊢
  split_ifs at h ⊢
  obtain rfl := Option.some.inj h
  cases a with
  | none => rfl
  | some c =>
    cases hd : g c with
    | none => simp [hd]
    | some d => simp [hd, hg c rfl d hd]

/-- A request that the router has taken it would take again, with nothing to do. -/
theorem fulfil_again {b : Option Account} (hcreate : sub.syncStatus ≠ .pendingCreate)
    (h : w.fulfil sub (w.account sub.login) = some b) : w.fulfil sub b = some b := by
  unfold World.fulfil at h ⊢
  cases hs : sub.syncStatus with
  | pendingCreate => exact absurd hs hcreate
  | pendingProfileChange | pendingDisable | pendingDelete =>
    simp only [hs] at h ⊢
    refine forRecord_again h fun c _ d hd ↦ ?_
    cases hd <;> simp only [withProfile_again]
  | pendingEnable =>
    simp only [hs] at h ⊢
    refine forRecord_again h fun c _ d hd ↦ ?_
    obtain rfl := Option.some.inj hd
    exact congrArg (fun a : Account ↦ some { a with disabled := false })
      (withProfile_again c (w.targetName sub))
  | synced | error => simp

/-- What counts of the end of a run. -/
theorem Ends.settled {ok : Env → Prop} {f : Option Account → Option (Option Account)}
    {r : Except Error Unit} {w' : World} (h : Ends ok sub.login f w r w') (hr : r = .ok ())
    (hf : ∀ b, f (w.account sub.login) = some b → w.fulfil sub b = some b) : w'.Settled sub := by
  cases h with
  | refused => cases hr
  | done hdone hput =>
    intro _
    rw [hput.sameTerms.fulfil, World.account, hput.here]
    exact hf _ hdone

section Reads

/-- A read of one name, and what it comes to if the read fails. -/
inductive Reads (w : World) (name dflt : String) : Prog String → Prop
  | known (h : name = dflt) : Reads w name dflt (.ret dflt)
  | asked {c : Call} {k : c.Reply → Prog String}
      (hread : ∀ e, e.fault = none → (c.exec e w).2 = w ∧ k (c.exec e w).1 = .ret name)
      (hfault : ∀ e, e.fault ≠ none → (c.exec e w).2 = w ∧ k (c.exec e w).1 = .ret dflt) :
      Reads w name dflt (.call c k)

theorem normalProfile_reads : Reads w (w.normalName sub) "" (normalProfile sub) := by
  unfold World.normalName normalProfile
  cases hs : sub.serviceType <;> cases hp : sub.pppProfileID <;> cases hh : sub.hotspotProfileID <;>
    simp only
  case pppoe.some.none id | pppoe.some.some id _ =>
    refine .asked (fun e he ↦ ?_) fun e he ↦ ?_
    · simp only [Call.exec, orFault, he, profileName]
      cases w.pppProfiles.find fun r ↦ r.deletedAt = none && r.id == id <;> exact ⟨trivial, rfl⟩
    · obtain ⟨err, hf⟩ := Option.ne_none_iff_exists'.mp he
      simp only [Call.exec, orFault, hf]
      exact ⟨trivial, rfl⟩
  case hotspot.none.some id | hotspot.some.some _ id =>
    refine .asked (fun e he ↦ ?_) fun e he ↦ ?_
    · simp only [Call.exec, orFault, he, profileName]
      cases w.hotspotProfiles.find fun r ↦ r.deletedAt = none && r.id == id <;> exact ⟨trivial, rfl⟩
    · obtain ⟨err, hf⟩ := Option.ne_none_iff_exists'.mp he
      simp only [Call.exec, orFault, hf]
      exact ⟨trivial, rfl⟩
  all_goals exact .known rfl

theorem isolirProfile_reads : Reads w w.isolirName "isolir" isolirProfile := by
  refine .asked (fun e he ↦ ?_) fun e he ↦ ?_
  · simp only [Call.exec, orFault, he, World.isolirName]
    cases w.settings.lookup "billing.isolir_profile_name" <;> exact ⟨trivial, rfl⟩
  · obtain ⟨err, hf⟩ := Option.ne_none_iff_exists'.mp he
    simp only [Call.exec, orFault, hf]
    exact ⟨trivial, rfl⟩

variable {α : Type} {ok : Env → Prop} {Q : α → World → Prop} {name dflt : String} {p : Prog String}
  {k : String → Prog α}

theorem Reads.wp (h : Reads w name dflt p) (hname : (k name).wp Call.exec ok Q w)
    (hdflt : (k dflt).wp Call.exec ok Q w) : (p >>= k).wp Call.exec ok Q w := by
  cases h with
  | known h => exact hdflt
  | asked hread hfault =>
    intro e _
    by_cases he : e.fault = none
    · obtain ⟨hw, hk⟩ := hread e he
      simp only [hw, hk]
      exact hname
    · obtain ⟨hw, hk⟩ := hfault e he
      simp only [hw, hk]
      exact hdflt

/-- The read can fail. -/
theorem Reads.can (h : Reads w name dflt p) {e : Env} (he : ok e) (hfault : e.fault ≠ none)
    (hdflt : (k dflt).can Call.exec ok Q w) : (p >>= k).can Call.exec ok Q w := by
  cases h with
  | known => exact hdflt
  | asked _ hk =>
    refine ⟨e, he, ?_⟩
    obtain ⟨hw, hk⟩ := hk e hfault
    simp only [hw, hk]
    exact hdflt

end Reads
end First

section Runs

variable {w : World} {sub : Subscription} (hw : ∀ id, (w.routers id).WellFormed)

include hw

/-- The profile that is set is the one asked for or the one to fall back on. -/
theorem doProfileChange_may : (doProfileChange sub).wp Call.exec Env.Honest (fun r w' ↦
    ∃ profile, (profile = w.targetName sub ∨ profile = sub.fallbackName) ∧
      Ends Env.Honest sub.login (forRecord sub fun a ↦ some (a.withProfile profile)) w r w') w := by
  have hset : ∀ profile, profile = w.targetName sub ∨ profile = sub.fallbackName →
      (withRecord sub fun row ↦ onRouter sub (.setProfile row.id profile)).wp Call.exec Env.Honest
        (fun r w' ↦ ∃ profile, (profile = w.targetName sub ∨ profile = sub.fallbackName) ∧
          Ends Env.Honest sub.login (forRecord sub fun a ↦ some (a.withProfile profile)) w r w')
        w :=
    fun profile hprofile ↦ wp_mono (recordProfile_ends (fun _ he ↦ he) hw profile)
      fun _ _ h ↦ ⟨profile, hprofile, h⟩
  unfold doProfileChange
  split_ifs with hstatus
  · exact isolirProfile_reads.wp (hset _ (.inl (if_pos hstatus).symm))
      (hset _ (.inr (if_pos hstatus).symm))
  · exact normalProfile_reads.wp (hset _ (.inl (if_neg hstatus).symm))
      (hset _ (.inr (if_neg hstatus).symm))

omit hw

/-- The read of the profile can fail. -/
theorem doProfileChange_blind {Q : Except Error Unit → World → Prop}
    (h : (withRecord sub fun row ↦ onRouter sub (.setProfile row.id sub.fallbackName)).can
      Call.exec Env.Honest Q w) : (doProfileChange sub).can Call.exec Env.Honest Q w := by
  have hhonest : (Env.broken 0).Honest := by
    intro err herr
    obtain rfl := Option.some.inj herr
    rfl
  have hfault : (Env.broken 0).fault ≠ none := Option.some_ne_none _
  unfold doProfileChange
  split_ifs with hstatus
  · rw [Subscription.fallbackName, if_pos hstatus] at h
    exact isolirProfile_reads.can hhonest hfault h
  · rw [Subscription.fallbackName, if_neg hstatus] at h
    exact normalProfile_reads.can hhonest hfault h

include hw

theorem applySync_settles (hadds : ¬w.Adds sub) : (applySync sub).wp execCommands Env.Honest
    (fun r w' ↦ r = .ok () → w'.Settled sub) w := by
  refine wp_device (fun hdevice ↦ ?_) fun hdevice _ _ h ↦ absurd h hdevice
  by_cases hpending : sub.syncStatus.pending
  · refine wp_mono (doSync_ends (fun _ he ↦ he) hw hpending) fun r w' h hr ↦ ?_
    refine h.settled hr fun b hb ↦ ?_
    by_cases hcreate : sub.syncStatus = .pendingCreate
    · refine absurd ⟨hcreate, hdevice, ?_⟩ hadds
      unfold World.fulfil at hb
      simp only [hcreate] at hb
      split_ifs at hb with hrefused
      simpa using hrefused
    · exact fulfil_again hcreate hb
  · unfold doSync
    cases hs : sub.syncStatus with
    | synced | error =>
      intro _ _
      simp [World.fulfil, hs]
    | _ => simp [hs, SyncStatus.pending] at hpending

theorem applySync_settles_blind (hadds : ¬w.Adds sub) (hlenient : w.Lenient sub) :
    (applySync sub).wp Call.exec Env.Honest (fun r w' ↦ r = .ok () → w'.Settled sub) w := by
  refine wp_device (fun hdevice ↦ ?_) fun hdevice _ _ h ↦ absurd h hdevice
  have hagain : ∀ profile, profile = w.targetName sub ∨ profile = sub.fallbackName →
      sub.syncStatus = .pendingProfileChange ∨ sub.syncStatus = .pendingEnable →
      ∀ a ∈ w.account sub.login,
        (a.withProfile profile).withProfile (w.targetName sub) = a.withProfile profile := by
    rintro profile (rfl | rfl) hs a ha
    · exact withProfile_again a _
    · exact hlenient hs hdevice a ha
  unfold doSync
  cases hs : sub.syncStatus with
  | pendingCreate =>
    have hrefused : ∀ (args : AddArgs) (k : Except Error String → Prog (Except Error Unit)),
        args.name = sub.login.name → (∀ err, k (.error err) = pure (.error err)) →
          (onRouter sub (.add args) >>= k).wp Call.exec Env.Honest
            (fun r w' ↦ r = .ok () → w'.Settled sub) w := by
      intro args k hargs hk
      simp only [onRouter, perform_bind]
      refine wp_add (l := sub.login) hw hargs (fun err _ ↦ ?_) ?_
      · rw [hk]
        intro hr
        cases hr
      · intro id w' hname hrow _
        exact absurd ⟨hs, hdevice, hname, by rw [World.account, hrow, Option.map_none]⟩ hadds
    exact normalProfile_reads.wp (hrefused _ _ rfl fun _ ↦ rfl) (hrefused _ _ rfl fun _ ↦ rfl)
  | pendingProfileChange =>
    refine wp_mono (doProfileChange_may hw) fun r w' h hr ↦ ?_
    obtain ⟨profile, hprofile, h⟩ := h
    refine h.settled hr fun b hb ↦ ?_
    simp only [World.fulfil, hs]
    refine forRecord_again hb fun a ha c hc ↦ ?_
    obtain rfl := Option.some.inj hc
    rw [hagain profile hprofile (.inl hs) a ha]
  | pendingEnable =>
    refine (wp_bind (doProfileChange sub) _ w).mpr (wp_mono (doProfileChange_may hw) fun r u h ↦ ?_)
    obtain ⟨profile, hprofile, h⟩ := h
    refine wp_mono (enabled_ends (fun _ he ↦ he) h) fun r w' h hr ↦ ?_
    refine h.settled hr fun b hb ↦ ?_
    simp only [World.fulfil, hs]
    refine forRecord_again hb fun a ha c hc ↦ ?_
    obtain rfl := Option.some.inj hc
    exact congrArg (fun a : Account ↦ some { a with disabled := false })
      (hagain profile hprofile (.inr hs) a ha)
  | pendingDisable =>
    refine wp_mono (doDisable_ends (fun _ he ↦ he) hw true) fun r w' h hr ↦ ?_
    refine h.settled hr fun b hb ↦ fulfil_again (by simp [hs]) ?_
    simpa only [World.fulfil, hs] using hb
  | pendingDelete =>
    refine wp_mono (doRemove_ends (fun _ he ↦ he) hw) fun r w' h hr ↦ ?_
    refine h.settled hr fun b hb ↦ fulfil_again (by simp [hs]) ?_
    simpa only [World.fulfil, hs] using hb
  | synced | error =>
    intro _ _
    simp [World.fulfil, hs]

omit hw

/-- A request that nothing can get in the way of. -/
theorem Ends.taken {f : Option Account → Option (Option Account)} {r : Except Error Unit}
    {w' : World} {b : Option Account} (h : Ends Env.Quiet sub.login f w r w')
    (hf : f (w.account sub.login) = some b) :
    r = .ok () ∧ w'.account sub.login = b ∧ SameTerms w w' := by
  cases h with
  | done hdone hput =>
    rw [hf, Option.some.injEq] at hdone
    exact ⟨rfl, by rw [World.account, hput.here, hdone], hput.sameTerms⟩
  | refused _ hr =>
    refine hr.elim (fun hfaulty ↦ absurd hfaulty quiet_not_faulty) fun hnone ↦ ?_
    rw [hf] at hnone
    cases hnone.1

include hw

/-- The record that has been created is in the way the next time. -/
theorem World.Adds.unsettled (hadds : w.Adds sub) : (applySync sub).wp execCommands Env.Quiet
    (fun r w' ↦ r = .ok () ∧ ¬w'.Settled sub) w := by
  obtain ⟨hs, hdevice, hname, hnone⟩ := hadds
  refine wp_device (fun _ ↦ ?_) fun hoff ↦ absurd hdevice hoff
  have hpending : sub.syncStatus.pending = true := by rw [hs]; rfl
  refine wp_mono (doSync_ends (fun _ ↦ quiet_honest) hw hpending) fun r w' h ↦ ?_
  have hfulfil : w.fulfil sub (w.account sub.login) =
      some (some ⟨sub.mikrotikPassword, orDefault (w.normalName sub) "default", false⟩) := by
    simp [World.fulfil, hs, hname, hnone]
  obtain ⟨hr, haccount, hterms⟩ := h.taken hfulfil
  refine ⟨hr, fun hsettled ↦ ?_⟩
  have hagain := hsettled (hterms.connected ▸ hdevice)
  simp [World.fulfil, hs, haccount] at hagain

/-- The profile that has not been set is set the next time. -/
theorem blind_unsettled (hlenient : ¬w.Lenient sub) : (applySync sub).can Call.exec Env.Honest
    (fun r w' ↦ r = .ok () ∧ ¬w'.Settled sub) w := by
  simp only [World.Lenient, not_forall] at hlenient
  obtain ⟨hs, hdevice, a, ha, hdiffers⟩ := hlenient
  have hcalm : (Env.calm 0).Honest := quiet_honest (Env.calm_quiet 0)
  have hname : sub.mikrotikUsername ≠ "" := by
    intro hname
    rw [account_of_no_name hw hname] at ha
    cases ha
  have htaken : ∀ (g : Account → Account) {r : Except Error Unit} {w' : World},
      Ends Env.Quiet sub.login (forRecord sub fun a ↦ some (g a)) w r w' →
        r = .ok () ∧ w'.account sub.login = some (g a) ∧ SameTerms w w' := by
    intro g r w' h
    exact h.taken (by rw [forRecord, if_neg hname, Option.mem_def.mp ha, Option.bind_some])
  refine ⟨Env.calm 0, hcalm, ?_⟩
  simp only [Call.exec, hdevice, if_true]
  have hprofile : (withRecord sub fun row ↦
      onRouter sub (.setProfile row.id sub.fallbackName)).wp Call.exec Env.Quiet
        (Ends Env.Quiet sub.login
          (forRecord sub fun a ↦ some (a.withProfile sub.fallbackName)) w) w :=
    recordProfile_ends (fun _ ↦ quiet_honest) hw _
  unfold doSync
  obtain hs | hs := hs
  · simp only [hs]
    refine doProfileChange_blind (can_of_wp (wp_mono hprofile fun r w' h ↦ ?_)
      (Env.calm_quiet 0) hcalm)
    obtain ⟨hr, haccount, hterms⟩ := htaken (fun a ↦ a.withProfile sub.fallbackName) h
    refine ⟨hr, fun hsettled ↦ ?_⟩
    have hagain := hsettled (hterms.connected ▸ hdevice)
    rw [hterms.fulfil] at hagain
    simp only [World.fulfil, hs, haccount, forRecord, hname, if_false, Option.bind_some,
      Option.some.injEq] at hagain
    exact hdiffers hagain
  · simp only [hs]
    refine (can_bind (doProfileChange sub) _ w).mpr (doProfileChange_blind (can_of_wp
      (wp_mono hprofile fun r u h ↦ ?_) (Env.calm_quiet 0) hcalm))
    refine can_of_wp (wp_mono (enabled_ends (fun _ ↦ quiet_honest) h) fun r w' h ↦ ?_)
      (Env.calm_quiet 0) hcalm
    obtain ⟨hr, haccount, hterms⟩ :=
      htaken (fun a ↦ { a.withProfile sub.fallbackName with disabled := false }) h
    refine ⟨hr, fun hsettled ↦ ?_⟩
    have hagain := hsettled (hterms.connected ▸ hdevice)
    rw [hterms.fulfil] at hagain
    simp only [World.fulfil, hs, haccount, forRecord, hname, if_false, Option.bind_some,
      Option.some.injEq] at hagain
    exact hdiffers (congrArg (fun b : Account ↦ { a.withProfile sub.fallbackName with
      profile := b.profile }) hagain)

end Runs

namespace Sync

/-- Once the request has succeeded, it succeeds again as long as nothing fails, and the
routers stay as they are. -/
def Rerunnable (exec : (c : Call) → Env → World → c.Reply × World) (w : World)
    (sub : Subscription) : Prop :=
  ∀ env : ℕ → Env, (∀ n, (env n).Honest) →
    ((applySync sub).run exec env w).1 = .ok () →
      ∀ env' : ℕ → Env, (∀ n, (env' n).Quiet) →
        let w' := ((applySync sub).run exec env w).2
        ((applySync sub).run Call.exec env' w').1 = .ok () ∧
          ((applySync sub).run Call.exec env' w').2.routers = w'.routers

section Again

variable {w : World} {sub : Subscription} (hw : ∀ id, (w.routers id).WellFormed)

include hw

theorem settled_of_again {env : ℕ → Env} (henv : ∀ n, (env n).Quiet)
    (hok : ((applySync sub).run Call.exec env w).1 = .ok ())
    (hsame : ((applySync sub).run Call.exec env w).2.routers = w.routers) : w.Settled sub := by
  intro hdevice
  by_cases hpending : sub.syncStatus.pending
  · have hends : (applySync sub).wp execCommands Env.Quiet
        (Ends Env.Quiet sub.login (w.fulfil sub) w) w :=
      wp_device (fun _ ↦ doSync_ends (fun _ ↦ quiet_honest) hw hpending)
        fun hoff ↦ absurd hdevice hoff
    have h := run_of_quiet hends henv
    generalize (applySync sub).run Call.exec env w = result at hok hsame h
    obtain ⟨r, w'⟩ := result
    cases h with
    | refused => cases hok
    | done hf hput =>
      have haccount : w'.account sub.login = w.account sub.login := by
        have hrouters : w'.routers = w.routers := hsame
        simp only [World.account, World.record, hrouters]
      rw [hf, ← haccount, World.account, hput.here]
  · unfold World.fulfil
    cases hs : sub.syncStatus with
    | synced | error => rfl
    | _ => simp [hs, SyncStatus.pending] at hpending

variable {exec : (c : Call) → Env → World → c.Reply × World}
  (hexec : ∀ c e u, (∀ id, (u.routers id).WellFormed) →
    ∀ id, ((exec c e u).2.routers id).WellFormed)

include hexec

theorem rerunnable_of_settles (h : (applySync sub).wp exec Env.Honest
    (fun r w' ↦ r = .ok () → w'.Settled sub) w) : Rerunnable exec w sub := by
  intro env henv hok env' henv'
  have hw' := run_keeps (I := fun u : World ↦ ∀ id, (u.routers id).WellFormed) hexec
    (applySync sub) env hw
  have hsettled := run_of_wp h env henv hok
  obtain ⟨hok', hsame⟩ := run_of_quiet (applySync_same hw' hsettled) henv'
  exact ⟨hok', congrArg World.routers hsame⟩

theorem Rerunnable.settled (h : Rerunnable exec w sub) {env : ℕ → Env}
    (henv : ∀ n, (env n).Honest) (hok : ((applySync sub).run exec env w).1 = .ok ()) :
    ((applySync sub).run exec env w).2.Settled sub := by
  have hw' := run_keeps (I := fun u : World ↦ ∀ id, (u.routers id).WellFormed) hexec
    (applySync sub) env hw
  have hcalm : ∀ n : ℕ, ((fun _ ↦ Env.calm 0 : ℕ → Env) n).Quiet := fun _ ↦ Env.calm_quiet 0
  obtain ⟨hok', hsame⟩ := h env henv hok _ hcalm
  exact settled_of_again hw' hcalm hok' hsame

end Again

/-- A request is safe to execute again unless it creates a record. If the profile it asks for
could not be read, the next time must not make a difference, either. -/
theorem rerunnable_iff (w : World) (sub : Subscription) (hw : ∀ id, (w.routers id).WellFormed) :
    (Rerunnable execCommands w sub ↔ ¬w.Adds sub) ∧
      (Rerunnable Call.exec w sub ↔ ¬w.Adds sub ∧ w.Lenient sub) := by
  have hcalm : ∀ n : ℕ, ((fun _ ↦ Env.calm 0 : ℕ → Env) n).Quiet := fun _ ↦ Env.calm_quiet 0
  have hhonest : ∀ n : ℕ, ((fun _ ↦ Env.calm 0 : ℕ → Env) n).Honest :=
    fun n ↦ quiet_honest (hcalm n)
  have hcommands : ∀ c e u, (∀ id, (u.routers id).WellFormed) →
      ∀ id, ((execCommands c e u).2.routers id).WellFormed :=
    fun c _ _ hu ↦ Call.exec_wellFormed hu c _
  have hexec : ∀ c e u, (∀ id, (u.routers id).WellFormed) →
      ∀ id, ((Call.exec c e u).2.routers id).WellFormed :=
    fun c e _ hu ↦ Call.exec_wellFormed hu c e
  constructor
  · constructor
    · intro h hadds
      obtain ⟨hok, hunsettled⟩ := run_of_wp (hadds.unsettled hw) _ hcalm
      exact hunsettled (h.settled hw hcommands hhonest hok)
    · intro hadds
      exact rerunnable_of_settles hw hcommands (applySync_settles hw hadds)
  · constructor
    · intro h
      refine ⟨fun hadds ↦ ?_, ?_⟩
      · obtain ⟨hok, hunsettled⟩ := run_of_quiet (hadds.unsettled hw) hcalm
        exact hunsettled (h.settled hw hexec hhonest hok)
      · by_contra hlenient
        obtain ⟨env, henv, hok, hunsettled⟩ := run_of_can (blind_unsettled hw hlenient) (hhonest 0)
        exact hunsettled (h.settled hw hexec henv hok)
    · rintro ⟨hadds, hlenient⟩
      exact rerunnable_of_settles hw hexec (applySync_settles_blind hw hadds hlenient)

/-- The subscription of `requesting`, as a batch has it. -/
def requested (syncStatus : SyncStatus) : Subscription where
  id := 1
  customerID := 1
  deviceID := 1
  pppProfileID := some 1
  hotspotProfileID := none
  serviceType := .pppoe
  mikrotikUsername := "budi"
  mikrotikPassword := "rahasia"
  status := .active
  billingDay := some 1
  nextInvoiceDate := none
  syncStatus
  syncNotes := ""
  syncRetryCount := 0
  activatedAt := some 0
  terminatedAt := none
  notes := ""
  deletedAt := none

theorem enabling_rerunnable :
    Rerunnable Call.exec (requesting .pendingEnable provisionedRouter)
      (requested .pendingEnable) := by
  have hw : ∀ id, ((requesting .pendingEnable provisionedRouter).routers id).WellFormed :=
    fun _ ↦ RouterCall.exec_wellFormed Router.blank_wellFormed _ _
  refine (rerunnable_iff _ _ hw).2.mpr ⟨fun hadds ↦ ?_, fun _ _ ↦ ?_⟩
  · cases hadds.1
  · decide +kernel

/-- The process stops after the secret has been added. -/
theorem creation_not_rerunnable :
    ¬Rerunnable execCommands (requesting .pendingCreate .blank) (requested .pendingCreate) ∧
      ¬Rerunnable Call.exec (requesting .pendingCreate .blank) (requested .pendingCreate) := by
  have hquiet : ∀ n : ℕ, ((fun _ ↦ Env.calm 0 : ℕ → Env) n).Quiet := fun _ ↦ Env.calm_quiet 0
  have hhonest : ∀ n : ℕ, ((fun _ ↦ Env.calm 0 : ℕ → Env) n).Honest :=
    fun n ↦ quiet_honest (hquiet n)
  constructor
  · intro h
    have hagain := (h _ hhonest (by decide +kernel) _ hquiet).1
    revert hagain
    decide +kernel
  · intro h
    have hagain := (h _ hhonest (by decide +kernel) _ hquiet).1
    revert hagain
    decide +kernel

end Sync

end Rosmon
