import Rosmon.Sync.Commands

namespace Rosmon

open Library Store Mikrotik Program Job

/-- The name of a profile row, or nothing. -/
def profileName (t : Table Profile) (id : ℕ) : String :=
  match t.find fun r ↦ r.deletedAt = none && r.id == id with
  | some p => p.name
  | none => ""

/-- What `normalProfile` and `isolirProfile` find when no read fails. -/
def World.normalName (w : World) (sub : Subscription) : String :=
  match sub.serviceType, sub.pppProfileID, sub.hotspotProfileID with
  | .pppoe, some id, _ => profileName w.pppProfiles id
  | .hotspot, _, some id => profileName w.hotspotProfiles id
  | _, _, _ => ""

def World.isolirName (w : World) : String :=
  match w.settings.lookup "billing.isolir_profile_name" with
  | none => "isolir"
  | some v => if v ≠ "" then v else "isolir"

/-- The profile a request to change it asks for. -/
def World.targetName (w : World) (sub : Subscription) : String :=
  if sub.status = .isolir then w.isolirName else w.normalName sub

/-- What a row says about which record it means and which profile that should have. -/
def Store.Subscription.plan (sub : Subscription) : Login × Option ℕ × Option ℕ :=
  (sub.login, sub.pppProfileID, sub.hotspotProfileID)

theorem login_of_plan {a b : Subscription} (h : a.plan = b.plan) : a.login = b.login :=
  congrArg Prod.fst h

theorem normalName_of_plan (w : World) {a b : Subscription} (h : a.plan = b.plan) :
    w.normalName a = w.normalName b := by
  have hservice : a.serviceType = b.serviceType := congrArg Login.service (login_of_plan h)
  have hppp : a.pppProfileID = b.pppProfileID := congrArg (·.2.1) h
  have hhotspot : a.hotspotProfileID = b.hotspotProfileID := congrArg (·.2.2) h
  simp only [World.normalName, hservice, hppp, hhotspot]

theorem isolirName_ne_empty (w : World) : w.isolirName ≠ "" := by
  unfold World.isolirName
  split
  · decide
  · split_ifs with hv
    · exact hv
    · decide

theorem SameTerms.normalName {w w' : World} (h : SameTerms w w') (sub : Subscription) :
    w'.normalName sub = w.normalName sub := by
  simp only [World.normalName, h.pppProfiles, h.hotspotProfiles]

theorem SameTerms.isolirName {w w' : World} (h : SameTerms w w') : w'.isolirName = w.isolirName := by
  simp only [World.isolirName, h.settings]

theorem SameTerms.targetName {w w' : World} (h : SameTerms w w') (sub : Subscription) :
    w'.targetName sub = w.targetName sub := by
  simp only [World.targetName, h.normalName, h.isolirName]

theorem Puts.sameTerms {l : Login} {o : Option Record} {w w' : World} (h : Puts l o w w') :
    SameTerms w w' := by
  rw [h.rest]
  exact ⟨rfl, rfl, rfl, rfl⟩

/-- An empty name is not sent, and leaves the profile as it is. -/
def Mikrotik.Account.withProfile (a : Account) (profile : String) : Account :=
  { a with profile := orDefault profile a.profile }

@[simp] theorem withProfile_disabled (a : Account) (profile : String) :
    (a.withProfile profile).disabled = a.disabled := rfl

/-- What a lookup by the name of the subscription makes of its account, if the record
that is found becomes `g`. -/
def forRecord (sub : Subscription) (g : Account → Option Account) (a : Option Account) :
    Option (Option Account) :=
  if sub.mikrotikUsername = "" then none else some (a.bind g)

/-- What a request makes of the account of its subscription, if the router takes it. -/
def World.fulfil (w : World) (sub : Subscription) : Option Account → Option (Option Account) :=
  match sub.syncStatus with
  | .pendingCreate => fun a ↦
    if sub.mikrotikUsername = "" ∨ a.isSome then none
    else some (some ⟨sub.mikrotikPassword, orDefault (w.normalName sub) "default", false⟩)
  | .pendingProfileChange => forRecord sub fun a ↦ some (a.withProfile (w.targetName sub))
  | .pendingDisable => forRecord sub fun a ↦ some { a with disabled := true }
  | .pendingEnable => forRecord sub fun a ↦
    some { a.withProfile (w.targetName sub) with disabled := false }
  | .pendingDelete => forRecord sub fun _ ↦ none
  | .synced | .error => some

/-- How a program that acts for one login ends: it makes `f` of the account, or it
reports an error, because a command has failed or because there is nothing to make. -/
inductive Ends (ok : Env → Prop) (l : Login) (f : Option Account → Option (Option Account))
    (w : World) : Except Error Unit → World → Prop
  | done {o : Option Record} {w' : World} (hf : f (w.account l) = some (o.map Record.account))
      (h : Puts l o w w') : Ends ok l f w (.ok ()) w'
  | refused {err : Error} {o : Option Record} {w' : World} (h : Puts l o w w')
      (hr : Faulty ok ∨ f (w.account l) = none ∧ o = w.record l) : Ends ok l f w (.error err) w'

section Programs

variable {α : Type} {ok : Env → Prop} {Q : α → World → Prop} {w : World} {sub : Subscription}

theorem wp_normalProfile {k : String → Prog α}
    (h : (k (w.normalName sub)).wp execCommands ok Q w) :
    (normalProfile sub >>= k).wp execCommands ok Q w := by
  unfold World.normalName at h
  unfold normalProfile
  cases hs : sub.serviceType <;> cases hp : sub.pppProfileID <;> cases hh : sub.hotspotProfileID <;>
    simp only [hs, hp, hh] at h ⊢
  case pppoe.some.none id | pppoe.some.some id _ =>
    intro e _
    simp only [profileName] at h
    simp only [execCommands, Call.isCommand, Call.exec, orFault]
    cases hfind : w.pppProfiles.find fun r ↦ r.deletedAt = none && r.id == id <;>
      simp only [hfind] at h <;> exact h
  case hotspot.none.some id | hotspot.some.some _ id =>
    intro e _
    simp only [profileName] at h
    simp only [execCommands, Call.isCommand, Call.exec, orFault]
    cases hfind : w.hotspotProfiles.find fun r ↦ r.deletedAt = none && r.id == id <;>
      simp only [hfind] at h <;> exact h
  all_goals exact h

theorem wp_isolirProfile {k : String → Prog α} (h : (k w.isolirName).wp execCommands ok Q w) :
    (isolirProfile >>= k).wp execCommands ok Q w := by
  intro e _
  unfold World.isolirName at h
  simp only [execCommands, Call.isCommand, Call.exec, orFault]
  cases hv : w.settings.lookup "billing.isolir_profile_name" with
  | none =>
    rw [hv] at h
    exact h
  | some v =>
    rw [hv] at h
    exact h

variable (hok : ∀ e, ok e → e.Honest) (hw : ∀ id, (w.routers id).WellFormed)

section Lookups

variable {exec : (c : Call) → Env → World → c.Reply × World} [OnDevices exec]

include hok hw

/-- A lookup and a change of what it has found. -/
theorem withRecord_ends {change : Record → Prog (Except Error Unit)}
    {g : Account → Option Account} (hfound : ∀ row, w.record sub.login = some row →
      (change row).wp exec ok (Ends ok sub.login (fun _ ↦ some (g row.account)) w) w) :
    (withRecord sub change).wp exec ok (Ends ok sub.login (forRecord sub g) w) w := by
  have hsame : Puts sub.login (w.record sub.login) w w := .refl hw _
  simp only [withRecord, onRouter, perform_bind]
  refine wp_byName (l := sub.login) hok ?_ ?_ ?_
  · intro err herr hr
    simp only [herr, Bool.false_eq_true, if_false, pure_eq, wp_ret]
    refine .refused hsame (hr.imp_right fun hname ↦ ⟨?_, rfl⟩)
    have hname' : sub.mikrotikUsername = "" := hname
    simp [forRecord, hname']
  · intro hname hrow
    rw [hrow] at hsame
    have hname' : sub.mikrotikUsername ≠ "" := hname
    exact .done (by simp [forRecord, hname', World.account, hrow]) hsame
  · intro row hname hrow
    have hname' : sub.mikrotikUsername ≠ "" := hname
    refine wp_mono (hfound row hrow) fun r w' h ↦ ?_
    cases h with
    | done hf h => exact .done (by simpa [forRecord, hname', World.account, hrow] using hf) h
    | refused h hr => exact .refused h (hr.imp_right fun hnone ↦ nomatch hnone.1)

omit hok

theorem setProfile_ends {row : Record} (hrow : w.record sub.login = some row) (profile : String) :
    (onRouter sub (.setProfile row.id profile)).wp exec ok
      (Ends ok sub.login (fun _ ↦ some (some (row.account.withProfile profile))) w) w := by
  refine wp_setProfile (l := sub.login) hw hrow ?_ ?_
  · intro err hf
    exact .refused (.refl hw _) (.inl hf)
  · intro w' hput
    exact .done rfl hput

theorem setDisabled_ends {row : Record} (hrow : w.record sub.login = some row) (disabled : Bool) :
    (onRouter sub (.setDisabled row.id disabled)).wp exec ok
      (Ends ok sub.login (fun _ ↦ some (some { row.account with disabled })) w) w := by
  refine wp_setDisabled (l := sub.login) hw hrow ?_ ?_
  · intro err hf
    exact .refused (.refl hw _) (.inl hf)
  · intro w' hput
    exact .done rfl hput

theorem remove_ends {row : Record} (hrow : w.record sub.login = some row) :
    (onRouter sub (.remove row.id)).wp exec ok
      (Ends ok sub.login (fun _ ↦ some none) w) w := by
  refine wp_remove (l := sub.login) hw hrow ?_ ?_
  · intro err hf
    exact .refused (.refl hw _) (.inl hf)
  · intro w' hput
    exact .done rfl hput

include hok

theorem recordProfile_ends (profile : String) : (withRecord sub fun row ↦
    onRouter sub (.setProfile row.id profile)).wp exec ok
      (Ends ok sub.login (forRecord sub fun a ↦ some (a.withProfile profile)) w) w :=
  withRecord_ends hok hw fun _ hrow ↦ setProfile_ends hw hrow profile

theorem doDisable_ends (disabled : Bool) : (doDisable sub disabled).wp exec ok
    (Ends ok sub.login (forRecord sub fun a ↦ some { a with disabled }) w) w :=
  withRecord_ends hok hw fun _ hrow ↦ setDisabled_ends hw hrow disabled

theorem doRemove_ends : (doRemove sub).wp exec ok
    (Ends ok sub.login (forRecord sub fun _ ↦ none) w) w :=
  withRecord_ends hok hw fun _ hrow ↦ remove_ends hw hrow

omit hw

/-- After the change of the profile comes that of the flag. -/
theorem enabled_ends {profile : String} {r : Except Error Unit} {u : World}
    (h : Ends ok sub.login (forRecord sub fun a ↦ some (a.withProfile profile)) w r u) :
    (match r with
      | .error err => (pure (.error err) : Prog (Except Error Unit))
      | .ok () => doDisable sub false).wp exec ok (Ends ok sub.login
        (forRecord sub fun a ↦ some { a.withProfile profile with disabled := false }) w) u := by
  cases h with
  | refused h hr =>
    refine .refused h (hr.imp_right fun hnone ↦ ⟨?_, hnone.2⟩)
    simpa [forRecord] using hnone.1
  | done hf h =>
    refine wp_mono (doDisable_ends hok h.wellFormed false) fun r' w' h' ↦ ?_
    have hname : sub.mikrotikUsername ≠ "" := by
      intro hname
      simp [forRecord, hname] at hf
    have hu : u.account sub.login =
        (w.account sub.login).bind fun a ↦ some (a.withProfile profile) := by
      rw [forRecord, if_neg hname, Option.some.injEq] at hf
      rw [World.account, h.here, hf]
    cases h' with
    | done hf' h' =>
      refine .done ?_ (h.trans h')
      rw [hu] at hf'
      cases ha : w.account sub.login <;> simpa [forRecord, hname, ha] using hf'
    | refused h' hr =>
      refine .refused (h.trans h') (hr.imp_right fun hnone ↦ ?_)
      simp [forRecord, hname] at hnone

end Lookups

include hw

theorem doCreate_ends (hpending : sub.syncStatus = .pendingCreate) :
    (doCreate sub).wp execCommands ok (Ends ok sub.login (w.fulfil sub) w) w := by
  refine wp_normalProfile ?_
  simp only [onRouter, perform_bind]
  refine wp_add (l := sub.login) hw rfl ?_ ?_
  · intro err hr
    refine .refused (.refl hw _) (hr.imp_right fun h ↦ ⟨?_, rfl⟩)
    have h' : sub.mikrotikUsername = "" ∨ (w.account sub.login).isSome := by
      refine h.imp_right fun hrow ↦ ?_
      simpa [World.account, Option.isSome_iff_ne_none] using hrow
    simp only [World.fulfil, hpending, h', if_true]
  · intro id w' hname hrow hput
    have hname' : sub.mikrotikUsername ≠ "" := hname
    refine .done ?_ hput
    simp [World.fulfil, hpending, hname', World.account, hrow, Record.account, Router.newRecord]

include hok

theorem doProfileChange_ends : (doProfileChange sub).wp execCommands ok
    (Ends ok sub.login (forRecord sub fun a ↦ some (a.withProfile (w.targetName sub))) w) w := by
  unfold World.targetName doProfileChange
  split_ifs
  · exact wp_isolirProfile (recordProfile_ends hok hw _)
  · exact wp_normalProfile (recordProfile_ends hok hw _)

theorem doEnable_ends : (doEnable sub).wp execCommands ok (Ends ok sub.login
    (forRecord sub fun a ↦ some { a.withProfile (w.targetName sub) with disabled := false }) w)
      w :=
  (wp_bind _ _ _).mpr (wp_mono (doProfileChange_ends hok hw) fun _ _ h ↦ enabled_ends hok h)

/-- The commands of a request make of the account what the request is for. -/
theorem doSync_ends (hpending : sub.syncStatus.pending) :
    (doSync sub).wp execCommands ok (Ends ok sub.login (w.fulfil sub) w) w := by
  unfold doSync
  cases hs : sub.syncStatus with
  | pendingCreate => exact doCreate_ends hw hs
  | pendingProfileChange => simpa only [World.fulfil, hs] using doProfileChange_ends hok hw
  | pendingDisable => simpa only [World.fulfil, hs] using doDisable_ends hok hw true
  | pendingEnable => simpa only [World.fulfil, hs] using doEnable_ends hok hw
  | pendingDelete => simpa only [World.fulfil, hs] using doRemove_ends hok hw
  | synced | error => simp [hs, SyncStatus.pending] at hpending

end Programs

end Rosmon
