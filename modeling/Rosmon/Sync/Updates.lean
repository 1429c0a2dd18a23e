import Rosmon.Sync.Shape
import Rosmon.Sync.Warnings

namespace Rosmon.Sync

open Library Store Mikrotik Program Service Job Handler

/-- The router is as the status of the row demands. -/
def AsDemanded (w : World) (sub : Subscription) : Prop :=
  match sub.status with
  | .active | .isolir | .suspended => InShape w sub
  | .terminated => w.record sub.login = none
  | .pendingInstall => True

instance (w : World) (sub : Subscription) : Decidable (AsDemanded w sub) := by
  unfold AsDemanded
  split <;> infer_instance

/-- An update that is answered without a warning leaves the router as demanded. -/
def Preserves (w : World) (id : ℕ) (req : SubscriptionUpdateRequest) : Prop :=
  ∀ env : ℕ → Env, (∀ n, (env n).Honest) → ∀ body,
    ((updateSubscription id req).run Call.exec env w).1 = .success 200 body → body.warning = "" →
      ∀ sub, ((updateSubscription id req).run Call.exec env w).2.row id = some sub →
        AsDemanded ((updateSubscription id req).run Call.exec env w).2 sub

/-- The change of a profile that a request asks for, unless it is refused. -/
def changedTo (t : Table Profile) (deviceID : ℕ) (current requested : Option ℕ) :
    Option (Option (ℕ × String)) :=
  match requested with
  | none => some none
  | some id =>
    if current = some id then some none
    else match t.find fun r ↦ r.deletedAt = none && r.id == id with
    | none => none
    | some p => if p.deviceID ≠ deviceID then none else some (some (id, p.name))

/-- The row that an update leads to and the name of the profile it sends to the router. -/
def accepts (w : World) (sub : Subscription) (req : SubscriptionUpdateRequest) :
    Option (Subscription × String) :=
  if req.valid then
    match changedTo w.pppProfiles sub.deviceID sub.pppProfileID req.pppProfileID,
      changedTo w.hotspotProfiles sub.deviceID sub.hotspotProfileID req.hotspotProfileID with
    | some ppp, some hotspot => some (req.apply ppp hotspot sub, newProfileName ppp hotspot)
    | _, _ => none
  else none

/-- The update is refused, or what it sends makes the record what the row demands. -/
def SendsDemanded (w : World) (sub : Subscription) (req : SubscriptionUpdateRequest) : Prop :=
  match accepts w sub req with
  | none => True
  | some (sub', sent) =>
    sub.mikrotikUsername = "" ∨ match sub.status, w.account sub.login with
      | .pendingInstall, _ => True
      | .terminated, _ => False
      | _, none => orDefault sent "default" = w.targetName sub'
      | _, some a =>
        a.disabled = (demanded w sub').2 ∧ orDefault sent a.profile = w.targetName sub'

section Lookups

variable {α : Type} {ok : Env → Prop} {w : World}

theorem faulty_of {e : Env} (he : ok e) {err : Error} (h : e.fault = some err) : Faulty ok :=
  ⟨e, he, by simp [h]⟩

/-- How a lookup of a profile ends. -/
def Looked (ok : Env → Prop) (t : Table Profile) (id : ℕ) (r : Except Error Profile) : Prop :=
  match r with
  | .error _ => Faulty ok ∨ t.find (fun r ↦ r.deletedAt = none && r.id == id) = none
  | .ok p => t.find (fun r ↦ r.deletedAt = none && r.id == id) = some p

theorem pppProfiles_looked (id : ℕ) : (perform (.pppProfiles id)).wp Call.exec ok
    (fun r w' ↦ w' = w ∧ Looked ok w.pppProfiles id r) w := by
  intro e he
  cases hf : e.fault with
  | some err =>
    simp only [Call.exec, orFault, hf]
    exact ⟨rfl, .inl (faulty_of he hf)⟩
  | none =>
    simp only [Call.exec, orFault, hf]
    refine ⟨rfl, ?_⟩
    cases h : w.pppProfiles.find fun r ↦ r.deletedAt = none && r.id == id with
    | none => exact .inr h
    | some p => exact h

theorem hotspotProfiles_looked (id : ℕ) : (perform (.hotspotProfiles id)).wp Call.exec ok
    (fun r w' ↦ w' = w ∧ Looked ok w.hotspotProfiles id r) w := by
  intro e he
  cases hf : e.fault with
  | some err =>
    simp only [Call.exec, orFault, hf]
    exact ⟨rfl, .inl (faulty_of he hf)⟩
  | none =>
    simp only [Call.exec, orFault, hf]
    refine ⟨rfl, ?_⟩
    cases h : w.hotspotProfiles.find fun r ↦ r.deletedAt = none && r.id == id with
    | none => exact .inr h
    | some p => exact h

/-- How the check of one of the two profiles of a request ends. -/
def Checked (ok : Env → Prop) (t : Table Profile) (deviceID : ℕ) (current requested : Option ℕ)
    (r : Except (Response SubscriptionWriteResponse) (Option (ℕ × String))) : Prop :=
  match r with
  | .error answer =>
    ¬answer.Accepted ∧ (Faulty ok ∨ changedTo t deviceID current requested = none)
  | .ok change => changedTo t deviceID current requested = some change

theorem changedProfile_checked {t : Table Profile} {current requested : Option ℕ} {deviceID : ℕ}
    {kind : String} {missing : Sentinel} {get : ℕ → Prog (Except Error Profile)}
    (hget : ∀ id, (get id).wp Call.exec ok (fun r w' ↦ w' = w ∧ Looked ok t id r) w) :
    (changedProfile current requested deviceID kind missing get).wp Call.exec ok
      (fun r w' ↦ w' = w ∧ Checked ok t deviceID current requested r) w := by
  unfold changedProfile
  cases requested with
  | none => exact ⟨rfl, rfl⟩
  | some id =>
    dsimp only
    by_cases hsame : current = some id
    · simp only [hsame, if_true, pure_eq, wp_ret, Checked, changedTo, and_self]
    · simp only [hsame, if_false]
      refine (wp_bind _ _ _).mpr (wp_mono (hget id) ?_)
      intro r w' h
      obtain ⟨rfl, hlooked⟩ := h
      cases r with
      | error err =>
        refine ⟨rfl, ?_, hlooked.imp_right fun hnone ↦ ?_⟩
        · split
          · simp [Response.Accepted, Response.status]
          · exact writeErr_not_accepted err
        · simp only [changedTo, hsame, if_false, hnone]
      | ok p =>
        have hfound : t.find (fun r ↦ r.deletedAt = none && r.id == id) = some p := hlooked
        dsimp only
        by_cases hdevice : p.deviceID = deviceID
        · simp only [hdevice, ne_eq, not_true_eq_false, if_false, pure_eq, wp_ret, Checked,
            changedTo, hsame, hfound, and_self]
        · simp only [hdevice, ne_eq, not_false_eq_true, if_true, pure_eq, wp_ret, Checked,
            changedTo, hsame, if_false, hfound, or_true, and_true, true_and]
          simp [Response.Accepted, Response.status]

end Lookups

section Commands

variable {ok : Env → Prop} {w : World} {sub : Subscription}

/-- A lookup of names. -/
def looksUp : Call → Prop
  | .pppProfiles _ | .hotspotProfiles _ | .settings _ => True
  | _ => False

theorem looksUp_keeps {α : Type} {p : Prog α} (hp : p.Only looksUp) :
    p.wp Call.exec ok (fun _ w' ↦ w' = w) w := by
  refine hp.wp (I := fun w' ↦ w' = w) ?_ rfl
  intro c e u hc _ hu
  rw [hu]
  cases c with
  | pppProfiles | hotspotProfiles | settings =>
    exact orFault_keeps (P := fun w' ↦ w' = w) rfl rfl
  | _ => exact hc.elim

/-- The flag does not depend on what the lookups find. -/
theorem resolveProfileForSub_flag (status : SubscriptionStatus) :
    (resolveProfileForSub sub status).wp Call.exec ok
      (fun r w' ↦ r.2 = (profileForStatus status "" "").2 ∧ w' = w) w := by
  have hnormal : (normalProfile sub).Only looksUp := by
    unfold normalProfile
    split
    · exact ⟨trivial, fun _ ↦ trivial⟩
    · exact ⟨trivial, fun _ ↦ trivial⟩
    · trivial
  have hisolir : isolirProfile.Only looksUp := by
    refine ⟨trivial, fun r ↦ ?_⟩
    cases r <;> trivial
  unfold resolveProfileForSub
  refine (wp_bind _ _ _).mpr (wp_mono (looksUp_keeps hnormal) ?_)
  intro name _ hu
  rw [hu]
  refine (wp_bind _ _ _).mpr (wp_mono (looksUp_keeps hisolir) ?_)
  intro isolirName _ hu
  rw [hu]
  exact ⟨by cases status <;> rfl, rfl⟩

/-- What `trySetOnRouter` makes of the account. -/
def sent (sub : Subscription) (newProfileName : String) :
    Option Account → Option (Option Account) :=
  lookedUp sub (some (some ⟨sub.mikrotikPassword, orDefault newProfileName "default",
      (profileForStatus sub.status "" "").2⟩))
    fun a ↦ some (a.set sub.mikrotikPassword newProfileName none)

/-- The router refuses to look up nobody. -/
theorem sent_eq_none {newProfileName : String} {a : Option Account} :
    sent sub newProfileName a = none ↔ sub.mikrotikUsername = "" := by
  cases a <;> simp [sent, lookedUp]

theorem trySetOnRouter_warns (hok : ∀ e, ok e → e.Honest) (hw : ∀ id, (w.routers id).WellFormed)
    (hdevice : sub.deviceID ∈ w.connected) (newProfileName : String) :
    (trySetOnRouter sub newProfileName).wp Call.exec ok
      (Warns ok sub.login (sent sub newProfileName) w) w := by
  refine whileOnline_wp (fun _ ↦ ?_) fun h ↦ absurd hdevice h
  refine lookup_warns hw hok (fun hrow hname ↦ ?_) fun row hrow ↦ set_warns hw hrow _ _ _
  refine (wp_bind _ _ _).mpr (wp_mono (resolveProfileForSub_flag sub.status) ?_)
  intro r u hr
  obtain ⟨profile, disabled⟩ := r
  obtain ⟨hflag, rfl⟩ := hr
  refine whileOnline_wp (fun _ ↦ ?_) fun h ↦ absurd hdevice h
  refine wp_mono (addRecord_warns hw newProfileName disabled) fun text w' h ↦ h.congr ?_
  have hflag' : disabled = (profileForStatus sub.status "" "").2 := hflag
  simp [added, hname, World.account, hrow, hflag']

end Commands

section Updating

variable {ok : Env → Prop} {w : World} {id : ℕ} {sub sub' : Subscription}

/-- What is saved is the row from then on. -/
def saved (w : World) (sub : Subscription) : World :=
  { w with subscriptions :=
      w.subscriptions.update (fun r ↦ r.id == sub.id) (Subscription.replace sub) }

/-- No other row has the login of one that keeps its own. -/
theorem save_ok (hw : w.Sane) (hrow : w.row id = some sub) (hid : sub'.id = sub.id)
    (hlogin : sub'.login = sub.login) (err : Error) :
    saveSubscription err sub' w.subscriptions = (.ok (), (saved w sub').subscriptions) := by
  obtain ⟨hmem, hlive, _⟩ := row_iff.mp hrow
  have hfree : (w.subscriptions.find fun r ↦ r.live && r.sameLogin sub' && r.id != sub'.id) =
      none := by
    refine Table.find_eq_none.mpr fun r hr ↦ ?_
    by_contra hother
    simp only [Bool.not_eq_false, Bool.and_eq_true, bne_iff_ne, ne_eq] at hother
    obtain ⟨⟨hrlive, hsame⟩, hne⟩ := hother
    have hrlogin := (sameLogin_iff.mp hsame).trans hlogin
    have heq := hw.logins r hr sub hmem hrlive hlive hrlogin
    exact hne (heq ▸ hid.symm)
  simp only [saveSubscription, hfree, Option.isSome_none, Bool.false_eq_true, if_false,
    saved]

theorem row_saved (hrow : w.row id = some sub) (hid : sub'.id = sub.id)
    (hdeleted : sub'.deletedAt = sub.deletedAt) : (saved w sub').row id = some sub' := by
  obtain ⟨hmem, hlive, hsub⟩ := row_iff.mp hrow
  refine row_iff.mpr ⟨?_, ?_, hid.trans hsub⟩
  · have hin := Table.mem_update_of (f := Subscription.replace sub')
      (p := fun r : Subscription ↦ r.id == sub'.id) hmem (by simp [hid])
    have hsame : Subscription.replace sub' sub = sub' := by
      simp only [Subscription.replace, ← hid]
    rwa [hsame] at hin
  · simpa [Subscription.live, hdeleted] using hlive

/-- How an update ends: it is refused, or the row is saved and the rest is up to the
router. -/
inductive Updated (ok : Env → Prop) (w : World) (id : ℕ) (sub : Subscription)
    (req : SubscriptionUpdateRequest) : Response SubscriptionWriteResponse → World → Prop
  | refused {answer : Response SubscriptionWriteResponse} {w' : World} (h : ¬answer.Accepted)
      (hr : Faulty ok ∨ accepts w sub req = none) : Updated ok w id sub req answer w'
  | saved {sub' : Subscription} {name text : String} {w' : World}
      (ha : accepts w sub req = some (sub', name)) (hrow : (saved w sub').row id = some sub')
      (h : Warns ok sub.login (sent sub' name) (saved w sub') text w') :
      Updated ok w id sub req (.success 200 ⟨sub', text⟩) w'

theorem wp_get {α : Type} {Q : α → World → Prop} (hrow : w.row id = some sub)
    {k : Except Error Subscription → Prog α}
    (herr : ∀ err, Faulty ok → (k (.error err)).wp Call.exec ok Q w)
    (hsome : (k (.ok sub)).wp Call.exec ok Q w) :
    (Program.call (.subscriptions (.get id)) k).wp Call.exec ok Q w := by
  intro e he
  have hfind : w.subscriptions.find (Subscription.liveAt id) = some sub := hrow
  cases hf : e.fault with
  | some err => simpa only [Call.exec, orFault, hf] using herr err (faulty_of he hf)
  | none =>
    simp only [Call.exec, SubscriptionCall.exec, orFault, hf, hfind, found_some]
    exact hsome

theorem wp_save {α : Type} {Q : α → World → Prop} (hw : w.Sane) (hrow : w.row id = some sub)
    (hid : sub'.id = sub.id) (hlogin : sub'.login = sub.login) {k : Except Error Unit → Prog α}
    (herr : ∀ err, Faulty ok → (k (.error err)).wp Call.exec ok Q w)
    (hsaved : (k (.ok ())).wp Call.exec ok Q (saved w sub')) :
    (Program.call (.subscriptions (.update sub')) k).wp Call.exec ok Q w := by
  intro e he
  have hsave := save_ok hw hrow hid hlogin (.of .subscriptionUsernameTaken)
  cases hf : e.fault with
  | some err => simpa only [Call.exec, orFault, hf] using herr err (faulty_of he hf)
  | none =>
    simp only [Call.exec, SubscriptionCall.exec, orFault, hf, hsave]
    exact hsaved

theorem updateSubscription_updated (hok : ∀ e, ok e → e.Honest) (hw : w.Sane)
    (hrow : w.row id = some sub) (hdevice : sub.deviceID ∈ w.connected)
    (req : SubscriptionUpdateRequest) : (updateSubscription id req).wp Call.exec ok
      (Updated ok w id sub req) w := by
  unfold updateSubscription
  cases hvalid : req.valid with
  | false =>
    simp only [Bool.false_eq_true, not_false_eq_true, if_true, pure_eq, wp_ret]
    refine .refused (by simp [Response.Accepted, Response.status]) (.inr ?_)
    simp [accepts, hvalid]
  | true =>
  simp only [not_true_eq_false, if_false, withSubscription, perform_bind]
  refine wp_get hrow (fun err hf ↦ ?_) ?_
  · refine .refused ?_ (.inl hf)
    split
    · simp [Response.Accepted, Response.status]
    · exact writeErr_not_accepted err
  refine (wp_bind _ _ _).mpr (wp_mono (changedProfile_checked pppProfiles_looked) ?_)
  intro r u h
  obtain ⟨rfl, hppp⟩ := h
  cases r with
  | error answer =>
    refine .refused hppp.1 (hppp.2.imp_right fun hnone ↦ ?_)
    simp [accepts, hnone]
  | ok ppp =>
  refine (wp_bind _ _ _).mpr (wp_mono (changedProfile_checked hotspotProfiles_looked) ?_)
  intro r u' h
  obtain ⟨rfl, hhotspot⟩ := h
  have hppp' : changedTo u'.pppProfiles sub.deviceID sub.pppProfileID req.pppProfileID =
    some ppp := hppp
  cases r with
  | error answer =>
    refine .refused hhotspot.1 (hhotspot.2.imp_right fun hnone ↦ ?_)
    simp [accepts, hnone, hppp']
  | ok hotspot =>
  have hhotspot' : changedTo u'.hotspotProfiles sub.deviceID sub.hotspotProfileID
    req.hotspotProfileID = some hotspot := hhotspot
  have ha : accepts u' sub req =
      some (req.apply ppp hotspot sub, newProfileName ppp hotspot) := by
    simp only [accepts, hvalid, if_true, hppp', hhotspot']
  have hid : (req.apply ppp hotspot sub).id = sub.id := rfl
  refine wp_save hw hrow hid rfl (fun err hf ↦ ?_) ?_
  · exact .refused (writeErr_not_accepted err) (.inl hf)
  have hrouters : ∀ d, ((saved u' (req.apply ppp hotspot sub)).routers d).WellFormed := hw.routers
  have hdevice' : (req.apply ppp hotspot sub).deviceID ∈
    (saved u' (req.apply ppp hotspot sub)).connected := hdevice
  have hsent := trySetOnRouter_warns hok hrouters hdevice' (newProfileName ppp hotspot)
  refine (wp_bind _ _ _).mpr (wp_mono hsent ?_)
  intro text w' h
  exact .saved ha (row_saved hrow rfl rfl) h

end Updating

theorem accepts_apply {w : World} {sub sub' : Subscription} {name : String}
    {req : SubscriptionUpdateRequest} (h : accepts w sub req = some (sub', name)) :
    sub'.login = sub.login ∧ sub'.status = sub.status ∧
      sub'.mikrotikUsername = sub.mikrotikUsername := by
  unfold accepts at h
  split at h
  · split at h
    · simp only [Option.some.injEq, Prod.mk.injEq] at h
      obtain ⟨rfl, -⟩ := h
      exact ⟨rfl, rfl, rfl⟩
    · cases h
  · cases h

section Sent

variable {w w' : World} {sub : Subscription} {name : String}

/-- The record a command is left with. -/
theorem asDemanded_iff (hw' : w'.Sane) (hterms : SameTerms w w') {b : Account}
    (hb : w'.account sub.login = some b) : AsDemanded w' sub ↔ match sub.status with
      | .pendingInstall => True
      | .terminated => False
      | _ => b.disabled = (demanded w sub).2 ∧ b.profile = w.targetName sub := by
  have hshape : InShape w' sub ↔
      b.disabled = (demanded w sub).2 ∧ b.profile = w.targetName sub := by
    rw [inShape_iff hw', hb, demanded_congr hterms rfl rfl, ← demanded_fst]
    simp [Prod.ext_iff, and_comm]
  have hrecord : w'.record sub.login ≠ none := by
    intro hnone
    simp [World.account, hnone] at hb
  unfold AsDemanded
  cases sub.status <;> simp [hshape, hrecord]

/-- What is sent makes the record what the row demands just if the name that comes with
it is the one of the profile, and the flag is right as it is. -/
theorem sent_asDemanded (hw' : w'.Sane) (hterms : SameTerms w w')
    (hname : sub.mikrotikUsername ≠ "")
    (hsent : sent sub name (w.account sub.login) = some (w'.account sub.login)) :
    AsDemanded w' sub ↔ match sub.status, w.account sub.login with
      | .pendingInstall, _ => True
      | .terminated, _ => False
      | _, none => orDefault name "default" = w.targetName sub
      | _, some a =>
        a.disabled = (demanded w sub).2 ∧ orDefault name a.profile = w.targetName sub := by
  cases ha : w.account sub.login with
  | none =>
    simp only [sent, lookedUp, ha, hname, if_false, Option.some.injEq] at hsent
    rw [asDemanded_iff hw' hterms hsent.symm]
    cases hs : sub.status <;> simp [demanded, hs, profileForStatus]
  | some a =>
    simp only [sent, lookedUp, ha, hname, if_false, Option.some.injEq] at hsent
    rw [asDemanded_iff hw' hterms hsent.symm]
    cases hs : sub.status <;> simp [Account.set]

end Sent

/-- An update that is answered without a warning, and what it leaves behind. -/
theorem updated_asDemanded {ok : Env → Prop} {w w' : World} {id : ℕ} {sub : Subscription}
    {req : SubscriptionUpdateRequest} {body : SubscriptionWriteResponse}
    (h : Updated ok w id sub req (.success 200 body) w') (hw' : w'.Sane) (hterms : SameTerms w w')
    (hwarning : body.warning = "") : ∃ sub', w'.row id = some sub' ∧
      (AsDemanded w' sub' ↔ SendsDemanded w sub req) := by
  cases h with
  | refused h _ =>
    have haccepted : (Response.success 200 body).Accepted := by
      simp [Response.Accepted, Response.status]
    exact absurd haccepted h
  | @saved sub' name text _ ha hrow h =>
    cases h with
    | warned htext _ _ => exact absurd hwarning htext
    | @done o _ hsent hput =>
      obtain ⟨hlogin, hstatus, hname⟩ := accepts_apply ha
      refine ⟨sub', ?_, ?_⟩
      · rw [hput.rest]
        exact hrow
      have hsent' : sent sub' name (w.account sub'.login) = some (w'.account sub'.login) := by
        rw [hlogin, World.account, World.account, hput.here]
        exact hsent
      simp only [SendsDemanded, ha]
      have hnamed : sub'.mikrotikUsername ≠ "" := by
        intro hempty
        rw [sent_eq_none.mpr hempty] at hsent'
        cases hsent'
      have hiff := sent_asDemanded hw' hterms hnamed hsent'
      rw [hstatus, hlogin] at hiff
      rw [hname] at hnamed
      simpa only [hnamed, false_or] using hiff

/-- An update with which nothing gets in the way. -/
theorem updated_sendsDemanded {w w' : World} {id : ℕ} {sub : Subscription}
    {req : SubscriptionUpdateRequest} {answer : Response SubscriptionWriteResponse}
    (h : Updated Env.Quiet w id sub req answer w') (hw' : w'.Sane) (hterms : SameTerms w w')
    (hsafe : ∀ body, answer = .success 200 body → body.warning = "" →
      ∀ sub', w'.row id = some sub' → AsDemanded w' sub') : SendsDemanded w sub req := by
  cases h with
  | refused _ hr =>
    have hnone := hr.resolve_left quiet_not_faulty
    simp only [SendsDemanded, hnone]
  | @saved sub' name text _ ha hrow h =>
    by_cases htext : text = ""
    · obtain ⟨sub'', hrow'', hiff⟩ := updated_asDemanded (.saved ha hrow h) hw' hterms htext
      exact hiff.mp (hsafe _ rfl htext sub'' hrow'')
    · cases h with
      | done _ _ => exact absurd rfl htext
      | warned _ _ hr =>
        have hname := sent_eq_none.mp (hr.resolve_left quiet_not_faulty)
        rw [(accepts_apply ha).2.2] at hname
        simp only [SendsDemanded, ha]
        exact .inl hname

/-- An update keeps the router as the status demands just if it is refused, or what it
sends is what the status demands: the flag is never sent, and the profile only if it
changes. -/
theorem preserves_iff (w : World) (id : ℕ) (sub : Subscription) (hw : w.Sane)
    (hrow : w.row id = some sub) (hdevice : sub.deviceID ∈ w.connected)
    (req : SubscriptionUpdateRequest) : Preserves w id req ↔ SendsDemanded w sub req := by
  constructor
  · intro h
    have hquiet : ∀ n : ℕ, ((fun _ ↦ Env.calm 0 : ℕ → Env) n).Quiet := fun _ ↦ Env.calm_quiet 0
    have hcalm := run_of_wp (updateSubscription_updated (fun _ he ↦ quiet_honest he) hw hrow
      hdevice req) _ hquiet
    exact updated_sendsDemanded hcalm (run_sane _ _ hw) (run_sameTerms _ _ w)
      (h _ fun n ↦ quiet_honest (hquiet n))
  · intro h env henv body hbody hwarning sub' hrow'
    have hupdated := run_of_wp (updateSubscription_updated (fun _ he ↦ he) hw hrow hdevice req) env
      henv
    rw [hbody] at hupdated
    obtain ⟨sub'', hrow'', hiff⟩ := updated_asDemanded hupdated (run_sane _ env hw)
      (run_sameTerms _ env w) hwarning
    rw [hrow'] at hrow''
    obtain rfl := Option.some.inj hrow''
    exact hiff.mpr h

/-- A request for a new password and nothing else. -/
def newPassword (password : String) : SubscriptionUpdateRequest :=
  ⟨none, none, some password, none, none⟩

/-- A new password for a subscription that is on its router. -/
theorem password_preserves :
    Preserves (requesting .synced provisionedRouter) 1 (newPassword "rahasia2") :=
  (preserves_iff _ 1 _ (requesting_sane _
    (RouterCall.exec_wellFormed Router.blank_wellFormed _ _)) rfl (by decide) _).mpr
    (.inr ⟨rfl, by decide +kernel⟩)

/-- A new password for a subscription without a record creates one with the router's
default profile, and with any record at all for one that is terminated. -/
theorem password_provisions :
    ¬Preserves (requesting .synced .blank) 1 (newPassword "rahasia2") ∧
      ¬Preserves (World.oneInvoice 150000 .terminated) 1 (newPassword "rahasia2") := by
  have hcalm : ∀ n : ℕ, ((fun _ ↦ Env.calm 0 : ℕ → Env) n).Honest :=
    fun _ ↦ quiet_honest (Env.calm_quiet 0)
  constructor <;> intro h
  · have hdemanded := h _ hcalm _ rfl rfl _ rfl
    exact absurd hdemanded (by decide +kernel)
  · have hdemanded := h _ hcalm _ rfl rfl _ rfl
    exact absurd hdemanded (by decide +kernel)

end Rosmon.Sync
