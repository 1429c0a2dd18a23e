import Rosmon.Handler.Subscriptions
import Rosmon.Sync.Fulfil

namespace Rosmon

open Library Store Mikrotik Program Service Job Handler

/-- How the part of a handler ends that acts on one login: it makes `f` of the account,
or it warns, because a command has failed or because there is nothing to make. -/
inductive Warns (ok : Env → Prop) (l : Login) (f : Option Account → Option (Option Account))
    (w : World) : String → World → Prop
  | done {o : Option Record} {w' : World} (hf : f (w.account l) = some (o.map Record.account))
      (h : Puts l o w w') : Warns ok l f w "" w'
  | warned {text : String} {o : Option Record} {w' : World} (htext : text ≠ "") (h : Puts l o w w')
      (hr : Faulty ok ∨ f (w.account l) = none) : Warns ok l f w text w'

theorem Warns.congr {ok : Env → Prop} {l : Login} {f f' : Option Account → Option (Option Account)}
    {w w' : World} {text : String} (h : Warns ok l f w text w')
    (hf : f (w.account l) = f' (w.account l)) : Warns ok l f' w text w' := by
  cases h with
  | done h hput => exact .done (hf ▸ h) hput
  | warned htext hput hr => exact .warned htext hput (hf ▸ hr)

/-- What `SecretAdd` and `UserAdd` make of the account. -/
def added (sub : Subscription) (profile : String) (disabled : Bool) (a : Option Account) :
    Option (Option Account) :=
  if sub.mikrotikUsername = "" ∨ a.isSome then none
  else some (some ⟨sub.mikrotikPassword, orDefault profile "default", disabled⟩)

/-- What a lookup and then one of two commands make of it. -/
def lookedUp (sub : Subscription) (absent : Option (Option Account))
    (present : Account → Option Account) : Option Account → Option (Option Account)
  | none => if sub.mikrotikUsername = "" then none else absent
  | some a => if sub.mikrotikUsername = "" then none else some (present a)

/-- What `SecretSet` and `UserSet` make of a record. -/
def Mikrotik.Account.set (a : Account) (password profile : String) (disabled : Option Bool) :
    Account :=
  ⟨orDefault password a.password, orDefault profile a.profile, disabled.getD a.disabled⟩

theorem mapSubErr_error {α : Type} (err : Error) (sub : Subscription) :
    mapSubErr (.error err : Except Error α) sub ≠ "" := by
  intro h
  have h' := congrArg String.toList h
  simp [mapSubErr, String.toList_append] at h'

theorem notOnRouter_ne_empty (service : ServiceType) : notOnRouter service ≠ "" := by
  cases service <;> decide

section Rules

variable {exec : (c : Call) → Env → World → c.Reply × World} [OnDevices exec] {ok : Env → Prop}
  {w : World} {sub : Subscription}

theorem whileOnline_wp {offline : String} {p : Prog String} {Q : String → World → Prop}
    (hon : sub.deviceID ∈ w.connected → p.wp exec ok Q w)
    (hoff : sub.deviceID ∉ w.connected → Q offline w) :
    (whileOnline sub offline p).wp exec ok Q w := by
  simp only [whileOnline, perform_bind]
  exact wp_device hon fun h _ ↦ hoff h

variable (hw : ∀ id, (w.routers id).WellFormed)

include hw

theorem addRecord_warns (profileName : String) (disabled : Bool) :
    (addRecord sub profileName disabled).wp exec ok
      (Warns ok sub.login (added sub profileName disabled) w) w := by
  simp only [addRecord, onRouter, perform_bind]
  refine wp_add (l := sub.login) hw rfl ?_ ?_
  · intro err hr
    refine .warned (mapSubErr_error _ _) (.refl hw _) (hr.imp_right fun h ↦ ?_)
    have h' : sub.mikrotikUsername = "" ∨ (w.account sub.login).isSome := by
      refine h.imp_right fun hrow ↦ ?_
      simpa [World.account, Option.isSome_iff_ne_none] using hrow
    rw [added, if_pos h']
  · intro id w' hname hrow hput
    have hname' : sub.mikrotikUsername ≠ "" := hname
    refine .done ?_ hput
    simp [added, hname', World.account, hrow, Record.account, Router.newRecord]

theorem remove_warns {row : Record} (hrow : w.record sub.login = some row) :
    (do return mapSubErr (← onRouter sub (.remove row.id)) sub : Prog String).wp exec ok
      (Warns ok sub.login (fun _ ↦ some none) w) w := by
  simp only [onRouter, perform_bind]
  refine wp_remove (l := sub.login) hw hrow ?_ ?_
  · intro err hf
    exact .warned (mapSubErr_error _ _) (.refl hw _) (.inl hf)
  · intro w' hput
    exact .done rfl hput

theorem set_warns {row : Record} (hrow : w.record sub.login = some row) (password profile : String)
    (disabled : Option Bool) :
    (do return mapSubErr (← onRouter sub (.set row.id password profile disabled)) sub :
      Prog String).wp exec ok
        (Warns ok sub.login (fun _ ↦ some (some (row.account.set password profile disabled))) w)
          w := by
  simp only [onRouter, perform_bind]
  refine wp_set (l := sub.login) hw hrow ?_ ?_
  · intro err hf
    exact .warned (mapSubErr_error _ _) (.refl hw _) (.inl hf)
  · intro w' hput
    exact .done rfl hput

variable (hok : ∀ e, ok e → e.Honest)

include hok

/-- A lookup, and a program for each of its two outcomes. -/
theorem lookup_warns {absent : Prog String} {present : Record → Prog String}
    {o : Option (Option Account)} {g : Account → Option Account}
    (habsent : w.record sub.login = none → sub.mikrotikUsername ≠ "" →
      absent.wp exec ok (Warns ok sub.login (fun _ ↦ o) w) w)
    (hpresent : ∀ row, w.record sub.login = some row →
      (present row).wp exec ok (Warns ok sub.login (fun _ ↦ some (g row.account)) w) w) :
    (lookup sub absent present).wp exec ok (Warns ok sub.login (lookedUp sub o g) w) w := by
  simp only [lookup, onRouter, perform_bind]
  refine wp_byName (l := sub.login) hok ?_ ?_ ?_
  · intro err herr hr
    simp only [herr, Bool.false_eq_true, if_false, pure_eq, wp_ret]
    refine .warned (mapSubErr_error _ _) (.refl hw _) (hr.imp_right fun hname ↦ ?_)
    have hname' : sub.mikrotikUsername = "" := hname
    cases w.account sub.login <;> simp [lookedUp, hname']
  · intro hname hrow
    have hname' : sub.mikrotikUsername ≠ "" := hname
    refine wp_mono (habsent hrow hname) fun text w' h ↦ h.congr ?_
    simp [World.account, hrow, lookedUp, hname']
  · intro row hname hrow
    have hname' : sub.mikrotikUsername ≠ "" := hname
    refine wp_mono (hpresent row hrow) fun text w' h ↦ h.congr ?_
    simp [World.account, hrow, lookedUp, hname']

theorem ensureRouterState_warns (profileName : String) (disabled : Bool) :
    (ensureRouterState sub profileName disabled).wp exec ok (Warns ok sub.login (lookedUp sub
      (some (some ⟨sub.mikrotikPassword, orDefault profileName "default", disabled⟩))
      fun a ↦ some (a.set sub.mikrotikPassword profileName (some disabled))) w) w := by
  refine lookup_warns hw hok (fun hrow hname ↦ ?_) fun row hrow ↦ set_warns hw hrow _ _ _
  refine wp_mono (addRecord_warns hw profileName disabled) fun text w' h ↦ h.congr ?_
  simp [added, hname, World.account, hrow]

theorem tryRemoveOnRouter_warns (hdevice : sub.deviceID ∈ w.connected) :
    (tryRemoveOnRouter sub).wp exec ok
      (Warns ok sub.login (lookedUp sub (some none) fun _ ↦ none) w) w := by
  refine whileOnline_wp (fun _ ↦ ?_) fun h ↦ absurd hdevice h
  refine lookup_warns hw hok (fun hrow _ ↦ ?_) fun row hrow ↦ remove_warns hw hrow
  have hsame : Puts sub.login none w w := hrow ▸ .refl hw sub.login
  exact .done rfl hsame

/-- The profile and the flag are set in two commands. -/
theorem setBoth_warns (profile : String) (disabled : Bool) :
    (lookup sub (return notOnRouter sub.serviceType) fun row ↦ do
      match ← onRouter sub (.set row.id "" profile none) with
      | .error err => return mapSubErr (.error err : Except Error Unit) sub
      | .ok () => return mapSubErr (← onRouter sub (.setDisabled row.id disabled)) sub).wp exec ok
        (Warns ok sub.login (lookedUp sub none fun a ↦ some (a.set "" profile (some disabled))) w)
          w := by
  refine lookup_warns hw hok (fun hrow _ ↦ ?_) fun row hrow ↦ ?_
  · exact .warned (notOnRouter_ne_empty _) (.refl hw _) (.inr rfl)
  · simp only [onRouter, perform_bind]
    refine wp_set (l := sub.login) hw hrow ?_ fun u hu ↦ ?_
    · intro err hf
      exact .warned (mapSubErr_error _ _) (.refl hw _) (.inl hf)
    · refine wp_setDisabled (l := sub.login) hu.wellFormed hu.here ?_ fun v hv ↦ ?_
      · intro err hf
        exact .warned (mapSubErr_error _ _) hu (.inl hf)
      · exact .done rfl (hu.trans hv)

/-- What `trySyncStatus` makes of the account. -/
def synchronized (sub : Subscription) (profile : String) (disabled : Bool) :
    Option Account → Option (Option Account) :=
  match sub.status with
  | .terminated => lookedUp sub (some none) fun _ ↦ none
  | .active =>
    lookedUp sub (some (some ⟨sub.mikrotikPassword, orDefault profile "default", disabled⟩))
      fun a ↦ some (a.set sub.mikrotikPassword profile (some disabled))
  | .pendingInstall | .isolir | .suspended =>
    lookedUp sub none fun a ↦ some (a.set "" profile (some disabled))

theorem trySyncStatus_warns (hdevice : sub.deviceID ∈ w.connected) (profile : String)
    (disabled : Bool) : (trySyncStatus sub profile disabled).wp exec ok
      (Warns ok sub.login (synchronized sub profile disabled) w) w := by
  unfold trySyncStatus synchronized
  cases hs : sub.status with
  | terminated => exact tryRemoveOnRouter_warns hw hok hdevice
  | active =>
    exact whileOnline_wp (fun _ ↦ ensureRouterState_warns hw hok profile disabled)
      fun h ↦ absurd hdevice h
  | pendingInstall | isolir | suspended =>
    exact whileOnline_wp (fun _ ↦ setBoth_warns hw hok profile disabled) fun h ↦ absurd hdevice h

end Rules

end Rosmon
