import Rosmon.Mikrotik.Accounts
import Rosmon.Rules

namespace Rosmon

open Library Store Mikrotik Program

/-- Where a subscription is found on the routers. -/
structure Store.Login where
  deviceID : ℕ
  service : ServiceType
  name : String
  deriving DecidableEq

def Store.Subscription.login (sub : Subscription) : Login :=
  ⟨sub.deviceID, sub.serviceType, sub.mikrotikUsername⟩

theorem deviceID_of_login {a b : Subscription} (h : a.login = b.login) : a.deviceID = b.deviceID :=
  congrArg Login.deviceID h

theorem username_of_login {a b : Subscription} (h : a.login = b.login) :
    a.mikrotikUsername = b.mikrotikUsername := congrArg Login.name h

theorem sameLogin_iff {a b : Subscription} : a.sameLogin b ↔ a.login = b.login := by
  simp [Subscription.sameLogin, Subscription.login, and_assoc]

/-- The record of a login on its router, and what it is for. -/
def World.record (w : World) (l : Login) : Option Record :=
  (w.routers l.deviceID).record l.service l.name

def World.account (w : World) (l : Login) : Option Account := (w.record l).map Record.account

/-- The live row under an id. -/
def World.row (w : World) (id : ℕ) : Option Subscription :=
  w.subscriptions.find (Subscription.liveAt id)

theorem row_iff {w : World} {id : ℕ} {sub : Subscription} :
    w.row id = some sub ↔ sub ∈ w.subscriptions ∧ sub.live ∧ sub.id = id := by
  constructor
  · intro h
    have hsat := Table.find_sat h
    simp only [Subscription.liveAt, Bool.and_eq_true, beq_iff_eq] at hsat
    exact ⟨Table.mem_of_find h, hsat⟩
  · rintro ⟨hmem, hlive, rfl⟩
    cases h : w.subscriptions.find (Subscription.liveAt sub.id) with
    | none =>
      have := Table.find_eq_none.mp h sub hmem
      simp [Subscription.liveAt, hlive] at this
    | some sub' =>
      have hsat := Table.find_sat h
      simp only [Subscription.liveAt, Bool.and_eq_true, beq_iff_eq] at hsat
      exact h.trans (congrArg some (Table.eq_of_key (Table.mem_of_find h) hmem hsat.2))

theorem row_of_mem {w : World} {sub : Subscription} (h : sub ∈ w.subscriptions)
    (hlive : sub.live) : w.row sub.id = some sub := row_iff.mpr ⟨h, hlive, rfl⟩

section Logins

variable {t : Table Subscription}

/-- No two live rows share a login. -/
def UniqueLogins (t : Table Subscription) : Prop :=
  ∀ a ∈ t, ∀ b ∈ t, a.live → b.live → a.login = b.login → a = b

theorem UniqueLogins.update (h : UniqueLogins t) (p : Subscription → Bool)
    {f : Subscription → Subscription} [KeepsKey f]
    (hf : ∀ r, (f r).live → r.live ∧ (f r).login = r.login) : UniqueLogins (t.update p f) := by
  have hrow : ∀ r : Subscription, (if p r then f r else r).live →
      r.live ∧ (if p r then f r else r).login = r.login := by
    intro r
    split
    · exact hf r
    · exact fun hr ↦ ⟨hr, rfl⟩
  intro a' ha' b' hb' hla hlb heq
  obtain ⟨a, ha, rfl⟩ := Table.mem_update.mp ha'
  obtain ⟨b, hb, rfl⟩ := Table.mem_update.mp hb'
  obtain ⟨hal, halogin⟩ := hrow a hla
  obtain ⟨hbl, hblogin⟩ := hrow b hlb
  have hab := h a ha b hb hal hbl (halogin.symm.trans (heq.trans hblogin))
  rw [hab]

theorem UniqueLogins.insert (h : UniqueLogins t) {sub : Subscription}
    (hnew : t.find (Subscription.sameLogin sub) = none) : UniqueLogins (t.insert sub) := by
  have hother : ∀ r ∈ t, sub.login ≠ r.login := by
    intro r hr heq
    have hno := Table.find_eq_none.mp hnew r hr
    simp [sameLogin_iff.mpr heq] at hno
  intro a ha b hb hla hlb heq
  rcases Table.mem_insert.mp ha with ha | rfl <;> rcases Table.mem_insert.mp hb with hb | rfl
  · exact h a ha b hb hla hlb heq
  · exact absurd heq.symm (hother a ha)
  · exact absurd heq (hother b hb)
  · rfl

theorem UniqueLogins.save (h : UniqueLogins t) (err : Error) (sub : Subscription) :
    UniqueLogins (saveSubscription err sub t).2 := by
  unfold saveSubscription
  split
  · exact h
  next hfree =>
    have hother : ∀ r ∈ t, r.live → r.login = sub.login → r.id = sub.id := by
      intro r hr hlive heq
      simp only [Option.isSome_iff_ne_none, ne_eq, not_not] at hfree
      have hno := Table.find_eq_none.mp hfree r hr
      simpa [hlive, sameLogin_iff.mpr heq] using hno
    intro a' ha' b' hb' hla hlb heq
    obtain ⟨a, ha, rfl⟩ := Table.mem_update.mp ha'
    obtain ⟨b, hb, rfl⟩ := Table.mem_update.mp hb'
    -- Whichever of the two is the row that is saved, the other one is it, too.
    have hid : a.id = b.id → a = b := Table.eq_of_key ha hb
    by_cases hpa : a.id = sub.id <;> by_cases hpb : b.id = sub.id <;>
      simp only [hpa, hpb, beq_self_eq_true, beq_iff_eq, if_true, if_false] at hla hlb heq ⊢
    · rw [hid (hpa.trans hpb.symm)]
    · exact absurd (hother b hb hlb heq.symm) hpb
    · exact absurd (hother a ha hla heq) hpa
    · exact h a ha b hb hla hlb heq

theorem SubscriptionCall.exec_uniqueLogins (h : UniqueLogins t) (now : Time)
    (arrange : Arrangement Subscription) (c : SubscriptionCall) :
    UniqueLogins (c.exec now arrange t).2 := by
  cases c with
  | list | listByStatus | get | listPendingSync => exact h
  | updateStatus | updateSyncStatus | updateNextInvoiceDate | incrSyncRetry =>
    exact h.update _ fun r hr ↦ ⟨hr, rfl⟩
  | delete => exact h.update _ fun r hr ↦ by simp [Subscription.softDelete, Subscription.live] at hr
  | update sub => exact h.save _ sub
  | create sub =>
    simp only [SubscriptionCall.exec]
    split
    · split
      · exact h
      · exact h.save _ _
    · next hnone => exact h.insert hnone

end Logins

/-- What no call can break: the routers keep their tables in order, and no two live
subscriptions share a login. -/
structure World.Sane (w : World) : Prop where
  routers : ∀ id, (w.routers id).WellFormed
  logins : UniqueLogins w.subscriptions

/-- Nobody is called nothing. -/
theorem account_of_no_name {w : World} (hw : ∀ id, (w.routers id).WellFormed) {sub : Subscription}
    (hname : sub.mikrotikUsername = "") : w.account sub.login = none := by
  have hrecord : w.record sub.login = none := by
    cases hrow : w.record sub.login with
    | none => rfl
    | some row =>
      obtain ⟨hmem, heq⟩ := (hw _).record_iff.mp hrow
      exact absurd (heq.trans hname) (((hw _).tidy _).named row hmem).2
  rw [World.account, hrecord, Option.map_none]

theorem Call.exec_wellFormed {w : World} (h : ∀ id, (w.routers id).WellFormed) (c : Call) (e : Env)
    (id : ℕ) : ((c.exec e w).2.routers id).WellFormed := by
  cases c with
  | now | newPaymentCode | notify | xendit | device | contextDone | rangeKeys => exact h id
  | router deviceID service c =>
    refine orFault_keeps (P := fun v ↦ (v.routers id).WellFormed) (h id) ?_
    by_cases hid : id = deviceID
    · subst hid
      simpa using RouterCall.exec_wellFormed (h id) service c
    · simpa [Function.update_of_ne hid] using h id
  | _ => exact orFault_keeps (P := fun v ↦ (v.routers id).WellFormed) (h id) (h id)

theorem Call.exec_sane {w : World} (h : w.Sane) (c : Call) (e : Env) : (c.exec e w).2.Sane := by
  refine ⟨Call.exec_wellFormed h.routers c e, ?_⟩
  cases c with
  | now | newPaymentCode | notify | xendit | device | contextDone | rangeKeys => exact h.logins
  | subscriptions c =>
    exact orFault_keeps (P := fun v ↦ UniqueLogins v.subscriptions) h.logins
      (SubscriptionCall.exec_uniqueLogins h.logins _ _ c)
  | _ => exact orFault_keeps (P := fun v ↦ UniqueLogins v.subscriptions) h.logins h.logins

theorem run_sane {α : Type} (p : Prog α) (env : ℕ → Env) {w : World} (hw : w.Sane) :
    (p.run Call.exec env w).2.Sane :=
  run_keeps (I := World.Sane) (fun c e _ h ↦ Call.exec_sane h c e) p env hw

/-- The tables that no call writes to. -/
structure SameTerms (w w' : World) : Prop where
  pppProfiles : w'.pppProfiles = w.pppProfiles
  hotspotProfiles : w'.hotspotProfiles = w.hotspotProfiles
  settings : w'.settings = w.settings
  connected : w'.connected = w.connected

theorem SameTerms.refl (w : World) : SameTerms w w := ⟨rfl, rfl, rfl, rfl⟩

theorem SameTerms.symm {v w : World} (h : SameTerms v w) : SameTerms w v :=
  ⟨h.pppProfiles.symm, h.hotspotProfiles.symm, h.settings.symm, h.connected.symm⟩

theorem SameTerms.trans {u v w : World} (h : SameTerms u v) (h' : SameTerms v w) : SameTerms u w :=
  ⟨h'.pppProfiles.trans h.pppProfiles, h'.hotspotProfiles.trans h.hotspotProfiles,
    h'.settings.trans h.settings, h'.connected.trans h.connected⟩

theorem Call.exec_sameTerms (c : Call) (e : Env) (w : World) : SameTerms w (c.exec e w).2 := by
  cases c with
  | now | newPaymentCode | notify | xendit | device | contextDone | rangeKeys =>
    exact ⟨rfl, rfl, rfl, rfl⟩
  | _ => exact orFault_keeps (.refl w) ⟨rfl, rfl, rfl, rfl⟩

theorem run_sameTerms {α : Type} (p : Prog α) (env : ℕ → Env) (w : World) :
    SameTerms w (p.run Call.exec env w).2 :=
  run_keeps (fun c e _ h ↦ h.trans (Call.exec_sameTerms c e _)) p env (.refl w)

end Rosmon
