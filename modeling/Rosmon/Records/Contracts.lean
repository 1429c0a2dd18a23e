import Rosmon.Sync.Login

namespace Rosmon.Records

open Library Store Program

/-- What the row of a subscription says, apart from how the service is doing. -/
structure Contract where
  customerID : ℕ
  login : Login
  pppProfileID : Option ℕ
  hotspotProfileID : Option ℕ
  live : Bool
  deriving DecidableEq

def contractOf (sub : Subscription) : Contract :=
  ⟨sub.customerID, sub.login, sub.pppProfileID, sub.hotspotProfileID, sub.live⟩

/-- The contract under an id, be it that of a deleted subscription. -/
def contractIn (t : Table Subscription) (id : ℕ) : Option Contract := (t.get id).map contractOf

abbrev contract (w : World) (id : ℕ) : Option Contract := contractIn w.subscriptions id

/-- The live row of a profile. -/
def profileRow (w : World) (service : ServiceType) (id : ℕ) : Option Profile :=
  match service with
  | .pppoe => w.pppProfiles.find fun r ↦ r.deletedAt = none && r.id == id
  | .hotspot => w.hotspotProfiles.find fun r ↦ r.deletedAt = none && r.id == id

/-- The column that counts, of the two for a profile. -/
def Contract.profileID (c : Contract) : Option ℕ :=
  match c.login.service with
  | .pppoe => c.pppProfileID
  | .hotspot => c.hotspotProfileID

/-- The contract has a profile of its service, which exists on its device. -/
def Contract.Fits (w : World) (c : Contract) : Prop :=
  ∃ id ∈ c.profileID, ∃ p ∈ profileRow w c.login.service id, p.deviceID = c.login.deviceID

theorem profileRow_congr {w w' : World} (h : SameTerms w w') (service : ServiceType) (id : ℕ) :
    profileRow w' service id = profileRow w service id := by
  cases service with
  | pppoe => rw [profileRow, profileRow, h.pppProfiles]
  | hotspot => rw [profileRow, profileRow, h.hotspotProfiles]

theorem Contract.Fits.congr {w w' : World} {c : Contract} (hc : c.Fits w) (h : SameTerms w w') :
    c.Fits w' := by
  obtain ⟨id, hid, p, hp, hdevice⟩ := hc
  refine ⟨id, hid, p, ?_, hdevice⟩
  rwa [profileRow_congr h]

section Tables

variable {t t' : Table Subscription} {sub sub' : Subscription} {now : Time}
  {arrange : Arrangement Subscription}

theorem subscription_get_iff {n : ℕ} : t.get n = some sub ↔ sub ∈ t ∧ sub.id = n :=
  Table.get_eq_some

theorem contractIn_update {p : Subscription → Bool} {f : Subscription → Subscription} [KeepsKey f]
    (hf : ∀ r, contractOf (f r) = contractOf r) (n : ℕ) :
    contractIn (t.update p f) n = contractIn t n := by
  rw [contractIn, contractIn, Table.get_update, Option.map_map]
  refine congrArg (fun g ↦ (t.get n).map g) (funext fun r ↦ ?_)
  rw [Function.comp_apply]
  split_ifs
  · exact hf r
  · rfl

/-- Saving a row replaces that under its id. -/
theorem get_save {err : Error} (h : saveSubscription err sub t = (.ok (), t')) (n : ℕ) :
    t'.get n = if n = sub.id then (t.get n).map fun _ ↦ sub else t.get n := by
  unfold saveSubscription at h
  split_ifs at h with hfree
  · cases h
  simp only [Prod.mk.injEq, true_and] at h
  subst h
  rw [Table.get_update]
  cases hr : t.get n with
  | none => simp
  | some r =>
    have hid : r.id = n := (subscription_get_iff.mp hr).2
    by_cases hn : n = sub.id
    · simp [hn, hid, Subscription.replace]
    · simp [hn, hid]

theorem contractIn_save {err : Error} (h : saveSubscription err sub t = (.ok (), t')) (n : ℕ) :
    contractIn t' n =
      if n = sub.id then (contractIn t n).map fun _ ↦ contractOf sub else contractIn t n := by
  rw [contractIn, contractIn, get_save h]
  split_ifs
  · rw [Option.map_map, Option.map_map]
    rfl
  · rfl

theorem save_error {err err' : Error} (h : saveSubscription err sub t = (.error err', t')) :
    t' = t := by
  unfold saveSubscription at h
  split_ifs at h
  · exact (Prod.mk.inj h).2.symm
  · cases h

/-- The row that `Create` returns is the one under its id. -/
theorem get_create (h : (SubscriptionCall.create sub).exec now arrange t = (.ok sub', t')) (n : ℕ) :
    t'.get n = if n = sub'.id then some sub' else t.get n := by
  simp only [SubscriptionCall.exec] at h
  cases hfind : t.find (Subscription.sameLogin sub) with
  | none =>
    simp only [hfind, Prod.mk.injEq, Except.ok.injEq] at h
    obtain ⟨rfl, rfl⟩ := h
    split_ifs with hn
    · subst hn
      exact Table.get_insert_self t sub
    · exact Table.get_insert_of_ne t sub hn
  | some existing =>
    simp only [hfind] at h
    split_ifs at h
    · cases h
    generalize hsave : saveSubscription (.duplicateKey "idx_sub_dev_type_user")
      { sub with id := existing.id, deletedAt := none } t = saved at h
    obtain ⟨r, t''⟩ := saved
    cases r with
    | error err => cases h
    | ok _ =>
      simp only [Except.map, Prod.mk.injEq, Except.ok.injEq] at h
      obtain ⟨rfl, rfl⟩ := h
      have hget : t.get existing.id = some existing :=
        subscription_get_iff.mpr ⟨Table.mem_of_find hfind, rfl⟩
      rw [get_save hsave]
      split_ifs with hn
      · rw [hn, hget]
        rfl
      · rfl

/-- A row is new under an id, which at most a deleted row with the same login has had. -/
structure Creates (t : Table Subscription) (sub : Subscription) (id : ℕ) (t' : Table Subscription) :
    Prop where
  reused : ∀ r, t.get id = some r → t.find (Subscription.sameLogin sub) = some r ∧ r.live = false
  contracts : ∀ n, contractIn t' n = if n = id then some (contractOf sub) else contractIn t n

theorem create_creates (hlive : sub.deletedAt = none)
    (h : (SubscriptionCall.create sub).exec now arrange t = (.ok sub', t')) :
    sub' = { sub with id := sub'.id } ∧ Creates t sub sub'.id t' := by
  have hrows := get_create h
  have hcontracts (hsub : sub' = { sub with id := sub'.id }) (n : ℕ) :
      contractIn t' n = if n = sub'.id then some (contractOf sub) else contractIn t n := by
    have hcontract : contractOf sub' = contractOf sub := by
      rw [hsub]
      rfl
    rw [contractIn, contractIn, hrows]
    split_ifs
    · rw [← hcontract]
      rfl
    · rfl
  simp only [SubscriptionCall.exec] at h
  cases hfind : t.find (Subscription.sameLogin sub) with
  | none =>
    simp only [hfind, Prod.mk.injEq, Except.ok.injEq] at h
    obtain ⟨rfl, -⟩ := h
    refine ⟨rfl, fun r hr ↦ ?_, hcontracts rfl⟩
    obtain ⟨hmem, hid⟩ := subscription_get_iff.mp hr
    have hfresh : r.id < t.next := t.fresh r hmem
    exact absurd hid hfresh.ne
  | some existing =>
    simp only [hfind] at h
    split_ifs at h with hused
    · cases h
    generalize hsave : saveSubscription (.duplicateKey "idx_sub_dev_type_user")
      { sub with id := existing.id, deletedAt := none } t = saved at h
    obtain ⟨r, t''⟩ := saved
    cases r with
    | error err => cases h
    | ok _ =>
      simp only [Except.map, Prod.mk.injEq, Except.ok.injEq] at h
      obtain ⟨rfl, -⟩ := h
      have hsub : ({ sub with id := existing.id, deletedAt := none } : Subscription) =
          { sub with id := existing.id } := by rw [← hlive]
      refine ⟨hsub, fun r hr ↦ ?_, hcontracts hsub⟩
      have hget : t.get existing.id = some existing :=
        subscription_get_iff.mpr ⟨Table.mem_of_find hfind, rfl⟩
      obtain rfl := Option.some.inj (hget.symm.trans hr)
      exact ⟨hfind, by simpa using hused⟩

theorem create_error {err : Error}
    (h : (SubscriptionCall.create sub).exec now arrange t = (.error err, t')) : t' = t := by
  simp only [SubscriptionCall.exec] at h
  split at h
  · split_ifs at h
    · exact (Prod.mk.inj h).2.symm
    · rename_i existing _ _
      generalize hsave : saveSubscription (.duplicateKey "idx_sub_dev_type_user")
        { sub with id := existing.id, deletedAt := none } t = saved at h
      obtain ⟨r, t''⟩ := saved
      cases r with
      | error err =>
        obtain ⟨-, rfl⟩ := Prod.mk.inj h
        exact save_error hsave
      | ok _ => cases h
  · cases h

end Tables

/-- Calls that make no invoice and neither make, replace nor delete a subscription. -/
def clerical : Call → Prop
  | .subscriptions (.create _) | .subscriptions (.update _) | .subscriptions (.delete _) => False
  | .invoices (.create _) => False
  | _ => True

/-- All contracts are as they were, and the new invoices are for the given subscriptions
and customers. -/
structure Bills (P : ℕ → ℕ → Prop) (w w' : World) : Prop where
  contracts : ∀ n, contract w' n = contract w n
  invoices : ∀ inv ∈ w'.invoices, (∃ old ∈ w.invoices,
    old.subscriptionID = inv.subscriptionID ∧ old.customerID = inv.customerID) ∨
      P inv.subscriptionID inv.customerID

namespace Bills

variable {P P' : ℕ → ℕ → Prop} {u v w : World}

theorem of_eq (hcontracts : ∀ n, contract w n = contract v n)
    (hinvoices : w.invoices = v.invoices) : Bills P v w :=
  ⟨hcontracts, fun inv hinv ↦ .inl ⟨inv, hinvoices ▸ hinv, rfl, rfl⟩⟩

theorem refl (P : ℕ → ℕ → Prop) (w : World) : Bills P w w := of_eq (fun _ ↦ rfl) rfl

theorem trans (h : Bills P u v) (h' : Bills P v w) : Bills P u w := by
  refine ⟨fun n ↦ (h'.contracts n).trans (h.contracts n), fun inv hinv ↦ ?_⟩
  rcases h'.invoices inv hinv with ⟨old, hold, hid, hcustomer⟩ | hnew
  · rw [← hid, ← hcustomer]
    exact h.invoices old hold
  · exact .inr hnew

theorem mono (h : Bills P v w) (hP : ∀ n c, P n c → P' n c) : Bills P' v w :=
  ⟨h.contracts, fun inv hinv ↦ (h.invoices inv hinv).imp_right (hP _ _)⟩

end Bills

section Calls

variable {α : Type} {ok : Env → Prop} {Q : α → World → Prop} {w : World} {sub : Subscription}

theorem exec_clerical {c : Call} (hc : clerical c) (e : Env) (P : ℕ → ℕ → Prop) (w : World) :
    Bills P w (c.exec e w).2 := by
  cases c with
  | subscriptions c =>
    refine orFault_keeps (P := Bills P w) (.refl P w) (.of_eq (fun n ↦ ?_) rfl)
    cases c with
    | create | update | delete => exact hc.elim
    | list | listByStatus | get | listPendingSync => rfl
    | updateStatus | updateSyncStatus | incrSyncRetry | updateNextInvoiceDate =>
      apply contractIn_update
      intro r
      rfl
  | invoices c =>
    refine orFault_keeps (P := Bills P w) (.refl P w) ⟨fun _ ↦ rfl, fun inv hinv ↦ .inl ?_⟩
    cases c with
    | create => exact hc.elim
    | updateStatus =>
      obtain ⟨old, hold, heq⟩ := Table.mem_update.mp hinv
      refine ⟨old, hold, ?_⟩
      rw [← heq]
      split_ifs <;> exact ⟨rfl, rfl⟩
    | getByID | getByPaymentCode | listDueForBilling | listOverdue =>
      rw [InvoiceCall.exec_reads rfl] at hinv
      exact ⟨inv, hinv, rfl, rfl⟩
  | now | newPaymentCode | notify | xendit | device | contextDone | rangeKeys =>
    exact .of_eq (fun _ ↦ rfl) rfl
  | _ => exact orFault_keeps (P := Bills P w) (.refl P w) (.of_eq (fun _ ↦ rfl) rfl)

theorem wp_clerical {p : Prog α} (hp : p.Only clerical) (P : ℕ → ℕ → Prop) (w : World) :
    p.wp Call.exec ok (fun _ w' ↦ Bills P w w') w :=
  hp.wp (fun _ e _ hc _ h ↦ h.trans (exec_clerical hc e P _)) (.refl P w)

theorem Bills.call {P : ℕ → ℕ → Prop} {v : World} (h : Bills P v w) {c : Call} (hc : clerical c)
    {k : c.Reply → Prog α} (hk : ∀ r u, Bills P v u → (k r).wp Call.exec ok Q u) :
    (Program.call c k).wp Call.exec ok Q w :=
  fun e _ ↦ hk _ _ (h.trans (exec_clerical hc e P w))

theorem Bills.bind {P : ℕ → ℕ → Prop} {v : World} {β : Type} (h : Bills P v w) {p : Prog β}
    (hp : p.Only clerical) {f : β → Prog α}
    (hf : ∀ b u, Bills P v u → (f b).wp Call.exec ok Q u) : (p >>= f).wp Call.exec ok Q w :=
  (wp_bind p f w).mpr (wp_mono (wp_clerical hp P w) fun b u hu ↦ hf b u (h.trans hu))

theorem wp_create (hlive : sub.deletedAt = none) {k : Except Error Subscription → Prog α}
    (herr : ∀ err, (k (.error err)).wp Call.exec ok Q w)
    (hok : ∀ id t', Creates w.subscriptions sub id t' →
      (k (.ok { sub with id })).wp Call.exec ok Q { w with subscriptions := t' }) :
    (Program.call (.subscriptions (.create sub)) k).wp Call.exec ok Q w := by
  intro e _
  generalize hmade : (SubscriptionCall.create sub).exec e.now e.subscriptionOrder w.subscriptions =
    made
  obtain ⟨r, t'⟩ := made
  obtain h | ⟨err, h⟩ := orFault_cases e w (r, { w with subscriptions := t' })
  · cases r with
    | error err =>
      obtain rfl := create_error hmade
      simpa only [Call.exec, hmade, h] using herr err
    | ok sub' =>
      obtain ⟨hsub, hcreates⟩ := create_creates hlive hmade
      have hnext := hok _ _ hcreates
      rw [← hsub] at hnext
      simpa only [Call.exec, hmade, h] using hnext
  · simpa only [Call.exec, hmade, h] using herr err

theorem wp_saveRow {k : Except Error Unit → Prog α}
    (herr : ∀ err, (k (.error err)).wp Call.exec ok Q w)
    (hok : ∀ t', (∀ n, contractIn t' n =
        if n = sub.id then (contract w n).map fun _ ↦ contractOf sub else contract w n) →
      (k (.ok ())).wp Call.exec ok Q { w with subscriptions := t' }) :
    (Program.call (.subscriptions (.update sub)) k).wp Call.exec ok Q w := by
  intro e _
  generalize hmade : saveSubscription (.of .subscriptionUsernameTaken) sub w.subscriptions = made
  obtain ⟨r, t'⟩ := made
  obtain h | ⟨err, h⟩ := orFault_cases e w (r, { w with subscriptions := t' })
  · cases r with
    | error err =>
      obtain rfl := save_error hmade
      simpa only [Call.exec, SubscriptionCall.exec, hmade, h] using herr err
    | ok _ =>
      have hnext := hok t' fun n ↦ contractIn_save hmade n
      simpa only [Call.exec, SubscriptionCall.exec, hmade, h] using hnext
  · simpa only [Call.exec, SubscriptionCall.exec, hmade, h] using herr err

end Calls

end Rosmon.Records
