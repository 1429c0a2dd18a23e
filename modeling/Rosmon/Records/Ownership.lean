import Rosmon.Records.Requests

namespace Rosmon.Records

open Library Store Program Service Job Handler Billing

/-- What makes and ends subscriptions, and what makes invoices. -/
inductive Operation
  | create (req : SubscriptionCreateRequest)
  | delete (id : ℕ)
  | completeInstall (id : ℕ) (req : RegistrationCompleteInstallRequest)
  | billingRun
  | generate (req : InvoiceGenerateRequest)

/-- An operation, and what the outside world offers while it runs. -/
structure Turn where
  operation : Operation
  actor : Option ℕ
  env : ℕ → Env

def Operation.prog (actor : Option ℕ) : Operation → Prog Unit
  | .create req => (fun _ ↦ ()) <$> createSubscription req actor
  | .delete id => (fun _ ↦ ()) <$> deleteSubscription id actor
  | .completeInstall id req => (fun _ ↦ ()) <$> Handler.completeInstall id req actor
  | .billingRun => (fun _ ↦ ()) <$> Job.billingRun
  | .generate req => (fun _ ↦ ()) <$> generateInvoice req actor

def takeTurn (w : World) (t : Turn) : World :=
  ((t.operation.prog t.actor).run Call.exec t.env w).2

/-- Each invoice has the customer of the row which it refers to. -/
def Owned (w : World) : Prop :=
  ∀ inv ∈ w.invoices, owner w inv.subscriptionID = some inv.customerID

/-- The row of a deleted subscription that would be used again is one of the same customer,
or has no invoices. -/
def KeepsOwner (w : World) (sub : Subscription) : Prop :=
  ∀ r ∈ w.subscriptions.find (Subscription.sameLogin sub), r.live ∨
    r.customerID = sub.customerID ∨ ∀ inv ∈ w.invoices, inv.subscriptionID ≠ r.id

/-- No subscription is made on the invoices of another customer. -/
def Operation.KeepsOwners (w : World) : Operation → Prop
  | .create req => KeepsOwner w (newSubscription req)
  | .completeInstall id req => ∀ reg ∈ w.registrations.get id, ∀ customerID ∈ reg.customerID,
    KeepsOwner w (installedSubscription req customerID 0 0)
  | _ => True

section Steps

variable {w w' : World}

theorem owned_bills {P : ℕ → ℕ → Prop} (hw : Owned w) (h : Bills P w w')
    (hP : ∀ n c, P n c → owner w n = some c) : Owned w' := by
  intro inv hinv
  rw [owner, h.contracts, ← owner]
  rcases h.invoices inv hinv with ⟨old, hold, hid, hcustomer⟩ | hnew
  · rw [← hid, ← hcustomer]
    exact hw old hold
  · exact hP _ _ hnew

theorem owned_opens {sub : Subscription} {n : ℕ} (hw : Owned w) (h : Opens w sub n w')
    (hkeeps : KeepsOwner w sub) : Owned w' := by
  intro inv hinv
  rw [owner, h.contracts]
  have hold {old : Invoice} (hmem : old ∈ w.invoices) (hid : old.subscriptionID = n) :
      old.customerID = sub.customerID := by
    have howner := hw old hmem
    rw [owner, contract, contractIn, hid] at howner
    cases hrow : w.subscriptions.get n with
    | none =>
      rw [hrow] at howner
      cases howner
    | some r =>
      rw [hrow] at howner
      obtain ⟨hfind, hdead⟩ := h.reused r hrow
      have hr : r.customerID = old.customerID := Option.some.inj howner
      rcases hkeeps r hfind with hlive | hsame | hnone
      · rw [hdead] at hlive
        cases hlive
      · exact hr.symm.trans hsame
      · exact absurd (hid.trans (subscription_get_iff.mp hrow).2.symm) (hnone old hmem)
  rcases h.invoices inv hinv with ⟨old, hmem, hid, hcustomer⟩ | ⟨hid, hcustomer⟩
  · split_ifs with hn
    · rw [← hcustomer, hold hmem (hid.trans hn)]
      rfl
    · rw [← owner, ← hid, ← hcustomer]
      exact hw old hmem
  · rw [if_pos hid, hcustomer]
    rfl

/-- A deleted row keeps its customer. -/
theorem customerID_softDelete (t : Table Subscription) (id n : ℕ) (now : Time) :
    (contractIn (t.update (Subscription.liveAt id) (Subscription.softDelete now)) n).map
      Contract.customerID = (contractIn t n).map Contract.customerID := by
  rw [contractIn, contractIn, Table.get_update, Option.map_map, Option.map_map, Option.map_map]
  refine congrArg (fun g ↦ (t.get n).map g) (funext fun r ↦ ?_)
  simp only [Function.comp_apply]
  split_ifs <;> rfl

theorem exec_delete_owned (hw : Owned w) (id : ℕ) (e : Env) :
    Owned (Call.exec (.subscriptions (.delete id)) e w).2 := by
  refine orFault_keeps hw fun inv hinv ↦ ?_
  exact (customerID_softDelete w.subscriptions id _ _).trans (hw inv hinv)

theorem deleteSubscription_owned {ok : Env → Prop} (hw : Owned w) (id : ℕ) (actor : Option ℕ) :
    (deleteSubscription id actor).wp Call.exec ok (fun _ u ↦ Owned u) w := by
  have hkeeps {α : Type} {p : Prog α} (hp : p.Only clerical) {u : World} (hu : Owned u) :
      p.wp Call.exec ok (fun _ v ↦ Owned v) u :=
    wp_mono (wp_clerical hp (fun _ _ ↦ False) u) fun _ _ h ↦ owned_bills hu h fun _ _ ↦ False.elim
  unfold deleteSubscription withSubscription
  simp only [perform_bind]
  apply wp_row
  · exact fun _ ↦ hw
  intro sub _ _ e _
  have hdeleted := exec_delete_owned hw id e
  generalize Call.exec (.subscriptions (.delete id)) e w = reply at hdeleted
  obtain ⟨r, u⟩ := reply
  cases r with
  | error err => exact hdeleted
  | ok _ =>
    refine hkeeps ?_ hdeleted
    refine ((audit_inert _ _ _ _).mono fun _ ↦ inert_clerical).bind fun _ ↦ ?_
    exact ((tryRemoveOnRouter_serves sub).mono fun _ ↦ serves_clerical).bind fun _ ↦ trivial

theorem prog_owned {ok : Env → Prop} (hw : Owned w) (actor : Option ℕ) (op : Operation)
    (hkeeps : op.KeepsOwners w) : (op.prog actor).wp Call.exec ok (fun _ u ↦ Owned u) w := by
  have hnone {u : World} (hu : Bills (fun _ _ ↦ False) w u) : Owned u :=
    owned_bills hw hu fun _ _ ↦ False.elim
  cases op with
  | create req =>
    refine (wp_map _ _ _).mpr (wp_mono (createSubscription_created w req actor) fun _ u h ↦ ?_)
    cases h with
    | refused _ hu => exact hnone hu
    | created _ hu => exact owned_opens hw hu hkeeps
  | delete id => exact (wp_map _ _ _).mpr (deleteSubscription_owned hw id actor)
  | completeInstall id req =>
    refine (wp_map _ _ _).mpr (wp_mono (completeInstall_completes w id req actor) fun _ u h ↦ ?_)
    cases h with
    | refused _ hu => exact hnone hu
    | installed _ hreg _ hcustomer hu => exact owned_opens hw hu (hkeeps _ hreg _ hcustomer)
  | billingRun =>
    refine (wp_map _ _ _).mpr (wp_mono (billingRun_bills w) fun _ u h ↦ ?_)
    exact owned_bills hw h fun _ _ howner ↦ howner
  | generate req =>
    refine (wp_map _ _ _).mpr (wp_mono (generateInvoice_bills w req actor) fun _ u h ↦ ?_)
    exact owned_bills hw h fun _ _ howner ↦ howner

end Steps

/-- Along a history that makes no subscription on the invoices of another customer, each
invoice has the customer of its subscription. -/
theorem invoices_keep_their_owner (w : World) (hw : Owned w) (turns : List Turn)
    (hguard : Run.Guarded takeTurn (fun w t ↦ t.operation.KeepsOwners w) w turns) :
    ∀ u ∈ Run.states takeTurn w turns, Owned u := by
  refine Run.invariant (fun u t hu hkeeps ↦ ?_) hw hguard
  have hends : (t.operation.prog t.actor).wp Call.exec (fun _ ↦ True) (fun _ v ↦ Owned v) u :=
    prog_owned hu t.actor t.operation hkeeps
  exact run_of_wp hends t.env fun _ ↦ trivial

instance (w : World) (sub : Subscription) : Decidable (KeepsOwner w sub) := by
  unfold KeepsOwner
  infer_instance

instance (w : World) (op : Operation) : Decidable (op.KeepsOwners w) := by
  unfold Operation.KeepsOwners
  split <;> infer_instance

instance (w : World) : Decidable (Owned w) := inferInstanceAs (Decidable (∀ inv ∈ w.invoices, _))

def turn (operation : Operation) : Turn where
  operation
  actor := none
  env := fun _ ↦ .calm 0

/-- Another customer takes over the name of the one whose subscription has been deleted. -/
def budiAgain (customerID : ℕ) : SubscriptionCreateRequest where
  customerID
  deviceID := 1
  pppProfileID := some 1
  hotspotProfileID := none
  serviceType := .pppoe
  mikrotikUsername := "budi"
  mikrotikPassword := "rahasia"
  billingDay := none
  notes := ""

def twoCustomers : World :=
  { World.oneInvoice 150000 .active with
    customers := (World.oneInvoice 150000 .active).customers.insert
      { id := 0, fullName := "Siti", phone := "", address := "", deletedAt := none } }

theorem recreated_keeps_owner :
    Owned ([turn (.delete 1), turn (.create (budiAgain 1)), turn .billingRun].foldl takeTurn
      twoCustomers) :=
  invoices_keep_their_owner _ (by decide +kernel) _ (by decide +kernel) _
    (Run.foldl_mem_states _ _)

theorem invoice_changes_owner :
    ¬∀ u ∈ Run.states takeTurn twoCustomers [turn (.delete 1), turn (.create (budiAgain 2))],
      Owned u := by
  decide +kernel

end Rosmon.Records
