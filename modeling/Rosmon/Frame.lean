import Rosmon.Rules

namespace Rosmon

open Library Store Program

/-- A row that an update does not select is found as it was. -/
theorem get_update_of_not {ρ : Type} [Row ρ] {t : Table ρ} {p : ρ → Bool} {f : ρ → ρ} [KeepsKey f]
    {n : ℕ} (h : ∀ r, Row.key r = n → p r = false) : (t.update p f).get n = t.get n := by
  rw [Table.get_update]
  cases hr : t.get n with
  | none => rfl
  | some r => simp [h r (Table.get_eq_some.mp hr).2]

/-- The rows of the three tables that are to stay as they are, by key. -/
structure Spared where
  payments : ℕ → Prop
  invoices : ℕ → Prop
  subscriptions : ℕ → Prop

/-- Spared rows are the same in both states. -/
structure Frame (S : Spared) (w w' : World) : Prop where
  payments : ∀ n, S.payments n → w'.payments.get n = w.payments.get n
  invoices : ∀ n, S.invoices n → w'.invoices.get n = w.invoices.get n
  subscriptions : ∀ n, S.subscriptions n → w'.subscriptions.get n = w.subscriptions.get n

namespace Frame

variable {S : Spared} {u v w : World}

theorem refl (S : Spared) (w : World) : Frame S w w := ⟨fun _ _ ↦ rfl, fun _ _ ↦ rfl, fun _ _ ↦ rfl⟩

theorem trans (h : Frame S u v) (h' : Frame S v w) : Frame S u w where
  payments n hn := (h'.payments n hn).trans (h.payments n hn)
  invoices n hn := (h'.invoices n hn).trans (h.invoices n hn)
  subscriptions n hn := (h'.subscriptions n hn).trans (h.subscriptions n hn)

theorem of_eq (hp : w.payments = v.payments) (hi : w.invoices = v.invoices)
    (hs : w.subscriptions = v.subscriptions) : Frame S v w :=
  ⟨fun _ _ ↦ by rw [hp], fun _ _ ↦ by rw [hi], fun _ _ ↦ by rw [hs]⟩

theorem update_payments {id : ℕ} (hid : ¬S.payments id) (f : Payment → Payment) [KeepsKey f] :
    Frame S w { w with payments := w.payments.update (·.id == id) f } where
  payments n hn := get_update_of_not fun _ hr ↦
    beq_false_of_ne fun h ↦ hid ((h.symm.trans hr : id = n) ▸ hn)
  invoices _ _ := rfl
  subscriptions _ _ := rfl

theorem update_invoices {id : ℕ} (hid : ¬S.invoices id) (f : Invoice → Invoice) [KeepsKey f] :
    Frame S w { w with invoices := w.invoices.update (·.id == id) f } where
  payments _ _ := rfl
  invoices n hn := get_update_of_not fun _ hr ↦
    beq_false_of_ne fun h ↦ hid ((h.symm.trans hr : id = n) ▸ hn)
  subscriptions _ _ := rfl

theorem update_subscriptions {id : ℕ} (hid : ¬S.subscriptions id)
    (f : Subscription → Subscription) [KeepsKey f] :
    Frame S w { w with subscriptions := w.subscriptions.update (Subscription.liveAt id) f } where
  payments _ _ := rfl
  invoices _ _ := rfl
  subscriptions n hn := get_update_of_not fun r hr ↦ by
    have hne : r.id ≠ id := fun h ↦ hid ((h.symm.trans hr : id = n) ▸ hn)
    simp [Subscription.liveAt, hne]

end Frame

/-- The call writes to no spared row. -/
def Call.spares (S : Spared) : Call → Prop
  | .payments (.create _) | .invoices (.create _) => False
  | .payments (.updateStatus id ..) | .payments (.updateGatewayInfo id _) => ¬S.payments id
  | .invoices (.updateStatus id ..) => ¬S.invoices id
  | .subscriptions (.updateStatus id ..) | .subscriptions (.updateSyncStatus id ..)
  | .subscriptions (.incrSyncRetry id _) | .subscriptions (.updateNextInvoiceDate id _)
  | .subscriptions (.delete id) => ¬S.subscriptions id
  | .subscriptions (.create _) | .subscriptions (.update _) => False
  | _ => True

theorem Call.inert.spares {c : Call} (hc : c.inert) (S : Spared) : c.spares S := by
  cases c with
  | payments c | invoices c | subscriptions c => cases c <;> trivial
  | _ => trivial

theorem Call.exec_spares {S : Spared} {c : Call} (hc : c.spares S) (e : Env) (w : World) :
    Frame S w (c.exec e w).2 := by
  cases c with
  | payments c =>
    refine orFault_keeps (.refl S w) ?_
    cases c with
    | create => exact hc.elim
    | getByID | getByExternalRef => exact .refl S w
    | updateStatus | updateGatewayInfo => exact .update_payments hc _
  | invoices c =>
    refine orFault_keeps (.refl S w) ?_
    cases c with
    | create => exact hc.elim
    | updateStatus => exact .update_invoices hc _
    | _ => exact .of_eq rfl (InvoiceCall.exec_reads rfl _ _ _) rfl
  | subscriptions c =>
    refine orFault_keeps (.refl S w) ?_
    cases c with
    | create | update => exact hc.elim
    | updateStatus | updateSyncStatus | incrSyncRetry | updateNextInvoiceDate | delete =>
      exact .update_subscriptions hc _
    | _ => exact .refl S w
  | now | newPaymentCode | notify | xendit | device | contextDone | rangeKeys =>
    exact .of_eq rfl rfl rfl
  | registrations | nextVal | portalPassword | customers | customerByPhone | createCustomer
  | pppProfiles | hotspotProfiles | settings | audit | router =>
    exact orFault_keeps (.refl S w) (.of_eq rfl rfl rfl)

section Rules

variable {α : Type} {S : Spared} {ok : Env → Prop} {Q : α → World → Prop} {w : World}

theorem wp_spares {c : Call} (hc : c.spares S) {k : c.Reply → Prog α}
    (hk : ∀ r w', Frame S w w' → (k r).wp Call.exec ok Q w') :
    (Program.call c k).wp Call.exec ok Q w := fun e _ ↦ hk _ _ (Call.exec_spares hc e w)

theorem wp_only_spares {p : Prog α} (hp : p.Only (Call.spares S)) (w : World) :
    p.wp Call.exec ok (fun _ w' ↦ Frame S w w') w :=
  hp.wp (fun _ e v hc _ hv ↦ hv.trans (Call.exec_spares hc e v)) (.refl S w)

theorem wp_subscriptions_get {id : ℕ} {k : Except Error Subscription → Prog α}
    (herr : ∀ err, (k (.error err)).wp Call.exec ok Q w)
    (hok : ∀ sub, w.subscriptions.find (Subscription.liveAt id) = some sub →
      (k (.ok sub)).wp Call.exec ok Q w) :
    (Program.call (.subscriptions (.get id)) k).wp Call.exec ok Q w := by
  intro e _
  obtain ⟨err, h⟩ | ⟨sub, hs, h⟩ := read_cases e w .subscriptionNotFound
    (w.subscriptions.find (Subscription.liveAt id))
  · exact wp_reply h (herr err)
  · exact wp_reply h (hok sub hs)

end Rules

end Rosmon
