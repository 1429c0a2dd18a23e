import Rosmon.Concurrent.Closing

namespace Rosmon.Concurrent

open Library Store Program

variable {ι : Type} [DecidableEq ι]

/-- Where an invoice becomes paid, no task that has read it as unpaid has still to
write to it. -/
def NothingAhead (_ : World) (m : ι → Intent) (_ : ι) : Call → Prop
  | .invoices (.updateStatus id .paid _) => ∀ j, id ∉ (m j).todo
  | _ => True

instance [Fintype ι] (w : World) (m : ι → Intent) (i : ι) (c : Call) :
    Decidable (NothingAhead w m i c) := by
  unfold NothingAhead
  split <;> infer_instance

/-- What is on a list is not paid. -/
def Unpaid (w : World) (m : ι → Intent) : Prop :=
  ∀ i, ∀ id ∈ (m i).todo, ∀ inv ∈ w.invoices, inv.id = id → inv.status ≠ .paid

/-- Paid invoices are still paid. -/
def PaidStays (w w' : World) : Prop :=
  ∀ inv ∈ w.invoices, inv.status = .paid → ∃ inv' ∈ w'.invoices, inv'.id = inv.id ∧
    inv'.status = .paid

instance (w w' : World) : Decidable (PaidStays w w') :=
  inferInstanceAs (Decidable (∀ inv ∈ w.invoices, inv.status = .paid →
    ∃ inv' ∈ w'.invoices, inv'.id = inv.id ∧ inv'.status = .paid))

theorem PaidStays.refl (w : World) : PaidStays w w := fun inv h hs ↦ ⟨inv, h, rfl, hs⟩

theorem PaidStays.trans {u v w : World} (h : PaidStays u v) (h' : PaidStays v w) :
    PaidStays u w := by
  intro inv hi hs
  obtain ⟨inv', hi', hid', hs'⟩ := h inv hi hs
  obtain ⟨inv'', hi'', hid'', hs''⟩ := h' inv' hi' hs'
  exact ⟨inv'', hi'', hid''.trans hid', hs''⟩

section Steps

variable {w : World} {m : ι → Intent} {i : ι} {c : Call} {e : Env}

omit [DecidableEq ι] in
/-- What is new on a list has just been read as unpaid. -/
theorem next_todo {id : ℕ} (h : id ∈ (closingObserver.next (m i) c (c.exec e w).1).todo) :
    id ∈ (m i).todo ∨ c.keepsInvoices ∧ ∀ inv ∈ w.invoices, inv.id = id → inv.status ≠ .paid := by
  generalize hr : (c.exec e w).1 = r at h
  simp only [closingObserver] at h
  split at h
  next invs hm =>
    obtain ⟨inv, hinv, rfl⟩ := List.mem_map.mp (show id ∈ issuedIDs invs from h)
    obtain ⟨hinv, hissued⟩ := List.mem_filter.mp hinv
    refine .inr ⟨rfl, fun inv' hinv' hid ↦ ?_⟩
    rw [Table.eq_of_key hinv' (invoices_listOverdue_reply hr hinv) hid]
    simp [of_decide_eq_true hissued]
  next n inv hm =>
    obtain ⟨hinv, hid⟩ := Invoice.get_iff.mp (invoices_getByID_reply hr)
    by_cases hpaid : inv.status = .paid
    · simp [Intent.todo, hpaid] at h
    · simp only [Intent.todo, hpaid, if_false, List.mem_singleton] at h
      refine .inr ⟨rfl, fun inv' hinv' hid' ↦ ?_⟩
      rwa [Table.eq_of_key hinv' hinv (hid'.trans (h.trans hid.symm))]
  next hm => exact .inl (by rw [hm]; exact List.mem_of_mem_erase h)
  next => exact .inl h

theorem unpaid_step (h : Unpaid w m) (ha : closingObserver.allows (m i) c)
    (hg : NothingAhead w m i c) : Unpaid (c.exec e w).2
      (Function.update m i (closingObserver.next (m i) c (c.exec e w).1)) := by
  have hlists : ∀ j, ∀ id ∈ (Function.update m i
      (closingObserver.next (m i) c (c.exec e w).1) j).todo, id ∈ (m j).todo ∨
        c.keepsInvoices ∧ ∀ inv ∈ w.invoices, inv.id = id → inv.status ≠ .paid := by
    intro j id hid
    by_cases hj : j = i
    · subst hj
      rw [Function.update_self] at hid
      exact next_todo hid
    · rw [Function.update_of_ne hj] at hid
      exact .inl hid
  intro j id hid
  obtain hw | ⟨inv, rfl, hw⟩ | ⟨n, status, paidAt, rfl, hw⟩ := invoices_cases c e w
  · rw [hw]
    exact (hlists j id hid).elim (h j id) fun hread ↦ hread.2
  · have hold := (hlists j id hid).resolve_right fun hread ↦ absurd hread.1 (by simp [Call.keepsInvoices, InvoiceCall.reads])
    rw [hw]
    intro inv' hinv' heq
    rcases Table.mem_insert.mp hinv' with hinv' | rfl
    · exact h j id hold inv' hinv' heq
    · exact ha
  · have hold := (hlists j id hid).resolve_right fun hread ↦ absurd hread.1 nofun
    rw [hw]
    intro inv' hinv' heq
    obtain ⟨inv, hinv, rfl⟩ := Table.mem_update.mp hinv'
    split at heq
    next hn =>
      have hn' : n = id := (of_decide_eq_true hn).symm.trans heq
      rw [if_pos hn]
      rintro rfl
      exact hg j (hn' ▸ hold)
    next hn =>
      rw [if_neg hn]
      exact h j id hold inv hinv heq

omit [DecidableEq ι] in
theorem paidStays_step (h : Unpaid w m) (ha : closingObserver.allows (m i) c) :
    PaidStays w (c.exec e w).2 := by
  obtain hw | ⟨inv, rfl, hw⟩ | ⟨id, status, paidAt, rfl, hw⟩ := invoices_cases c e w
  · intro inv hinv hs
    exact ⟨inv, hw ▸ hinv, rfl, hs⟩
  · intro inv hinv hs
    exact ⟨inv, hw ▸ Table.mem_insert.mpr (.inl hinv), rfl, hs⟩
  · intro inv hinv hs
    rw [hw]
    by_cases hid : inv.id = id
    · refine ⟨_, Table.mem_update_of hinv (by simpa using hid), rfl, ?_⟩
      exact ha.resolve_right fun htodo ↦ h i id htodo inv hinv hid hs
    · exact ⟨inv, Table.mem_update_of_not hinv (by simpa using hid), rfl, hs⟩

end Steps

/-- Any number of tasks, before their first call. -/
def tasksOn (w : World) (tasks : ι → Task) : Pool ι Call Call.Reply Unit World Intent where
  state := w
  threads i := (tasks i).prog
  marks i := (tasks i).intent

omit [DecidableEq ι] in
theorem tasksOn_sound (w : World) (tasks : ι → Task) :
    (tasksOn w tasks).Sound closingObserver (fun _ _ _ ↦ True) Unpaid := by
  refine ⟨fun i id hid ↦ ?_, fun i ↦ ?_⟩
  · have hnone : (tasks i).intent.todo = [] := by cases tasks i <;> rfl
    simp only [tasksOn, hnone, List.not_mem_nil] at hid
  · simp only [tasksOn]
    cases tasks i with
    | createManual p actor => exact (follows_map _ _ _).mpr (createManual_follows p actor)
    | confirm paymentID actor => exact (follows_map _ _ _).mpr (confirm_settling paymentID actor)
    | processWebhook event => exact (follows_map _ _ _).mpr (processWebhook_follows event)
    | suspensionCheck => exact (follows_map _ _ _).mpr suspensionCheck_follows
    | cancel invoiceID actor => exact (follows_map _ _ _).mpr (cancel_follows invoiceID actor)

/-- The store after a schedule. -/
def storeAfter (w : World) (tasks : ι → Task) (schedule : List (ι × Env)) : World :=
  ((tasksOn w tasks).run Call.exec closingObserver schedule).state

/-- As long as no invoice becomes paid while a task that has read it as unpaid has
still to write to it, what is paid stays paid. -/
theorem paid_stays_paid (w : World) (tasks : ι → Task) (s t : List (ι × Env))
    (hg : (tasksOn w tasks).Guarded Call.exec closingObserver NothingAhead (s ++ t)) :
    PaidStays (storeAfter w tasks s) (storeAfter w tasks (s ++ t)) := by
  obtain ⟨hs, ht⟩ := (Pool.guarded_append _ s t).mp hg
  have hsound := (tasksOn_sound w tasks).run (fun _ ↦ True)
    (fun _ _ _ _ _ h ha hg _ ↦ unpaid_step h ha hg) hs fun _ _ ↦ trivial
  -- From here on what was paid after `s` is compared with every later state.
  have hkept : ((tasksOn w tasks).run Call.exec closingObserver s).Sound closingObserver
      (fun _ _ _ ↦ True) (fun v m ↦ Unpaid v m ∧ PaidStays (storeAfter w tasks s) v) :=
    ⟨⟨hsound.inv, .refl _⟩, hsound.follows⟩
  rw [storeAfter, storeAfter, Pool.run_append]
  exact (hkept.run (fun _ ↦ True) (fun v m i c e h ha hg _ ↦
    ⟨unpaid_step h.1 ha hg, h.2.trans (paidStays_step h.1 ha)⟩) ht fun _ _ ↦ trivial).inv.2

/-- The invoice paid in cash. -/
def cash : Task := .createManual (Handler.manualPayment ⟨1, 1, 150000, "cash", "", "", "", "m-1"⟩) none

/-- The payment against a cancellation, and against the job that looks for overdue
invoices. -/
def against (task : Task) : Bool → Task
  | true => cash
  | false => task

def turnsAt (now : Time) (order : List Bool) : List (Bool × Env) := order.map fun i ↦ (i, .calm now)

/-- A payment that lands between the read and the write of the other task is undone. -/
theorem paid_then_closed :
    (¬PaidStays
      (storeAfter (World.oneInvoice 150000 .active) (against (.cancel 1 none))
        (turnsAt (8 * day) (false :: List.replicate 9 true)))
      (storeAfter (World.oneInvoice 150000 .active) (against (.cancel 1 none))
        (turnsAt (8 * day) (false :: List.replicate 9 true) ++ turnsAt (8 * day) [false]))) ∧
    ¬PaidStays
      (storeAfter (World.oneInvoice 150000 .active) (against .suspensionCheck)
        (turnsAt (8 * day) (List.replicate 5 false ++ List.replicate 9 true)))
      (storeAfter (World.oneInvoice 150000 .active) (against .suspensionCheck)
        (turnsAt (8 * day) (List.replicate 5 false ++ List.replicate 9 true) ++
          turnsAt (8 * day) [false])) := by
  decide +kernel

/-- A cancellation that starts after the payment is refused. -/
theorem paid_not_cancelled : PaidStays
    (storeAfter (World.oneInvoice 150000 .active) (against (.cancel 1 none))
      (turnsAt (8 * day) (List.replicate 9 true)))
    (storeAfter (World.oneInvoice 150000 .active) (against (.cancel 1 none))
      (turnsAt (8 * day) (List.replicate 9 true) ++ turnsAt (8 * day) [false, false])) :=
  paid_stays_paid _ _ _ _ (by decide +kernel)

end Rosmon.Concurrent
