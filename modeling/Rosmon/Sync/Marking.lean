import Rosmon.Sync.Quiet

namespace Rosmon

open Library Store Program Service Job

/-- As `Call.exec`, but the database compares a due date with `cut cutoff`. -/
def execCutoff (cut : Time → Time) : (c : Call) → Env → World → c.Reply × World
  | .invoices (.listOverdue cutoff), e, w => Call.exec (.invoices (.listOverdue (cut cutoff))) e w
  | c, e, w => c.exec e w

theorem execCutoff_id : execCutoff (fun t ↦ t) = Call.exec := by
  funext c e w
  unfold execCutoff
  split <;> rfl

theorem execCutoff_offLedger {c : Call} (hc : c.offLedger) (cut : Time → Time) (e : Env)
    (w : World) : (execCutoff cut c e w).2.invoices = w.invoices := by
  unfold execCutoff
  split
  · exact (Call.exec_offLedger (by trivial) e w).2
  · exact (Call.exec_offLedger hc e w).2

theorem Job.reminds.offLedger {c : Call} (hc : reminds c) : c.offLedger := by
  cases c with
  | invoices c => cases c <;> trivial
  | payments => exact hc.elim
  | _ => trivial

/-- An invoice that is marked as overdue. -/
def Store.Invoice.lapse (inv : Invoice) : Invoice := { inv with status := .overdue }

instance : KeepsKey Invoice.lapse := ⟨fun _ ↦ rfl⟩

theorem setStatus_overdue (now : Time) :
    Invoice.setStatus .overdue none now = Invoice.lapse := by
  funext inv
  simp [Invoice.setStatus, Invoice.lapse]

theorem lapse_of_overdue {inv : Invoice} (h : inv.status = .overdue) :
    Invoice.lapse inv = inv := by
  cases inv
  simp_all [Store.Invoice.lapse]

section Marks

variable {cut : Time → Time} {w : World}

theorem wp_invoices_kept {α : Type} {p : Prog α} {ok : Env → Prop} (hp : p.Only Call.offLedger) :
    p.wp (execCutoff cut) ok (fun _ w' ↦ w'.invoices = w.invoices) w :=
  hp.wp (I := fun v ↦ v.invoices = w.invoices)
    (fun _ e v hc _ hv ↦ (execCutoff_offLedger hc cut e v).trans hv) rfl

theorem markOverdue_invoices {inv : Invoice} (hinv : inv ∈ w.invoices)
    (hstatus : inv.status = .issued ∨ inv.status = .overdue) :
    (markOverdue inv).wp (execCutoff cut) Env.Faultless (fun _ w' ↦
      w'.invoices = w.invoices.update (·.id == inv.id) Invoice.lapse) w := by
  unfold markOverdue
  split_ifs with hissued
  · have hoverdue := hstatus.resolve_left hissued
    have hsame : w.invoices.update (·.id == inv.id) Invoice.lapse =
        w.invoices.update (fun _ ↦ false) Invoice.lapse := by
      refine Table.update_congr fun r hr ↦ ?_
      by_cases hid : r.id = inv.id
      · obtain rfl := Table.eq_of_key hr hinv hid
        simp [lapse_of_overdue hoverdue]
      · simp [hid]
    exact ((hsame.trans (Table.update_of_none fun _ _ ↦ rfl)).symm)
  · intro e he
    have hfind : (w.invoices.find (·.id == inv.id)).isSome := by
      have hget := Invoice.get_iff.mpr ⟨hinv, rfl⟩
      exact Option.isSome_iff_exists.mpr ⟨inv, hget⟩
    have hcall : execCutoff cut (.invoices (.updateStatus inv.id .overdue none)) e w =
        (.ok (), { w with
          invoices := w.invoices.update (·.id == inv.id) Invoice.lapse }) := by
      simp only [execCutoff, Call.exec, orFault, show e.fault = none from he, InvoiceCall.exec,
        updated, hfind, if_true, setStatus_overdue]
    rw [hcall]
    exact wp_mono (wp_invoices_kept ((notifyCustomer_informs _ _ _).mono fun _ h ↦
      h.inert.offLedger)) fun _ _ h ↦ h

/-- The loop, by induction on the list: what is still to come is in the table as it has been
read. -/
theorem markAll_invoices {invs : List Invoice} (hids : invs.Pairwise fun a b ↦ a.id ≠ b.id)
    (hstatus : ∀ inv ∈ invs, inv.status = .issued ∨ inv.status = .overdue)
    (hinvs : ∀ inv ∈ invs, inv ∈ w.invoices) :
    (invs.forM markOverdue).wp (execCutoff cut) Env.Faultless (fun _ w' ↦
      w'.invoices = w.invoices.update (· ∈ invs) Invoice.lapse) w := by
  induction invs generalizing w with
  | nil => exact (Table.update_of_none fun _ _ ↦ rfl).symm
  | cons inv invs ih =>
    obtain ⟨hapart, hids⟩ := List.pairwise_cons.mp hids
    have hinv := hinvs inv List.mem_cons_self
    refine (wp_bind _ _ _).mpr (wp_mono
      (markOverdue_invoices hinv (hstatus inv List.mem_cons_self)) fun _ u hu ↦ ?_)
    have hrest : ∀ r ∈ invs, r ∈ u.invoices := by
      intro r hr
      rw [hu]
      refine Table.mem_update_of_not (hinvs r (List.mem_cons_of_mem _ hr)) ?_
      simpa using (hapart r hr).symm
    refine wp_mono (ih hids (fun r hr ↦ hstatus r (List.mem_cons_of_mem _ hr)) hrest)
      fun _ w' hw' ↦ ?_
    rw [hw', hu]
    refine Table.update_update fun r hr ↦ ?_
    by_cases hid : r.id = inv.id
    · obtain rfl := Table.eq_of_key hr hinv hid
      have hnot : Invoice.lapse r ∉ invs := fun hmem ↦ hapart _ hmem rfl
      simp [hnot]
    · have hne : r ≠ inv := fun h ↦ hid (h ▸ rfl)
      simp [hid, hne]

/-- What the query finds, in any order. -/
structure Listed (w : World) (cutoff : Time) (invs : List Invoice) : Prop where
  ids : invs.Pairwise fun a b ↦ a.id ≠ b.id
  mem : ∀ inv, inv ∈ invs ↔ inv ∈ w.invoices ∧ inv.overdueAt cutoff

theorem listed_order (cutoff : Time) (arrange : Arrangement Invoice) :
    Listed w cutoff (arrange.order (w.invoices.rows.filter (Invoice.overdueAt cutoff))) := by
  refine ⟨?_, fun inv ↦ by rw [arrange.mem_order, List.mem_filter, Table.mem_iff]⟩
  refine ((arrange.perm _).pairwise_iff fun h ↦ h.symm).mpr ?_
  exact (w.invoices.sorted.sublist List.filter_sublist).imp fun h ↦ Nat.ne_of_lt h

/-- The check has its effect on the invoices in its loop, if it gets there. -/
theorem suspensionCheck_loop {ok : Env → Prop} {P : Time → Table Invoice → Prop}
    (hfail : ∀ now, Faulty ok → P now w.invoices)
    (hloop : ∀ now invs u, Listed w (cut now) invs → u.invoices = w.invoices →
      (invs.forM markOverdue).wp (execCutoff cut) ok (fun _ u' ↦ P now u'.invoices) u) :
    ∃ k, suspensionCheck = .call .now k ∧
      ∀ now, (k now).wp (execCutoff cut) ok (fun _ w' ↦ P now w'.invoices) w := by
  simp only [suspensionCheck, perform_bind]
  refine ⟨_, rfl, fun now ↦ ?_⟩
  have hsetting (key : String) (dflt : ℤ) : (Job.settingInt key dflt).Only Call.offLedger :=
    (Job.settingInt_informs key dflt).mono fun _ h ↦ h.inert.offLedger
  refine (wp_bind _ _ _).mpr (wp_mono (wp_invoices_kept (hsetting _ _)) fun _ u₁ h₁ ↦ ?_)
  refine (wp_bind _ _ _).mpr (wp_mono (wp_invoices_kept (hsetting _ _)) fun _ u₂ h₂ ↦ ?_)
  refine (wp_bind _ _ _).mpr (wp_mono (wp_invoices_kept
    ((sendReminders_reminds now).mono fun _ ↦ reminds.offLedger)) fun _ u₃ h₃ ↦ ?_)
  have hkept : u₃.invoices = w.invoices := h₃.trans (h₂.trans h₁)
  intro e he
  cases hfault : e.fault with
  | some err =>
    have hlist : execCutoff cut (.invoices (.listOverdue now)) e u₃ = (.error err, u₃) := by
      simp only [execCutoff, Call.exec, orFault, hfault]
    have hnothing := hfail now ⟨e, he, by simp [hfault]⟩
    rw [hlist]
    show P now u₃.invoices
    rw [hkept]
    exact hnothing
  | none =>
    have hlist : execCutoff cut (.invoices (.listOverdue now)) e u₃ = (.ok (e.invoiceOrder.order
        (w.invoices.rows.filter (Invoice.overdueAt (cut now)))), u₃) := by
      rw [← hkept]
      simp only [execCutoff, Call.exec, orFault, hfault, InvoiceCall.exec]
    rw [hlist]
    refine (wp_bind _ _ _).mpr (wp_mono (hloop now _ u₃ (listed_order (cut now) e.invoiceOrder)
      hkept) fun _ u₄ h₄ ↦ ?_)
    refine wp_mono (wp_invoices_kept (w := u₄) ?_) fun _ w' hw' ↦ hw' ▸ h₄
    refine ⟨trivial, fun _ ↦ ?_⟩
    refine (Only.forM fun id _ ↦ (isolir_only _ id).mono fun _ h ↦ h.1).bind fun _ ↦ ?_
    refine ⟨trivial, fun _ ↦ ?_⟩
    exact (Only.forM fun id _ ↦ (hardSuspend_only id).mono fun _ h ↦ h.1).bind fun _ ↦ trivial

/-- A failed call marks nothing, a successful one what it names. -/
theorem markOverdue_marks {ok : Env → Prop} {J : Table Invoice → Prop} {inv : Invoice}
    (hkeep : J w.invoices)
    (hmark : J (w.invoices.update (·.id == inv.id) Invoice.lapse)) :
    (markOverdue inv).wp (execCutoff cut) ok (fun _ w' ↦ J w'.invoices) w := by
  unfold markOverdue
  split_ifs
  · exact hkeep
  · intro e _
    have hcall :
        J (execCutoff cut (.invoices (.updateStatus inv.id .overdue none)) e w).2.invoices := by
      refine orFault_keeps (P := fun v ↦ J v.invoices) hkeep ?_
      simpa only [InvoiceCall.exec, updated, setStatus_overdue] using hmark
    generalize execCutoff cut (.invoices (.updateStatus inv.id .overdue none)) e w = r at hcall
    cases hr : r.1 with
    | error err => exact hcall
    | ok =>
      exact wp_mono (wp_invoices_kept ((notifyCustomer_informs _ _ _).mono fun _ h ↦
        h.inert.offLedger)) fun _ _ h ↦ h ▸ hcall

end Marks

/-- The check goes by the time at which it starts. -/
theorem suspensionCheck_marks (cut : Time → Time) (w : World) {env : ℕ → Env}
    (henv : ∀ n, (env n).Faultless) : (suspensionCheck.run (execCutoff cut) env w).2.invoices =
      w.invoices.update (Invoice.overdueAt (cut (env 0).now)) Invoice.lapse := by
  have hcheck : ∃ k, suspensionCheck = .call .now k ∧ ∀ now,
      (k now).wp (execCutoff cut) Env.Faultless (fun _ w' ↦ w'.invoices =
        w.invoices.update (Invoice.overdueAt (cut now)) Invoice.lapse) w := by
    refine suspensionCheck_loop
      (P := fun now t ↦ t = w.invoices.update (Invoice.overdueAt (cut now)) Invoice.lapse)
      (fun _ hfaulty ↦ ?_) fun now invs u hlisted hu ↦ ?_
    · obtain ⟨e, he, hfault⟩ := hfaulty
      exact absurd he hfault
    refine wp_mono (markAll_invoices hlisted.ids (fun inv hinv ↦ ?_) fun inv hinv ↦ ?_)
      fun _ u' hu' ↦ ?_
    · have hoverdue := ((hlisted.mem inv).mp hinv).2
      simp only [Invoice.overdueAt, Bool.and_eq_true, Bool.or_eq_true,
        decide_eq_true_eq] at hoverdue
      exact hoverdue.2
    · exact hu ▸ ((hlisted.mem inv).mp hinv).1
    · rw [hu', hu]
      refine Table.update_congr fun r hr ↦ ?_
      have hmem : r ∈ invs ↔ r.overdueAt (cut now) := (hlisted.mem r).trans (and_iff_right hr)
      simp only [decide_eq_true_eq, hmem]
  obtain ⟨k, hk, hwp⟩ := hcheck
  rw [hk]
  exact run_of_wp (hwp (env 0).now) (fun n ↦ env (n + 1)) fun n ↦ henv (n + 1)

/-- What is marked as overdue in `t` has been so, or a query with this cutoff finds it. -/
def MarksFound (w : World) (cutoff : Time) (t : Table Invoice) : Prop :=
  ∀ inv' ∈ t, inv'.status = .overdue → ∃ inv ∈ w.invoices, inv.id = inv'.id ∧
    (inv.status = .overdue ∨ inv.overdueAt cutoff)

/-- Whatever fails. -/
theorem suspensionCheck_marked (cut : Time → Time) (w : World) (env : ℕ → Env) :
    MarksFound w (cut (env 0).now) (suspensionCheck.run (execCutoff cut) env w).2.invoices := by
  have hstart (cutoff : Time) : MarksFound w cutoff w.invoices := fun inv hinv hstatus ↦
    ⟨inv, hinv, rfl, .inl hstatus⟩
  have hcheck : ∃ k, suspensionCheck = .call .now k ∧ ∀ now, (k now).wp (execCutoff cut)
      (fun _ ↦ True) (fun _ w' ↦ MarksFound w (cut now) w'.invoices) w := by
    refine suspensionCheck_loop (P := fun now t ↦ MarksFound w (cut now) t)
      (fun now _ ↦ hstart _) fun now invs u hlisted hu ↦ ?_
    refine wp_mono (wp_forM (fun xs v ↦ (∀ inv ∈ xs, inv ∈ invs) ∧
      MarksFound w (cut now) v.invoices) ?_ ⟨fun _ h ↦ h, hu ▸ hstart _⟩) fun _ _ h ↦ h.2
    intro inv xs v hv
    obtain ⟨hxs, hfound⟩ := hv
    have hrest : ∀ x ∈ xs, x ∈ invs := fun x hx ↦ hxs x (List.mem_cons_of_mem _ hx)
    obtain ⟨hinv, hoverdue⟩ := (hlisted.mem inv).mp (hxs inv List.mem_cons_self)
    refine markOverdue_marks (J := fun t ↦ (∀ x ∈ xs, x ∈ invs) ∧ MarksFound w (cut now) t)
      ⟨hrest, hfound⟩ ⟨hrest, ?_⟩
    intro inv' hinv' hstatus
    obtain ⟨r, hr, rfl⟩ := Table.mem_update.mp hinv'
    by_cases hid : r.id = inv.id
    · refine ⟨inv, hinv, ?_, .inr hoverdue⟩
      simp [hid, Invoice.lapse]
    · simp only [beq_iff_eq, hid, if_false] at hstatus ⊢
      exact hfound r hr hstatus
  obtain ⟨k, hk, hwp⟩ := hcheck
  rw [hk]
  exact run_of_wp (hwp (env 0).now) (fun n ↦ env (n + 1)) fun _ ↦ trivial

end Rosmon
