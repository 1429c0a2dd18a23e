import Rosmon.Concurrent.Decision

namespace Rosmon.Concurrent

open Library Store Program

variable {ι : Type} [DecidableEq ι] {paymentID : ℕ} {named : String → String → Prop}

def Mark.InWindow (m : Mark) : Prop := ∃ id, m.stage = .window id

instance (m : Mark) : Decidable m.InWindow :=
  match h : m.stage with
  | .window id => isTrue ⟨id, h⟩
  | .reading | .wrote _ | .done => isFalse fun ⟨_, hid⟩ ↦ by simp [h] at hid

theorem Mark.not_wrote {m : Mark} (h : ∀ status, m.stage ≠ .wrote status) : ¬m.Wrote := by
  intro hw
  obtain ⟨status, hs⟩ := hw
  exact h status hs

/-- Either the payment is pending and nobody has decided it, or one attempt has
and nobody is about to do it again. -/
structure Consistent (paymentID : ℕ) (named : String → String → Prop) (w : World)
    (m : ι → Mark) : Prop where
  found : ∀ gatewayName externalRef, named gatewayName externalRef →
    ∃ p, w.payments.find (Payment.named gatewayName externalRef) = some p ∧ p.id = paymentID
  window : ∀ i id, (m i).stage = .window id → id = paymentID
  row : ∃ p, w.payments.get paymentID = some p ∧
    ((p.status = .pending ∧ ∀ i, ¬(m i).Wrote) ∨
      (p.status ≠ .pending ∧ ∃ i, (m i).stage = .wrote p.status ∧
        ∀ j, j ≠ i → (m j).stage = .reading ∨ (m j).stage = .done))
  settled : ∀ i, (m i).settled = true → (m i).stage = .wrote .confirmed

def statusOf (paymentID : ℕ) (w : World) : Option PaymentStatus :=
  (w.payments.get paymentID).map (·.status)

namespace Consistent

variable {w w' : World} {m : ι → Mark} {i : ι}

/-- A call that neither writes to the payments nor brings its attempt further. -/
theorem same (h : Consistent paymentID named w m) {m' : Mark} (hw : w'.payments = w.payments)
    (hstage : m'.stage = (m i).stage) (hsettled : m'.settled = true → m'.stage = .wrote .confirmed) :
    Consistent paymentID named w' (Function.update m i m') := by
  have hall : ∀ j, (Function.update m i m' j).stage = (m j).stage := by
    intro j
    by_cases hj : j = i
    · rw [hj, Function.update_self, hstage]
    · rw [Function.update_of_ne hj]
  refine ⟨hw ▸ h.found, fun j id ↦ ?_, ?_, fun j hj ↦ ?_⟩
  · simpa only [hall] using h.window j id
  · simpa only [hall, hw, Mark.Wrote] using h.row
  · rw [hall]
    by_cases hji : j = i
    · subst hji
      rw [Function.update_self] at hj
      exact hstage ▸ hsettled hj
    · rw [Function.update_of_ne hji] at hj
      exact h.settled j hj

/-- An attempt that has written nothing gives up, or enters the window. -/
theorem advance (h : Consistent paymentID named w m) {m' : Mark} (hold : ¬(m i).Wrote)
    (hsettled : m'.settled = (m i).settled) (hstage : m'.stage = .done ∨
      m'.stage = .window paymentID ∧ statusOf paymentID w = some .pending) :
    Consistent paymentID named w (Function.update m i m') := by
  obtain ⟨p, hp, hrow⟩ := h.row
  simp only [statusOf, hp, Option.map_some, Option.some.injEq] at hstage
  refine ⟨h.found, ?_, ⟨p, hp, ?_⟩, ?_⟩
  · refine (Function.forall_update_iff m fun j m' ↦ ∀ n, m'.stage = .window n → n = paymentID).mpr
      ⟨fun n hn ↦ ?_, fun j _ ↦ h.window j⟩
    rcases hstage with hs | ⟨hs, -⟩ <;> simp_all
  · rcases hrow with ⟨hpending, hnone⟩ | ⟨hdecided, k, hk, hothers⟩
    · refine .inl ⟨hpending, (Function.forall_update_iff m fun _ m' ↦ ¬m'.Wrote).mpr
        ⟨fun ⟨s, hs'⟩ ↦ ?_, fun j _ ↦ hnone j⟩⟩
      rcases hstage with hs | ⟨hs, -⟩ <;> simp_all
    · have hki : k ≠ i := fun hki ↦ hold ⟨_, hki ▸ hk⟩
      refine .inr ⟨hdecided, k, by rwa [Function.update_of_ne hki], fun j hj ↦ ?_⟩
      by_cases hji : j = i
      · subst hji
        rw [Function.update_self]
        exact .inr (hstage.resolve_right fun hs ↦ hdecided hs.2)
      · rw [Function.update_of_ne hji]
        exact hothers j hj
  · refine (Function.forall_update_iff m
      fun j m' ↦ m'.settled = true → m'.stage = .wrote .confirmed).mpr
        ⟨fun hs ↦ ?_, fun j _ ↦ h.settled j⟩
    exact absurd ⟨_, h.settled i (hsettled ▸ hs)⟩ hold

/-- The first read of the payment opens the window if it is still pending. -/
theorem read (h : Consistent paymentID named w m) {id : Payment → ℕ} {r : Except Error Payment}
    (hr : (m i).stage = .reading → ∀ p, r = .ok p →
      w.payments.get paymentID = some p ∧ id p = paymentID) :
    Consistent paymentID named w (Function.update m i ((m i).read id r)) := by
  by_cases hreading : (m i).stage = .reading
  · refine h.advance (Mark.not_wrote (by simp [hreading])) ?_ ?_
    · simp only [Mark.read, hreading, if_true]
    · simp only [Mark.read, hreading, if_true]
      rcases r with err | p
      · exact .inl rfl
      · obtain ⟨hp, hid⟩ := hr hreading p rfl
        dsimp only
        split_ifs with hpending
        · exact .inr ⟨congrArg _ hid, by simp [statusOf, hp, hpending.1]⟩
        · exact .inl rfl
  · rw [show (m i).read id r = m i from if_neg hreading, Function.update_eq_self]
    exact h

/-- The write of an attempt that is alone in the window. -/
theorem write (h : Consistent paymentID named w m) {id : ℕ} (hwindow : (m i).stage = .window id)
    (halone : ∀ j, j ≠ i → ¬(m j).InWindow) {status : PaymentStatus} (hstatus : status ≠ .pending)
    (actor : Option ℕ) (now : Option Time) (reason : String) :
    Consistent paymentID named { w with
      payments := w.payments.update (·.id == id) (Payment.setStatus status actor now reason) }
      (Function.update m i ((m i).write status (.ok ()))) := by
  obtain rfl := h.window i id hwindow
  obtain ⟨p, hp, hrow⟩ := h.row
  obtain ⟨-, hnone⟩ : p.status = .pending ∧ ∀ i, ¬(m i).Wrote := by
    refine hrow.resolve_right ?_
    rintro ⟨-, k, hk, hothers⟩
    have hki : k ≠ i := fun hki ↦ by simp_all
    rcases hothers i hki.symm with hi | hi <;> simp [hi] at hwindow
  refine ⟨fun gatewayName externalRef hn ↦ ?_, ?_, ?_, ?_⟩
  · obtain ⟨q, hq, hid⟩ := h.found gatewayName externalRef hn
    refine ⟨q.setStatus status actor now reason, ?_, hid⟩
    rw [Table.find_update (f := Payment.setStatus status actor now reason) _ fun _ ↦ rfl, hq]
    simp [hid]
  · exact (Function.forall_update_iff m fun j m' ↦ ∀ n, m'.stage = .window n → n = id).mpr
      ⟨by simp [Mark.write], fun j _ ↦ h.window j⟩
  · refine ⟨p.setStatus status actor now reason, ?_, .inr ⟨hstatus, i, ?_, fun j hj ↦ ?_⟩⟩
    · simp [Table.get_update, hp, (Payment.get_iff.mp hp).2]
    · rw [Function.update_self]
      rfl
    · rw [Function.update_of_ne hj]
      cases hs : (m j).stage with
      | reading => exact .inl rfl
      | window n => exact absurd ⟨n, hs⟩ (halone j hj)
      | wrote s => exact absurd ⟨s, hs⟩ (hnone j)
      | done => exact .inr rfl
  · refine (Function.forall_update_iff m
      fun j m' ↦ m'.settled = true → m'.stage = .wrote .confirmed).mpr
        ⟨fun hs ↦ ?_, fun j _ ↦ h.settled j⟩
    simp [h.settled i hs] at hwindow

end Consistent

/-- Where an attempt writes its decision, no other one stands between its reading
that the payment is pending and its own write. -/
def Alone (_ : World) (m : ι → Mark) (i : ι) : Call → Prop
  | .payments (.updateStatus ..) => ∀ j, j ≠ i → ¬(m j).InWindow
  | _ => True

instance [Fintype ι] (w : World) (m : ι → Mark) (i : ι) (c : Call) : Decidable (Alone w m i c) := by
  unfold Alone
  split <;> infer_instance

section Steps

variable {w : World} {m : ι → Mark} {i : ι} {c : Call} {e : Env}

theorem consistent_step (h : Consistent paymentID named w m)
    (ha : (observer paymentID named).allows (m i) c) (hg : Alone w m i c) :
    Consistent paymentID named (c.exec e w).2
      (Function.update m i ((observer paymentID named).next (m i) c (c.exec e w).1)) := by
  have keep (hc : c.keepsPayments) := Call.exec_keepsPayments hc e w
  have unread {c : PaymentCall} (hc : c.reads) : (Call.exec (.payments c) e w).2 = w :=
    orFault_keeps (P := (· = w)) rfl (by rw [c.exec_reads hc])
  cases c with
  | payments c =>
    cases c with
    | getByID id =>
      rw [unread rfl]
      refine h.read fun hreading p hp ↦ ?_
      obtain rfl := ha hreading
      exact ⟨payments_getByID_reply hp, rfl⟩
    | getByExternalRef gatewayName externalRef =>
      rw [unread rfl]
      refine h.read fun hreading p hp ↦ ?_
      obtain ⟨q, hq, hid⟩ := h.found _ _ (ha hreading)
      obtain rfl : q = p := Option.some.inj (hq.symm.trans (payments_getByExternalRef_reply hp))
      exact ⟨Payment.get_iff.mpr ⟨Table.mem_of_find hq, hid⟩, hid⟩
    | updateStatus id status actor now reason =>
      obtain ⟨hwindow, hstatus⟩ := ha
      obtain ⟨err, he⟩ | ⟨-, he⟩ := update_cases e w .paymentNotFound w.payments (·.id == id)
        (Payment.setStatus status actor now reason) (fun t ↦ { w with payments := t }) rfl
      · simp only [Call.exec, PaymentCall.exec, he]
        exact h.advance (Mark.not_wrote (by simp [hwindow])) rfl (.inl rfl)
      · simp only [Call.exec, PaymentCall.exec, he]
        exact h.write hwindow hg hstatus actor now reason
    | create | updateGatewayInfo => exact ha.elim
  | invoices c =>
    cases c with
    | updateStatus => exact h.same (keep trivial) rfl fun _ ↦ ha
    | create | getByID | getByPaymentCode | listDueForBilling | listOverdue =>
      exact h.same (keep trivial) rfl (h.settled i)
  | _ => exact h.same (keep trivial) rfl (h.settled i)

omit [DecidableEq ι] in
/-- A decided payment is out of reach of every attempt. -/
theorem status_kept (h : Consistent paymentID named w m)
    (ha : (observer paymentID named).allows (m i) c) (hdone : statusOf paymentID w ≠ some .pending) :
    statusOf paymentID (c.exec e w).2 = statusOf paymentID w := by
  have keep (hc : c.keepsPayments) : statusOf paymentID (c.exec e w).2 = statusOf paymentID w := by
    rw [statusOf, Call.exec_keepsPayments hc, statusOf]
  cases c with
  | payments c =>
    cases c with
    | getByID | getByExternalRef => exact keep rfl
    | updateStatus id status actor now reason =>
      obtain ⟨p, hp, ⟨hpending, -⟩ | ⟨-, k, hk, hothers⟩⟩ := h.row
      · simp [statusOf, hp, hpending] at hdone
      · obtain ⟨hwindow, -⟩ := ha
        have hki : i ≠ k := fun hki ↦ by simp [hki, hk] at hwindow
        rcases hothers i hki with hi | hi <;> simp [hi] at hwindow
    | create | updateGatewayInfo => exact ha.elim
  | _ => exact keep trivial

end Steps

/-- Any number of attempts to decide one payment, before their first call. -/
def attemptsOn (paymentID : ℕ) (w : World) (attempts : ι → Attempt) :
    Pool ι Call Call.Reply Bool World Mark where
  state := w
  threads i := (attempts i).prog paymentID
  marks i := (attempts i).start

omit [DecidableEq ι] in
theorem attemptsOn_sound {w : World} (hw : statusOf paymentID w = some .pending)
    {attempts : ι → Attempt} (hon : ∀ i, (attempts i).On paymentID w) :
    (attemptsOn paymentID w attempts).Sound (observer paymentID (Names paymentID w))
      (fun i m ok ↦ (attempts i).Reports m ok ↔ m.Wrote)
      (Consistent paymentID (Names paymentID w)) := by
  obtain ⟨p, hp, hpending⟩ := Option.map_eq_some_iff.mp hw
  refine ⟨⟨fun _ _ h ↦ h, nofun, ⟨p, hp, .inl ⟨hpending, fun i ↦ nofun⟩⟩, nofun⟩, fun i ↦ ?_⟩
  have hi := hon i
  simp only [attemptsOn]
  cases ha : attempts i with
  | confirm actor => exact confirm_follows actor
  | reject reason actor => exact reject_follows reason actor
  | webhook event => exact webhook_follows (ha ▸ hi : (Attempt.webhook event).On paymentID w)

/-- The attempts after a schedule. -/
def after (paymentID : ℕ) (w : World) (attempts : ι → Attempt) (schedule : List (ι × Env)) :
    Pool ι Call Call.Reply Bool World Mark :=
  (attemptsOn paymentID w attempts).run Call.exec (observer paymentID (Names paymentID w)) schedule

theorem after_append (paymentID : ℕ) (w : World) (attempts : ι → Attempt) (s t : List (ι × Env)) :
    after paymentID w attempts (s ++ t) =
      (after paymentID w attempts s).run Call.exec (observer paymentID (Names paymentID w)) t :=
  Pool.run_append _ _ _ _ _

section Guarded

variable {w : World} {attempts : ι → Attempt} {s t : List (ι × Env)}
  (hw : statusOf paymentID w = some .pending) (hon : ∀ i, (attempts i).On paymentID w)

include hw hon

theorem after_sound (hs : (attemptsOn paymentID w attempts).Guarded Call.exec
      (observer paymentID (Names paymentID w)) Alone s) :
    (after paymentID w attempts s).Sound (observer paymentID (Names paymentID w))
      (fun i m ok ↦ (attempts i).Reports m ok ↔ m.Wrote)
      (Consistent paymentID (Names paymentID w)) :=
  (attemptsOn_sound hw hon).run (fun _ ↦ True)
    (fun _ _ _ _ _ h ha hg _ ↦ consistent_step h ha hg) hs fun _ _ ↦ trivial

/-- From the decision on the status is part of what every call keeps. -/
theorem after_kept (hg : (attemptsOn paymentID w attempts).Guarded Call.exec
      (observer paymentID (Names paymentID w)) Alone (s ++ t))
    (hdone : statusOf paymentID (after paymentID w attempts s).state ≠ some .pending) :
    statusOf paymentID (after paymentID w attempts (s ++ t)).state =
      statusOf paymentID (after paymentID w attempts s).state := by
  obtain ⟨hs, ht⟩ := (Pool.guarded_append _ s t).mp hg
  have hsound := after_sound hw hon hs
  have hkept : (after paymentID w attempts s).Sound (observer paymentID (Names paymentID w))
      (fun i m ok ↦ (attempts i).Reports m ok ↔ m.Wrote) (fun v m ↦
        Consistent paymentID (Names paymentID w) v m ∧
          statusOf paymentID v = statusOf paymentID (after paymentID w attempts s).state) :=
    ⟨⟨hsound.inv, rfl⟩, hsound.follows⟩
  rw [after_append]
  exact (hkept.run (fun _ ↦ True) (fun v m i c e h ha hg _ ↦
    ⟨consistent_step h.1 ha hg, (status_kept h.1 ha (h.2 ▸ hdone)).trans h.2⟩) ht
      fun _ _ ↦ trivial).inv.2

/-- As long as no attempt writes its decision while another one is about to, a
payment is decided once: its status stays, one attempt has decided it, those that
have finished say whether they did, and a rejection goes with no settlement. -/
theorem decided_once (hg : (attemptsOn paymentID w attempts).Guarded Call.exec
      (observer paymentID (Names paymentID w)) Alone (s ++ t)) :
    (statusOf paymentID (after paymentID w attempts s).state ≠ some .pending →
      statusOf paymentID (after paymentID w attempts (s ++ t)).state =
        statusOf paymentID (after paymentID w attempts s).state ∧
      ∃! i, ((after paymentID w attempts s).marks i).Wrote) ∧
    (∀ i ok, (after paymentID w attempts s).result i = some ok →
      ((attempts i).Reports ((after paymentID w attempts s).marks i) ok ↔
        ((after paymentID w attempts s).marks i).Wrote)) ∧
    (statusOf paymentID (after paymentID w attempts s).state = some .rejected →
      ∀ i, ((after paymentID w attempts s).marks i).settled = false) := by
  have hsound := after_sound hw hon ((Pool.guarded_append _ s t).mp hg).1
  obtain ⟨q, hq, hrow⟩ := hsound.inv.row
  refine ⟨fun hdone ↦ ⟨after_kept hw hon hg hdone, ?_⟩, fun i ok h ↦ hsound.result h,
    fun hrejected i ↦ ?_⟩
  · obtain ⟨hpending, -⟩ | ⟨-, k, hk, hothers⟩ := hrow
    · simp [statusOf, hq, hpending] at hdone
    · refine ⟨k, ⟨_, hk⟩, fun j ⟨status, hj⟩ ↦ by_contra fun hne ↦ ?_⟩
      rcases hothers j hne with h | h <;> simp [h] at hj
  · simp only [statusOf, hq, Option.map_some, Option.some.injEq] at hrejected
    obtain ⟨hpending, -⟩ | ⟨-, k, hk, hothers⟩ := hrow
    · simp [hpending] at hrejected
    · by_contra hi
      have hstage := hsound.inv.settled i (by simpa using hi)
      by_cases hik : i = k
      · simp [hik, hk, hrejected] at hstage
      · rcases hothers i hik with h | h <;> simp [h] at hstage

end Guarded

/-- The store with one uploaded proof of transfer. -/
def uploaded : World :=
  ((Service.createPortalPayment 1 1 "a.jpg" "BCA" "R-1").run Call.exec (fun _ ↦ .calm 0)
    (World.oneInvoice 150000 .active)).2

/-- One admin confirms the upload while another one rejects it. -/
def confirmOrReject : Bool → Attempt
  | true => .confirm none
  | false => .reject "blurred" none

def turns (order : List Bool) : List (Bool × Env) := order.map fun i ↦ (i, .calm 1)

/-- Both admins are told that they have decided, and the payment that settled the
invoice ends up rejected. -/
theorem confirmed_and_rejected :
    let p := after 1 uploaded confirmOrReject
      (turns [true, false, true, true, true, true, true, true, true, true, false, false, false])
    statusOf 1 p.state = some .rejected ∧ p.result true = some true ∧ p.result false = some true ∧
      (p.marks true).settled = true ∧ ∀ inv ∈ p.state.invoices, inv.status = .paid := by
  decide +kernel

/-- When one of them comes second, only the other one has decided. -/
theorem confirmed_not_rejected :
    statusOf 1 (after 1 uploaded confirmOrReject
        (turns (List.replicate 9 true) ++ turns [false, false])).state =
      statusOf 1 (after 1 uploaded confirmOrReject (turns (List.replicate 9 true))).state ∧
    ∃! i, ((after 1 uploaded confirmOrReject (turns (List.replicate 9 true))).marks i).Wrote := by
  have hon : ∀ i, (confirmOrReject i).On 1 uploaded := by
    intro i
    cases i <;> trivial
  exact (decided_once (by decide +kernel) hon (by decide +kernel)).1 (by decide +kernel)

end Rosmon.Concurrent
