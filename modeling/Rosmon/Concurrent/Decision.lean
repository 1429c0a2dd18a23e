import Mathlib.Data.Fintype.Basic
import Rosmon.Handler.Handlers
import Rosmon.Service.Frame

namespace Rosmon.Concurrent

open Library Store Program Service

/-- A call that decides one given payment. -/
inductive Attempt
  | confirm (actor : Option ℕ)
  | reject (reason : String) (actor : Option ℕ)
  | webhook (event : PaymentEvent)

/-- The call, and whether it returns without an error. -/
def Attempt.prog (paymentID : ℕ) : Attempt → Prog Bool
  | .confirm actor => Except.isOk <$> Service.confirm paymentID actor
  | .reject reason actor => Except.isOk <$> Service.reject paymentID reason actor
  | .webhook event => Except.isOk <$> processWebhook event

/-- The reference by which the gateway names the payment. -/
def Names (paymentID : ℕ) (w : World) (gatewayName externalRef : String) : Prop :=
  ∃ p, w.payments.find (Payment.named gatewayName externalRef) = some p ∧ p.id = paymentID

/-- An event is about the payment. -/
def Attempt.On (paymentID : ℕ) (w : World) : Attempt → Prop
  | .webhook event => Names paymentID w event.gatewayName event.externalRef
  | _ => True

/-- An event about neither a payment nor its end leaves the payment alone. -/
def Attempt.decides : Attempt → Bool
  | .webhook event => event.status ∈ [.paid, .expired, .failed]
  | _ => true

/-- How far an attempt is: in the window it has read that the payment `id` is
pending and has not written to it yet. -/
inductive Stage
  | reading
  | window (id : ℕ)
  | wrote (status : PaymentStatus)
  | done
  deriving DecidableEq

structure Mark where
  stage : Stage
  decides : Bool
  /-- It has tried to mark an invoice as paid. -/
  settled : Bool
  /-- It has tried to log its decision. -/
  audited : Bool

/-- Only the first read of a payment counts. -/
def Mark.read (m : Mark) (id : Payment → ℕ) (r : Except Error Payment) : Mark :=
  if m.stage = .reading then
    { m with stage := match r with
      | .ok p => if p.status = .pending ∧ m.decides then .window (id p) else .done
      | .error _ => .done }
  else m

def Mark.write (m : Mark) (status : PaymentStatus) (r : Except Error Unit) : Mark :=
  { m with stage := match r with
    | .ok () => .wrote status
    | .error _ => .done }

/-- Every attempt reads the payment first, writes its decision at most once, and
settles and logs only what it has decided itself. -/
def observer (paymentID : ℕ) (named : String → String → Prop) :
    Monitor Call Call.Reply Mark where
  allows m
    | .payments (.getByID id) => m.stage = .reading → id = paymentID
    | .payments (.getByExternalRef gatewayName externalRef) =>
      m.stage = .reading → named gatewayName externalRef
    | .payments (.updateStatus id status _ _ _) => m.stage = .window id ∧ status ≠ .pending
    | .payments _ => False
    | .invoices (.updateStatus ..) => m.stage = .wrote .confirmed
    | .audit _ => ∃ status, m.stage = .wrote status
    | _ => True
  next m
    | .payments (.getByID id), r => m.read (fun _ ↦ id) r
    | .payments (.getByExternalRef _ _), r => m.read Payment.id r
    | .payments (.updateStatus _ status _ _ _), r => m.write status r
    | .invoices (.updateStatus ..), _ => { m with settled := true }
    | .audit _, _ => { m with audited := true }
    | _, _ => m

/-- The attempt has decided the payment. -/
def Mark.Wrote (m : Mark) : Prop := ∃ status, m.stage = .wrote status

/-- What a finished attempt says of itself. `ProcessWebhook` answers a repeated
event just as one it has acted on: only its entry in the log tells them apart. -/
def Attempt.Reports (m : Mark) (ok : Bool) : Attempt → Prop
  | .webhook _ => m.audited
  | _ => ok

section Follows

variable {paymentID : ℕ} {named : String → String → Prop}

/-- The decision is written, and if `logged` it is also in the log. -/
def Mark.Decided (status : PaymentStatus) (logged : Prop) (m : Mark) : Prop :=
  m.stage = .wrote status ∧ (logged → m.audited = true)

/-- After the decision a call off the ledger is none of the observer's business,
but for the log. -/
theorem observer_offLedger {status : PaymentStatus} {logged : Prop} {m : Mark} {c : Call}
    (hm : m.Decided status logged) (hc : c.offLedger) :
    (observer paymentID named).allows m c ∧
      ∀ r, ((observer paymentID named).next m c r).Decided status logged := by
  cases c with
  | payments c =>
    cases c with
    | getByID | getByExternalRef =>
      exact ⟨fun h ↦ by simp [hm.1] at h, fun r ↦ by simpa [observer, Mark.read, hm.1] using hm⟩
    | create | updateStatus | updateGatewayInfo => cases hc
  | invoices c =>
    cases c with
    | create | updateStatus => cases hc
    | getByID | getByPaymentCode | listDueForBilling | listOverdue =>
      exact ⟨trivial, fun r ↦ hm⟩
  | audit entry => exact ⟨⟨status, hm.1⟩, fun r ↦ ⟨hm.1, fun _ ↦ rfl⟩⟩
  | _ => exact ⟨trivial, fun r ↦ hm⟩

theorem follows_offLedger {status : PaymentStatus} {logged : Prop} {α : Type} {p : Prog α}
    (hp : p.Only Call.offLedger) {m : Mark} (hm : m.Decided status logged) :
    p.Follows (observer paymentID named) (fun m _ ↦ m.Decided status logged) m :=
  hp.follows (fun _ _ ↦ observer_offLedger) hm

theorem audit_follows {status : PaymentStatus} {logged : Prop} {userID : Option ℕ}
    {action entityType : String} {entityID : ℕ} {m : Mark} (hm : m.Decided status logged) :
    (audit userID action entityType entityID).Follows (observer paymentID named)
      (fun m _ ↦ m.Decided status True) m :=
  ⟨⟨status, hm.1⟩, fun _ ↦ ⟨hm.1, fun _ ↦ rfl⟩⟩

theorem applySettlement_follows (p : Payment) {m : Mark} (hm : m.Decided .confirmed False) :
    (applySettlement p).Follows (observer paymentID named)
      (fun m _ ↦ m.Decided .confirmed False) m := by
  simp only [applySettlement, perform_bind, follows_call]
  exact ⟨trivial, fun _ ↦ ⟨hm.1, fun _ ↦ follows_offLedger (restoreService_offLedger _) hm⟩⟩

def Attempt.start (a : Attempt) : Mark := ⟨.reading, a.decides, false, false⟩

theorem Mark.read_pending {p : Payment} (hp : p.status = .pending) (id : Payment → ℕ) :
    Mark.read ⟨.reading, true, false, false⟩ id (.ok p) = ⟨.window (id p), true, false, false⟩ := by
  simp [Mark.read, hp]

theorem Mark.read_decided {p : Payment} {b : Bool} (hp : p.status = .pending → b = false)
    (id : Payment → ℕ) :
    Mark.read ⟨.reading, b, false, false⟩ id (.ok p) = ⟨.done, b, false, false⟩ := by
  cases b with
  | false => simp [Mark.read]
  | true => simp [Mark.read, show p.status ≠ .pending from fun h ↦ by simpa using hp h]

/-- An attempt that ends without having written says nothing. -/
theorem reports_done {a : Attempt} {b ok : Bool} (h : ok = false ∨ ∃ event, a = .webhook event) :
    a.Reports ⟨.done, b, false, false⟩ ok ↔ Mark.Wrote ⟨.done, b, false, false⟩ := by
  rcases h with rfl | ⟨event, rfl⟩
  · cases a <;> simp [Attempt.Reports, Mark.Wrote]
  · simp [Attempt.Reports, Mark.Wrote]

/-- One that has written and logged its decision says so. -/
theorem reports_decided {status : PaymentStatus} {a : Attempt} {m : Mark}
    (hm : m.Decided status True) : a.Reports m true ↔ m.Wrote := by
  have hw : m.Wrote := ⟨status, hm.1⟩
  cases a <;> simp [Attempt.Reports, hm.2, hw]

/-- The write that decides a payment: an attempt that fails there says nothing, and
one that succeeds goes on to log its decision. -/
theorem write_follows {a : Attempt} {id : ℕ} {status : PaymentStatus} {actor : Option ℕ}
    {now : Option Time} {reason : String} {β : Type} {k : Except Error Unit → Prog β} {g : β → Bool}
    {b : Bool} (hstatus : status ≠ .pending)
    (herr : ∀ err, ∃ r, k (.error err) = .ret r ∧ (g r = false ∨ ∃ event, a = .webhook event))
    (hok : ∀ m : Mark, m.Decided status False → (k (.ok ())).Follows (observer paymentID named)
      (fun m r ↦ m.Decided status True ∧ g r = true) m) :
    (Program.call (.payments (.updateStatus id status actor now reason)) k).Follows
      (observer paymentID named) (fun m r ↦ a.Reports m (g r) ↔ m.Wrote)
      ⟨.window id, b, false, false⟩ := by
  refine ⟨⟨rfl, hstatus⟩, ?_⟩
  rintro (err | ⟨⟩)
  · obtain ⟨r, hr, hg⟩ := herr err
    rw [hr]
    exact reports_done hg
  · refine (hok _ ⟨rfl, by simp⟩).mono ?_
    rintro m r ⟨hm, hg⟩
    rw [hg]
    exact reports_decided hm

theorem confirm_follows (actor : Option ℕ) :
    (Attempt.prog paymentID (.confirm actor)).Follows (observer paymentID named)
      (fun m ok ↦ Attempt.Reports m ok (.confirm actor) ↔ m.Wrote) (Attempt.confirm actor).start := by
  simp only [Attempt.prog, follows_map, Service.confirm, perform_bind, follows_call]
  refine ⟨fun _ ↦ rfl, ?_⟩
  rintro (err | p)
  · exact reports_done (.inl rfl)
  dsimp only
  split_ifs with hpending
  · simp only [observer, Attempt.start, Mark.read_decided fun h ↦ absurd h hpending]
    exact reports_done (.inl rfl)
  simp only [observer, Attempt.start, Attempt.decides, Mark.read_pending (not_not.mp hpending)]
  refine ⟨trivial, fun now ↦ write_follows (by simp) (fun err ↦ ⟨_, rfl, .inl rfl⟩) fun m hm ↦ ?_⟩
  refine (applySettlement_follows _ hm).bind fun m _ hm ↦ ?_
  exact (audit_follows hm).bind fun m _ hm ↦ ⟨hm, rfl⟩

theorem reject_follows (reason : String) (actor : Option ℕ) :
    (Attempt.prog paymentID (.reject reason actor)).Follows (observer paymentID named)
      (fun m ok ↦ Attempt.Reports m ok (.reject reason actor) ↔ m.Wrote)
      (Attempt.reject reason actor).start := by
  simp only [Attempt.prog, follows_map, Service.reject, perform_bind, follows_call]
  refine ⟨fun _ ↦ rfl, ?_⟩
  rintro (err | p)
  · exact reports_done (.inl rfl)
  dsimp only
  split_ifs with hpending
  · simp only [observer, Attempt.start, Mark.read_decided fun h ↦ absurd h hpending]
    exact reports_done (.inl rfl)
  simp only [observer, Attempt.start, Attempt.decides, Mark.read_pending (not_not.mp hpending)]
  refine write_follows (by simp) (fun err ↦ ⟨_, rfl, .inl rfl⟩) fun m hm ↦ ?_
  refine (audit_follows hm).bind fun m _ hm ↦ ?_
  have hquiet : (notifyRejected { p with status := .rejected, rejectionReason := reason }).Only
      Call.offLedger := (notifyRejected_inert _).mono fun _ h ↦ h.offLedger
  exact (follows_offLedger hquiet hm).bind fun m _ hm ↦ ⟨hm, rfl⟩

theorem webhook_follows {event : PaymentEvent}
    (hnamed : named event.gatewayName event.externalRef) :
    (Attempt.prog paymentID (.webhook event)).Follows (observer paymentID named)
      (fun m ok ↦ Attempt.Reports m ok (.webhook event) ↔ m.Wrote)
      (Attempt.webhook event).start := by
  simp only [Attempt.prog, follows_map, processWebhook, perform_bind, follows_call]
  refine ⟨fun _ ↦ hnamed, ?_⟩
  rintro (err | p)
  · exact reports_done (.inr ⟨event, rfl⟩)
  dsimp only
  split_ifs with hdone
  · have hpending : p.status ≠ .pending := by rcases hdone with h | h <;> simp [h]
    simp only [observer, Attempt.start, Mark.read_decided fun h ↦ absurd h hpending]
    exact reports_done (.inr ⟨event, rfl⟩)
  have hpending : p.status = .pending := by cases hs : p.status <;> simp_all
  have acting : (Attempt.webhook event).decides = true →
      (observer paymentID named).next (Attempt.webhook event).start
        (.payments (.getByExternalRef event.gatewayName event.externalRef)) (.ok p) =
          ⟨.window p.id, true, false, false⟩ := by
    intro h
    simp only [observer, Attempt.start, h, Mark.read_pending hpending]
  have refused : (webhookReject p event.status).Follows (observer paymentID named)
      (fun m r ↦ (Attempt.webhook event).Reports m r.isOk ↔ m.Wrote)
      ⟨.window p.id, true, false, false⟩ := by
    simp only [webhookReject, perform_bind]
    refine write_follows (by simp) (fun err ↦ ⟨_, rfl, .inl rfl⟩) fun m hm ↦ ?_
    exact (audit_follows hm).bind fun m _ hm ↦ ⟨hm, rfl⟩
  split
  next hs =>
    rw [acting (by simp [Attempt.decides, hs])]
    simp only [webhookConfirm, perform_bind, follows_call]
    refine ⟨trivial, fun now ↦ write_follows (by simp) (fun err ↦ ⟨_, rfl, .inl rfl⟩) fun m hm ↦ ?_⟩
    refine (applySettlement_follows _ hm).bind fun m _ hm ↦ ?_
    exact (audit_follows hm).bind fun m _ hm ↦ ⟨hm, rfl⟩
  next hs =>
    rw [acting (by simp [Attempt.decides, hs])]
    exact refused
  next hs =>
    rw [acting (by simp [Attempt.decides, hs])]
    exact refused
  next text hs =>
    have hidle : (Attempt.webhook event).decides = false := by simp [Attempt.decides, hs]
    simp only [observer, Attempt.start, Mark.read_decided fun _ ↦ hidle]
    exact reports_done (.inr ⟨event, rfl⟩)

end Follows

end Rosmon.Concurrent
