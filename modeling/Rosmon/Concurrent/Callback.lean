import Rosmon.Handler.Handlers
import Rosmon.Service.Frame

namespace Rosmon.Concurrent

open Library Store Program Service Handler

/-- The gateway sends its callback again until it is answered with 2xx. The
result says whether one of these deliveries was. -/
def deliver : List (String × List Char) → Prog Bool
  | [] => return false
  | (token, rawBody) :: deliveries => do
    let response ← handle token rawBody
    if response.Accepted then return true
    deliver deliveries

/-- How far `InitiatePayment` and the gateway's callback are. -/
inductive Phase
  /-- `InitiatePayment` has not stored its payment. -/
  | opening
  | opened (id : ℕ)
  /-- The gateway has answered with the reference of its invoice. -/
  | answered (id : ℕ)
  | saved (id : ℕ)
  /-- It will never save a reference. -/
  | unsaved
  /-- No delivery has found a payment. -/
  | waiting
  /-- A delivery has read the payment as pending and has not confirmed it yet. -/
  | window (id invoiceID : ℕ)
  | wrote (invoiceID : ℕ)
  | settled
  /-- A call was answered as it never is below. -/
  | stray
  deriving DecidableEq

/-- A delivery finds no secret key in the settings. -/
def Unconfigured (key : String) (r : Except Error String) : Prop :=
  key = "payment.xendit_secret_key" ∧ Go.trimSpace (r.toOption.getD "") = ""

instance (key : String) (r : Except Error String) : Decidable (Unconfigured key r) :=
  inferInstanceAs (Decidable (_ ∧ _))

/-- Calls that bring neither party further. -/
def Call.plain : Call → Prop
  | .payments _ | .settings _ | .xendit _ => False
  | .invoices c => c.reads
  | _ => True

/-- The calls each phase may make. -/
inductive Moves (ref : String) (invoiceID : ℕ) : Phase → Call → Prop
  | plain (m : Phase) {c : Call} : Call.plain c → Moves ref invoiceID m c
  | setting (m : Phase) (key : String) : Moves ref invoiceID m (.settings key)
  | create (p : Payment) : p.invoiceID = invoiceID → p.gatewayName = "xendit" →
      p.status = .pending → Moves ref invoiceID .opening (.payments (.create p))
  | ask (id : ℕ) (req : CreateInvoiceRequest) : Moves ref invoiceID (.opened id) (.xendit req)
  | refuse (id n : ℕ) (status : PaymentStatus) (actor : Option ℕ) (now : Option Time)
      (reason : String) :
      Moves ref invoiceID (.opened id) (.payments (.updateStatus n status actor now reason))
  | save (id : ℕ) (info : GatewayInfo) : info.externalRef = ref →
      Moves ref invoiceID (.answered id) (.payments (.updateGatewayInfo id info))
  | lookup : Moves ref invoiceID .waiting (.payments (.getByExternalRef "xendit" ref))
  | confirm (id n : ℕ) (now : Option Time) : Moves ref invoiceID (.window id n)
      (.payments (.updateStatus id .confirmed none now ""))
  | settle (n : ℕ) (paidAt : Option Time) :
      Moves ref invoiceID (.wrote n) (.invoices (.updateStatus n .paid paidAt))
  | settled {c : Call} : c.offLedger → Moves ref invoiceID .settled c
  | stray (c : Call) : Moves ref invoiceID .stray c

/-- `InitiatePayment` stores, asks and saves in this order, and a delivery looks the
payment up, confirms it and settles. -/
def callbackObserver (ref : String) (invoiceID : ℕ) : Monitor Call Call.Reply Phase where
  allows := Moves ref invoiceID
  next
    | .opening, .payments (.create _), .ok p => .opened p.id
    | .opened id, .xendit _, .ok result =>
      if result.externalRef = ref then .answered id else .stray
    | .opened _, .payments (.updateStatus ..), _ => .unsaved
    | .answered id, .payments (.updateGatewayInfo ..), .ok () => .saved id
    | .answered _, .payments (.updateGatewayInfo ..), .error _ => .unsaved
    | .waiting, .settings key, r => if Unconfigured key r then .stray else .waiting
    | .waiting, .payments (.getByExternalRef ..), .ok p =>
      if p.status = .pending then .window p.id p.invoiceID else .stray
    | .waiting, .payments (.getByExternalRef ..), .error _ => .stray
    | .window _ n, .payments (.updateStatus ..), .ok () => .wrote n
    | .window .., .payments (.updateStatus ..), .error _ => .stray
    | .wrote _, .invoices (.updateStatus ..), .ok () => .settled
    | .wrote _, .invoices (.updateStatus ..), .error _ => .stray
    | m, _, _ => m

section Follows

variable {ref : String} {invoiceID : ℕ} {α : Type}

theorem next_plain (m : Phase) {c : Call} (hc : Call.plain c) (r : c.Reply) :
    (callbackObserver ref invoiceID).next m c r = m := by
  cases c with
  | payments | settings | xendit => exact hc.elim
  | invoices c =>
    cases c with
    | updateStatus => cases hc
    | _ => cases m <;> rfl
  | _ => cases m <;> rfl

theorem next_setting (key : String) (r : Except Error String) :
    (callbackObserver ref invoiceID).next .waiting (.settings key) r =
      if Unconfigured key r then .stray else .waiting := rfl

theorem next_found (gatewayName externalRef : String) (p : Payment) :
    (callbackObserver ref invoiceID).next .waiting
        (.payments (.getByExternalRef gatewayName externalRef)) (.ok p) =
      if p.status = .pending then .window p.id p.invoiceID else .stray := rfl

theorem next_asked (id : ℕ) (req : CreateInvoiceRequest) (result : CreateInvoiceResult) :
    (callbackObserver ref invoiceID).next (.opened id) (.xendit req) (.ok result) =
      if result.externalRef = ref then .answered id else .stray := rfl

theorem stray_follows (p : Prog α) :
    p.Follows (callbackObserver ref invoiceID) (fun m _ ↦ m = .stray) .stray := by
  induction p with
  | ret a => rfl
  | call c k ih => exact ⟨.stray c, fun r ↦ ih r⟩

/-- Only the secret key matters, and only to a delivery. -/
theorem settingStr_follows {m : Phase} {key dflt : String}
    (h : m ≠ .waiting ∨ key ≠ "payment.xendit_secret_key") :
    (settingStr key dflt).Follows (callbackObserver ref invoiceID) (fun m' _ ↦ m' = m) m := by
  have hnext : ∀ r, (callbackObserver ref invoiceID).next m (.settings key) r = m := by
    intro r
    cases m with
    | waiting => exact if_neg fun hk ↦ h.resolve_left (by simp) hk.1
    | _ => rfl
  simp only [settingStr, perform_bind, follows_call]
  refine ⟨.setting m key, fun r ↦ ?_⟩
  rw [hnext]
  cases r <;> rfl

/-- The delivery that has confirmed the payment settles its invoice. -/
theorem applySettlement_settles (p : Payment) :
    (applySettlement p).Follows (callbackObserver ref invoiceID)
      (fun m _ ↦ m = .stray ∨ m = .settled) (.wrote p.invoiceID) := by
  simp only [applySettlement, perform_bind, follows_call]
  refine ⟨.plain _ trivial, fun now ↦ ⟨.settle _ _, ?_⟩⟩
  rintro (err | ⟨⟩)
  · exact (stray_follows _).mono fun _ _ ↦ .inl
  · refine ((restoreService_offLedger p.invoiceID).follows (I := (· = Phase.settled))
      ?_ rfl).mono fun _ _ ↦ .inr
    rintro _ c rfl hc
    exact ⟨.settled hc, fun _ ↦ rfl⟩

/-- An event that says the invoice is paid settles it, if its payment is found. -/
theorem processWebhook_settles {event : PaymentEvent} (hgateway : event.gatewayName = "xendit")
    (href : event.externalRef = ref) (hpaid : event.status = .paid) :
    (processWebhook event).Follows (callbackObserver ref invoiceID)
      (fun m r ↦ m = .stray ∨ m = .settled ∧ r.isOk) .waiting := by
  obtain ⟨_, _, amount, _⟩ := event
  dsimp only at hgateway href hpaid
  subst hgateway href hpaid
  simp only [processWebhook, perform_bind, follows_call]
  refine ⟨.lookup, ?_⟩
  rintro (err | p)
  · exact .inl rfl
  by_cases hpending : p.status = .pending
  · rw [next_found, if_pos hpending]
    simp only [hpending, reduceCtorEq, or_self, if_false, webhookConfirm, perform_bind,
      follows_call]
    refine ⟨.plain _ trivial, fun now ↦ ⟨.confirm _ _ _, ?_⟩⟩
    rintro (err | ⟨⟩)
    · exact .inl rfl
    refine (applySettlement_settles { p with status := .confirmed, confirmedAt := some now }).bind ?_
    rintro _ _ (rfl | rfl)
    · exact (stray_follows _).mono fun _ _ ↦ .inl
    · exact ⟨.settled trivial, fun _ ↦ .inr ⟨rfl, rfl⟩⟩
  · rw [next_found, if_neg hpending]
    exact (stray_follows _).mono fun _ _ ↦ .inl

theorem secretKey_follows :
    (settingStr "payment.xendit_secret_key" "").Follows (callbackObserver ref invoiceID)
      (fun m v ↦ m = .stray ∨ m = .waiting ∧ Go.trimSpace v ≠ "") .waiting := by
  simp only [settingStr, perform_bind, follows_call]
  refine ⟨.setting _ _, fun r ↦ ?_⟩
  by_cases hblank : Unconfigured "payment.xendit_secret_key" r
  · rw [next_setting, if_pos hblank]
    exact (stray_follows _).mono fun _ _ ↦ .inl
  · rw [next_setting, if_neg hblank]
    have hkey : Go.trimSpace (r.toOption.getD "") ≠ "" := fun h ↦ hblank ⟨rfl, h⟩
    rcases r with err | v
    · exact .inr ⟨rfl, hkey⟩
    · refine .inr ⟨rfl, ?_⟩
      split_ifs with hv
      · rw [hv] at hkey
        exact hkey
      · exact hkey

theorem buildGatewayForWebhook_follows :
    buildGatewayForWebhook.Follows (callbackObserver ref invoiceID)
      (fun m r ↦ m = .stray ∨ m = .waiting ∧ r.isOk) .waiting := by
  refine secretKey_follows.bind ?_
  rintro _ secretKey (rfl | ⟨rfl, hkey⟩)
  · exact (stray_follows _).mono fun _ _ ↦ .inl
  refine (settingStr_follows (.inr (by decide))).bind ?_
  rintro _ webhookToken rfl
  rw [if_neg fun h ↦ hkey h.1]
  exact .inr ⟨rfl, rfl⟩

/-- The body tells that the gateway's invoice `ref` is paid, if it tells anything. -/
def Pays (ref : String) (rawBody : List Char) : Prop :=
  ∀ event, parseWebhookEvent rawBody = some event → event.externalRef = ref ∧ event.status = .paid

/-- A delivery that is accepted has settled the payment. -/
theorem handle_settles (token : String) {rawBody : List Char} (hbody : Pays ref rawBody) :
    (handle token rawBody).Follows (callbackObserver ref invoiceID)
      (fun m r ↦ m = .stray ∨ m = .settled ∧ r.Accepted ∨ m = .waiting ∧ ¬r.Accepted)
      .waiting := by
  refine buildGatewayForWebhook_follows.bind ?_
  rintro _ (err | adapter) (rfl | ⟨rfl, hok⟩)
  · exact .inl rfl
  · cases hok
  · exact (stray_follows _).mono fun _ _ ↦ .inl
  dsimp only
  split_ifs
  swap
  · exact .inr (.inr ⟨rfl, by decide⟩)
  split
  next => exact .inr (.inr ⟨rfl, by decide⟩)
  next event hevent =>
    obtain ⟨href, hpaid⟩ := hbody event hevent
    refine (processWebhook_settles (parseWebhookEvent_gatewayName hevent) href hpaid).bind ?_
    rintro _ (err | ⟨⟩) (rfl | ⟨rfl, hok⟩)
    · exact .inl rfl
    · cases hok
    · exact .inl rfl
    · exact .inr (.inl ⟨rfl, by simp [Response.Accepted, Response.status]⟩)

theorem deliver_settles {deliveries : List (String × List Char)}
    (hbodies : ∀ d ∈ deliveries, Pays ref d.2) :
    (deliver deliveries).Follows (callbackObserver ref invoiceID)
      (fun m accepted ↦ accepted = true → m = .stray ∨ m = .settled) .waiting := by
  induction deliveries with
  | nil => exact nofun
  | cons d deliveries ih =>
    refine (handle_settles d.1 (hbodies d (by simp))).bind ?_
    rintro _ response (rfl | ⟨rfl, haccepted⟩ | ⟨rfl, hrefused⟩)
    · exact (stray_follows _).mono fun _ _ h _ ↦ .inl h
    · rw [if_pos haccepted]
      exact fun _ ↦ .inr rfl
    · rw [if_neg hrefused]
      exact ih fun d' hd' ↦ hbodies d' (by simp [hd'])

theorem buildGateway_follows : buildGateway.Follows (callbackObserver ref invoiceID)
    (fun m _ ↦ m = .opening) .opening := by
  have hset : ∀ key dflt, (settingStr key dflt).Follows (callbackObserver ref invoiceID)
      (fun m _ ↦ m = .opening) .opening := fun _ _ ↦ settingStr_follows (.inl (by decide))
  refine (hset _ _).bind ?_
  rintro _ enabled rfl
  split
  · rfl
  refine (hset _ _).bind ?_
  rintro _ secretKey rfl
  split
  · rfl
  refine (hset _ _).bind ?_
  rintro _ webhookToken rfl
  have hduration : (settingInt "payment.xendit_invoice_duration" 86400).Follows
      (callbackObserver ref invoiceID) (fun m _ ↦ m = .opening) .opening :=
    (hset _ _).bind fun _ _ hm ↦ hm
  exact hduration.bind fun _ _ hm ↦ hm

/-- The call stores one pending payment, asks the gateway once and saves what the
gateway has answered. -/
theorem initiatePayment_follows (customerID : ℕ) :
    (initiatePayment invoiceID customerID).Follows (callbackObserver ref invoiceID)
      (fun _ _ ↦ True) .opening := by
  refine buildGateway_follows.bind ?_
  rintro _ (err | gw) rfl
  · trivial
  simp only [perform_bind, follows_call]
  refine ⟨.plain _ rfl, ?_⟩
  rintro (err | inv)
  · trivial
  dsimp only
  split_ifs
  · trivial
  · trivial
  · trivial
  refine ⟨.plain _ trivial, ?_⟩
  rintro (err | cust)
  · trivial
  refine ⟨.plain _ trivial, fun now ↦ ⟨.create _ rfl rfl rfl, ?_⟩⟩
  rintro (err | p)
  · trivial
  refine (settingStr_follows (m := .opened p.id) (.inl (by simp))).bind ?_
  rintro _ appURL rfl
  have hrefused : ∀ (err : Error), (do
      let _ ← perform (.payments (.updateStatus p.id .rejected none none
        ("gateway error: " ++ err.text)))
      return (.error (err.wrap "payment: create gateway invoice: ") :
        Except Error InitiatePaymentResult)).Follows (callbackObserver ref invoiceID)
          (fun _ _ ↦ True) (.opened p.id) := fun err ↦ ⟨.refuse _ _ _ _ _ _, fun _ ↦ trivial⟩
  unfold XenditAdapter.createInvoice
  split_ifs
  · exact hrefused _
  simp only [perform_bind, follows_call]
  refine ⟨.ask _ _, ?_⟩
  rintro (err | result)
  · exact hrefused err
  by_cases href : result.externalRef = ref
  · rw [next_asked, if_pos href]
    exact ⟨.save _ _ href, fun _ ↦ trivial⟩
  · rw [next_asked, if_neg href]
    exact ⟨.stray _, fun _ ↦ trivial⟩

end Follows

end Rosmon.Concurrent
