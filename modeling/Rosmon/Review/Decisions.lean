import Rosmon.Billing.Schedule
import Rosmon.Library.Pool
import Rosmon.Review.Requests

namespace Rosmon.Review

open Library Store Program Service Handler Billing

/-- What a registration may still become. -/
def Forward (s t : RegistrationStatus) : Prop :=
  s = t ∨ s = .pending ∧ (t = .approved ∨ t = .rejected ∨ t = .cancelled) ∨
    s = .approved ∧ t = .cancelled

instance (s t : RegistrationStatus) : Decidable (Forward s t) :=
  inferInstanceAs (Decidable (_ ∨ _))

theorem Forward.refl (s : RegistrationStatus) : Forward s s := .inl rfl

theorem Forward.trans {s t u : RegistrationStatus} (h : Forward s t) (h' : Forward t u) :
    Forward s u := by
  cases s <;> cases t <;> cases u <;> simp_all [Forward]

namespace Request

/-- The status that the request is there to set. -/
def decision : Request → Option RegistrationStatus
  | .approve _ => some .approved
  | .reject _ => some .rejected
  | .cancel _ => some .cancelled
  | .assign _ | .completeInstall _ => none

/-- The technician that the request is there to set. -/
def assignment : Request → Option ℕ
  | .assign req => some req.assignedTo
  | _ => none

/-- The date that the request is there to set. -/
def schedule : Request → Option Time
  | .approve req => req.scheduledAt
  | .assign req => req.scheduledAt
  | _ => none

/-- The check of the request on the status. -/
def lets : Request → RegistrationStatus → Prop
  | .approve _, status | .reject _, status => status = .pending
  | .cancel _, status => cancellable status
  | .assign _, _ => True
  | .completeInstall _, status => status = .approved

instance (request : Request) (status : RegistrationStatus) : Decidable (request.lets status) :=
  match request with
  | .approve _ => inferInstanceAs (Decidable (status = .pending))
  | .reject _ => inferInstanceAs (Decidable (status = .pending))
  | .cancel _ => inferInstanceAs (Decidable (cancellable status))
  | .assign _ => inferInstanceAs (Decidable True)
  | .completeInstall _ => inferInstanceAs (Decidable (status = .approved))

/-- The row that the request saves after it has read another one. -/
structure Saves (request : Request) (old new : Registration) : Prop where
  id : new.id = old.id
  status : new.status = request.decision.getD old.status
  assignedTo : new.assignedTo = (request.assignment <|> old.assignedTo)
  scheduledAt : new.scheduledAt = (request.schedule <|> old.scheduledAt)

/-- What the request does not mean to set is still as it has read it, and the status is
as well, or still one on which it may decide, or what it decides. -/
structure StillFits (request : Request) (old stored : Registration) : Prop where
  status : stored.status = request.decision.getD old.status ∨
    request.decision.isSome ∧ request.lets stored.status
  assignedTo : request.assignment = none → stored.assignedTo = old.assignedTo
  scheduledAt : request.schedule = none → stored.scheduledAt = old.scheduledAt

theorem StillFits.forward {request : Request} {old stored : Registration}
    (h : request.StillFits old stored) :
    Forward stored.status (request.decision.getD old.status) := by
  rcases h.status with heq | ⟨hdecides, hlets⟩
  · rw [heq]
    exact .refl _
  · cases request with
    | approve | reject =>
      have hpending : stored.status = .pending := hlets
      simp [Forward, decision, hpending]
    | cancel =>
      rcases hlets with hpending | happroved
      · simp [Forward, decision, hpending]
      · simp [Forward, decision, happroved]
    | assign | completeInstall => cases hdecides

end Request

/-- A request as the registrations see it: what it has read and the status it has saved. -/
structure Reviewer where
  request : Request
  read : Option Registration
  saved : Option RegistrationStatus

def reviewObserver (id : ℕ) : Monitor Call Call.Reply Reviewer where
  allows m c := match c with
    | .registrations (.get n) => n = id
    | .registrations (.update reg) => ∃ old ∈ m.read, m.request.Saves old reg
    | _ => True
  next m c r := match c, r with
    | .registrations (.get _), .ok reg => { m with read := some reg }
    | .registrations (.update reg), .ok _ => { m with saved := some reg.status }
    | _, _ => m

/-- What a request saves still fits the stored row. -/
def Reviewer.Undisturbed (w : World) (m : Reviewer) : Call → Prop
  | .registrations (.update reg) => ∀ old ∈ m.read, ∀ stored ∈ w.registrations.get reg.id,
    m.request.StillFits old stored
  | _ => True

def statusOf : Response Registration → Option RegistrationStatus
  | .success _ reg => some reg.status
  | .failure .. => none

/-- The status that an answer reports. -/
def Answer.reported : Answer → Option RegistrationStatus
  | .approve r | .reject r | .cancel r | .assign r => statusOf r
  | .completeInstall _ => none

section Following

variable {α : Type} {id : ℕ} {m : Reviewer}

/-- Calls that have nothing to do with registrations. -/
def offDesk : Call → Prop
  | .registrations _ => False
  | _ => True

theorem offDesk_follows {p : Prog α} (hp : p.Only offDesk) (m : Reviewer) :
    p.Follows (reviewObserver id) (fun m' _ ↦ m' = m) m := by
  refine hp.follows (fun m' c hm hc ↦ ?_) rfl
  cases c with
  | registrations => exact hc.elim
  | _ => exact ⟨trivial, fun _ ↦ hm⟩

theorem informs.offDesk {c : Call} (hc : informs c) : offDesk c := by
  cases c <;> trivial

theorem enrols.offDesk {c : Call} (hc : enrols c) : offDesk c := by
  cases c <;> trivial

theorem greets.offDesk {c : Call} (hc : greets c) : offDesk c := by
  cases c <;> trivial

theorem issues.offDesk {c : Call} (hc : issues c) : offDesk c := by
  cases c <;> trivial

theorem notifyPhone_offDesk (customerID : Option ℕ) (phone slug : String)
    (extra : List (String × String)) : (notifyPhone customerID phone slug extra).Only offDesk :=
  (notifyPhone_informs customerID phone slug extra).mono fun _ ↦ informs.offDesk

theorem firstInvoice_offDesk (sub : Subscription) (today : Time) :
    (firstInvoice sub today).Only offDesk := by
  have hsetting (key : String) (dflt : ℤ) : (Service.settingInt key dflt).Only offDesk :=
    ((settingStr_informs key "").mono fun _ ↦ informs.offDesk).bind fun _ ↦ trivial
  have hgenerate (dueDays : ℤ) : (generateForSubscription sub today dueDays).Only offDesk :=
    (generateForSubscription_issues sub today dueDays).mono fun _ ↦ issues.offDesk
  refine (hsetting _ _).bind fun dueDays ↦ (hgenerate dueDays).bind fun r ↦ ?_
  cases r with
  | error err => trivial
  | ok inv =>
    dsimp only
    split
    · exact ⟨trivial, fun _ ↦ trivial⟩
    · exact (hsetting _ _).bind fun _ ↦ ⟨trivial, fun _ ↦ trivial⟩

/-- What is answered has been saved. -/
def SavedFirst (m : Reviewer) (r : Response Registration) : Prop :=
  ∀ status ∈ statusOf r, m.saved = some status

theorem savedFirst_failure (m : Reviewer) (status : ℕ) (code message : String) :
    SavedFirst m (.failure status code message) := by
  intro _ h
  cases h

theorem savedFirst_writeErr (m : Reviewer) (err : Error) : SavedFirst m (writeErr err) := by
  unfold writeErr
  split_ifs <;> exact savedFirst_failure m _ _ _

theorem withRegistration_follows {p : Registration → Prog (Response Registration)}
    (hp : ∀ reg, (p reg).Follows (reviewObserver id) SavedFirst { m with read := some reg }) :
    (withRegistration id p).Follows (reviewObserver id) SavedFirst m := by
  refine ⟨rfl, fun r ↦ ?_⟩
  cases r with
  | error err =>
    change SavedFirst m (if _ then _ else _)
    split_ifs
    · exact savedFirst_failure m _ _ _
    · exact savedFirst_writeErr m err
  | ok reg => exact hp reg

theorem saveReview_follows {old reg : Registration} (hread : m.read = some old)
    (hsaves : m.request.Saves old reg) (action : String) (actor : Option ℕ) {notify : Prog Unit}
    (hnotify : notify.Only offDesk) :
    (saveReview reg action actor notify).Follows (reviewObserver id) SavedFirst m := by
  refine ⟨⟨old, hread, hsaves⟩, fun r ↦ ?_⟩
  cases r with
  | error err => exact savedFirst_writeErr _ err
  | ok _ =>
    have haudit : (audit actor action "CustomerRegistration" reg.id).Only offDesk :=
      ⟨trivial, fun _ ↦ trivial⟩
    refine (offDesk_follows haudit _).bind fun m' _ hm' ↦ ?_
    refine (offDesk_follows hnotify _).bind fun m'' _ hm'' ↦ ?_
    subst hm' hm''
    intro status h
    exact h

theorem approve_follows (req : RegistrationApproveRequest) (actor : Option ℕ) :
    (approve id req actor).Follows (reviewObserver id) SavedFirst ⟨.approve req, none, none⟩ := by
  apply withRegistration_follows
  intro reg
  split_ifs
  · exact savedFirst_failure _ _ _ _
  have hcustomer := (customerOf_enrols reg actor).mono fun _ ↦ enrols.offDesk
  refine (offDesk_follows hcustomer _).bind fun m r hm ↦ ?_
  subst hm
  cases r with
  | error err => exact savedFirst_writeErr _ err
  | ok cust =>
    refine ⟨trivial, fun now ↦ saveReview_follows rfl ?_ _ _ (notifyPhone_offDesk _ _ _ _)⟩
    exact ⟨rfl, rfl, rfl, rfl⟩

theorem rejectRegistration_follows (req : RegistrationRejectRequest) (actor : Option ℕ) :
    (rejectRegistration id req actor).Follows (reviewObserver id) SavedFirst
      ⟨.reject req, none, none⟩ := by
  unfold rejectRegistration
  split_ifs
  swap
  · exact savedFirst_failure _ _ _ _
  apply withRegistration_follows
  intro reg
  split_ifs
  · exact savedFirst_failure _ _ _ _
  refine ⟨trivial, fun now ↦ saveReview_follows rfl ?_ _ _ (notifyPhone_offDesk _ _ _ _)⟩
  exact ⟨rfl, rfl, rfl, rfl⟩

theorem cancelRegistration_follows (reason : String) (actor : Option ℕ) :
    (cancelRegistration id reason actor).Follows (reviewObserver id) SavedFirst
      ⟨.cancel reason, none, none⟩ := by
  apply withRegistration_follows
  intro reg
  split_ifs
  · exact savedFirst_failure _ _ _ _
  refine ⟨trivial, fun now ↦ saveReview_follows rfl ?_ _ _ trivial⟩
  exact ⟨rfl, rfl, rfl, rfl⟩

theorem assign_follows (req : RegistrationAssignRequest) :
    (assign id req).Follows (reviewObserver id) SavedFirst ⟨.assign req, none, none⟩ := by
  unfold assign
  split_ifs
  swap
  · exact savedFirst_failure _ _ _ _
  apply withRegistration_follows
  intro reg
  refine ⟨⟨reg, rfl, rfl, rfl, rfl, rfl⟩, fun r ↦ ?_⟩
  cases r with
  | error err => exact savedFirst_writeErr _ err
  | ok _ =>
    intro status h
    exact h

theorem completeInstall_follows (req : RegistrationCompleteInstallRequest) (actor : Option ℕ) :
    (completeInstall id req actor).Follows (reviewObserver id) (fun _ _ ↦ True)
      ⟨.completeInstall req, none, none⟩ := by
  unfold completeInstall
  split_ifs
  · trivial
  · trivial
  swap
  · trivial
  refine ⟨rfl, fun r ↦ ?_⟩
  cases r with
  | error err => trivial
  | ok reg =>
    simp only [perform_bind, pure_eq]
    dsimp only [Program.bind]
    split
    swap
    · trivial
    refine ⟨trivial, fun clock ↦ ⟨trivial, fun now ↦ ⟨trivial, fun r ↦ ?_⟩⟩⟩
    cases r with
    | error err => trivial
    | ok sub =>
      refine (offDesk_follows (firstInvoice_offDesk _ _) _).bind fun m body hm ↦ ?_
      subst hm
      refine ⟨⟨reg, rfl, rfl, rfl, rfl, rfl⟩, fun r ↦ ?_⟩
      have haudit : (audit actor "complete_install" "CustomerRegistration" reg.id).Only offDesk :=
        ⟨trivial, fun _ ↦ trivial⟩
      refine (offDesk_follows haudit _).bind fun m _ hm ↦ ?_
      refine Follows.bind (offDesk_follows ?_ m) fun _ _ _ ↦ trivial
      exact (welcome_greets _).mono fun _ ↦ greets.offDesk

theorem Request.follows (request : Request) (actor : Option ℕ) :
    (request.prog id actor).Follows (reviewObserver id)
      (fun m answer ↦ ∀ status ∈ answer.reported, m.saved = some status)
      ⟨request, none, none⟩ := by
  cases request with
  | approve req => exact (follows_map _ _ _).mpr (approve_follows req actor)
  | reject req => exact (follows_map _ _ _).mpr (rejectRegistration_follows req actor)
  | cancel reason => exact (follows_map _ _ _).mpr (cancelRegistration_follows reason actor)
  | assign req => exact (follows_map _ _ _).mpr (assign_follows req)
  | completeInstall req =>
    refine (follows_map _ _ _).mpr
      ((completeInstall_follows req actor).mono fun m r h status hs ↦ ?_)
    cases hs

end Following

/-- The registration has come no way, or some way forward. -/
def Advances (id : ℕ) (w w' : World) : Prop :=
  ∀ reg ∈ w.registrations.get id, ∃ reg' ∈ w'.registrations.get id, Forward reg.status reg'.status

instance (id : ℕ) (w w' : World) : Decidable (Advances id w w') :=
  inferInstanceAs (Decidable (∀ reg ∈ w.registrations.get id, ∃ reg' ∈ _, _))

/-- The technician and the date of the registration. -/
def plan (id : ℕ) (w : World) : Option (Option ℕ × Option Time) :=
  (w.registrations.get id).map fun reg ↦ (reg.assignedTo, reg.scheduledAt)

/-- The request has read the registration, and what it has saved still counts. -/
structure Reviewer.Sound (id : ℕ) (request : Request) (w : World) (m : Reviewer) : Prop where
  request : m.request = request
  read : ∀ old ∈ m.read, old.id = id ∧ (w.registrations.get id).isSome
  saved : ∀ status ∈ m.saved, ∃ reg ∈ w.registrations.get id, Forward status reg.status

/-- What a call means to make of the plan. -/
def Request.plans (request : Request) (c : Call) (r : c.Reply)
    (plan : Option (Option ℕ × Option Time)) : Option (Option ℕ × Option Time) :=
  match c, r with
  | .registrations (.update _), .ok _ =>
    plan.map fun p ↦ (request.assignment <|> p.1, request.schedule <|> p.2)
  | _, _ => plan

section Steps

variable {id : ℕ} {w w' : World} {m : Reviewer} {request : Request}

theorem Advances.refl (id : ℕ) (w : World) : Advances id w w :=
  fun reg hreg ↦ ⟨reg, hreg, .refl _⟩

theorem Advances.trans {u v : World} (h : Advances id u v) (h' : Advances id v w) :
    Advances id u w := by
  intro reg hreg
  obtain ⟨reg', hreg', hforward⟩ := h reg hreg
  obtain ⟨reg'', hreg'', hforward'⟩ := h' reg' hreg'
  exact ⟨reg'', hreg'', hforward.trans hforward'⟩

theorem Advances.of_eq (h : w'.registrations = w.registrations) : Advances id w w' := by
  intro reg hreg
  rw [h]
  exact ⟨reg, hreg, .refl _⟩

theorem Reviewer.Sound.advances (hm : m.Sound id request w) (h : Advances id w w') :
    m.Sound id request w' := by
  refine ⟨hm.request, fun old hold ↦ ?_, fun status hstatus ↦ ?_⟩
  · obtain ⟨hid, hsome⟩ := hm.read old hold
    obtain ⟨reg, hreg⟩ := Option.isSome_iff_exists.mp hsome
    obtain ⟨reg', hreg', -⟩ := h reg hreg
    exact ⟨hid, Option.isSome_iff_exists.mpr ⟨reg', hreg'⟩⟩
  · obtain ⟨reg, hreg, hforward⟩ := hm.saved status hstatus
    obtain ⟨reg', hreg', hforward'⟩ := h reg hreg
    exact ⟨reg', hreg', hforward.trans hforward'⟩

theorem registrations_save (t : Table Registration) (reg : Registration) (n : ℕ) :
    (t.update (·.id == reg.id) (Registration.replace reg)).get n =
      if n = reg.id then (t.get n).map fun _ ↦ reg else t.get n := by
  rw [Table.get_update]
  cases hget : t.get n with
  | none => simp
  | some r =>
    have hid : r.id = n := (Table.get_eq_some.mp hget).2
    by_cases hn : n = reg.id
    · simp [hn, hid, Registration.replace]
    · simp [hn, hid]

/-- A save that comes through. -/
theorem save_cases (reg : Registration) (e : Env) (w : World) :
    (∃ err, (Call.registrations (.update reg)).exec e w = (.error err, w)) ∨
      ∃ t, (Call.registrations (.update reg)).exec e w = (.ok (), { w with registrations := t }) ∧
        ∀ n, t.get n = if n = reg.id then (w.registrations.get n).map fun _ ↦ reg
          else w.registrations.get n := by
  obtain h | ⟨err, h⟩ := orFault_cases e w (((RegistrationCall.update reg).exec w.registrations).1,
    { w with registrations := ((RegistrationCall.update reg).exec w.registrations).2 })
  · exact .inr ⟨_, h, registrations_save w.registrations reg⟩
  · exact .inl ⟨err, h⟩

theorem exec_offDesk {c : Call} (hc : offDesk c) (e : Env) (w : World) :
    (c.exec e w).2.registrations = w.registrations := by
  cases c with
  | registrations => exact hc.elim
  | now | newPaymentCode | notify | xendit | device | contextDone | rangeKeys => rfl
  | _ => exact orFault_keeps (P := fun v ↦ v.registrations = w.registrations) rfl rfl

/-- What a save that fits does to the row. -/
theorem saved_row {reg : Registration} {t : Table Registration} (hm : m.Sound id request w)
    (ha : (reviewObserver id).allows m (.registrations (.update reg)))
    (hg : m.Undisturbed w (.registrations (.update reg)))
    (ht : ∀ n, t.get n = if n = reg.id then (w.registrations.get n).map fun _ ↦ reg
      else w.registrations.get n) :
    ∃ stored, w.registrations.get id = some stored ∧ t.get id = some reg ∧
      Forward stored.status reg.status ∧
      reg.assignedTo = (request.assignment <|> stored.assignedTo) ∧
      reg.scheduledAt = (request.schedule <|> stored.scheduledAt) := by
  obtain ⟨old, hold, hsaves⟩ := ha
  obtain ⟨hid, hsome⟩ := hm.read old hold
  obtain ⟨stored, hstored⟩ := Option.isSome_iff_exists.mp hsome
  have hid' : reg.id = id := hsaves.id.trans hid
  have hfits : m.request.StillFits old stored := by
    apply hg old hold
    rw [hid']
    exact hstored
  rw [hm.request] at hfits hsaves
  refine ⟨stored, hstored, ?_, ?_, ?_, ?_⟩
  · rw [ht, if_pos hid'.symm, hstored]
    rfl
  · rw [hsaves.status]
    exact hfits.forward
  · rw [hsaves.assignedTo]
    cases h : request.assignment with
    | none => exact (hfits.assignedTo h).symm
    | some _ => rfl
  · rw [hsaves.scheduledAt]
    cases h : request.schedule with
    | none => exact (hfits.scheduledAt h).symm
    | some _ => rfl

/-- What one call of a request that is not disturbed does. -/
theorem reviewer_step {c : Call} (hm : m.Sound id request w)
    (ha : (reviewObserver id).allows m c) (hg : m.Undisturbed w c) (e : Env) :
    Advances id w (c.exec e w).2 ∧
      ((reviewObserver id).next m c (c.exec e w).1).Sound id request (c.exec e w).2 ∧
      plan id (c.exec e w).2 = request.plans c (c.exec e w).1 (plan id w) := by
  have hoff (hc : offDesk c) : Advances id w (c.exec e w).2 ∧ m.Sound id request (c.exec e w).2 ∧
      plan id (c.exec e w).2 = plan id w := by
    have hsame := exec_offDesk hc e w
    refine ⟨.of_eq hsame, hm.advances (.of_eq hsame), ?_⟩
    rw [plan, plan, hsame]
  cases c with
  | registrations c =>
    cases c with
    | get n =>
      obtain rfl : n = id := ha
      obtain ⟨err, h⟩ | ⟨reg, hreg, h⟩ := read_cases e w .registrationNotFound
        (w.registrations.get n)
      · simp only [Call.exec, RegistrationCall.exec, h]
        exact ⟨.refl n w, hm, rfl⟩
      · simp only [Call.exec, RegistrationCall.exec, h]
        refine ⟨.refl n w, ⟨hm.request, fun old hold ↦ ?_, hm.saved⟩, rfl⟩
        cases hold
        exact ⟨(Table.get_eq_some.mp hreg).2, Option.isSome_iff_exists.mpr ⟨reg, hreg⟩⟩
    | update reg =>
      obtain ⟨err, h⟩ | ⟨t, h, ht⟩ := save_cases reg e w
      · rw [h]
        exact ⟨.refl id w, hm, rfl⟩
      obtain ⟨stored, hstored, hreg, hforward, hassigned, hscheduled⟩ := saved_row hm ha hg ht
      have hadvances : Advances id w { w with registrations := t } := by
        intro reg' hreg'
        obtain rfl := Option.some.inj (hstored.symm.trans hreg')
        exact ⟨reg, hreg, hforward⟩
      rw [h]
      refine ⟨hadvances, ⟨hm.request, (hm.advances hadvances).read, fun status hstatus ↦ ?_⟩, ?_⟩
      · cases hstatus
        exact ⟨reg, hreg, .refl _⟩
      · simp only [plan, hreg, hstored, Option.map_some, Request.plans, hassigned, hscheduled]
  | _ => exact hoff trivial

end Steps

section Interleaved

variable {ι : Type} [DecidableEq ι] (w : World) (id : ℕ) (requests : ι → Request)
  (actors : ι → Option ℕ)

/-- Any number of requests about a registration, before their first call. -/
def requestsOn : Pool ι Call Call.Reply Answer World Reviewer where
  state := w
  threads i := (requests i).prog id (actors i)
  marks i := ⟨requests i, none, none⟩

def deskAfter (schedule : List (ι × Env)) : Pool ι Call Call.Reply Answer World Reviewer :=
  (requestsOn w id requests actors).run Call.exec (reviewObserver id) schedule

/-- The call saves no row that another request has overtaken. -/
def Undisturbed {ι : Type} (w : World) (m : ι → Reviewer) (i : ι) (c : Call) : Prop :=
  (m i).Undisturbed w c

def planned (schedule : List (ι × Env)) : Option (Option ℕ × Option Time) :=
  (requestsOn w id requests actors).meansAll Call.exec (reviewObserver id)
    (fun i c _ ↦ (requests i).plans c) schedule (plan id w)

/-- Every request stands where its marks say. -/
def Desk (requests : ι → Request) (u : World) (m : ι → Reviewer) : Prop :=
  ∀ j, (m j).Sound id (requests j) u

/-- What is reported has been saved. -/
def Told (_ : ι) (m : Reviewer) (answer : Answer) : Prop :=
  ∀ status ∈ answer.reported, m.saved = some status

omit [DecidableEq ι] in
theorem requestsOn_sound : (requestsOn w id requests actors).Sound (reviewObserver id) Told
    (Desk id requests) := by
  refine ⟨fun j ↦ ⟨rfl, fun old hold ↦ ?_, fun status hstatus ↦ ?_⟩, fun i ↦ ?_⟩
  · cases hold
  · cases hstatus
  · exact (requests i).follows (actors i)

variable {w id requests actors}

theorem desk_step (u : World) (m : ι → Reviewer) (i : ι) (c : Call) (e : Env)
    (hm : Desk id requests u m) (ha : (reviewObserver id).allows (m i) c)
    (hg : Undisturbed u m i c) : Desk id requests (c.exec e u).2
      (Function.update m i ((reviewObserver id).next (m i) c (c.exec e u).1)) := by
  intro j
  obtain ⟨hadvances, hnext, -⟩ := reviewer_step (hm i) ha hg e
  by_cases hj : j = i
  · subst hj
    rw [Function.update_self]
    exact hnext
  · rw [Function.update_of_ne hj]
    exact (hm j).advances hadvances

theorem deskAfter_sound {schedule : List (ι × Env)}
    (hg : (requestsOn w id requests actors).Guarded Call.exec (reviewObserver id) Undisturbed
      schedule) :
    (deskAfter w id requests actors schedule).Sound (reviewObserver id) Told (Desk id requests) :=
  (requestsOn_sound w id requests actors).run (fun _ ↦ True)
    (fun u m i c e hm ha hgc _ ↦ desk_step u m i c e hm ha hgc) hg fun _ _ ↦ trivial

end Interleaved

/-- As long as no request saves a row that another one has overtaken, the registration only
moves forward, also from the status that a caller has been told, and the technician and the
date are those that were set last. -/
theorem decisions_stand {ι : Type} [DecidableEq ι] (w : World) (id : ℕ) (requests : ι → Request)
    (actors : ι → Option ℕ) (s t : List (ι × Env))
    (hg : (requestsOn w id requests actors).Guarded Call.exec (reviewObserver id) Undisturbed
      (s ++ t)) :
    Advances id (deskAfter w id requests actors s).state
      (deskAfter w id requests actors (s ++ t)).state ∧
    (∀ i answer, (deskAfter w id requests actors s).result i = some answer →
      ∀ status ∈ answer.reported,
        ∃ reg ∈ (deskAfter w id requests actors (s ++ t)).state.registrations.get id,
          Forward status reg.status) ∧
    plan id (deskAfter w id requests actors s).state = planned w id requests actors s := by
  obtain ⟨hs, ht⟩ := (Pool.guarded_append _ s t).mp hg
  have hsound := deskAfter_sound hs
  have hadvances : Advances id (deskAfter w id requests actors s).state
      (deskAfter w id requests actors (s ++ t)).state := by
    rw [deskAfter, deskAfter, Pool.run_append]
    exact hsound.relates (r := Advances id) (fun _ ↦ True) (.refl id)
      (fun _ _ _ h h' ↦ h.trans h') (fun u m i c e hm ha hgc _ ↦ desk_step u m i c e hm ha hgc)
      (fun u m i c e hm ha hgc _ ↦ (reviewer_step (hm i) ha hgc e).1) ht fun _ _ ↦ trivial
  refine ⟨hadvances, fun i answer hresult status hstatus ↦ ?_, ?_⟩
  · have hsaved := hsound.result hresult status hstatus
    obtain ⟨reg, hreg, hforward⟩ := (hsound.inv i).saved status hsaved
    obtain ⟨reg', hreg', hforward'⟩ := hadvances reg hreg
    exact ⟨reg', hreg', hforward.trans hforward'⟩
  · exact (requestsOn_sound w id requests actors).view (fun _ ↦ True) (plan id)
      (fun i c _ ↦ (requests i).plans c)
      (fun u m i c e hm ha hgc _ ↦ desk_step u m i c e hm ha hgc)
      (fun u m i c e hm ha hgc _ ↦ (reviewer_step (hm i) ha hgc e).2.2) hs fun _ _ ↦ trivial

instance (request : Request) (old stored : Registration) :
    Decidable (request.StillFits old stored) :=
  decidable_of_iff ((stored.status = request.decision.getD old.status ∨
      request.decision.isSome ∧ request.lets stored.status) ∧
    (request.assignment = none → stored.assignedTo = old.assignedTo) ∧
    (request.schedule = none → stored.scheduledAt = old.scheduledAt))
    ⟨fun h ↦ ⟨h.1, h.2.1, h.2.2⟩, fun h ↦ ⟨h.status, h.assignedTo, h.scheduledAt⟩⟩

instance {ι : Type} (w : World) (m : ι → Reviewer) (i : ι) (c : Call) :
    Decidable (Undisturbed w m i c) := by
  unfold Undisturbed Reviewer.Undisturbed
  split <;> infer_instance

/-- A technician is assigned while the registration is cancelled. -/
def assignAgainstCancel : Bool → Request
  | true => .assign ⟨3, none⟩
  | false => .cancel ""

def turns (order : List Bool) : List (Bool × Env) := order.map fun i ↦ (i, .calm 0)

/-- The technician is assigned before the cancellation reads the registration. -/
theorem assigned_then_cancelled :
    Advances 1 (deskAfter Billing.registered 1 assignAgainstCancel (fun _ ↦ none)
        (turns [true, true])).state
      (deskAfter Billing.registered 1 assignAgainstCancel (fun _ ↦ none)
        (turns [true, true] ++ turns (List.replicate 4 false))).state ∧
    (∀ i answer, (deskAfter Billing.registered 1 assignAgainstCancel (fun _ ↦ none)
        (turns [true, true])).result i = some answer → ∀ status ∈ answer.reported,
        ∃ reg ∈ (deskAfter Billing.registered 1 assignAgainstCancel (fun _ ↦ none)
          (turns [true, true] ++ turns (List.replicate 4 false))).state.registrations.get 1,
          Forward status reg.status) ∧
    plan 1 (deskAfter Billing.registered 1 assignAgainstCancel (fun _ ↦ none)
        (turns [true, true])).state =
      planned Billing.registered 1 assignAgainstCancel (fun _ ↦ none) (turns [true, true]) :=
  decisions_stand _ _ _ _ _ _ (by decide +kernel)

/-- The cancellation is answered, and then undone by the request that has read before; in the
other order it is the assignment that is lost. -/
theorem decisions_undone :
    (¬Advances 1 (deskAfter Billing.registered 1 assignAgainstCancel (fun _ ↦ none)
        (turns (true :: List.replicate 4 false))).state
      (deskAfter Billing.registered 1 assignAgainstCancel (fun _ ↦ none)
        (turns (true :: List.replicate 4 false) ++ turns [true])).state) ∧
    ((deskAfter Billing.registered 1 assignAgainstCancel (fun _ ↦ none)
      (turns (true :: List.replicate 4 false))).result false).bind Answer.reported =
        some .cancelled ∧
    plan 1 (deskAfter Billing.registered 1 assignAgainstCancel (fun _ ↦ none)
        (turns ([false, true, true, false, false, false]))).state ≠
      planned Billing.registered 1 assignAgainstCancel (fun _ ↦ none)
        (turns ([false, true, true, false, false, false])) :=
  ⟨by decide +kernel, by decide +kernel, by decide +kernel⟩

end Rosmon.Review
