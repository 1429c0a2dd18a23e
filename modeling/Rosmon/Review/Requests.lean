import Rosmon.Records.Requests

namespace Rosmon.Review

open Library Store Program Service Handler Records

/-- A request about one registration. -/
inductive Request
  | approve (req : RegistrationApproveRequest)
  | reject (req : RegistrationRejectRequest)
  | cancel (reason : String)
  | assign (req : RegistrationAssignRequest)
  | completeInstall (req : RegistrationCompleteInstallRequest)

inductive Answer
  | approve (r : Response Registration)
  | reject (r : Response Registration)
  | cancel (r : Response Registration)
  | assign (r : Response Registration)
  | completeInstall (r : Response CompleteInstallResponse)

def Request.prog (id : ℕ) (actor : Option ℕ) : Request → Prog Answer
  | .approve req => .approve <$> Handler.approve id req actor
  | .reject req => .reject <$> rejectRegistration id req actor
  | .cancel reason => .cancel <$> cancelRegistration id reason actor
  | .assign req => .assign <$> Handler.assign id req
  | .completeInstall req => .completeInstall <$> Handler.completeInstall id req actor

section Clerical

theorem withRegistration_clerical {α : Type} {id : ℕ} {p : Registration → Prog (Response α)}
    (hp : ∀ reg, (p reg).Only clerical) : (withRegistration id p).Only clerical := by
  refine ⟨trivial, fun r ↦ ?_⟩
  cases r with
  | error err => trivial
  | ok reg => exact hp reg

/-- What it takes to find the customer, or to make one. -/
def enrols : Call → Prop
  | .customerByPhone _ | .createCustomer _ => True
  | _ => False

theorem customerOf_enrols (reg : Registration) (actor : Option ℕ) :
    (customerOf reg actor).Only enrols := by
  refine ⟨trivial, fun r ↦ ?_⟩
  cases r with
  | error err =>
    change (if _ then _ else _ : Prog (Except Error Customer)).Only enrols
    split_ifs
    · exact ⟨trivial, fun _ ↦ trivial⟩
    · trivial
  | ok cust => trivial

theorem enrols.clerical {c : Call} (hc : enrols c) : clerical c := by
  cases c <;> first | exact hc.elim | trivial

theorem notifyPhone_informs (customerID : Option ℕ) (phone slug : String)
    (extra : List (String × String)) : (notifyPhone customerID phone slug extra).Only informs := by
  unfold notifyPhone
  split_ifs
  · trivial
  · exact (settingStr_informs _ _).bind fun _ ↦ ⟨trivial, fun _ ↦ trivial⟩

theorem notifyPhone_clerical (customerID : Option ℕ) (phone slug : String)
    (extra : List (String × String)) : (notifyPhone customerID phone slug extra).Only clerical :=
  (notifyPhone_informs customerID phone slug extra).mono fun _ h ↦ inert_clerical h.inert

theorem saveReview_clerical (reg : Registration) (action : String) (actor : Option ℕ)
    {notify : Prog Unit} (hnotify : notify.Only clerical) :
    (saveReview reg action actor notify).Only clerical := by
  refine ⟨trivial, fun r ↦ ?_⟩
  cases r with
  | error err => trivial
  | ok _ =>
    have haudit := (audit_inert actor action "CustomerRegistration" reg.id).mono
      fun _ ↦ inert_clerical
    exact haudit.bind fun _ ↦ hnotify.bind fun _ ↦ trivial

theorem approve_clerical (id : ℕ) (req : RegistrationApproveRequest) (actor : Option ℕ) :
    (approve id req actor).Only clerical := by
  apply withRegistration_clerical
  intro reg
  split_ifs
  · trivial
  apply ((customerOf_enrols reg actor).mono fun _ ↦ enrols.clerical).bind
  intro r
  cases r with
  | error err => trivial
  | ok cust =>
    exact ⟨trivial, fun now ↦ saveReview_clerical _ _ _ (notifyPhone_clerical _ _ _ _)⟩

theorem rejectRegistration_clerical (id : ℕ) (req : RegistrationRejectRequest)
    (actor : Option ℕ) : (rejectRegistration id req actor).Only clerical := by
  unfold rejectRegistration
  split_ifs
  · apply withRegistration_clerical
    intro reg
    split_ifs
    · trivial
    · exact ⟨trivial, fun now ↦ saveReview_clerical _ _ _ (notifyPhone_clerical _ _ _ _)⟩
  · trivial

theorem cancelRegistration_clerical (id : ℕ) (reason : String) (actor : Option ℕ) :
    (cancelRegistration id reason actor).Only clerical := by
  apply withRegistration_clerical
  intro reg
  split_ifs
  · trivial
  · exact ⟨trivial, fun now ↦ saveReview_clerical _ _ _ trivial⟩

theorem assign_clerical (id : ℕ) (req : RegistrationAssignRequest) :
    (assign id req).Only clerical := by
  unfold assign
  split_ifs
  · apply withRegistration_clerical
    refine fun reg ↦ ⟨trivial, fun r ↦ ?_⟩
    cases r <;> trivial
  · trivial

end Clerical

/-- `Cancel` still looks at a status. -/
def cancellable (status : RegistrationStatus) : Prop := status = .pending ∨ status = .approved

instance (status : RegistrationStatus) : Decidable (cancellable status) :=
  inferInstanceAs (Decidable (_ ∨ _))

theorem cancelRegistration_accepted {ok : Env → Prop} (w : World) (id : ℕ) (reason : String)
    (actor : Option ℕ) : (cancelRegistration id reason actor).wp Call.exec ok
      (fun r _ ↦ r.Accepted → ∃ reg ∈ w.registrations.get id, cancellable reg.status) w := by
  apply wp_registrations_get
  · intro err haccepted
    revert haccepted
    change Response.Accepted (if err.is .registrationNotFound then _ else _) → _
    split_ifs
    · exact fun h ↦ absurd h (by decide)
    · exact fun h ↦ absurd h (writeErr_not_accepted err)
  · intro reg hreg
    change (if _ then _ else _ : Prog (Response Registration)).wp _ _ _ _
    split_ifs with hstatus
    · exact fun h ↦ absurd h (by simp [Response.Accepted, Response.status])
    · have hcancellable : cancellable reg.status := by
        cases h : reg.status <;> simp_all [cancellable]
      exact wp_mono (wp_keeps (I := fun _ ↦ True) (fun _ _ _ _ ↦ trivial) _ trivial)
        fun _ _ _ _ ↦ ⟨reg, hreg, hcancellable⟩

end Rosmon.Review
