import Rosmon.Billing.Schedule
import Rosmon.Review.Requests

namespace Rosmon.Review

open Library Store Program Service Handler Records

/-- A request, and what the outside world offers while it is served. -/
structure Visit where
  request : Request
  actor : Option ℕ
  env : ℕ → Env

/-- The server after a request, and all its answers so far. -/
def serve (id : ℕ) (s : World × List Answer) (v : Visit) : World × List Answer :=
  let r := (v.request.prog id v.actor).run Call.exec v.env s.1
  (r.2, s.2 ++ [r.1])

def Answer.completes : Answer → Prop
  | .completeInstall r => r.Accepted
  | _ => False

def Answer.cancels : Answer → Prop
  | .cancel r => r.Accepted
  | _ => False

instance (a : Answer) : Decidable a.completes := by
  unfold Answer.completes
  split <;> infer_instance

instance (a : Answer) : Decidable a.cancels := by
  unfold Answer.cancels
  split <;> infer_instance

def live (w : World) (n : ℕ) : Bool := (contract w n).any Contract.live

/-- The subscription has come into being between the two states. -/
def Opened (w w' : World) (n : ℕ) : Prop := live w n = false ∧ live w' n = true

/-- One subscription at most has been made, and after the installation there has been neither
another one nor a cancellation. -/
structure InstalledOnce (w : World) (s : World × List Answer) : Prop where
  once : ∀ m n, Opened w s.1 m → Opened w s.1 n → m = n
  closed : s.2.Pairwise fun earlier later ↦ earlier.completes → ¬later.completes ∧ ¬later.cancels

/-- The request is one that the status of the registration does not hold up. -/
def Request.passes (w : World) (id : ℕ) : Request → Prop
  | .completeInstall req => complete req ∧
    ∃ reg ∈ w.registrations.get id, reg.status = .approved ∧ reg.customerID.isSome
  | .cancel _ => ∃ reg ∈ w.registrations.get id, cancellable reg.status
  | _ => False

/-- Once the installation is complete, no request meets the registration in a status that
lets it be completed again, or cancelled. -/
def StaysClosed (id : ℕ) (s : World × List Answer) (v : Visit) : Prop :=
  (∃ a ∈ s.2, a.completes) → ¬v.request.passes s.1 id

section Steps

variable {w : World} {id : ℕ} {s : World × List Answer} {v : Visit}

theorem live_congr {w w' : World} (h : ∀ n, contract w' n = contract w n) (n : ℕ) :
    live w' n = live w n := by rw [live, live, h]

theorem live_opens {w w' : World} {sub : Subscription} {n : ℕ} (h : Opens w sub n w') {m : ℕ}
    (hm : m ≠ n) : live w' m = live w m := by rw [live, live, h.contracts, if_neg hm]

/-- How a request ends. -/
inductive Ends (w : World) (id : ℕ) (request : Request) (a : Answer) (w' : World) : Prop
  | kept (hlive : ∀ n, live w' n = live w n) (hcompletes : ¬a.completes)
      (hcancels : a.cancels → request.passes w id)
  | opened (n : ℕ) (hpasses : request.passes w id) (hcompletes : a.completes)
      (hlive : ∀ m, m ≠ n → live w' m = live w m)

theorem prog_ends {ok : Env → Prop} (w : World) (id : ℕ) (actor : Option ℕ) (request : Request) :
    (request.prog id actor).wp Call.exec ok (Ends w id request) w := by
  have hkept {α : Type} {p : Prog α} (hp : p.Only clerical) :
      p.wp Call.exec ok (fun _ u ↦ ∀ n, live u n = live w n) w :=
    wp_mono (wp_clerical hp (fun _ _ ↦ False) w) fun _ _ h ↦ live_congr h.contracts
  cases request with
  | approve req =>
    refine (wp_map _ _ _).mpr (wp_mono (hkept (approve_clerical _ _ _)) fun _ _ h ↦ ?_)
    exact .kept h not_false False.elim
  | reject req =>
    refine (wp_map _ _ _).mpr (wp_mono (hkept (rejectRegistration_clerical _ _ _)) fun _ _ h ↦ ?_)
    exact .kept h not_false False.elim
  | cancel reason =>
    refine (wp_map _ _ _).mpr (wp_mono (wp_and (hkept (cancelRegistration_clerical _ _ _))
      (cancelRegistration_accepted w id reason actor)) fun _ _ h ↦ ?_)
    exact .kept h.1 not_false h.2
  | assign req =>
    refine (wp_map _ _ _).mpr (wp_mono (hkept (assign_clerical _ _)) fun _ _ h ↦ ?_)
    exact .kept h not_false False.elim
  | completeInstall req =>
    refine (wp_map _ _ _).mpr (wp_mono (completeInstall_completes w id req actor) fun r u h ↦ ?_)
    cases h with
    | refused hrefused hu => exact .kept (live_congr hu.contracts) hrefused False.elim
    | installed hreq hreg hstatus hcustomer hu =>
      have haccepted : 200 ≤ 201 ∧ 201 < 300 := by decide
      refine .opened _ ⟨hreq, _, hreg, hstatus, ?_⟩ haccepted fun m hm ↦ live_opens hu hm
      rw [hcustomer]
      rfl

theorem serve_ends (id : ℕ) (s : World × List Answer) (v : Visit) :
    ∃ a, (serve id s v).2 = s.2 ++ [a] ∧ Ends s.1 id v.request a (serve id s v).1 := by
  have hends : (v.request.prog id v.actor).wp Call.exec (fun _ ↦ True)
    (Ends s.1 id v.request) s.1 := prog_ends s.1 id v.actor v.request
  exact ⟨_, rfl, run_of_wp hends v.env fun _ ↦ trivial⟩

/-- As long as no installation is complete, no subscription has been made. -/
def Underway (w : World) (s : World × List Answer) : Prop :=
  (∃ a ∈ s.2, a.completes) ∨ ∀ n, live s.1 n = live w n

theorem installedOnce_step (h : InstalledOnce w s ∧ Underway w s) (hguard : StaysClosed id s v) :
    InstalledOnce w (serve id s v) ∧ Underway w (serve id s v) := by
  obtain ⟨⟨honce, hclosed⟩, hunderway⟩ := h
  obtain ⟨a, ha, hends⟩ := serve_ends id s v
  have hpairwise (hlater : (∃ b ∈ s.2, b.completes) → ¬a.completes ∧ ¬a.cancels) :
      (s.2 ++ [a]).Pairwise fun earlier later ↦
        earlier.completes → ¬later.completes ∧ ¬later.cancels := by
    refine List.pairwise_append.mpr ⟨hclosed, List.pairwise_singleton _ _, ?_⟩
    intro b hb c hc hcompletes
    rw [List.mem_singleton.mp hc]
    exact hlater ⟨b, hb, hcompletes⟩
  have hsome (h : ∃ b ∈ s.2, b.completes) : ∃ b ∈ s.2 ++ [a], b.completes := by
    obtain ⟨b, hb, hcompletes⟩ := h
    exact ⟨b, List.mem_append_left _ hb, hcompletes⟩
  cases hends with
  | kept hlive hcompletes hcancels =>
    have hopened (n : ℕ) : Opened w (serve id s v).1 n ↔ Opened w s.1 n := by
      rw [Opened, Opened, hlive]
    refine ⟨⟨fun m n hm hn ↦ ?_, ?_⟩, ?_⟩
    · exact honce m n ((hopened m).mp hm) ((hopened n).mp hn)
    · rw [ha]
      exact hpairwise fun hdone ↦ ⟨hcompletes, fun hc ↦ hguard hdone (hcancels hc)⟩
    · unfold Underway
      rw [ha]
      exact hunderway.imp hsome fun hnone n ↦ (hlive n).trans (hnone n)
  | opened n hpasses hcompletes hlive =>
    have hfirst : ¬∃ b ∈ s.2, b.completes := fun hdone ↦ hguard hdone hpasses
    have hnone := hunderway.resolve_left hfirst
    have hnew {m : ℕ} (hm : Opened w (serve id s v).1 m) : m = n := by
      by_contra hne
      have hold := (hlive m hne).trans (hnone m)
      rw [hm.1, hm.2] at hold
      cases hold
    refine ⟨⟨fun m k hm hk ↦ (hnew hm).trans (hnew hk).symm, ?_⟩, ?_⟩
    · rw [ha]
      exact hpairwise fun hdone ↦ absurd hdone hfirst
    · unfold Underway
      rw [ha]
      exact .inl ⟨a, List.mem_append_right _ List.mem_cons_self, hcompletes⟩

end Steps

/-- A registration that, once installed, is met by no request that its status lets pass is
installed once, and stays installed. -/
theorem installed_once (w : World) (id : ℕ) (visits : List Visit)
    (hguard : Run.Guarded (serve id) (StaysClosed id) (w, []) visits) :
    ∀ s ∈ Run.states (serve id) (w, []) visits, InstalledOnce w s := by
  have hstart : InstalledOnce w (w, []) := by
    refine ⟨fun m n hm ↦ ?_, List.Pairwise.nil⟩
    rw [Opened, hm.1] at hm
    cases hm.2
  intro s hs
  exact (Run.invariant (I := fun s ↦ InstalledOnce w s ∧ Underway w s)
    (fun s v hs hv ↦ installedOnce_step hs hv) ⟨hstart, .inr fun _ ↦ rfl⟩ hguard s hs).1

instance (w : World) (id : ℕ) (request : Request) : Decidable (request.passes w id) := by
  unfold Request.passes
  split <;> infer_instance

instance (id : ℕ) (s : World × List Answer) (v : Visit) : Decidable (StaysClosed id s v) :=
  inferInstanceAs (Decidable (_ → _))

def visit (request : Request) : Visit where
  request
  actor := none
  env := Billing.atSeven 0

/-- A second installation, under another name. -/
def rini : RegistrationCompleteInstallRequest :=
  { Billing.siti 5 with mikrotikUsername := "rini" }

theorem assigned_and_installed_once :
    InstalledOnce Billing.registered ([visit (.assign ⟨3, none⟩),
      visit (.completeInstall (Billing.siti 5)), visit (.assign ⟨4, none⟩)].foldl (serve 1)
        (Billing.registered, [])) :=
  installed_once _ _ _ (by decide +kernel) _ (Run.foldl_mem_states _ _)

/-- Two subscriptions come of one registration, which is cancelled in the end. -/
theorem installed_twice :
    ¬∀ s ∈ Run.states (serve 1) (Billing.registered, [])
      [visit (.completeInstall (Billing.siti 5)), visit (.completeInstall rini),
        visit (.cancel "")], InstalledOnce Billing.registered s := by
  intro h
  have hlast := h _ (Run.foldl_mem_states _ _)
  have hsame := hlast.once 2 3 ⟨by decide +kernel, by decide +kernel⟩
    ⟨by decide +kernel, by decide +kernel⟩
  cases hsame

end Rosmon.Review
