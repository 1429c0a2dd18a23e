import Rosmon.Library.Program

namespace Rosmon.Library

/-- Programs that share a state and run interleaved, call by call. `marks i` is
what the observer has seen of thread `i`; it never influences a run. -/
structure Pool (ι C : Type) (R : C → Type) (α σ M : Type) where
  state : σ
  threads : ι → Program C R α
  marks : ι → M

namespace Pool

open Program

variable {ι C : Type} {R : C → Type} {α E σ M : Type} [DecidableEq ι]
variable (exec : (c : C) → E → σ → R c × σ) (mon : Monitor C R M)

/-- The chosen thread makes its next call; a thread that has returned stays put. -/
def step (p : Pool ι C R α σ M) (a : ι × E) : Pool ι C R α σ M :=
  match p.threads a.1 with
  | .ret _ => p
  | .call c k =>
    { state := (exec c a.2 p.state).2
      threads := Function.update p.threads a.1 (k (exec c a.2 p.state).1)
      marks := Function.update p.marks a.1
        (mon.next (p.marks a.1) c (exec c a.2 p.state).1) }

/-- A schedule names, call by call, the thread that moves and what the outside
world offers to it. -/
def run (p : Pool ι C R α σ M) (schedule : List (ι × E)) : Pool ι C R α σ M :=
  schedule.foldl (step exec mon) p

/-- What a thread has returned, if it has. -/
def result (p : Pool ι C R α σ M) (i : ι) : Option α :=
  match p.threads i with
  | .ret a => some a
  | .call _ _ => none

@[simp] theorem run_nil (p : Pool ι C R α σ M) : p.run exec mon [] = p := rfl

@[simp] theorem run_cons (p : Pool ι C R α σ M) (a : ι × E) (schedule : List (ι × E)) :
    p.run exec mon (a :: schedule) = (p.step exec mon a).run exec mon schedule := rfl

theorem run_append (p : Pool ι C R α σ M) (s t : List (ι × E)) :
    p.run exec mon (s ++ t) = (p.run exec mon s).run exec mon t :=
  List.foldl_append

/-- The call the chosen thread is about to make, if any, satisfies the guard. -/
def Admits (guard : σ → (ι → M) → ι → C → Prop) (p : Pool ι C R α σ M) (i : ι) : Prop :=
  match p.threads i with
  | .ret _ => True
  | .call c _ => guard p.state p.marks i c

/-- The step is a call of the chosen thread that satisfies `P` with its reply. -/
def Does (P : (c : C) → R c → Prop) (p : Pool ι C R α σ M) (a : ι × E) : Prop :=
  match p.threads a.1 with
  | .ret _ => False
  | .call c _ => P c (exec c a.2 p.state).1

instance (P : (c : C) → R c → Prop) [∀ c r, Decidable (P c r)] (p : Pool ι C R α σ M)
    (a : ι × E) : Decidable (p.Does exec P a) :=
  match h : p.threads a.1 with
  | .ret _ => isFalse (by simp [Does, h])
  | .call c _ => decidable_of_iff (P c (exec c a.2 p.state).1) (by simp only [Does, h])

/-- What the next call of the chosen thread, if any, means to make of a view on the state. -/
def means {V : Type} (meant : ι → (c : C) → E → R c → V → V) (p : Pool ι C R α σ M)
    (a : ι × E) (v : V) : V :=
  match p.threads a.1 with
  | .ret _ => v
  | .call c _ => meant a.1 c a.2 (exec c a.2 p.state).1 v

/-- What the calls of a schedule mean to make of it, one after the other. -/
def meansAll {V : Type} (meant : ι → (c : C) → E → R c → V → V) :
    Pool ι C R α σ M → List (ι × E) → V → V
  | _, [], v => v
  | p, a :: schedule, v =>
    meansAll meant (p.step exec mon a) schedule (p.means exec meant a v)

variable {exec mon} in
/-- What the calls mean to make of a view depends only on the steps that are made. -/
theorem meansAll_congr {V : Type} {meant meant' : ι → (c : C) → E → R c → V → V}
    {p : Pool ι C R α σ M} {schedule : List (ι × E)}
    (h : ∀ earlier a later, schedule = earlier ++ a :: later →
      ∀ v, (p.run exec mon earlier).means exec meant a v =
        (p.run exec mon earlier).means exec meant' a v) (v : V) :
    p.meansAll exec mon meant schedule v = p.meansAll exec mon meant' schedule v := by
  induction schedule generalizing p v with
  | nil => rfl
  | cons a schedule ih =>
    have hfirst := h [] a schedule rfl v
    rw [run_nil] at hfirst
    rw [meansAll, meansAll, hfirst]
    refine ih (fun earlier b later heq v ↦ ?_) _
    exact h (a :: earlier) b later (by rw [heq]; rfl) v

/-- Every call of the schedule satisfies the guard when it is made. -/
def Guarded (guard : σ → (ι → M) → ι → C → Prop) :
    Pool ι C R α σ M → List (ι × E) → Prop
  | _, [] => True
  | p, a :: schedule => p.Admits guard a.1 ∧ Guarded guard (p.step exec mon a) schedule

instance (guard : σ → (ι → M) → ι → C → Prop) [∀ s m i c, Decidable (guard s m i c)]
    (p : Pool ι C R α σ M) (i : ι) : Decidable (p.Admits guard i) :=
  match h : p.threads i with
  | .ret _ => isTrue (by simp only [Admits, h])
  | .call c _ => decidable_of_iff (guard p.state p.marks i c) (by simp only [Admits, h])

instance decidableGuarded (guard : σ → (ι → M) → ι → C → Prop)
    [∀ s m i c, Decidable (guard s m i c)] :
    ∀ (p : Pool ι C R α σ M) (schedule : List (ι × E)),
      Decidable (p.Guarded exec mon guard schedule)
  | _, [] => inferInstanceAs (Decidable True)
  | p, a :: schedule =>
    have := decidableGuarded guard (p.step exec mon a) schedule
    inferInstanceAs (Decidable (_ ∧ _))

/-- Either the chosen thread has returned and nothing happens, or it makes its call. -/
theorem step_cases (p : Pool ι C R α σ M) (a : ι × E) :
    p.step exec mon a = p ∨ ∃ c k, p.threads a.1 = .call c k ∧ p.step exec mon a =
      { state := (exec c a.2 p.state).2
        threads := Function.update p.threads a.1 (k (exec c a.2 p.state).1)
        marks := Function.update p.marks a.1
          (mon.next (p.marks a.1) c (exec c a.2 p.state).1) } := by
  cases h : p.threads a.1 with
  | ret b => exact .inl (by simp only [step, h])
  | call c k => exact .inr ⟨c, k, rfl, by simp only [step, h]⟩

variable {exec mon}

omit [DecidableEq ι] in
theorem Does.call {P : (c : C) → R c → Prop} {p : Pool ι C R α σ M} {a : ι × E}
    (h : p.Does exec P a) : ∃ c k, p.threads a.1 = .call c k ∧ P c (exec c a.2 p.state).1 := by
  cases hc : p.threads a.1 with
  | ret b => simp [Does, hc] at h
  | call c k => exact ⟨c, k, rfl, by simpa only [Does, hc] using h⟩

theorem step_marks {p : Pool ι C R α σ M} {a : ι × E} {c : C} {k : R c → Program C R α}
    (hc : p.threads a.1 = .call c k) :
    (p.step exec mon a).marks a.1 = mon.next (p.marks a.1) c (exec c a.2 p.state).1 := by
  simp only [step, hc, Function.update_self]

omit [DecidableEq ι] in
theorem Admits.call {guard : σ → (ι → M) → ι → C → Prop} {p : Pool ι C R α σ M} {i : ι}
    (h : p.Admits guard i) {c : C} {k : R c → Program C R α} (hc : p.threads i = .call c k) :
    guard p.state p.marks i c := by
  simpa only [Admits, hc] using h

/-- What survives every call an observer may see survives a run. -/
theorem run_marks (K : M → Prop) (hK : ∀ m c r, K m → K (mon.next m c r)) {i : ι}
    {p : Pool ι C R α σ M} (hp : K (p.marks i)) (schedule : List (ι × E)) :
    K ((p.run exec mon schedule).marks i) := by
  induction schedule generalizing p with
  | nil => exact hp
  | cons a schedule ih =>
    refine ih ?_
    obtain h | ⟨c, k, -, h⟩ := step_cases exec mon p a
    · rwa [h]
    · by_cases hi : i = a.1
      · subst hi
        simpa only [h, Function.update_self] using hK _ _ _ hp
      · simpa only [h, Function.update_of_ne hi] using hp

theorem guarded_append {guard : σ → (ι → M) → ι → C → Prop} (p : Pool ι C R α σ M)
    (s t : List (ι × E)) : p.Guarded exec mon guard (s ++ t) ↔
      p.Guarded exec mon guard s ∧ (p.run exec mon s).Guarded exec mon guard t := by
  induction s generalizing p with
  | nil => simp [Guarded]
  | cons a s ih => simp only [List.cons_append, Guarded, ih, run_cons, and_assoc]

theorem guarded_true (p : Pool ι C R α σ M) (schedule : List (ι × E)) :
    p.Guarded exec mon (fun _ _ _ _ ↦ True) schedule := by
  induction schedule generalizing p with
  | nil => trivial
  | cons a schedule ih =>
    refine ⟨?_, ih _⟩
    unfold Admits
    split <;> trivial

theorem Guarded.mono {guard guard' : σ → (ι → M) → ι → C → Prop} {p : Pool ι C R α σ M}
    {schedule : List (ι × E)} (h : p.Guarded exec mon guard schedule)
    (hguard : ∀ s m i c, guard s m i c → guard' s m i c) :
    p.Guarded exec mon guard' schedule := by
  induction schedule generalizing p with
  | nil => trivial
  | cons a schedule ih =>
    refine ⟨?_, ih h.2⟩
    cases hc : p.threads a.1 with
    | ret b => simp only [Admits, hc]
    | call c k => simpa only [Admits, hc] using hguard _ _ _ _ (h.1.call hc)

/-- The state and the marks satisfy `J`, and every thread still follows the
observer from its mark. -/
structure Sound (mon : Monitor C R M) (Q : ι → M → α → Prop) (J : σ → (ι → M) → Prop)
    (p : Pool ι C R α σ M) : Prop where
  inv : J p.state p.marks
  follows : ∀ i, (p.threads i).Follows mon (Q i) (p.marks i)

section Invariant

variable {Q : ι → M → α → Prop} {J : σ → (ι → M) → Prop}
variable {guard : σ → (ι → M) → ι → C → Prop} (ok : E → Prop)

/-- A step rule: it is enough that `J` survives each call the observer lets
through and the guard admits. -/
theorem Sound.step (hJ : ∀ s m i c e, J s m → mon.allows (m i) c → guard s m i c → ok e →
      J (exec c e s).2 (Function.update m i (mon.next (m i) c (exec c e s).1)))
    {p : Pool ι C R α σ M} (hp : p.Sound mon Q J) {a : ι × E} (hg : p.Admits guard a.1)
    (ha : ok a.2) : (p.step exec mon a).Sound mon Q J := by
  obtain h | ⟨c, k, hc, h⟩ := step_cases exec mon p a
  · rwa [h]
  · have hf := hp.follows a.1
    rw [hc] at hf
    rw [h]
    refine ⟨hJ _ _ _ _ _ hp.inv hf.1 (hg.call hc) ha, fun i ↦ ?_⟩
    by_cases hi : i = a.1
    · subst hi
      simpa only [Function.update_self] using hf.2 _
    · simpa only [Function.update_of_ne hi] using hp.follows i

/-- The run rule. -/
theorem Sound.run (hJ : ∀ s m i c e, J s m → mon.allows (m i) c → guard s m i c → ok e →
      J (exec c e s).2 (Function.update m i (mon.next (m i) c (exec c e s).1)))
    {p : Pool ι C R α σ M} (hp : p.Sound mon Q J) {schedule : List (ι × E)}
    (hg : p.Guarded exec mon guard schedule) (hok : ∀ a ∈ schedule, ok a.2) :
    (p.run exec mon schedule).Sound mon Q J := by
  induction schedule generalizing p with
  | nil => exact hp
  | cons a schedule ih =>
    exact ih (hp.step ok hJ hg.1 (hok a (by simp))) hg.2 (fun b hb ↦ hok b (by simp [hb]))

/-- What `J` grants of each call is so at every step of a run. -/
theorem Sound.guarded {guard' : σ → (ι → M) → ι → C → Prop}
    (hJ : ∀ s m i c e, J s m → mon.allows (m i) c → guard s m i c → ok e →
      J (exec c e s).2 (Function.update m i (mon.next (m i) c (exec c e s).1)))
    (hguard : ∀ s m i c, J s m → mon.allows (m i) c → guard' s m i c)
    {p : Pool ι C R α σ M} (hp : p.Sound mon Q J) {schedule : List (ι × E)}
    (hg : p.Guarded exec mon guard schedule) (hok : ∀ a ∈ schedule, ok a.2) :
    p.Guarded exec mon guard' schedule := by
  induction schedule generalizing p with
  | nil => trivial
  | cons a schedule ih =>
    refine ⟨?_, ih (hp.step ok hJ hg.1 (hok a (by simp))) hg.2 fun b hb ↦ hok b (by simp [hb])⟩
    cases hc : p.threads a.1 with
    | ret b => simp only [Admits, hc]
    | call c k =>
      have hf := hp.follows a.1
      rw [hc] at hf
      simpa only [Admits, hc] using hguard _ _ _ _ hp.inv hf.1

/-- The run rule where every call is admitted. -/
theorem Sound.run_all (hJ : ∀ s m i c e, J s m → mon.allows (m i) c →
      J (exec c e s).2 (Function.update m i (mon.next (m i) c (exec c e s).1)))
    {p : Pool ι C R α σ M} (hp : p.Sound mon Q J) (schedule : List (ι × E)) :
    (p.run exec mon schedule).Sound mon Q J :=
  hp.run (fun _ ↦ True) (fun s m i c e h hc _ _ ↦ hJ s m i c e h hc) (guarded_true p schedule)
    fun _ _ ↦ trivial

/-- The view rule: if each call does to a view of the state what it means to do, so does
a run. -/
theorem Sound.view {V : Type} (view : σ → V) (meant : ι → (c : C) → E → R c → V → V)
    (hJ : ∀ s m i c e, J s m → mon.allows (m i) c → guard s m i c → ok e →
      J (exec c e s).2 (Function.update m i (mon.next (m i) c (exec c e s).1)))
    (hview : ∀ s m i c e, J s m → mon.allows (m i) c → guard s m i c → ok e →
      view (exec c e s).2 = meant i c e (exec c e s).1 (view s))
    {p : Pool ι C R α σ M} (hp : p.Sound mon Q J) {schedule : List (ι × E)}
    (hg : p.Guarded exec mon guard schedule) (hok : ∀ a ∈ schedule, ok a.2) :
    view (p.run exec mon schedule).state = p.meansAll exec mon meant schedule (view p.state) := by
  induction schedule generalizing p with
  | nil => rfl
  | cons a schedule ih =>
    have ha := hok a List.mem_cons_self
    have hstep : view (p.step exec mon a).state = p.means exec meant a (view p.state) := by
      cases hc : p.threads a.1 with
      | ret b => simp only [Pool.step, means, hc]
      | call c k =>
        have hf := hp.follows a.1
        rw [hc] at hf
        have h := hview _ _ _ _ _ hp.inv hf.1 (hg.1.call hc) ha
        simpa only [Pool.step, means, hc] using h
    rw [run_cons, meansAll, ← hstep]
    exact ih (hp.step ok hJ hg.1 ha) hg.2 fun b hb ↦ hok b (List.mem_cons_of_mem _ hb)

/-- A preorder that every call respects relates the states before and after a run. -/
theorem Sound.relates {r : σ → σ → Prop} (hrefl : ∀ s, r s s)
    (htrans : ∀ s t u, r s t → r t u → r s u)
    (hJ : ∀ s m i c e, J s m → mon.allows (m i) c → guard s m i c → ok e →
      J (exec c e s).2 (Function.update m i (mon.next (m i) c (exec c e s).1)))
    (hr : ∀ s m i c e, J s m → mon.allows (m i) c → guard s m i c → ok e → r s (exec c e s).2)
    {p : Pool ι C R α σ M} (hp : p.Sound mon Q J) {schedule : List (ι × E)}
    (hg : p.Guarded exec mon guard schedule) (hok : ∀ a ∈ schedule, ok a.2) :
    r p.state (p.run exec mon schedule).state := by
  have hstart : p.Sound mon Q fun s m ↦ J s m ∧ r p.state s :=
    ⟨⟨hp.inv, hrefl _⟩, hp.follows⟩
  refine (hstart.run ok (fun s m i c e h ha hgc he ↦ ⟨?_, ?_⟩) hg hok).inv.2
  · exact hJ s m i c e h.1 ha hgc he
  · exact htrans _ _ _ h.2 (hr s m i c e h.1 ha hgc he)

omit [DecidableEq ι] in
theorem Sound.result {p : Pool ι C R α σ M} (hp : p.Sound mon Q J) {i : ι} {a : α}
    (h : p.result i = some a) : Q i (p.marks i) a := by
  have hf := hp.follows i
  unfold Pool.result at h
  split at h
  next b hb =>
    rw [hb] at hf
    exact Option.some.inj h ▸ hf
  next => cases h

end Invariant

end Pool

end Rosmon.Library
