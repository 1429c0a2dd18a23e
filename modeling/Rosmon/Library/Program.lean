import Mathlib.Data.Nat.Notation
import Mathlib.Logic.Function.Basic

namespace Rosmon.Library

/-- A computation that either returns or asks its surroundings and continues
with their reply. The surroundings may do anything between two calls. -/
inductive Program (C : Type) (R : C → Type) (α : Type)
  | ret : α → Program C R α
  | call (c : C) : (R c → Program C R α) → Program C R α

namespace Program

variable {C : Type} {R : C → Type} {α β E σ M : Type}

def bind : Program C R α → (α → Program C R β) → Program C R β
  | .ret a, f => f a
  | .call c k, f => .call c (fun r ↦ (k r).bind f)

instance : Monad (Program C R) where
  pure := .ret
  bind := bind

def perform (c : C) : Program C R (R c) := .call c .ret

@[simp] theorem pure_eq (a : α) : (pure a : Program C R α) = .ret a := rfl

@[simp] theorem ret_bind (a : α) (f : α → Program C R β) : (.ret a >>= f) = f a := rfl

@[simp] theorem call_bind (c : C) (k : R c → Program C R α) (f : α → Program C R β) :
    (.call c k >>= f) = .call c (fun r ↦ k r >>= f) := rfl

@[simp] theorem perform_bind (c : C) (f : R c → Program C R β) :
    (perform c >>= f) = .call c f := rfl

@[simp] theorem map_ret (g : α → β) (a : α) : (g <$> (.ret a : Program C R α)) = .ret (g a) := rfl

@[simp] theorem map_call (g : α → β) (c : C) (k : R c → Program C R α) :
    (g <$> Program.call c k) = .call c (fun r ↦ g <$> k r) := rfl

theorem bind_assoc {γ : Type} (p : Program C R α) (f : α → Program C R β)
    (g : β → Program C R γ) : p >>= f >>= g = p >>= fun a ↦ f a >>= g := by
  induction p with
  | ret a => rfl
  | call c k ih => exact congrArg (Program.call c) (funext fun r ↦ ih r)

section Running

variable (exec : (c : C) → E → σ → R c × σ)

/-- Run alone: the `n`-th call is made when the outside world offers `env n`. -/
def run : Program C R α → (ℕ → E) → σ → α × σ
  | .ret a, _, s => (a, s)
  | .call c k, env, s =>
    (k (exec c (env 0) s).1).run (fun n ↦ env (n + 1)) (exec c (env 0) s).2

@[simp] theorem run_ret (a : α) (env : ℕ → E) (s : σ) : (ret a).run exec env s = (a, s) := rfl

@[simp] theorem run_call (c : C) (k : R c → Program C R α) (env : ℕ → E) (s : σ) :
    (call c k).run exec env s =
      (k (exec c (env 0) s).1).run exec (fun n ↦ env (n + 1)) (exec c (env 0) s).2 := rfl

theorem run_map (g : α → β) (p : Program C R α) (env : ℕ → E) (s : σ) :
    (g <$> p).run exec env s = (g (p.run exec env s).1, (p.run exec env s).2) := by
  induction p generalizing env s with
  | ret a => rfl
  | call c k ih => exact ih _ _ _

/-- The calls that are made on the way. -/
def calls : Program C R α → (ℕ → E) → σ → List C
  | .ret _, _, _ => []
  | .call c k, env, s =>
    c :: (k (exec c (env 0) s).1).calls (fun n ↦ env (n + 1)) (exec c (env 0) s).2

/-- Whatever the outside world offers, as long as each offer is one of `ok`,
the program ends with a value and a state related by `Q`. -/
def wp (ok : E → Prop) (Q : α → σ → Prop) : Program C R α → σ → Prop
  | .ret a, s => Q a s
  | .call c k, s => ∀ e, ok e → (k (exec c e s).1).wp ok Q (exec c e s).2

variable {exec} {ok : E → Prop} {Q : α → σ → Prop}

@[simp] theorem wp_ret (a : α) (s : σ) : (ret a).wp exec ok Q s ↔ Q a s := Iff.rfl

@[simp] theorem wp_call (c : C) (k : R c → Program C R α) (s : σ) :
    (call c k).wp exec ok Q s ↔
      ∀ e, ok e → (k (exec c e s).1).wp exec ok Q (exec c e s).2 := Iff.rfl

/-- The rule of a call: what is known of its reply and of the state after it. -/
theorem wp_of_call {c : C} {k : R c → Program C R α} {s : σ} (P : R c → σ → Prop)
    (h : ∀ e, ok e → P (exec c e s).1 (exec c e s).2)
    (hk : ∀ r t, P r t → (k r).wp exec ok Q t) : (call c k).wp exec ok Q s :=
  fun e he ↦ hk _ _ (h e he)

theorem wp_bind (p : Program C R α) (f : α → Program C R β) {Q : β → σ → Prop} (s : σ) :
    (p >>= f).wp exec ok Q s ↔ p.wp exec ok (fun a t ↦ (f a).wp exec ok Q t) s := by
  induction p generalizing s with
  | ret a => rfl
  | call c k ih => exact forall₂_congr fun e _ ↦ ih _ _

theorem wp_map (g : α → β) (p : Program C R α) {Q : β → σ → Prop} (s : σ) :
    (g <$> p).wp exec ok Q s ↔ p.wp exec ok (fun a t ↦ Q (g a) t) s := by
  induction p generalizing s with
  | ret a => rfl
  | call c k ih => exact forall₂_congr fun e _ ↦ ih _ _

theorem wp_mono {Q' : α → σ → Prop} {p : Program C R α} {s : σ} (h : p.wp exec ok Q s)
    (hQ : ∀ a t, Q a t → Q' a t) : p.wp exec ok Q' s := by
  induction p generalizing s with
  | ret a => exact hQ a s h
  | call c k ih => exact fun e he ↦ ih _ (h e he)

theorem run_of_wp {p : Program C R α} {s : σ} (h : p.wp exec ok Q s)
    (env : ℕ → E) (he : ∀ n, ok (env n)) : Q (p.run exec env s).1 (p.run exec env s).2 := by
  induction p generalizing s env with
  | ret a => exact h
  | call c k ih => exact ih _ (h (env 0) (he 0)) _ (fun n ↦ he (n + 1))

variable (exec) in
/-- One program after the other: the second goes on where the first has stopped listening, and the
first has been offered nothing but what came before. -/
theorem run_bind_within (p : Program C R α) (f : α → Program C R β) (env : ℕ → E) (s : σ) :
    ∃ m, (p >>= f).run exec env s =
        (f (p.run exec env s).1).run exec (fun n ↦ env (n + m)) (p.run exec env s).2 ∧
      ∀ (ok : E → Prop) (Q : α → σ → Prop), p.wp exec ok Q s → (∀ n < m, ok (env n)) →
        Q (p.run exec env s).1 (p.run exec env s).2 := by
  induction p generalizing env s with
  | ret a => exact ⟨0, rfl, fun ok Q h _ ↦ h⟩
  | call c k ih =>
    obtain ⟨m, hrun, hwithin⟩ := ih (exec c (env 0) s).1 (fun n ↦ env (n + 1)) (exec c (env 0) s).2
    refine ⟨m + 1, hrun, fun ok Q h hok ↦ ?_⟩
    exact hwithin ok Q (h (env 0) (hok 0 m.succ_pos)) fun n hn ↦ hok (n + 1) (by omega)

variable (exec) in
theorem run_bind (p : Program C R α) (f : α → Program C R β) (env : ℕ → E) (s : σ) :
    ∃ m, (p >>= f).run exec env s =
      (f (p.run exec env s).1).run exec (fun n ↦ env (n + m)) (p.run exec env s).2 := by
  obtain ⟨m, hrun, -⟩ := run_bind_within exec p f env s
  exact ⟨m, hrun⟩

theorem wp_and {Q' : α → σ → Prop} {p : Program C R α} {s : σ} (h : p.wp exec ok Q s)
    (h' : p.wp exec ok Q' s) : p.wp exec ok (fun a t ↦ Q a t ∧ Q' a t) s := by
  induction p generalizing s with
  | ret a => exact ⟨h, h'⟩
  | call c k ih => exact fun e he ↦ ih _ (h e he) (h' e he)

/-- The dual: the outside world can offer, out of `ok`, what makes the program end
with a value and a state related by `Q`. -/
def can (exec : (c : C) → E → σ → R c × σ) (ok : E → Prop) (Q : α → σ → Prop) :
    Program C R α → σ → Prop
  | .ret a, s => Q a s
  | .call c k, s => ∃ e, ok e ∧ (k (exec c e s).1).can exec ok Q (exec c e s).2

theorem can_bind (p : Program C R α) (f : α → Program C R β) {Q : β → σ → Prop} (s : σ) :
    (p >>= f).can exec ok Q s ↔ p.can exec ok (fun a t ↦ (f a).can exec ok Q t) s := by
  induction p generalizing s with
  | ret a => rfl
  | call c k ih => exact exists_congr fun e ↦ and_congr_right fun _ ↦ ih _ _

theorem can_mono {Q' : α → σ → Prop} {p : Program C R α} {s : σ} (h : p.can exec ok Q s)
    (hQ : ∀ a t, Q a t → Q' a t) : p.can exec ok Q' s := by
  induction p generalizing s with
  | ret a => exact hQ a s h
  | call c k ih =>
    obtain ⟨e, he, hk⟩ := h
    exact ⟨e, he, ih _ hk⟩

/-- What is sure to come about if the outside world goes on in one way. -/
theorem can_of_wp {ok' : E → Prop} {p : Program C R α} {s : σ} (h : p.wp exec ok' Q s) {e : E}
    (he' : ok' e) (he : ok e) : p.can exec ok Q s := by
  induction p generalizing s with
  | ret a => exact h
  | call c k ih => exact ⟨e, he, ih _ (h e he')⟩

theorem run_of_can {p : Program C R α} {s : σ} (h : p.can exec ok Q s) {e : E} (he : ok e) :
    ∃ env : ℕ → E, (∀ n, ok (env n)) ∧ Q (p.run exec env s).1 (p.run exec env s).2 := by
  induction p generalizing s with
  | ret a => exact ⟨fun _ ↦ e, fun _ ↦ he, h⟩
  | call c k ih =>
    obtain ⟨e₀, he₀, hk⟩ := h
    obtain ⟨env, henv, hQ⟩ := ih _ hk
    refine ⟨fun n ↦ Nat.casesOn n e₀ env, fun n ↦ ?_, ?_⟩
    · cases n with
      | zero => exact he₀
      | succ n => exact henv n
    · exact hQ

/-- Each call satisfies `P`, whatever the outside world offers. -/
def Makes (exec : (c : C) → E → σ → R c × σ) (P : C → Prop) (p : Program C R α) (s : σ) : Prop :=
  ∀ env, ∀ c ∈ p.calls exec env s, P c

theorem makes_ret (P : C → Prop) (a : α) (s : σ) : (ret a).Makes exec P s := by
  intro env c hc
  cases hc

theorem makes_call {P : C → Prop} {c : C} {k : R c → Program C R α} {s : σ} (hc : P c)
    (hk : ∀ e, (k (exec c e s).1).Makes exec P (exec c e s).2) : (call c k).Makes exec P s := by
  intro env d hd
  rcases List.mem_cons.mp hd with rfl | hd
  · exact hc
  · exact hk _ _ d hd

theorem makes_bind {P : C → Prop} {p : Program C R α} {f : α → Program C R β} {s : σ}
    (hp : p.Makes exec P s)
    (hf : p.wp exec (fun _ ↦ True) (fun a t ↦ (f a).Makes exec P t) s) :
    (p >>= f).Makes exec P s := by
  intro env d hd
  induction p generalizing s env with
  | ret a => exact hf env d hd
  | call c k ih =>
    rcases List.mem_cons.mp hd with rfl | hd
    · exact hp env _ List.mem_cons_self
    · refine ih _ (fun env' d hd ↦ ?_) (hf (env 0) trivial) _ hd
      exact hp (fun n ↦ Nat.casesOn n (env 0) env') d (List.mem_cons_of_mem _ hd)

/-- What every call keeps, a program keeps. -/
theorem wp_keeps {I : σ → Prop} (hI : ∀ c e s, I s → I (exec c e s).2) (p : Program C R α)
    {s : σ} (hs : I s) : p.wp exec ok (fun _ t ↦ I t) s := by
  induction p generalizing s with
  | ret a => exact hs
  | call c k ih => exact fun e _ ↦ ih _ (hI c e s hs)

theorem run_keeps {I : σ → Prop} (hI : ∀ c e s, I s → I (exec c e s).2) (p : Program C R α)
    (env : ℕ → E) {s : σ} (hs : I s) : I (p.run exec env s).2 :=
  run_of_wp (wp_keeps hI p hs : p.wp exec (fun _ ↦ True) _ s) env fun _ ↦ trivial

/-- The loop rule: `I xs` holds of the state while `xs` is still to be visited. -/
theorem wp_forM (I : List β → σ → Prop) {xs : List β} {f : β → Program C R PUnit}
    (hf : ∀ x xs s, I (x :: xs) s → (f x).wp exec ok (fun _ t ↦ I xs t) s) {s : σ} (hs : I xs s) :
    (xs.forM f).wp exec ok (fun _ t ↦ I [] t) s := by
  induction xs generalizing s with
  | nil => exact hs
  | cons x xs ih => exact (wp_bind _ _ _).mpr (wp_mono (hf x xs s hs) fun _ _ h ↦ ih h)

/-- Two ways to carry out calls that agree on what the outside world may offer. -/
theorem wp_congr {exec' : (c : C) → E → σ → R c × σ}
    (h : ∀ c e s, ok e → exec c e s = exec' c e s) {p : Program C R α} {s : σ}
    (hp : p.wp exec ok Q s) : p.wp exec' ok Q s := by
  induction p generalizing s with
  | ret a => exact hp
  | call c k ih =>
    intro e he
    rw [← h c e s he]
    exact ih _ (hp e he)

end Running

/-- Whatever the replies, the program makes only calls that satisfy `P`. -/
def Only (P : C → Prop) : Program C R α → Prop
  | .ret _ => True
  | .call c k => P c ∧ ∀ r, (k r).Only P

section Frame

variable {P : C → Prop}

@[simp] theorem only_ret (a : α) : Only (R := R) P (.ret a) := trivial

@[simp] theorem only_call (c : C) (k : R c → Program C R α) :
    Only P (.call c k) ↔ P c ∧ ∀ r, (k r).Only P := Iff.rfl

theorem Only.bind {p : Program C R α} {f : α → Program C R β} (hp : p.Only P)
    (hf : ∀ a, (f a).Only P) : (p >>= f).Only P := by
  induction p with
  | ret a => exact hf a
  | call c k ih => exact ⟨hp.1, fun r ↦ ih r (hp.2 r)⟩

theorem Only.mono {P' : C → Prop} {p : Program C R α} (hp : p.Only P) (h : ∀ c, P c → P' c) :
    p.Only P' := by
  induction p with
  | ret a => trivial
  | call c k ih => exact ⟨h c hp.1, fun r ↦ ih r (hp.2 r)⟩

theorem Only.forM {xs : List β} {f : β → Program C R PUnit} (hf : ∀ x ∈ xs, (f x).Only P) :
    (xs.forM f).Only P := by
  induction xs with
  | nil => trivial
  | cons x xs ih =>
    exact (hf x (by simp)).bind fun _ ↦ ih fun y hy ↦ hf y (by simp [hy])

/-- The frame rule: what each of these calls keeps, the program keeps. -/
theorem Only.wp {exec : (c : C) → E → σ → R c × σ} {ok : E → Prop} {I : σ → Prop}
    (hI : ∀ c e s, P c → ok e → I s → I (exec c e s).2) {p : Program C R α} (hp : p.Only P)
    {s : σ} (hs : I s) : p.wp exec ok (fun _ t ↦ I t) s := by
  induction p generalizing s with
  | ret a => exact hs
  | call c k ih => exact fun e he ↦ ih _ (hp.2 _) (hI c e s hp.1 he hs)

theorem Only.makes {exec : (c : C) → E → σ → R c × σ} {p : Program C R α} (hp : p.Only P) (s : σ) :
    p.Makes exec P s := by
  induction p generalizing s with
  | ret a => exact makes_ret P a s
  | call c k ih => exact makes_call hp.1 fun e ↦ ih _ (hp.2 _) _

end Frame

/-- What the outside world offers to each call is admitted by `G` in the state the call finds. -/
def Meets (exec : (c : C) → E → σ → R c × σ) (G : C → E → σ → Prop) :
    Program C R α → (ℕ → E) → σ → Prop
  | .ret _, _, _ => True
  | .call c k, env, s => G c (env 0) s ∧
    (k (exec c (env 0) s).1).Meets exec G (fun n ↦ env (n + 1)) (exec c (env 0) s).2

/-- `G` decides whether the program ends as `Q` wants it. -/
def Decides (exec : (c : C) → E → σ → R c × σ) (G : C → E → σ → Prop) (Q : α → σ → Prop)
    (p : Program C R α) (s : σ) : Prop :=
  ∀ env : ℕ → E, Q (p.run exec env s).1 (p.run exec env s).2 ↔ p.Meets exec G env s

section Decides

variable {exec : (c : C) → E → σ → R c × σ} {Q : α → σ → Prop} {G : C → E → σ → Prop}

theorem decides_ret {a : α} {s : σ} (h : Q a s) : (ret a).Decides exec G Q s :=
  fun _ ↦ iff_of_true h trivial

/-- What is not admitted is never made good. -/
theorem decides_call {c : C} {k : R c → Program C R α} {s : σ}
    (h : ∀ e, G c e s → (k (exec c e s).1).Decides exec G Q (exec c e s).2)
    (hnot : ∀ e, ¬G c e s → ∀ env, ¬Q ((k (exec c e s).1).run exec env (exec c e s).2).1
      ((k (exec c e s).1).run exec env (exec c e s).2).2) : (call c k).Decides exec G Q s := by
  intro env
  by_cases hG : G c (env 0) s
  · exact (h _ hG _).trans (and_iff_right hG).symm
  · exact iff_of_false (hnot _ hG _) fun hmeets ↦ hG hmeets.1

/-- Calls that are always admitted and change nothing. -/
theorem Only.decides {P : C → Prop} {p : Program C R α} {f : α → Program C R β}
    {Q : β → σ → Prop} {s : σ} (hp : p.Only P) (hP : ∀ c e, P c → G c e s ∧ (exec c e s).2 = s)
    (hf : ∀ a, (f a).Decides exec G Q s) : (p >>= f).Decides exec G Q s := by
  induction p with
  | ret a => exact hf a
  | call c k ih =>
    refine decides_call (fun e _ ↦ ?_) fun e hG ↦ absurd (hP c e hp.1).1 hG
    rw [(hP c e hp.1).2]
    exact ih _ (hp.2 _)

theorem decides_map (g : α → β) {p : Program C R α} {Q : β → σ → Prop} {s : σ}
    (h : p.Decides exec G (fun a t ↦ Q (g a) t) s) : (g <$> p).Decides exec G Q s := by
  intro env
  have hmeets : ((g <$> p).Meets exec G env s ↔ p.Meets exec G env s) := by
    clear h
    induction p generalizing env s with
    | ret a => rfl
    | call c k ih => exact and_congr_right fun _ ↦ ih _ _
  rw [run_map, hmeets]
  exact h env

end Decides

end Program

/-- An observer of the calls of one program: which call it lets through after
what it has seen, and what it has seen after a reply. -/
structure Monitor (C : Type) (R : C → Type) (M : Type) where
  allows : M → C → Prop
  next : M → (c : C) → R c → M

namespace Program

variable {C : Type} {R : C → Type} {α β M : Type} (mon : Monitor C R M)

/-- Whatever the replies, the observer lets every call through and ends in a
mark that `Q` relates to the result. -/
def Follows (Q : M → α → Prop) : M → Program C R α → Prop
  | m, .ret a => Q m a
  | m, .call c k => mon.allows m c ∧ ∀ r, (k r).Follows Q (mon.next m c r)

variable {mon} {Q : M → α → Prop}

@[simp] theorem follows_ret (m : M) (a : α) :
    Follows (R := R) mon Q m (.ret a) ↔ Q m a := Iff.rfl

@[simp] theorem follows_call (m : M) (c : C) (k : R c → Program C R α) :
    Follows mon Q m (.call c k) ↔ mon.allows m c ∧ ∀ r, (k r).Follows mon Q (mon.next m c r) :=
  Iff.rfl

theorem Follows.mono {Q' : M → α → Prop} {p : Program C R α} {m : M}
    (h : p.Follows mon Q m) (hQ : ∀ m a, Q m a → Q' m a) : p.Follows mon Q' m := by
  induction p generalizing m with
  | ret a => exact hQ m a h
  | call c k ih => exact ⟨h.1, fun r ↦ ih r (h.2 r)⟩

theorem Follows.bind {Q' : M → α → Prop} {Q : M → β → Prop} {p : Program C R α}
    {f : α → Program C R β} {m : M} (hp : p.Follows mon Q' m)
    (hf : ∀ m a, Q' m a → (f a).Follows mon Q m) : (p >>= f).Follows mon Q m := by
  induction p generalizing m with
  | ret a => exact hf m a hp
  | call c k ih => exact ⟨hp.1, fun r ↦ ih r (hp.2 r)⟩

/-- The loop rule: `I xs` holds of the mark while `xs` is still to be visited. -/
theorem Follows.forM (I : List β → M → Prop) {xs : List β} {f : β → Program C R PUnit}
    (hf : ∀ x xs m, I (x :: xs) m → (f x).Follows mon (fun m _ ↦ I xs m) m) {m : M} (hm : I xs m) :
    (xs.forM f).Follows mon (fun m _ ↦ I [] m) m := by
  induction xs generalizing m with
  | nil => exact hm
  | cons x xs ih => exact (hf x xs m hm).bind fun m _ h ↦ ih h

/-- The frame rule for an observer: what it keeps in mind through each of these
calls, it keeps in mind through the program. -/
theorem Only.follows {P : C → Prop} {I : M → Prop} {p : Program C R α} (hp : p.Only P)
    (hI : ∀ m c, I m → P c → mon.allows m c ∧ ∀ r, I (mon.next m c r)) {m : M} (hm : I m) :
    p.Follows mon (fun m _ ↦ I m) m := by
  induction p generalizing m with
  | ret a => exact hm
  | call c k ih => exact ⟨(hI m c hm hp.1).1, fun r ↦ ih r (hp.2 r) ((hI m c hm hp.1).2 r)⟩

@[simp] theorem follows_map (g : α → β) (p : Program C R α) {Q : M → β → Prop} (m : M) :
    (g <$> p).Follows mon Q m ↔ p.Follows mon (fun m a ↦ Q m (g a)) m := by
  induction p generalizing m with
  | ret a => rfl
  | call c k ih => exact and_congr_right fun _ ↦ forall_congr' fun r ↦ ih r _

section Lift

variable {C C' : Type} {R : C → Type} {R' : C' → Type} {α β : Type}

/-- A program among others: its calls are some of theirs. -/
def lift (f : C → C') (g : ∀ c, R' (f c) → R c) : Program C R α → Program C' R' α
  | .ret a => .ret a
  | .call c k => .call (f c) fun r ↦ (k (g c r)).lift f g

variable {f : C → C'} {g : ∀ c, R' (f c) → R c}

@[simp] theorem lift_ret (a : α) : (ret a : Program C R α).lift f g = ret a := rfl

@[simp] theorem lift_call (c : C) (k : R c → Program C R α) :
    (call c k).lift f g = call (f c) fun r ↦ (k (g c r)).lift f g := rfl

theorem Only.lift {P : C → Prop} {P' : C' → Prop} {p : Program C R α} (hp : p.Only P)
    (h : ∀ c, P c → P' (f c)) : (p.lift f g).Only P' := by
  induction p with
  | ret a => trivial
  | call c k ih => exact ⟨h c hp.1, fun r ↦ ih _ (hp.2 _)⟩

/-- The rule for a program among others. The larger state keeps that of the smaller in a part of
its own: `get` reads this part and `put` replaces it. -/
theorem wp_lift {E E' σ σ' : Type} {exec : (c : C) → E → σ → R c × σ}
    {exec' : (c : C') → E' → σ' → R' c × σ'} {ok : E → Prop} {ok' : E' → Prop} (offer : E' → E)
    (get : σ' → σ) (put : σ → σ' → σ') {Q : α → σ → Prop} (hok : ∀ e, ok' e → ok (offer e))
    (hreply : ∀ c e s, g c (exec' (f c) e s).1 = (exec c (offer e) (get s)).1)
    (hstate : ∀ c e s, (exec' (f c) e s).2 = put (exec c (offer e) (get s)).2 s)
    (hget : ∀ x s, get (put x s) = x) (hput : ∀ x y s, put x (put y s) = put x s)
    (hself : ∀ s, put (get s) s = s) {p : Program C R α} {s : σ'}
    (h : p.wp exec ok Q (get s)) :
    (p.lift f g).wp exec' ok' (fun a s' ↦ Q a (get s') ∧ s' = put (get s') s) s := by
  induction p generalizing s with
  | ret a => exact ⟨h, (hself s).symm⟩
  | call c k ih =>
    intro e he
    have hnext := h (offer e) (hok e he)
    rw [← hreply, ← hget (exec c (offer e) (get s)).2 s, ← hstate] at hnext
    refine wp_mono (ih _ hnext) fun a s' hs' ↦ ⟨hs'.1, ?_⟩
    rw [hs'.2, hstate, hput, hget]

end Lift

end Program

end Rosmon.Library
