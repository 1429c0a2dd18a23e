import Rosmon.Library.Program

namespace Rosmon.Library.Program

variable {C : Type} {R : C → Type} {α β γ δ E σ : Type}
variable (exec : (c : C) → E → σ → R c × σ) (ok : E → Prop)

/-- Two programs side by side, call by call, each on its own state. The outside world offers
the same to both, and `Q` relates how they end. -/
def Twin (Q : α → β → σ → σ → Prop) : Program C R α → Program C R β → σ → σ → Prop
  | .ret a, .ret b, s, t => Q a b s t
  | .call c k, .call d l, s, t => ∀ e, ok e →
    (k (exec c e s).1).Twin Q (l (exec d e t).1) (exec c e s).2 (exec d e t).2
  | .ret _, .call _ _, _, _ => False
  | .call _ _, .ret _, _, _ => False

variable {exec ok} {Q : α → β → σ → σ → Prop} {p : Program C R α} {q : Program C R β} {s t : σ}

@[simp] theorem twin_ret (a : α) (b : β) :
    (ret a).Twin exec ok Q (ret b) s t ↔ Q a b s t := Iff.rfl

@[simp] theorem twin_call (c d : C) (k : R c → Program C R α) (l : R d → Program C R β) :
    (call c k).Twin exec ok Q (call d l) s t ↔ ∀ e, ok e →
      (k (exec c e s).1).Twin exec ok Q (l (exec d e t).1) (exec c e s).2 (exec d e t).2 := Iff.rfl

theorem Twin.mono {Q' : α → β → σ → σ → Prop} (h : p.Twin exec ok Q q s t)
    (hQ : ∀ a b s t, Q a b s t → Q' a b s t) : p.Twin exec ok Q' q s t := by
  induction p generalizing q s t with
  | ret a =>
    cases q with
    | ret b => exact hQ _ _ _ _ h
    | call d l => exact h
  | call c k ih =>
    cases q with
    | ret b => exact h
    | call d l => exact fun e he ↦ ih _ (h e he)

theorem Twin.bind {Q' : α → β → σ → σ → Prop} {Q : γ → δ → σ → σ → Prop}
    {f : α → Program C R γ} {g : β → Program C R δ} (h : p.Twin exec ok Q' q s t)
    (hfg : ∀ a b s t, Q' a b s t → (f a).Twin exec ok Q (g b) s t) :
    (p >>= f).Twin exec ok Q (q >>= g) s t := by
  induction p generalizing q s t with
  | ret a =>
    cases q with
    | ret b => exact hfg _ _ _ _ h
    | call d l => exact h.elim
  | call c k ih =>
    cases q with
    | ret b => exact h.elim
    | call d l => exact fun e he ↦ ih _ (h e he)

/-- Two runs under the same offers of the outside world. -/
theorem Twin.run (h : p.Twin exec ok Q q s t) {env : ℕ → E} (henv : ∀ n, ok (env n)) :
    Q (p.run exec env s).1 (q.run exec env t).1 (p.run exec env s).2 (q.run exec env t).2 := by
  induction p generalizing q s t env with
  | ret a =>
    cases q with
    | ret b => exact h
    | call d l => exact h.elim
  | call c k ih =>
    cases q with
    | ret b => exact h.elim
    | call d l => exact ih _ (h (env 0) (henv 0)) fun n ↦ henv (n + 1)

/-- One program on two states that answer each of its calls alike. -/
theorem Only.twin {P : C → Prop} {I : σ → σ → Prop}
    (hI : ∀ c e s t, P c → ok e → I s t →
      (exec c e s).1 = (exec c e t).1 ∧ I (exec c e s).2 (exec c e t).2)
    {p : Program C R α} (hp : p.Only P) (hst : I s t) :
    p.Twin exec ok (fun a b s t ↦ a = b ∧ I s t) p s t := by
  induction p generalizing s t with
  | ret a => exact ⟨rfl, hst⟩
  | call c k ih =>
    intro e he
    obtain ⟨hreply, hnext⟩ := hI c e s t hp.1 he hst
    rw [← hreply]
    exact ih _ (hp.2 _) hnext

/-- Programs whose calls are those of a larger one that keeps the state of the smaller in a part
of its own: `get` reads this part and `put` replaces it. -/
theorem Twin.lift {C' : Type} {R' : C' → Type} {E' σ' : Type} {f : C → C'}
    {g : ∀ c, R' (f c) → R c} {exec' : (c : C') → E' → σ' → R' c × σ'} {ok' : E' → Prop}
    (offer : E' → E) (get : σ' → σ) (put : σ → σ' → σ') (hok : ∀ e, ok' e → ok (offer e))
    (hreply : ∀ c e s, g c (exec' (f c) e s).1 = (exec c (offer e) (get s)).1)
    (hstate : ∀ c e s, (exec' (f c) e s).2 = put (exec c (offer e) (get s)).2 s)
    (hget : ∀ x s, get (put x s) = x) {s t : σ'} (h : p.Twin exec ok Q q (get s) (get t)) :
    (p.lift f g).Twin exec' ok' (fun a b s t ↦ Q a b (get s) (get t)) (q.lift f g) s t := by
  induction p generalizing q s t with
  | ret a =>
    cases q with
    | ret b => exact h
    | call d l => exact h.elim
  | call c k ih =>
    cases q with
    | ret b => exact h.elim
    | call d l =>
      intro e he
      have hnext := h (offer e) (hok e he)
      rw [← hreply, ← hreply, ← hget (exec c (offer e) (get s)).2 s,
        ← hget (exec d (offer e) (get t)).2 t, ← hstate, ← hstate] at hnext
      exact ih _ hnext

end Rosmon.Library.Program
