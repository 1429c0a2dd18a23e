import Rosmon.Library.Program

namespace Rosmon.Library.Program

variable {C : Type} {R : C → Type} {α β E σ : Type}

/-- A call that fails is the last one, and the program returns a value that tells so. -/
def Stops (fails : (c : C) → R c → Prop) (stopped : α → Prop) : Program C R α → Prop
  | .ret _ => True
  | .call c k => ∀ r, (fails c r → ∃ a, k r = .ret a ∧ stopped a) ∧ (k r).Stops fails stopped

/-- The state that the `n`-th call finds. -/
def before (exec : (c : C) → E → σ → R c × σ) : Program C R α → ℕ → (ℕ → E) → σ → σ
  | .ret _, _, _, s => s
  | .call _ _, 0, _, s => s
  | .call c k, n + 1, env, s =>
    (k (exec c (env 0) s).1).before exec n (fun n ↦ env (n + 1)) (exec c (env 0) s).2

section Stopping

variable {fails : (c : C) → R c → Prop} {stopped : α → Prop} {stopped' : β → Prop}
  {exec : (c : C) → E → σ → R c × σ}

theorem stops_perform (c : C) : (perform c).Stops fails (fails c) :=
  fun r ↦ ⟨fun h ↦ ⟨r, rfl, h⟩, trivial⟩

theorem Stops.bind {p : Program C R α} {f : α → Program C R β} (hp : p.Stops fails stopped)
    (hf : ∀ a, stopped a → ∃ b, f a = .ret b ∧ stopped' b) (hs : ∀ a, (f a).Stops fails stopped') :
    (p >>= f).Stops fails stopped' := by
  induction p with
  | ret a => exact hs a
  | call c k ih =>
    intro r
    refine ⟨fun hr ↦ ?_, ih r (hp r).2⟩
    obtain ⟨a, ha, hstopped⟩ := (hp r).1 hr
    obtain ⟨b, hb, hstopped'⟩ := hf a hstopped
    refine ⟨b, ?_, hstopped'⟩
    change k r >>= f = .ret b
    rw [ha, ret_bind, hb]

/-- A call that fails without an effect leaves the state that it has found. -/
theorem Stops.run {p : Program C R α} (hp : p.Stops fails stopped) {e : E}
    (he : ∀ c s, fails c (exec c e s).1 ∧ (exec c e s).2 = s) {n : ℕ} {env : ℕ → E} {s : σ}
    (hn : n < (p.calls exec env s).length) :
    stopped (p.run exec (Function.update env n e) s).1 ∧
      (p.run exec (Function.update env n e) s).2 = p.before exec n env s := by
  induction p generalizing n env s with
  | ret a => cases hn
  | call c k ih =>
    cases n with
    | zero =>
      obtain ⟨hfails, hstate⟩ := he c s
      obtain ⟨a, ha, hstopped⟩ := (hp _).1 hfails
      rw [run_call, Function.update_self, ha, run_ret, hstate]
      exact ⟨hstopped, rfl⟩
    | succ n =>
      have hzero : Function.update env (n + 1) e 0 = env 0 :=
        Function.update_of_ne (Nat.succ_ne_zero n).symm _ _
      have htail : (fun m ↦ Function.update env (n + 1) e (m + 1)) =
          Function.update (fun m ↦ env (m + 1)) n e := by
        funext m
        by_cases hm : m = n
        · rw [hm, Function.update_self, Function.update_self]
        · rw [Function.update_of_ne hm, Function.update_of_ne (by omega)]
      rw [run_call, hzero, htail]
      exact ih _ (hp _).2 (Nat.lt_of_succ_lt_succ hn)

end Stopping

section Before

variable {exec : (c : C) → E → σ → R c × σ} {I : σ → Prop} {ok : E → Prop} {n : ℕ} {env : ℕ → E}
  {s : σ}

/-- What all the calls made so far keep. -/
theorem before_keeps {p : Program C R α}
    (hI : ∀ c ∈ (p.calls exec env s).take n, ∀ e t, I t → I (exec c e t).2) (hs : I s) :
    I (p.before exec n env s) := by
  induction p generalizing n env s with
  | ret a => exact hs
  | call c k ih =>
    cases n with
    | zero => exact hs
    | succ n =>
      exact ih _ (fun d hd ↦ hI d (List.mem_cons_of_mem c hd))
        (hI c List.mem_cons_self (env 0) s hs)

variable (ok) in
/-- What one of the calls made so far brings about, and all of them keep. -/
theorem before_reaches {p : Program C R α} (hok : ∀ m, ok (env m)) {c : C}
    (hc : c ∈ (p.calls exec env s).take n) (hreach : ∀ e t, ok e → I (exec c e t).2)
    (hI : ∀ d ∈ p.calls exec env s, ∀ e t, I t → I (exec d e t).2) :
    I (p.before exec n env s) := by
  induction p generalizing n env s with
  | ret a => simp [calls] at hc
  | call d k ih =>
    cases n with
    | zero => simp at hc
    | succ n =>
      rw [before]
      obtain rfl | hc := List.mem_cons.mp hc
      · refine before_keeps (fun b hb ↦ ?_) (hreach (env 0) s (hok 0))
        exact hI b (List.mem_cons_of_mem _ (List.mem_of_mem_take hb))
      · exact ih _ (fun m ↦ hok (m + 1)) hc fun b hb ↦ hI b (List.mem_cons_of_mem d hb)

end Before

end Rosmon.Library.Program
