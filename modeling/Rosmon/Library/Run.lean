import Mathlib.Data.List.Basic

namespace Rosmon.Library.Run

variable {σ A : Type} (step : σ → A → σ)

/-- The states a run passes through, the first and the last included. -/
def states : σ → List A → List σ
  | s, [] => [s]
  | s, a :: as => s :: states (step s a) as

/-- Every step is taken in a state that satisfies its guard. -/
def Guarded (guard : σ → A → Prop) : σ → List A → Prop
  | _, [] => True
  | s, a :: as => guard s a ∧ Guarded guard (step s a) as

instance decidableGuarded (guard : σ → A → Prop) [∀ s a, Decidable (guard s a)] :
    ∀ (s : σ) (as : List A), Decidable (Guarded step guard s as)
  | _, [] => inferInstanceAs (Decidable True)
  | s, a :: as =>
    have := decidableGuarded guard (step s a) as
    inferInstanceAs (Decidable (_ ∧ _))

variable {step} {guard : σ → A → Prop} {I : σ → Prop} {r : σ → σ → Prop}

/-- What every guarded step keeps holds in every state of a guarded run. -/
theorem invariant_of {ok : A → Prop} (hI : ∀ s a, ok a → I s → guard s a → I (step s a)) {s : σ}
    {as : List A} (hok : ∀ a ∈ as, ok a) (hs : I s) (hg : Guarded step guard s as) :
    ∀ t ∈ states step s as, I t := by
  induction as generalizing s with
  | nil => simpa [states] using hs
  | cons a as ih =>
    intro t ht
    rcases List.mem_cons.mp ht with rfl | ht
    · exact hs
    · have hnext := hI s a (hok a List.mem_cons_self) hs hg.1
      exact ih (fun b hb ↦ hok b (List.mem_cons_of_mem _ hb)) hnext hg.2 t ht

theorem invariant (hI : ∀ s a, I s → guard s a → I (step s a)) {s : σ} {as : List A}
    (hs : I s) (hg : Guarded step guard s as) : ∀ t ∈ states step s as, I t :=
  invariant_of (fun s a _ ↦ hI s a) (fun _ _ ↦ trivial) hs hg

theorem guarded_true (s : σ) (as : List A) : Guarded step (fun _ _ ↦ True) s as := by
  induction as generalizing s with
  | nil => trivial
  | cons a as ih => exact ⟨trivial, ih _⟩

/-- What every step keeps holds in every state of a run. -/
theorem always (hI : ∀ s a, I s → I (step s a)) {s : σ} {as : List A} (hs : I s) :
    ∀ t ∈ states step s as, I t :=
  invariant (fun s a h _ ↦ hI s a h) hs (guarded_true s as)

/-- An invariant turns one guard into another. -/
theorem guarded_imp {guard' : σ → A → Prop} (hI : ∀ s a, I s → guard s a → I (step s a))
    (h : ∀ s a, I s → guard s a → guard' s a) {s : σ} {as : List A} (hs : I s)
    (hg : Guarded step guard s as) : Guarded step guard' s as := by
  induction as generalizing s with
  | nil => trivial
  | cons a as ih => exact ⟨h s a hs hg.1, ih (hI s a hs hg.1) hg.2⟩

theorem guarded_mono {guard' : σ → A → Prop} (h : ∀ s a, guard s a → guard' s a) {s : σ}
    {as : List A} (hg : Guarded step guard s as) : Guarded step guard' s as :=
  guarded_imp (I := fun _ ↦ True) (fun _ _ _ _ ↦ trivial) (fun s a _ ↦ h s a) trivial hg

theorem guarded_append {s : σ} {as bs : List A} : Guarded step guard s (as ++ bs) ↔
    Guarded step guard s as ∧ Guarded step guard (as.foldl step s) bs := by
  induction as generalizing s with
  | nil => exact (and_iff_right trivial).symm
  | cons a as ih =>
    rw [List.cons_append, Guarded, Guarded, ih, and_assoc]
    rfl

theorem mem_states_self (s : σ) (as : List A) : s ∈ states step s as := by
  cases as <;> exact List.mem_cons_self

theorem foldl_mem_states (s : σ) (as : List A) : as.foldl step s ∈ states step s as := by
  induction as generalizing s with
  | nil => exact mem_states_self s []
  | cons a as ih => exact List.mem_cons_of_mem _ (ih (step s a))

/-- The converse rule: a guard that is necessary for the invariant to survive one
step is met all along a run that keeps the invariant. -/
theorem guarded_of_states {ok : A → Prop} (h : ∀ s a, ok a → I (step s a) → guard s a) {s : σ}
    {as : List A} (hok : ∀ a ∈ as, ok a) (hI : ∀ t ∈ states step s as, I t) :
    Guarded step guard s as := by
  induction as generalizing s with
  | nil => trivial
  | cons a as ih =>
    have hnext : I (step s a) := hI _ (List.mem_cons_of_mem _ (mem_states_self _ _))
    exact ⟨h s a (hok a List.mem_cons_self) hnext,
      ih (fun b hb ↦ hok b (List.mem_cons_of_mem _ hb))
        fun t ht ↦ hI t (List.mem_cons_of_mem _ ht)⟩

/-- A guard that decides, step by step, whether `I` survives decides it for whole runs.
What every step keeps may be relied on. -/
theorem states_iff_guarded {J : σ → Prop} {ok : A → Prop}
    (hJ : ∀ s a, ok a → J s → J (step s a))
    (hI : ∀ s a, ok a → J s → I s → (I (step s a) ↔ guard s a)) {s : σ} {as : List A}
    (hok : ∀ a ∈ as, ok a) (hs : J s) (hIs : I s) :
    (∀ t ∈ states step s as, I t) ↔ Guarded step guard s as := by
  induction as generalizing s with
  | nil => simp [states, Guarded, hIs]
  | cons a as ih =>
    have ha : ok a := hok a List.mem_cons_self
    have hrest : ∀ b ∈ as, ok b := fun b hb ↦ hok b (List.mem_cons_of_mem _ hb)
    have hstep := hI s a ha hs hIs
    constructor
    · intro h
      have hnext : I (step s a) := h _ (List.mem_cons_of_mem _ (mem_states_self _ _))
      exact ⟨hstep.mp hnext, (ih hrest (hJ s a ha hs) hnext).mp
        fun t ht ↦ h t (List.mem_cons_of_mem _ ht)⟩
    · intro h t ht
      rcases List.mem_cons.mp ht with rfl | ht
      · exact hIs
      · exact (ih hrest (hJ s a ha hs) (hstep.mpr h.1)).mpr h.2 t ht

/-- Where no step mends what it finds broken, the last state tells of the whole run. -/
theorem foldl_iff_guarded {J : σ → Prop} (hJ : ∀ s a, J s → J (step s a))
    (hI : ∀ s a, J s → (I (step s a) ↔ I s ∧ guard s a)) {s : σ} {as : List A} (hs : J s) :
    I (as.foldl step s) ↔ I s ∧ Guarded step guard s as := by
  induction as generalizing s with
  | nil => exact (and_iff_left trivial).symm
  | cons a as ih => rw [List.foldl_cons, ih (hJ s a hs), hI s a hs, and_assoc, Guarded]

/-- A preorder that every guarded step respects relates each state of a guarded
run to all the later ones. -/
theorem pairwise (hrefl : ∀ s, r s s) (htrans : ∀ s t u, r s t → r t u → r s u)
    (hr : ∀ s a, guard s a → r s (step s a)) {s : σ} {as : List A}
    (hg : Guarded step guard s as) :
    (∀ t ∈ states step s as, r s t) ∧ (states step s as).Pairwise r := by
  induction as generalizing s with
  | nil => simp [states, hrefl]
  | cons a as ih =>
    obtain ⟨hall, hpair⟩ := ih hg.2
    have hs : ∀ t ∈ states step (step s a) as, r s t :=
      fun t ht ↦ htrans _ _ _ (hr s a hg.1) (hall t ht)
    refine ⟨fun t ht ↦ ?_, List.pairwise_cons.mpr ⟨hs, hpair⟩⟩
    rcases List.mem_cons.mp ht with rfl | ht
    · exact hrefl t
    · exact hs t ht

/-- The state after the first `n` of a sequence of steps. -/
def after (steps : ℕ → σ → σ) : ℕ → σ → σ
  | 0, s => s
  | n + 1, s => steps n (after steps n s)

theorem after_keeps {steps : ℕ → σ → σ} {J : σ → Prop} (hJ : ∀ n s, J s → J (steps n s)) {s : σ}
    (hs : J s) (n : ℕ) : J (after steps n s) := by
  induction n with
  | zero => exact hs
  | succ n ih => exact hJ n _ ih

/-- A measure that falls as long as it is not zero reaches zero. -/
theorem exists_after_zero {steps : ℕ → σ → σ} {J : σ → Prop} {μ : σ → ℕ}
    (hJ : ∀ n s, J s → J (steps n s)) (hμ : ∀ n s, J s → μ s ≠ 0 → μ (steps n s) < μ s) {s : σ}
    (hs : J s) : ∃ n, μ (after steps n s) = 0 := by
  by_contra hnever
  rw [not_exists] at hnever
  have hfalls : ∀ n, μ (after steps n s) + n ≤ μ s := by
    intro n
    induction n with
    | zero => exact Nat.le_refl _
    | succ n ih =>
      have hlt := hμ n _ (after_keeps hJ hs n) (hnever n)
      have hnext : μ (after steps (n + 1) s) < μ (after steps n s) := hlt
      omega
  have := hfalls (μ s + 1)
  omega

end Rosmon.Library.Run
