import Mathlib.Algebra.Group.Nat.Defs
import Rosmon.Store.Stores

namespace Rosmon.Store

/-- `int16(n)`. -/
def int16 (n : ℤ) : ℤ := n.bmod (2 ^ 16)

theorem int16_idem (n : ℤ) : int16 (int16 n) = int16 n := Int.bmod_bmod

theorem int16_of_fits {n : ℤ} (h : -(2 ^ 15) ≤ n ∧ n < 2 ^ 15) : int16 n = n := by
  unfold int16
  rw [Int.bmod_eq_of_le_mul_two] <;> omega

namespace Sequences

/-- The columns a counter is stored under. -/
def storedAs (counter : String × ℤ × ℤ) : String × ℤ × ℤ :=
  (counter.1, int16 counter.2.1, int16 counter.2.2)

theorem storedAs_idem (counter : String × ℤ × ℤ) :
    storedAs (storedAs counter) = storedAs counter := by
  simp only [storedAs, int16_idem]

/-- `NextVal` as a transaction on the table: a counter is looked up by its year and month, and
a new one is stored under what is left of them in `int16` columns. -/
def nextStored (s : Sequences) (counter : String × ℤ × ℤ) : Except Error ℤ × Sequences :=
  match s.lookup counter with
  | none =>
    if (s.lookup (storedAs counter)).isSome then (.error (.duplicateKey "idx_seq_prefix_ym"), s)
    else (.ok 1, (storedAs counter, 1) :: s)
  | some lastValue =>
    (.ok (lastValue + 1), s.map fun c ↦ if c.1 = counter then (counter, lastValue + 1) else c)

/-- Where the columns hold the year and the month, the counter is the one that `nextVal` keeps. -/
theorem nextStored_eq {counter : String × ℤ × ℤ} (h : storedAs counter = counter) (s : Sequences) :
    s.nextStored counter = (.ok (s.nextVal counter).1, (s.nextVal counter).2) := by
  cases hs : s.lookup counter with
  | none => simp [nextStored, nextVal, h, hs]
  | some lastValue => simp [nextStored, nextVal, hs]

/-- The counter never comes to the value again. -/
def Spent (s : Sequences) (counter : String × ℤ × ℤ) (value : ℤ) : Prop :=
  match s.lookup counter with
  | some lastValue => value ≤ lastValue
  | none => (s.lookup (storedAs counter)).isSome

theorem lookup_cons_ite (c : (String × ℤ × ℤ) × ℤ) (s : Sequences) (other : String × ℤ × ℤ) :
    List.lookup other (c :: s) = if other = c.1 then some c.2 else s.lookup other := by
  rw [List.lookup_cons]
  by_cases h : other = c.1
  · rw [if_pos h, beq_iff_eq.mpr h]
  · rw [if_neg h, beq_false_of_ne h]

theorem lookup_advance (s : Sequences) (counter other : String × ℤ × ℤ) (value : ℤ) :
    List.lookup other (s.map fun c ↦ if c.1 = counter then (counter, value) else c) =
      (s.lookup other).map fun lastValue ↦ if other = counter then value else lastValue := by
  induction s with
  | nil => rfl
  | cons c s ih =>
    rw [List.map_cons, lookup_cons_ite, lookup_cons_ite, ih]
    by_cases hc : c.1 = counter <;> by_cases ho : other = c.1
    all_goals simp_all

variable {s : Sequences} {counter : String × ℤ × ℤ} {value : ℤ}

theorem spent_advance {lastValue : ℤ} (hs : s.lookup counter = some lastValue)
    {other : String × ℤ × ℤ} {v : ℤ} (hv : s.Spent other v ∨ other = counter ∧ v = lastValue + 1) :
    Spent (s.map fun c ↦ if c.1 = counter then (counter, lastValue + 1) else c) other v := by
  unfold Spent at hv ⊢
  rw [lookup_advance, lookup_advance]
  by_cases ho : other = counter
  · subst ho
    simp only [hs, Option.map_some, if_true, true_and] at hv ⊢
    omega
  · simp only [ho, false_and, or_false] at hv
    cases hother : s.lookup other with
    | some last => simpa [hother, ho] using hv
    | none => simpa [hother] using hv

theorem spent_start (hnone : s.lookup counter = none)
    (hfree : s.lookup (storedAs counter) = none) {other : String × ℤ × ℤ} {v : ℤ}
    (hv : s.Spent other v ∨ other = counter ∧ v = 1) :
    Spent ((storedAs counter, 1) :: s) other v := by
  unfold Spent at hv ⊢
  simp only [lookup_cons_ite]
  by_cases ho : other = storedAs counter
  · rw [if_pos ho]
    have hunspent : (s.lookup (storedAs other)).isSome = false := by
      rw [ho, storedAs_idem, hfree, Option.isSome_none]
    rw [ho, hfree, ← ho] at hv
    simp only [hunspent, Bool.false_eq_true, false_or] at hv
    exact Int.le_of_eq hv.2
  · rw [if_neg ho]
    cases hother : s.lookup other with
    | some lastValue =>
      rw [hother] at hv
      refine hv.resolve_right fun hcounter ↦ ?_
      rw [hcounter.1, hnone] at hother
      cases hother
    | none =>
      rw [hother] at hv
      obtain hv | ⟨rfl, -⟩ := hv
      · dsimp only at hv ⊢
        split_ifs
        · rfl
        · exact hv
      · simp

/-- A value that is handed out is a new one, and stays spent like all the others. -/
theorem nextStored_spends {s' : Sequences} (h : s.nextStored counter = (.ok value, s')) :
    ¬s.Spent counter value ∧ s'.Spent counter value ∧
      ∀ other v, s.Spent other v → s'.Spent other v := by
  unfold nextStored at h
  split at h
  next hnone =>
    split at h
    · cases h
    next hfree =>
      obtain ⟨hval, rfl⟩ := Prod.mk.inj h
      obtain rfl := Except.ok.inj hval
      rw [Option.not_isSome_iff_eq_none] at hfree
      refine ⟨?_, spent_start hnone hfree (.inr ⟨rfl, rfl⟩), fun other v hv ↦
        spent_start hnone hfree (.inl hv)⟩
      simp [Spent, hnone, hfree]
  next lastValue hsome =>
    obtain ⟨hval, rfl⟩ := Prod.mk.inj h
    obtain rfl := Except.ok.inj hval
    refine ⟨?_, spent_advance hsome (.inr ⟨rfl, rfl⟩), fun other v hv ↦
      spent_advance hsome (.inl hv)⟩
    simp only [Spent, hsome]
    omega

theorem nextStored_error {err : Error} {s' : Sequences}
    (h : s.nextStored counter = (.error err, s')) : s' = s := by
  unfold nextStored at h
  split at h
  · split at h
    · exact (Prod.mk.inj h).2.symm
    · cases (Prod.mk.inj h).1
  · cases (Prod.mk.inj h).1

end Sequences

end Rosmon.Store
