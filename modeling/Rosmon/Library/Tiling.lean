import Mathlib

namespace Rosmon.Library.Tiling

variable {α : Type} [LinearOrder α] {s e : ℕ → α} {k : ℕ}

/-- No two of the first `k` intervals have a point in common. An interval goes from `s j`
to before `e j`. -/
def Separate (s e : ℕ → α) (k : ℕ) : Prop :=
  ∀ i j, i < j → j < k → ∀ x, s i ≤ x ∧ x < e i → ¬(s j ≤ x ∧ x < e j)

/-- Between the start of one of the intervals and the end of another, each point is in one. -/
def Gapless (s e : ℕ → α) (k : ℕ) : Prop :=
  ∀ i < k, ∀ j < k, ∀ x, s i ≤ x → x < e j → ∃ l < k, s l ≤ x ∧ x < e l

theorem Separate.end_le (h : Separate s e k) (hs : StrictMono s) (he : ∀ j, s j < e j) {j : ℕ}
    (hj : j + 1 < k) : e j ≤ s (j + 1) := by
  by_contra hover
  have hstart : s j ≤ s (j + 1) := (hs (Nat.lt_succ_self j)).le
  exact h j (j + 1) (Nat.lt_succ_self j) hj _ ⟨hstart, not_le.mp hover⟩ ⟨le_rfl, he _⟩

theorem Gapless.le_end (h : Gapless s e k) (hseparate : Separate s e k) (hs : StrictMono s)
    (he : ∀ j, s j < e j) {j : ℕ} (hj : j + 1 < k) : s (j + 1) ≤ e j := by
  by_contra hgap
  have hlate : e j < e (j + 1) := (not_le.mp hgap).trans (he _)
  obtain ⟨l, hl, hstart, hend⟩ := h j (by omega) (j + 1) hj _ (he j).le hlate
  have hle : l < j + 1 := hs.lt_iff_lt.mp (hstart.trans_lt (not_le.mp hgap))
  rcases Nat.lt_succ_iff_lt_or_eq.mp hle with hlt | rfl
  · have hearly : e l ≤ s j := (hseparate.end_le hs he (by omega)).trans (hs.monotone hlt)
    exact absurd (hend.trans_le hearly) (he j).not_gt
  · exact absurd hend (lt_irrefl _)

/-- Intervals that start one after the other neither meet nor leave gaps just if each ends
where the next one starts. -/
theorem separate_gapless_iff (hs : StrictMono s) (he : ∀ j, s j < e j) :
    Separate s e k ∧ Gapless s e k ↔ ∀ j, j + 1 < k → e j = s (j + 1) := by
  constructor
  · intro h j hj
    exact le_antisymm (h.1.end_le hs he hj) (h.2.le_end h.1 hs he hj)
  · intro h
    constructor
    · intro i j hij hj x hi hx
      have hnext : e i ≤ s j := by
        rw [h i (by omega)]
        exact hs.monotone hij
      exact absurd (hi.2.trans_le hnext) (not_lt.mpr hx.1)
    · intro i _ j hj x hx
      induction j with
      | zero =>
        intro hend
        exact ⟨0, hj, (hs.monotone (Nat.zero_le i)).trans hx, hend⟩
      | succ j ih =>
        intro hend
        by_cases hin : s (j + 1) ≤ x
        · exact ⟨j + 1, hj, hin, hend⟩
        · rw [not_le, ← h j hj] at hin
          exact ih (by omega) hin

end Rosmon.Library.Tiling
