import Mathlib.Data.List.Count
import Mathlib.Data.List.Nodup
import Mathlib.Logic.Function.Basic

namespace Rosmon.Library

/-- Tasks that run for keys, with the handle by which the task of a key can be stopped. -/
structure Tasks (K : Type) where
  handles : K → Option ℕ
  running : List (K × ℕ)
  next : ℕ

namespace Tasks

variable {K : Type} [DecidableEq K]

def empty : Tasks K := ⟨fun _ ↦ none, [], 0⟩

/-- A new task. The handle of an old one is lost. -/
def start (t : Tasks K) (k : K) : Tasks K :=
  ⟨Function.update t.handles k (some t.next), (k, t.next) :: t.running, t.next + 1⟩

/-- A new task, unless the key has one. -/
def ensure (t : Tasks K) (k : K) : Tasks K := if (t.handles k).isSome then t else t.start k

/-- A new task, if it can be started. -/
def attempt (t : Tasks K) (starts : Bool) (k : K) : Tasks K :=
  if starts then t.start k else { t with handles := Function.update t.handles k none }

def stop (t : Tasks K) (k : K) : Tasks K :=
  match t.handles k with
  | none => t
  | some n =>
    { t with
      handles := Function.update t.handles k none
      running := t.running.filter (· ≠ (k, n)) }

def count (t : Tasks K) (k : K) : ℕ := t.running.countP (·.1 = k)

/-- The tasks that run are those that can be stopped. -/
structure Kept (t : Tasks K) : Prop where
  handled : ∀ k n, (k, n) ∈ t.running ↔ t.handles k = some n
  nodup : t.running.Nodup
  fresh : ∀ k n, t.handles k = some n → n < t.next

variable {t : Tasks K} {k k' : K} {starts : Bool}

theorem isSome_start : ((t.start k).handles k').isSome ↔ k' = k ∨ (t.handles k').isSome := by
  simp only [start, Function.update_apply]
  split_ifs with hk <;> simp [hk]

theorem isSome_ensure : ((t.ensure k).handles k').isSome ↔ k' = k ∨ (t.handles k').isSome := by
  unfold ensure
  split_ifs with hk
  · constructor
    · exact .inr
    · rintro (rfl | h)
      · exact hk
      · exact h
  · exact isSome_start

theorem isSome_attempt (h : ((t.attempt starts k).handles k').isSome) :
    k' = k ∨ (t.handles k').isSome := by
  unfold attempt at h
  split_ifs at h
  · exact isSome_start.mp h
  · simp only [Function.update_apply] at h
    split_ifs at h with hk
    · exact .inl hk
    · exact .inr h

theorem isSome_stop : ((t.stop k).handles k').isSome ↔ k' ≠ k ∧ (t.handles k').isSome := by
  unfold stop
  cases hk : t.handles k with
  | none =>
    refine ⟨fun h ↦ ⟨?_, h⟩, And.right⟩
    rintro rfl
    rw [hk] at h
    cases h
  | some n =>
    simp only [Function.update_apply]
    split_ifs with hk' <;> simp [hk']

theorem isSome_startAll {ks : List K} :
    ((ks.foldl start t).handles k).isSome ↔ k ∈ ks ∨ (t.handles k).isSome := by
  induction ks generalizing t with
  | nil => simp
  | cons first ks ih => rw [List.foldl_cons, ih, isSome_start, List.mem_cons, or_left_comm, or_assoc]

namespace Kept

omit [DecidableEq K] in
theorem empty : (Tasks.empty : Tasks K).Kept where
  handled _ _ := by simp [Tasks.empty]
  nodup := .nil
  fresh _ _ h := by cases h

theorem start (h : t.Kept) (hk : t.handles k = none) : (t.start k).Kept where
  handled k' n := by
    simp only [Tasks.start, List.mem_cons, Prod.mk.injEq, h.handled, Function.update_apply]
    split_ifs with hk'
    · subst hk'
      simp [hk, eq_comm]
    · simp [hk']
  nodup := by
    refine List.nodup_cons.mpr ⟨fun hmem ↦ ?_, h.nodup⟩
    exact Nat.lt_irrefl _ (h.fresh k t.next ((h.handled k t.next).mp hmem))
  fresh k' n hn := by
    simp only [Tasks.start, Function.update_apply] at hn ⊢
    split_ifs at hn
    · cases hn
      exact Nat.lt_succ_self _
    · exact Nat.lt_succ_of_lt (h.fresh k' n hn)

theorem ensure (h : t.Kept) : (t.ensure k).Kept := by
  unfold Tasks.ensure
  split_ifs with hk
  · exact h
  · exact h.start (by simpa using hk)

theorem attempt (h : t.Kept) (hk : t.handles k = none) : (t.attempt starts k).Kept := by
  unfold Tasks.attempt
  split_ifs
  · exact h.start hk
  · rw [← hk, Function.update_eq_self]
    exact h

theorem stop (h : t.Kept) : (t.stop k).Kept := by
  unfold Tasks.stop
  cases hk : t.handles k with
  | none => exact h
  | some n =>
    refine ⟨fun k' n' ↦ ?_, h.nodup.filter _, fun k' n' hn ↦ ?_⟩
    · simp only [List.mem_filter, h.handled, Function.update_apply, ne_eq, decide_eq_true_eq]
      split_ifs with hk'
      · subst hk'
        rw [hk]
        refine iff_of_false (fun hn ↦ hn.2 ?_) (by simp)
        rw [Option.some.inj hn.1]
      · exact and_iff_left fun heq ↦ hk' (Prod.mk.inj heq).1
    · simp only [Function.update_apply] at hn
      split_ifs at hn
      exact h.fresh k' n' hn

/-- A key has one task or none. -/
theorem count_eq (h : t.Kept) (k : K) : t.count k = if (t.handles k).isSome then 1 else 0 := by
  cases hk : t.handles k with
  | none =>
    refine List.countP_eq_zero.mpr fun x hx ↦ ?_
    have hx := (h.handled x.1 x.2).mp hx
    simp only [decide_eq_true_eq]
    rintro rfl
    rw [hk] at hx
    cases hx
  | some n =>
    have hcount : t.running.countP (·.1 = k) = t.running.count (k, n) := by
      refine List.countP_congr fun x hx ↦ ?_
      have hx := (h.handled x.1 x.2).mp hx
      simp only [decide_eq_true_eq, beq_iff_eq]
      constructor
      · rintro rfl
        rw [hk] at hx
        exact Prod.ext rfl (Option.some.inj hx).symm
      · rintro rfl
        rfl
    exact hcount.trans (List.count_eq_one_of_mem h.nodup ((h.handled k n).mpr hk))

theorem attemptAll (h : t.Kept) (starts : K → Bool) {ks : List K} (hks : ks.Nodup)
    (hfree : ∀ k ∈ ks, t.handles k = none) :
    (ks.foldl (fun t k ↦ t.attempt (starts k) k) t).Kept ∧ ∀ k,
      ((ks.foldl (fun t k ↦ t.attempt (starts k) k) t).handles k).isSome →
        k ∈ ks ∨ (t.handles k).isSome := by
  induction ks generalizing t with
  | nil => exact ⟨h, fun k hk ↦ .inr hk⟩
  | cons first ks ih =>
    obtain ⟨hfirst, hks⟩ := List.nodup_cons.mp hks
    have hrest : ∀ k ∈ ks, (t.attempt (starts first) first).handles k = none := by
      intro k hk
      by_contra hsome
      rcases isSome_attempt (Option.ne_none_iff_isSome.mp hsome) with rfl | hsome
      · exact hfirst hk
      · rw [hfree k (List.mem_cons_of_mem _ hk)] at hsome
        cases hsome
    obtain ⟨hkept, hall⟩ := ih (h.attempt (hfree first List.mem_cons_self)) hks hrest
    refine ⟨hkept, fun k hk ↦ ?_⟩
    rcases hall k hk with hk | hk
    · exact .inl (List.mem_cons_of_mem _ hk)
    · rcases isSome_attempt hk with rfl | hk
      · exact .inl List.mem_cons_self
      · exact .inr hk

theorem startAll (h : t.Kept) {ks : List K} (hks : ks.Nodup)
    (hfree : ∀ k ∈ ks, t.handles k = none) : (ks.foldl Tasks.start t).Kept :=
  (h.attemptAll (fun _ ↦ true) hks hfree).1

theorem count_eq_zero (h : t.Kept) : t.count k = 0 ↔ ¬(t.handles k).isSome := by
  rw [h.count_eq]
  split_ifs with hk <;> simp [hk]

end Kept

end Tasks

end Rosmon.Library
