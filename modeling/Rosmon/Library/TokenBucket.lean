import Mathlib.Algebra.Order.Field.Basic
import Mathlib.Tactic.Linarith
import Mathlib.Tactic.Ring

namespace Rosmon.Library

variable {K : Type} [Field K] [LinearOrder K]

/-- What a bucket has held since it was last charged. One that never was is full. -/
structure Charge (K : Type) where
  tokens : K
  since : K

namespace TokenBucket

section Levels

variable (rps burst : K)

/-- The bucket fills at a constant rate, up to its burst. -/
def level : Option (Charge K) → K → K
  | none, _ => burst
  | some c, t => min burst (c.tokens + rps * (t - c.since))

/-- A request takes a whole token, or none. -/
def take (c : Option (Charge K)) (t : K) : Bool × Option (Charge K) :=
  if 1 ≤ level rps burst c t then (true, some ⟨level rps burst c t - 1, t⟩) else (false, c)

/-- The bucket after requests at these times. -/
def charged (c : Option (Charge K)) (ts : List K) : Option (Charge K) :=
  ts.foldl (fun c t ↦ (take rps burst c t).2) c

/-- Which of the requests the bucket admits. -/
def admits : Option (Charge K) → List K → List Bool
  | _, [] => []
  | c, t :: ts => (take rps burst c t).1 :: admits (take rps burst c t).2 ts

end Levels

variable {rps burst : K} {c : Option (Charge K)} {t u : K}

theorem charged_concat (ts : List K) (t : K) : charged rps burst c (ts ++ [t]) =
    (take rps burst (charged rps burst c ts) t).2 := by
  simp only [charged, List.foldl_append, List.foldl_cons, List.foldl_nil]

theorem admits_concat (ts : List K) (t : K) : admits rps burst c (ts ++ [t]) =
    admits rps burst c ts ++ [(take rps burst (charged rps burst c ts) t).1] := by
  induction ts generalizing c with
  | nil => rfl
  | cons first ts ih => exact congrArg (_ :: ·) ih

theorem take_of_le (h : 1 ≤ level rps burst c t) :
    take rps burst c t = (true, some ⟨level rps burst c t - 1, t⟩) := if_pos h

theorem take_of_lt (h : level rps burst c t < 1) : take rps burst c t = (false, c) :=
  if_neg (not_le.mpr h)

theorem level_le : level rps burst c t ≤ burst := by
  cases c with
  | none => exact le_rfl
  | some c => exact min_le_left _ _

variable [IsStrictOrderedRing K]

/-- Filling for a time, and then for another. -/
theorem fill_fill {x d d' : K} (hd' : 0 ≤ d') :
    min burst (min burst (x + d) + d') = min burst (x + d + d') := by
  rcases le_total burst (x + d) with h | h
  · rw [min_eq_left h, min_eq_left (by linarith), min_eq_left (by linarith)]
  · rw [min_eq_right h]

/-- A level is what it was, with what has flowed in since then. -/
theorem level_eq (hrps : 0 ≤ rps) (htu : t ≤ u) :
    level rps burst c u = min burst (level rps burst c t + rps * (u - t)) := by
  have hflow : 0 ≤ rps * (u - t) := mul_nonneg hrps (sub_nonneg.mpr htu)
  cases c with
  | none => exact (min_eq_left (by simpa [level] using hflow)).symm
  | some c =>
    rw [level, level, fill_fill hflow]
    congr 1
    ring

/-- What a request leaves is no less than what flows in after it. -/
theorem le_level_take :
    min (level rps burst c u) (rps * (u - t)) ≤ level rps burst (take rps burst c t).2 u := by
  by_cases h : 1 ≤ level rps burst c t
  · rw [take_of_le h]
    refine le_min ((min_le_left _ _).trans level_le) ((min_le_right _ _).trans ?_)
    exact le_add_of_nonneg_left (sub_nonneg.mpr h)
  · rw [take_of_lt (not_le.mp h)]
    exact min_le_left _ _

/-- A token that is taken and given back. -/
theorem give_back {x d d' : K} (hd' : 0 ≤ d') :
    min burst (min burst (min burst (x - 1 + d) + 1) + d') = min burst (x + (d + d')) := by
  rcases le_total burst (x - 1 + d) with h | h
  · have hone : burst ≤ burst + 1 := le_add_of_nonneg_right zero_le_one
    rw [min_eq_left h, min_eq_left hone, min_eq_left (by linarith), min_eq_left (by linarith)]
  · rw [min_eq_right h, show x - 1 + d + 1 = x + d by ring, fill_fill hd', add_assoc]

end TokenBucket

end Rosmon.Library
