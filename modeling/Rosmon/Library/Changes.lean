import Mathlib.Data.List.Basic
import Mathlib.Logic.Function.Basic

namespace Rosmon.Library

/-- What became of one key of a table: its new value, or none if it has gone. -/
structure Change (κ ν : Type) where
  key : κ
  value : Option ν
  deriving DecidableEq

namespace Change

variable {κ ν : Type} [DecidableEq κ]

/-- What a reader who applies the changes one after the other makes of a table. -/
def replay (m : κ → Option ν) (cs : List (Change κ ν)) : κ → Option ν :=
  cs.foldl (fun m c ↦ Function.update m c.key c.value) m

@[simp] theorem replay_nil (m : κ → Option ν) : replay m [] = m := rfl

@[simp] theorem replay_cons (m : κ → Option ν) (c : Change κ ν) (cs : List (Change κ ν)) :
    replay m (c :: cs) = replay (Function.update m c.key c.value) cs := rfl

theorem replay_append (m : κ → Option ν) (cs ds : List (Change κ ν)) :
    replay m (cs ++ ds) = replay (replay m cs) ds :=
  List.foldl_append

theorem replay_of_not_mem {m : κ → Option ν} {cs : List (Change κ ν)} {k : κ}
    (h : ∀ c ∈ cs, c.key ≠ k) : replay m cs k = m k := by
  induction cs generalizing m with
  | nil => rfl
  | cons c cs ih =>
    rw [replay_cons, ih fun d hd ↦ h d (List.mem_cons_of_mem _ hd)]
    exact Function.update_of_ne (h c List.mem_cons_self).symm _ _

/-- The value of a key after a replay depends on its value before, and not on other keys. -/
theorem replay_congr {m n : κ → Option ν} {k : κ} (h : m k = n k) (cs : List (Change κ ν)) :
    replay m cs k = replay n cs k := by
  induction cs generalizing m n with
  | nil => exact h
  | cons c cs ih =>
    rw [replay_cons, replay_cons]
    apply ih
    by_cases hk : k = c.key
    · subst hk
      simp only [Function.update_self]
    · simpa only [Function.update_of_ne hk] using h

/-- Changes that all report what is in `n` lead there, whatever their order, if no other
key has to change. -/
theorem replay_eq {m n : κ → Option ν} {cs : List (Change κ ν)}
    (hvalue : ∀ c ∈ cs, c.value = n c.key) (hrest : ∀ k, (∀ c ∈ cs, c.key ≠ k) → m k = n k) :
    replay m cs = n := by
  induction cs generalizing m with
  | nil => exact funext fun k ↦ hrest k (by simp)
  | cons c cs ih =>
    rw [replay_cons]
    refine ih (fun d hd ↦ hvalue d (List.mem_cons_of_mem _ hd)) fun k hk ↦ ?_
    by_cases hc : k = c.key
    · subst hc
      rw [Function.update_self, hvalue c List.mem_cons_self]
    · rw [Function.update_of_ne hc]
      apply hrest
      intro d hd
      rcases List.mem_cons.mp hd with rfl | hd
      · exact Ne.symm hc
      · exact hk d hd

/-- Two lists of changes without a common key. -/
def Apart (cs ds : List (Change κ ν)) : Prop := ∀ c ∈ cs, ∀ d ∈ ds, c.key ≠ d.key

instance (cs ds : List (Change κ ν)) : Decidable (Apart cs ds) :=
  inferInstanceAs (Decidable (∀ c ∈ cs, ∀ d ∈ ds, c.key ≠ d.key))

theorem replay_comm {m : κ → Option ν} {cs ds : List (Change κ ν)} (h : Apart cs ds) :
    replay m (cs ++ ds) = replay m (ds ++ cs) := by
  funext k
  rw [replay_append, replay_append]
  by_cases hk : ∃ c ∈ cs, c.key = k
  · obtain ⟨c, hc, rfl⟩ := hk
    have hds : ∀ d ∈ ds, d.key ≠ c.key := fun d hd ↦ (h c hc d hd).symm
    rw [replay_of_not_mem hds]
    exact replay_congr (replay_of_not_mem hds).symm cs
  · have hcs : ∀ c ∈ cs, c.key ≠ k := fun c hc hck ↦ hk ⟨c, hc, hck⟩
    rw [replay_of_not_mem hcs]
    exact replay_congr (replay_of_not_mem hcs) ds

end Change

end Rosmon.Library
