import Mathlib.Data.List.Infix
import Mathlib.Data.List.Sort

namespace Rosmon.Library

section Alternation

/-- A list of which each member is the opposite of the one before it, the first that of `b`. -/
def Alternates : Bool → List Bool → Prop
  | _, [] => True
  | b, c :: cs => c = !b ∧ Alternates c cs

theorem alternates_append {b c : Bool} {cs : List Bool} :
    Alternates b (cs ++ [c]) ↔ Alternates b cs ∧ c = !(cs.getLastD b) := by
  induction cs generalizing b with
  | nil => simp [Alternates]
  | cons d cs ih =>
    simp only [List.cons_append, Alternates, ih, List.getLastD_cons, and_assoc]

theorem Alternates.initial {b : Bool} {cs ds : List Bool} (h : Alternates b ds) (hcs : cs <+: ds) :
    Alternates b cs := by
  induction cs generalizing b ds with
  | nil => trivial
  | cons c cs ih =>
    obtain ⟨es, rfl⟩ := hcs
    exact ⟨h.1, ih h.2 ⟨es, rfl⟩⟩

end Alternation

section Picks

variable {α : Type} {R : α → α → Prop} {l m : List α}

/-- Of two elements of a list one comes first, and it is the one that may. -/
theorem pair_sublist (h : l.Pairwise R) {a b : α} (ha : a ∈ l) (hb : b ∈ l) (hne : a ≠ b)
    (hnot : ¬R b a) : [a, b].Sublist l := by
  induction h with
  | nil => cases ha
  | @cons x l hx _ ih =>
    rcases List.mem_cons.mp ha with rfl | hrest
    · have htail := List.mem_of_ne_of_mem hne.symm hb
      exact (List.singleton_sublist.mpr htail).cons_cons _
    · rcases List.mem_cons.mp hb with rfl | hb
      · exact absurd (hx a hrest) hnot
      · exact (ih hrest hb).cons _

/-- What is picked at increasing places is picked in order. -/
theorem sublist_of_places {places : List ℕ} (hsorted : places.Pairwise (· < ·))
    (hplaces : m.map some = places.map fun k ↦ l[k]?) : m.Sublist l := by
  have hbound : places ⊆ List.range l.length := by
    intro k hk
    have hmem : l[k]? ∈ m.map some := hplaces ▸ List.mem_map_of_mem hk
    obtain ⟨a, -, ha⟩ := List.mem_map.mp hmem
    exact List.mem_range.mpr (List.getElem?_eq_some_iff.mp ha.symm).1
  have hrange : places.Sublist (List.range l.length) := by
    refine List.sublist_of_subperm_of_pairwise (r := (· ≤ ·)) ?_ (hsorted.imp le_of_lt) ?_
    · exact List.subperm_of_subset (hsorted.imp Nat.ne_of_lt) hbound
    · exact List.pairwise_lt_range.imp le_of_lt
  have hall : (List.range l.length).map (fun k ↦ l[k]?) = l.map some := by
    apply List.ext_getElem
    · simp
    · intro k hk hk'
      simp
  have hsome : (m.map some).Sublist (l.map some) := by
    rw [hplaces, ← hall]
    exact hrange.map _
  have hback := hsome.filterMap id
  simpa [List.filterMap_map] using hback

/-- What can be found at one place only. -/
theorem filter_eq_singleton {q : α → Bool} {i : ℕ} {a : α} (hi : l[i]? = some a)
    (ha : q a = true) (halone : ∀ (j : ℕ) (b : α), l[j]? = some b → j ≠ i → q b = false) :
    l.filter q = [a] := by
  obtain ⟨hlt, hget⟩ := List.getElem?_eq_some_iff.mp hi
  have hl : l = l.take i ++ a :: l.drop (i + 1) := by
    rw [← hget, List.getElem_cons_drop, List.take_append_drop]
  have hbefore : (l.take i).filter q = [] := by
    refine List.filter_eq_nil_iff.mpr fun b hb ↦ ?_
    obtain ⟨j, hj⟩ := List.mem_iff_getElem?.mp hb
    have hji : j < i := by
      have hlength := (List.getElem?_eq_some_iff.mp hj).1
      rw [List.length_take] at hlength
      omega
    rw [List.getElem?_take_of_lt hji] at hj
    simp [halone j b hj (by omega)]
  have hafter : (l.drop (i + 1)).filter q = [] := by
    refine List.filter_eq_nil_iff.mpr fun b hb ↦ ?_
    obtain ⟨j, hj⟩ := List.mem_iff_getElem?.mp hb
    rw [List.getElem?_drop] at hj
    simp [halone _ b hj (by omega)]
  rw [hl, List.filter_append, List.filter_cons_of_pos ha, hbefore, hafter, List.nil_append]

end Picks

section Machines

variable {σ α β γ : Type}

/-- The run of a machine that gives something out for each thing that it is fed. -/
def thread (f : σ → α → σ × List β) (s : σ) : List α → σ × List β
  | [] => (s, [])
  | a :: as =>
    ((thread f (f s a).1 as).1, (f s a).2 ++ (thread f (f s a).1 as).2)

variable {f : σ → α → σ × List β}

@[simp]
theorem thread_nil (s : σ) : thread f s [] = (s, []) := rfl

@[simp]
theorem thread_cons (s : σ) (a : α) (as : List α) :
    thread f s (a :: as) =
      ((thread f (f s a).1 as).1, (f s a).2 ++ (thread f (f s a).1 as).2) := rfl

theorem thread_append (s : σ) (as bs : List α) :
    thread f s (as ++ bs) =
      ((thread f (thread f s as).1 bs).1,
        (thread f s as).2 ++ (thread f (thread f s as).1 bs).2) := by
  induction as generalizing s with
  | nil => rfl
  | cons a as ih => simp [ih]

/-- What hides a part of the states, of what is fed and of what is given out hides it in a whole
run, where no step lets that part out. -/
theorem thread_hidden {hide : σ → σ} {hideIn : α → α} {seen : β → Option γ}
    (step : ∀ s a, hide (f s a).1 = hide (f (hide s) (hideIn a)).1 ∧
      (f s a).2.filterMap seen = (f (hide s) (hideIn a)).2.filterMap seen)
    {s t : σ} (h : hide s = hide t) {as bs : List α} (hab : as.map hideIn = bs.map hideIn) :
    hide (thread f s as).1 = hide (thread f t bs).1 ∧
      (thread f s as).2.filterMap seen = (thread f t bs).2.filterMap seen := by
  induction as generalizing s t bs with
  | nil =>
    obtain rfl : bs = [] := by simpa using hab.symm
    exact ⟨h, rfl⟩
  | cons a as ih =>
    cases bs with
    | nil => simp at hab
    | cons b bs =>
      rw [List.map_cons, List.map_cons, List.cons.injEq] at hab
      have hs := step s a
      have ht := step t b
      rw [← h, ← hab.1] at ht
      have next := ih (hs.1.trans ht.1.symm) hab.2
      refine ⟨next.1, ?_⟩
      simp only [thread_cons, List.filterMap_append]
      rw [hs.2, ← ht.2, next.2]

end Machines

end Rosmon.Library
