import Mathlib.Algebra.BigOperators.Group.List.Basic
import Mathlib.Algebra.GroupWithZero.Nat
import Mathlib.Algebra.Ring.Int.Defs
import Mathlib.Data.List.Induction
import Mathlib.Data.Nat.Notation
import Mathlib.Order.Lattice

namespace Rosmon.Library

section Tally

variable {α κ : Type} [DecidableEq κ]

/-- How many there are of something, and what they add up to. -/
structure Figures where
  count : ℕ
  sum : ℤ
  deriving DecidableEq

def Figures.zero : Figures := ⟨0, 0⟩

def Figures.add (f : Figures) (v : ℤ) : Figures := ⟨f.count + 1, f.sum + v⟩

def figures (value : α → ℤ) (l : List α) : Figures := ⟨l.length, (l.map value).sum⟩

/-- One more under the key, which gets a row with the first. -/
def tallyOne (k : κ) (v : ℤ) : List (κ × Figures) → List (κ × Figures)
  | [] => [(k, Figures.zero.add v)]
  | row :: rows => if row.1 = k then (k, row.2.add v) :: rows else row :: tallyOne k v rows

/-- A row for each key of the list. -/
def tally (key : α → κ) (value : α → ℤ) (l : List α) : List (κ × Figures) :=
  l.foldl (fun rows a ↦ tallyOne (key a) (value a) rows) []

/-- What the rows say of a key. -/
def figuresAt (k : κ) (rows : List (κ × Figures)) : Figures :=
  ((rows.find? (·.1 = k)).map (·.2)).getD .zero

variable {key : α → κ} {value : α → ℤ} {k k' : κ} {v : ℤ} {l : List α}
variable {row : κ × Figures} {rows rows' : List (κ × Figures)}

theorem figures_concat (l : List α) (a : α) :
    figures value (l ++ [a]) = (figures value l).add (value a) := by
  simp [figures, Figures.add]

theorem figures_perm {l' : List α} (h : l.Perm l') : figures value l = figures value l' := by
  unfold figures
  rw [h.length_eq, (h.map value).sum_eq]

theorem tally_concat (l : List α) (a : α) :
    tally key value (l ++ [a]) = tallyOne (key a) (value a) (tally key value l) := by
  simp only [tally, List.foldl_append, List.foldl_cons, List.foldl_nil]

theorem figuresAt_nil (k : κ) : figuresAt k [] = .zero := rfl

theorem figuresAt_cons (k : κ) (row : κ × Figures) (rows : List (κ × Figures)) :
    figuresAt k (row :: rows) = if row.1 = k then row.2 else figuresAt k rows := by
  unfold figuresAt
  rw [List.find?_cons]
  split <;> simp_all

theorem figuresAt_tallyOne (k k' : κ) (v : ℤ) (rows : List (κ × Figures)) :
    figuresAt k' (tallyOne k v rows) =
      if k = k' then (figuresAt k' rows).add v else figuresAt k' rows := by
  induction rows with
  | nil => exact figuresAt_cons k' _ []
  | cons row rows ih =>
    unfold tallyOne
    by_cases hrow : row.1 = k
    · rw [if_pos hrow, figuresAt_cons, figuresAt_cons, hrow]
      split_ifs <;> rfl
    · rw [if_neg hrow, figuresAt_cons, figuresAt_cons, ih]
      by_cases hk : row.1 = k'
      · rw [if_pos hk, if_pos hk, if_neg fun h ↦ hrow (hk.trans h.symm)]
      · rw [if_neg hk, if_neg hk]

/-- The row of a key has the figures of what is under it. -/
theorem figuresAt_tally (k : κ) (l : List α) :
    figuresAt k (tally key value l) = figures value (l.filter (key · = k)) := by
  induction l using List.reverseRecOn with
  | nil => rfl
  | append_singleton l a ih =>
    rw [tally_concat, figuresAt_tallyOne, ih, List.filter_append]
    by_cases hkey : key a = k
    · rw [if_pos hkey, List.filter_cons_of_pos (by simpa using hkey), List.filter_nil,
        figures_concat]
    · rw [if_neg hkey, List.filter_cons_of_neg (by simpa using hkey), List.filter_nil,
        List.append_nil]

theorem mem_keys_tallyOne :
    k' ∈ (tallyOne k v rows).map (·.1) ↔ k' = k ∨ k' ∈ rows.map (·.1) := by
  induction rows with
  | nil => simp [tallyOne]
  | cons row rows ih =>
    unfold tallyOne
    split_ifs with hrow
    · simp [hrow]
    · rw [List.map_cons, List.mem_cons, ih, List.map_cons, List.mem_cons]
      exact or_left_comm

theorem nodup_keys_tallyOne (h : (rows.map (·.1)).Nodup) :
    ((tallyOne k v rows).map (·.1)).Nodup := by
  induction rows with
  | nil => simp [tallyOne]
  | cons row rows ih =>
    obtain ⟨hfresh, hrows⟩ := List.nodup_cons.mp h
    unfold tallyOne
    split_ifs with hrow
    · rw [← hrow]
      exact h
    · refine List.nodup_cons.mpr ⟨fun hmem ↦ ?_, ih hrows⟩
      exact (mem_keys_tallyOne.mp hmem).elim hrow hfresh

theorem nodup_keys_tally (l : List α) : ((tally key value l).map (·.1)).Nodup := by
  induction l using List.reverseRecOn with
  | nil => exact .nil
  | append_singleton l a ih =>
    rw [tally_concat]
    exact nodup_keys_tallyOne ih

theorem mem_keys_tally : k ∈ (tally key value l).map (·.1) ↔ ∃ a ∈ l, key a = k := by
  induction l using List.reverseRecOn with
  | nil => simp [tally]
  | append_singleton l a ih =>
    rw [tally_concat, mem_keys_tallyOne, ih]
    simp only [List.mem_append, List.mem_singleton]
    grind

/-- The sum of the rows. -/
def sumOf (rows : List (κ × Figures)) : Figures :=
  ⟨(rows.map (·.2.count)).sum, (rows.map (·.2.sum)).sum⟩

theorem sumOf_tallyOne : sumOf (tallyOne k v rows) = (sumOf rows).add v := by
  induction rows with
  | nil => simp [tallyOne, sumOf, Figures.add, Figures.zero]
  | cons row rows ih =>
    unfold tallyOne
    split_ifs with hrow
    · simp only [sumOf, Figures.add, List.map_cons, List.sum_cons, Figures.mk.injEq]
      omega
    · simp only [sumOf, Figures.add, List.map_cons, List.sum_cons, Figures.mk.injEq] at ih ⊢
      omega

/-- The rows add up to the figures of the whole list. -/
theorem sumOf_tally (l : List α) : sumOf (tally key value l) = figures value l := by
  induction l using List.reverseRecOn with
  | nil => rfl
  | append_singleton l a ih => rw [tally_concat, sumOf_tallyOne, ih, figures_concat]

omit [DecidableEq κ] in
theorem sumOf_perm (h : rows.Perm rows') : sumOf rows = sumOf rows' := by
  unfold sumOf
  rw [(h.map (·.2.count)).sum_eq, (h.map (·.2.sum)).sum_eq]

section Parts

variable {ρ : Type} {rs : List ρ} {sel : ρ → α → Bool} {p : α → Bool} {label : ρ → κ}

omit [DecidableEq κ] in
/-- One more, which each range counts that selects it. -/
theorem sumOf_parts_cons (a : α) (l : List α) :
    sumOf (rs.map fun r ↦ (label r, figures value ((a :: l).filter (sel r)))) =
      ⟨rs.countP (sel · a) + (sumOf (rs.map fun r ↦ (label r, figures value (l.filter (sel r))))).count,
        rs.countP (sel · a) * value a +
          (sumOf (rs.map fun r ↦ (label r, figures value (l.filter (sel r))))).sum⟩ := by
  induction rs with
  | nil => simp [sumOf]
  | cons r rs ih =>
    simp only [sumOf, Figures.mk.injEq, List.map_cons, List.sum_cons] at ih ⊢
    obtain ⟨hcount, hsum⟩ := ih
    rw [hcount, hsum]
    cases hr : sel r a with
    | true =>
      have hmore : (r :: rs).countP (fun r ↦ sel r a) = rs.countP (fun r ↦ sel r a) + 1 :=
        List.countP_cons_of_pos hr
      rw [hmore, List.filter_cons_of_pos hr, Int.natCast_add, Int.add_mul]
      simp only [figures, List.length_cons, List.map_cons, List.sum_cons]
      omega
    | false =>
      have hsame : (r :: rs).countP (fun r ↦ sel r a) = rs.countP (fun r ↦ sel r a) :=
        List.countP_cons_of_neg (by simp [hr])
      rw [hsame, List.filter_cons_of_neg (by simp [hr])]
      simp only [figures]
      omega

omit [DecidableEq κ] in
/-- Ranges of which each selects what no other does add up to what they all select. -/
theorem sumOf_parts (h : ∀ a ∈ l, rs.countP (sel · a) = if p a then 1 else 0) :
    sumOf (rs.map fun r ↦ (label r, figures value (l.filter (sel r)))) =
      figures value (l.filter p) := by
  induction l with
  | nil =>
    clear h
    induction rs with
    | nil => rfl
    | cons r rs ih =>
      simp only [List.filter_nil, sumOf, figures, Figures.mk.injEq] at ih ⊢
      simpa using ih
  | cons a l ih =>
    rw [sumOf_parts_cons, ih fun b hb ↦ h b (List.mem_cons_of_mem _ hb), h a List.mem_cons_self]
    cases hp : p a with
    | true =>
      rw [List.filter_cons_of_pos hp]
      simp [figures, Nat.add_comm]
    | false =>
      rw [List.filter_cons_of_neg (by simp [hp])]
      simp [figures]

omit [DecidableEq κ] in
/-- Rows without figures may be left out. -/
theorem sumOf_filter (hempty : ∀ row ∈ rows, row.2.count = 0 → row.2.sum = 0) :
    sumOf (rows.filter fun row ↦ 0 < row.2.count) = sumOf rows := by
  induction rows with
  | nil => rfl
  | cons row rows ih =>
    rw [List.forall_mem_cons] at hempty
    have hrest := ih hempty.2
    by_cases hcount : 0 < row.2.count
    · rw [List.filter_cons_of_pos (by simpa using hcount)]
      simp only [sumOf, List.map_cons, List.sum_cons, Figures.mk.injEq] at hrest ⊢
      omega
    · have hzero := hempty.1 (by omega)
      rw [List.filter_cons_of_neg (by simpa using hcount), hrest]
      simp only [sumOf, List.map_cons, List.sum_cons, Figures.mk.injEq]
      omega

end Parts

theorem figuresAt_of_mem (hnodup : (rows.map (·.1)).Nodup) (hrow : row ∈ rows) :
    figuresAt row.1 rows = row.2 := by
  induction rows with
  | nil => cases hrow
  | cons first rows ih =>
    obtain ⟨hfresh, hrows⟩ := List.nodup_cons.mp hnodup
    rw [figuresAt_cons]
    obtain rfl | hrow := List.mem_cons.mp hrow
    · rw [if_pos rfl]
    · have hne : first.1 ≠ row.1 := fun hsame ↦
        hfresh (List.mem_map.mpr ⟨row, hrow, hsame.symm⟩)
      rw [if_neg hne, ih hrows hrow]

theorem figuresAt_of_not_mem (h : k ∉ rows.map (·.1)) : figuresAt k rows = .zero := by
  induction rows with
  | nil => rfl
  | cons first rows ih =>
    rw [List.map_cons, List.mem_cons, not_or] at h
    rw [figuresAt_cons, if_neg (Ne.symm h.1), ih h.2]

/-- Rows of different keys may stand in any order. -/
theorem figuresAt_perm (hnodup : (rows.map (·.1)).Nodup) (h : rows.Perm rows') (k : κ) :
    figuresAt k rows = figuresAt k rows' := by
  by_cases hk : k ∈ rows.map (·.1)
  · obtain ⟨row, hrow, rfl⟩ := List.mem_map.mp hk
    rw [figuresAt_of_mem hnodup hrow,
      figuresAt_of_mem ((h.map (·.1)).nodup_iff.mp hnodup) (h.mem_iff.mp hrow)]
  · rw [figuresAt_of_not_mem hk, figuresAt_of_not_mem fun h' ↦ hk ((h.map (·.1)).mem_iff.mpr h')]

end Tally

section Limit

variable {α β γ : Type} [LinearOrder β] (rank : α → β) {p : α → Bool} {l : List α} {n : ℕ}

/-- What comes first in a sorted list is what a filter selects. -/
theorem filter_append_of_lt (hsorted : l.Pairwise fun a b ↦ rank a ≤ rank b)
    (hlt : ∀ a ∈ l, p a → ∀ b ∈ l, ¬p b → rank a < rank b) :
    l = l.filter p ++ l.filter (fun b ↦ !p b) := by
  induction l with
  | nil => rfl
  | cons a l ih =>
    obtain ⟨hfirst, hsorted⟩ := List.pairwise_cons.mp hsorted
    have hrest := ih hsorted fun b hb hpb c hc ↦
      hlt b (List.mem_cons_of_mem _ hb) hpb c (List.mem_cons_of_mem _ hc)
    by_cases ha : p a = true
    · rw [List.filter_cons_of_pos ha, List.filter_cons_of_neg (by simpa using ha), List.cons_append,
        ← hrest]
    · have hnone : ∀ b ∈ l, ¬p b = true := fun b hb hpb ↦
        absurd (hfirst b hb) (not_le_of_gt
          (hlt b (List.mem_cons_of_mem _ hb) hpb a List.mem_cons_self ha))
      have hall : ∀ b ∈ a :: l, (!p b) = true := by
        intro b hb
        obtain rfl | hb := List.mem_cons.mp hb
        · simpa using ha
        · simpa using hnone b hb
      rw [List.filter_eq_nil_iff.mpr, List.filter_eq_self.mpr hall, List.nil_append]
      intro b hb
      simpa using hall b hb

/-- When a limit leaves just what a filter selects. -/
theorem take_eq_filter_iff (hsorted : l.Pairwise fun a b ↦ rank a ≤ rank b)
    (hrank : ∀ a b, rank a = rank b → p a = p b) :
    l.take n = l.filter p ↔ ((∀ a ∈ l, p a) ∧ l.length ≤ n) ∨
      ((l.filter p).length = n ∧ ∀ a ∈ l, p a → ∀ b ∈ l, ¬p b → rank a < rank b) := by
  constructor
  · intro htake
    by_cases hlength : l.length ≤ n
    · rw [List.take_of_length_le hlength] at htake
      exact .inl ⟨List.filter_eq_self.mp htake.symm, hlength⟩
    · refine .inr ⟨?_, fun a ha hpa b hb hpb ↦ ?_⟩
      · rw [← htake, List.length_take]
        omega
      · have hleft : a ∈ l.take n := htake ▸ List.mem_filter.mpr ⟨ha, hpa⟩
        have hright : b ∈ l.drop n := by
          rw [← List.take_append_drop n l, List.mem_append] at hb
          refine hb.resolve_left fun hb ↦ hpb ?_
          rw [htake] at hb
          exact (List.mem_filter.mp hb).2
        rw [← List.take_append_drop n l] at hsorted
        refine lt_of_le_of_ne ((List.pairwise_append.mp hsorted).2.2 a hleft b hright) fun h ↦ ?_
        rw [hrank a b h] at hpa
        exact hpb hpa
  · rintro (⟨hall, hlength⟩ | ⟨hlength, hlt⟩)
    · rw [List.take_of_length_le hlength, List.filter_eq_self.mpr hall]
    · conv_lhs => rw [filter_append_of_lt rank hsorted hlt]
      exact List.take_left' hlength

/-- A limit leaves what a filter selects if it leaves as much of each group. In a group, what the
filter selects comes first. -/
theorem take_eq_filter_of_counts [DecidableEq γ] (group : α → γ)
    (hsorted : l.Pairwise fun a b ↦ rank a ≤ rank b)
    (hlt : ∀ a ∈ l, p a → ∀ b ∈ l, ¬p b → group a = group b → rank a < rank b)
    (hcounts : ∀ b ∈ l, (l.take n).countP (group · = group b) =
      (l.filter p).countP (group · = group b)) : l.take n = l.filter p := by
  have hall : ∀ b ∈ l.take n, p b = true := by
    intro b hb
    by_contra hpb
    obtain ⟨hbefore, -, hacross⟩ := List.pairwise_append.mp (List.take_append_drop n l ▸ hsorted)
    have hbl := List.mem_of_mem_take hb
    have hlater : ((l.drop n).filter p).countP (group · = group b) = 0 := by
      refine List.countP_eq_zero.mpr fun a ha hgroup ↦ ?_
      obtain ⟨ha, hpa⟩ := List.mem_filter.mp ha
      exact absurd (hacross b hb a ha)
        (not_le_of_gt (hlt a (List.mem_of_mem_drop ha) hpa b hbl hpb (of_decide_eq_true hgroup)))
    have hothers : 0 < ((l.take n).filter fun a ↦ !p a).countP (group · = group b) :=
      List.countP_pos_iff.mpr ⟨b, List.mem_filter.mpr ⟨hb, by simpa using hpb⟩, by simp⟩
    have hcount := hcounts b hbl
    have hsplit : l.filter p = (l.take n).filter p ++ (l.drop n).filter p := by
      rw [← List.filter_append, List.take_append_drop]
    rw [hsplit, List.countP_append, hlater, List.countP_eq_countP_filter_add (l.take n) _ p] at hcount
    omega
  have hsublist : (l.take n).Sublist (l.filter p) := by
    have h := (List.take_sublist n l).filter p
    rwa [List.filter_eq_self.mpr hall] at h
  have hgroups : ((l.take n).map group).Perm ((l.filter p).map group) := by
    refine List.perm_iff_count.mpr fun c ↦ ?_
    simp only [List.count_eq_countP, List.countP_map]
    by_cases hc : ∃ b ∈ l, group b = c
    · obtain ⟨b, hb, rfl⟩ := hc
      exact hcounts b hb
    · have hnone : ∀ l' : List α, l'.Sublist l → l'.countP ((· == c) ∘ group) = 0 := fun l' hl' ↦
        List.countP_eq_zero.mpr fun b hb hgroup ↦ hc ⟨b, hl'.subset hb, by simpa using hgroup⟩
      rw [hnone _ (List.take_sublist n l), hnone _ List.filter_sublist]
  refine hsublist.eq_of_length ?_
  simpa using hgroups.length_eq

end Limit

end Rosmon.Library
