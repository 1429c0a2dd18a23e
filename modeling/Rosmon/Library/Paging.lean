import Mathlib.Data.List.Nodup
import Mathlib.Data.List.Perm.Basic
import Rosmon.Library.Listing

namespace Rosmon.Library

variable {α β : Type} {n m : ℕ} {l L L' : List α}

/-- The page after the first `k` pages of `n` rows each. -/
def page (n k : ℕ) (l : List α) : List α := (l.drop (k * n)).take n

/-- How many pages of `n` rows it takes. -/
def pageCount (n total : ℕ) : ℕ := (total + n - 1) / n

theorem take_succ_page (n k : ℕ) (l : List α) :
    l.take ((k + 1) * n) = l.take (k * n) ++ page n k l := by
  rw [Nat.succ_mul, List.take_add]
  rfl

theorem flatMap_page (n k : ℕ) (l : List α) :
    (List.range k).flatMap (page n · l) = l.take (k * n) := by
  induction k with
  | zero => simp
  | succ k ih => rw [List.range_succ, List.flatMap_append, ih, take_succ_page, List.flatMap_singleton]

theorem le_pageCount_mul (hn : 0 < n) (total : ℕ) : total ≤ pageCount n total * n := by
  unfold pageCount
  have := Nat.div_add_mod (total + n - 1) n
  have := Nat.mod_lt (total + n - 1) hn
  rw [Nat.mul_comm]
  omega

theorem lt_of_lt_pageCount {k total : ℕ} (hn : 0 < n) (h : k < pageCount n total) :
    k * n < total := by
  have hmul := Nat.mul_le_of_le_div n (k + 1) (total + n - 1) h
  rw [Nat.succ_mul] at hmul
  omega

/-- The last row of a page. -/
theorem mem_page_last {A R : List α} {x : α} {k : ℕ} (hn : 0 < n) (hA : A.length + 1 = (k + 1) * n) :
    x ∈ page n k (A ++ x :: R) := by
  rw [Nat.succ_mul] at hA
  have hwhole : (A ++ x :: R).drop (k * n) = (A.drop (k * n) ++ [x]) ++ R := by
    rw [List.drop_append_of_le_length (by omega), List.append_assoc, List.singleton_append]
  have hlength : (A.drop (k * n) ++ [x]).length = n := by
    rw [List.length_append, List.length_drop, List.length_singleton]
    omega
  rw [page, hwhole, List.take_left' hlength]
  exact List.mem_append_right _ (List.mem_singleton_self x)

/-- The first row of a page. -/
theorem mem_page_first {A R : List α} {x : α} {k : ℕ} (hn : 0 < n) (hA : A.length = k * n) :
    x ∈ page n k (A ++ x :: R) := by
  obtain ⟨n, rfl⟩ := Nat.exists_eq_succ_of_ne_zero hn.ne'
  rw [page, List.drop_left' hA, List.take_succ_cons]
  exact List.mem_cons_self

variable [LinearOrder β] (rank : α → β)

/-- The rows in the order of their ranks, and in any order where these are equal. -/
def Sorts (L l : List α) : Prop := L.Perm l ∧ L.Pairwise fun a b ↦ rank a ≤ rank b

/-- The first `m` rows are those up to some rank: no others have the rank of one of them. -/
def Parted (m : ℕ) (l : List α) : Prop := ∃ r, l.countP (fun a ↦ rank a ≤ r) = m

variable {rank}

/-- What stands before such a place does not depend on the order of equals. -/
theorem Sorts.take_perm (h : Sorts rank L l) (h' : Sorts rank L' l)
    (hm : Parted rank m l ∨ m = 0 ∨ l.length ≤ m) : (L.take m).Perm (L'.take m) := by
  obtain ⟨r, hr⟩ | rfl | hlength := hm
  · have hselect : ∀ L, Sorts rank L l → L.take m = L.filter fun a ↦ rank a ≤ r := by
      intro L hL
      refine (take_eq_filter_iff rank hL.2 fun a b hab ↦ by rw [hab]).mpr (.inr ⟨?_, ?_⟩)
      · rw [← List.countP_eq_length_filter, hL.1.countP_eq, hr]
      · intro a _ ha b _ hb
        exact (of_decide_eq_true ha).trans_lt (not_le.mp (mt decide_eq_true hb))
    rw [hselect L h, hselect L' h']
    exact (h.1.trans h'.1.symm).filter _
  · rw [List.take_zero, List.take_zero]
  · rw [List.take_of_length_le (h.1.length_eq ▸ hlength),
      List.take_of_length_le (h'.1.length_eq ▸ hlength)]
    exact h.1.trans h'.1.symm

theorem Sorts.page_perm {k : ℕ} (h : Sorts rank L l) (h' : Sorts rank L' l)
    (hparted : ∀ j, 0 < j * n → j * n < l.length → Parted rank (j * n) l) :
    (page n k L).Perm (page n k L') := by
  have hplace (j : ℕ) : Parted rank (j * n) l ∨ j * n = 0 ∨ l.length ≤ j * n := by
    by_cases hzero : j * n = 0
    · exact .inr (.inl hzero)
    · by_cases hlength : l.length ≤ j * n
      · exact .inr (.inr hlength)
      · exact .inl (hparted j (Nat.pos_of_ne_zero hzero) (Nat.lt_of_not_le hlength))
  have hbefore := h.take_perm h' (hplace k)
  have hwith := h.take_perm h' (hplace (k + 1))
  rw [take_succ_page, take_succ_page] at hwith
  exact (List.perm_append_left_iff _).mp (hwith.trans (hbefore.symm.append_right _))

/-- Two rows of one rank that stand side by side may stand the other way round. -/
theorem Sorts.swap {A B : List α} {x y : α} (h : Sorts rank (A ++ x :: y :: B) l)
    (hxy : rank x = rank y) : Sorts rank (A ++ y :: x :: B) l := by
  refine ⟨(List.Perm.append_left A (List.Perm.swap x y B)).trans h.1, ?_⟩
  obtain ⟨hA, hrest, hacross⟩ := List.pairwise_append.mp h.2
  obtain ⟨hx, hrest⟩ := List.pairwise_cons.mp hrest
  obtain ⟨hy, hB⟩ := List.pairwise_cons.mp hrest
  refine List.pairwise_append.mpr ⟨hA, ?_, fun a ha b hb ↦ hacross a ha b ?_⟩
  · refine List.pairwise_cons.mpr ⟨fun b hb ↦ ?_, List.pairwise_cons.mpr ⟨fun b hb ↦ ?_, hB⟩⟩
    · obtain rfl | hb := List.mem_cons.mp hb
      · exact hxy.ge
      · exact hy b hb
    · exact hx b (List.mem_cons_of_mem _ hb)
  · simp only [List.mem_cons] at hb ⊢
    tauto

/-- Where the ranks differ, the place is one that does not depend on the order of equals. -/
theorem Sorts.parted {A B : List α} {x y : α} (h : Sorts rank (A ++ x :: y :: B) l)
    (hxy : rank x ≠ rank y) : Parted rank (A.length + 1) l := by
  obtain ⟨-, hrest, hacross⟩ := List.pairwise_append.mp h.2
  obtain ⟨hx, hrest⟩ := List.pairwise_cons.mp hrest
  obtain ⟨hy, -⟩ := List.pairwise_cons.mp hrest
  have hlt : rank x < rank y := lt_of_le_of_ne (hx y List.mem_cons_self) hxy
  have hbefore : A.countP (fun a ↦ rank a ≤ rank x) = A.length :=
    List.countP_eq_length.mpr fun a ha ↦ decide_eq_true (hacross a ha x List.mem_cons_self)
  have hafter : (y :: B).countP (fun a ↦ rank a ≤ rank x) = 0 := by
    refine List.countP_eq_zero.mpr fun b hb hle ↦ ?_
    have hyb : rank y ≤ rank b := by
      obtain rfl | hb := List.mem_cons.mp hb
      · exact le_rfl
      · exact hy b hb
    exact absurd (of_decide_eq_true hle) (not_le.mpr (hlt.trans_le hyb))
  refine ⟨rank x, ?_⟩
  rw [← h.1.countP_eq, List.countP_append, List.countP_cons_of_pos (by simp), hbefore, hafter]

/-- The pages of rows that may be sorted anew for each page are all rows, each of them once, just
if no page ends between rows of one rank. -/
theorem pages_perm_iff (hn : 0 < n) (hl : l.Nodup) :
    (∀ sorted : ℕ → List α, (∀ k, Sorts rank (sorted k) l) →
      ((List.range (pageCount n l.length)).flatMap fun k ↦ page n k (sorted k)).Perm l) ↔
      ∀ j, 0 < j * n → j * n < l.length → Parted rank (j * n) l := by
  have hall := le_pageCount_mul hn l.length
  constructor
  · intro hpages j hpos hlt
    have hsorts : Sorts rank (l.mergeSort fun a b ↦ rank a ≤ rank b) l := by
      refine ⟨List.mergeSort_perm _ _, ?_⟩
      have hpairwise := @List.pairwise_mergeSort _ (fun a b ↦ decide (rank a ≤ rank b))
        (fun a b c hab hbc ↦ decide_eq_true ((of_decide_eq_true hab).trans (of_decide_eq_true hbc)))
        (fun a b ↦ by simpa using le_total (rank a) (rank b)) l
      exact hpairwise.imp of_decide_eq_true
    generalize l.mergeSort (fun a b ↦ decide (rank a ≤ rank b)) = L at hsorts
    have hlength := hsorts.1.length_eq
    obtain ⟨x, y, B, hdrop⟩ : ∃ x y B, L.drop (j * n - 1) = x :: y :: B := by
      have hmany : 2 ≤ (L.drop (j * n - 1)).length := by
        rw [List.length_drop]
        omega
      match L.drop (j * n - 1), hmany with
      | x :: y :: B, _ => exact ⟨x, y, B, rfl⟩
    obtain ⟨A, hA⟩ : ∃ A, A = L.take (j * n - 1) := ⟨_, rfl⟩
    have hAlength : A.length + 1 = j * n := by
      rw [hA, List.length_take]
      omega
    have hL : L = A ++ x :: y :: B := by rw [hA, ← hdrop, List.take_append_drop]
    rw [hL] at hsorts
    by_cases hxy : rank x = rank y
    · -- The first row would be on the page before this place and on the page after it.
      obtain ⟨k, rfl⟩ := Nat.exists_eq_succ_of_ne_zero (Nat.pos_of_mul_pos_right hpos).ne'
      have hswap := hsorts.swap hxy
      have hperm := hpages (fun i ↦ if i ≤ k then A ++ x :: y :: B else A ++ y :: x :: B)
        fun i ↦ by split_ifs <;> assumption
      have hdisjoint := (List.nodup_flatMap.mp (hperm.nodup_iff.mpr hl)).2
      have hcount : k + 1 < pageCount n l.length :=
        Nat.lt_of_mul_lt_mul_right (hlt.trans_le hall)
      have hapart : (page n k (A ++ x :: y :: B)).Disjoint
          (page n (k + 1) (A ++ y :: x :: B)) := by
        have h := List.pairwise_iff_getElem.mp hdisjoint k (k + 1)
          (by rw [List.length_range]; omega) (by rwa [List.length_range]) (Nat.lt_succ_self k)
        have hafter : ¬k + 1 ≤ k := Nat.not_succ_le_self k
        simpa only [Function.onFun, List.getElem_range, le_refl, if_true, if_neg hafter] using h
      refine (hapart (mem_page_last hn hAlength) ?_).elim
      rw [List.append_cons]
      exact mem_page_first hn (by simpa using hAlength)
    · exact hAlength ▸ hsorts.parted hxy
  · intro hparted sorted hsorted
    have hsame : ((List.range (pageCount n l.length)).flatMap fun k ↦ page n k (sorted k)).Perm
        ((List.range (pageCount n l.length)).flatMap fun k ↦ page n k (sorted 0)) :=
      List.Perm.flatMap_left _ fun k _ ↦ (hsorted k).page_perm (hsorted 0) hparted
    rw [flatMap_page, List.take_of_length_le ((hsorted 0).1.length_eq ▸ hall)] at hsame
    exact hsame.trans (hsorted 0).1

end Rosmon.Library
