import Mathlib.Algebra.GroupWithZero.Nat
import Mathlib.Algebra.Order.BigOperators.Group.List
import Mathlib.Algebra.Order.Group.Nat
import Mathlib.Data.List.Infix
import Mathlib.Data.Nat.Notation

namespace Rosmon.Library

variable {α : Type*} [DecidableEq α]

/-- What stands before the first place where `sep` is found, and what stands after it. -/
def cut (sep : List α) : List α → Option (List α × List α)
  | [] => none
  | c :: cs =>
    if sep <+: c :: cs then some ([], (c :: cs).drop sep.length)
    else (cut sep cs).map fun (a, b) ↦ (c :: a, b)

/-- Cut `n` times at most. -/
def splitN (sep : List α) : ℕ → List α → List (List α)
  | 0, s => [s]
  | n + 1, s => match cut sep s with
    | none => [s]
    | some (a, b) => a :: splitN sep n b

/-- Cut wherever `sep` is found, from the left; `sep` is not empty. -/
def split (sep s : List α) : List (List α) := splitN sep s.length s

/-- In `p` followed by `sep`, the separator is found at the end only. -/
def Closes (sep p : List α) : Prop := ¬sep <:+: (p ++ sep).dropLast

section Closes

variable {α : Type*} {sep : List α}

theorem closes_nil (hsep : sep ≠ []) : Closes sep [] := by
  intro h
  have hlen := h.length_le
  have hpos := List.length_pos_iff.mpr hsep
  rw [List.nil_append, List.length_dropLast] at hlen
  omega

theorem closes_cons (hsep : sep ≠ []) {c : α} {p : List α} :
    Closes sep (c :: p) ↔ ¬sep <+: c :: p ++ sep ∧ Closes sep p := by
  have hne : p ++ sep ≠ [] := List.append_ne_nil_of_right_ne_nil _ hsep
  have hprefix : sep <+: c :: (p ++ sep).dropLast ↔ sep <+: c :: (p ++ sep) := by
    have hlast : c :: (p ++ sep).dropLast <+: c :: (p ++ sep) :=
      List.cons_prefix_cons.mpr ⟨rfl, List.dropLast_prefix _⟩
    refine ⟨fun h ↦ h.trans hlast, fun h ↦ List.prefix_of_prefix_length_le h hlast ?_⟩
    simp only [List.length_cons, List.length_dropLast, List.length_append]
    omega
  rw [Closes, List.cons_append, List.dropLast_cons_of_ne_nil hne, List.infix_cons_iff, not_or,
    hprefix]
  rfl

theorem closes_iff_suffixes (hsep : sep ≠ []) {p : List α} :
    Closes sep p ↔ ∀ t, t <:+ p → t ≠ [] → ¬sep <+: t ++ sep := by
  induction p with
  | nil =>
    refine iff_of_true (closes_nil hsep) fun t ht hne ↦ ?_
    exact absurd (List.suffix_nil.mp ht) hne
  | cons c p ih =>
    rw [closes_cons hsep, ih]
    constructor
    · intro ⟨hfirst, hrest⟩ t ht hne
      obtain rfl | ht := List.suffix_cons_iff.mp ht
      · exact hfirst
      · exact hrest t ht hne
    · intro h
      exact ⟨h _ List.suffix_rfl (List.cons_ne_nil _ _),
        fun t ht hne ↦ h t (ht.trans (List.suffix_cons c p)) hne⟩

/-- A part without the first letter of the separator. -/
theorem closes_of_notMem {c : α} {cs p : List α} (h : c ∉ p) : Closes (c :: cs) p := by
  have hsep : c :: cs ≠ [] := List.cons_ne_nil _ _
  induction p with
  | nil => exact closes_nil hsep
  | cons a p ih =>
    rw [List.mem_cons, not_or] at h
    refine (closes_cons hsep).mpr ⟨fun hpre ↦ ?_, ih h.2⟩
    rw [List.cons_append, List.cons_prefix_cons] at hpre
    exact h.1 hpre.1

/-- A part closes unless `sep` is in it, or its end and a start of `sep` make up one more. -/
theorem closes_iff (hsep : sep ≠ []) {p : List α} :
    Closes sep p ↔ ¬sep <:+: p ∧
      ∀ t ∈ sep.inits, t ≠ [] → sep.drop t.length <+: sep → ¬t <:+ p := by
  rw [closes_iff_suffixes hsep]
  constructor
  · intro h
    constructor
    · rintro ⟨a, b, rfl⟩
      refine h (sep ++ b) ⟨a, by simp⟩ (List.append_ne_nil_of_left_ne_nil hsep _) ?_
      exact ⟨b ++ sep, by simp⟩
    · intro t ht hne hdrop hsuffix
      obtain ⟨u, rfl⟩ := (List.mem_inits _ _).mp ht
      rw [List.drop_left] at hdrop
      exact h t hsuffix hne ((List.prefix_append_right_inj t).mpr hdrop)
  · intro ⟨hinside, hends⟩ t hsuffix hne hpre
    by_cases hlen : sep.length ≤ t.length
    · have ht : sep <+: t := List.prefix_of_prefix_length_le hpre (List.prefix_append t sep) hlen
      exact hinside (ht.isInfix.trans hsuffix.isInfix)
    · have ht : t <+: sep :=
        List.prefix_of_prefix_length_le (List.prefix_append t sep) hpre (by omega)
      obtain ⟨u, rfl⟩ := ht
      refine hends t ((List.mem_inits _ _).mpr (List.prefix_append t u)) hne ?_ hsuffix
      rw [List.drop_left]
      exact (List.prefix_append_right_inj t).mp hpre

end Closes

section Split

variable {sep : List α}

theorem append_of_cut {s a b : List α} (h : cut sep s = some (a, b)) : s = a ++ sep ++ b := by
  induction s generalizing a with
  | nil => cases h
  | cons c s ih =>
    unfold cut at h
    split_ifs at h with hpre
    · obtain ⟨rfl, rfl⟩ := Prod.mk.inj (Option.some.inj h)
      exact (List.prefix_iff_eq_append.mp hpre).symm
    · obtain ⟨⟨a', b'⟩, hcut, heq⟩ := Option.map_eq_some_iff.mp h
      obtain ⟨rfl, rfl⟩ := Prod.mk.inj heq
      rw [ih hcut, List.cons_append, List.cons_append]

theorem cut_eq_none (hsep : sep ≠ []) {s : List α} : cut sep s = none ↔ ¬sep <:+: s := by
  induction s with
  | nil => simpa [cut] using hsep
  | cons c s ih =>
    rw [List.infix_cons_iff, not_or, ← ih, cut]
    split_ifs with hpre <;> simp [hpre]

/-- The first place to cut `p ++ sep ++ r` is the one after `p`. -/
theorem cut_append (hsep : sep ≠ []) {p r : List α} :
    cut sep (p ++ sep ++ r) = some (p, r) ↔ Closes sep p := by
  induction p with
  | nil =>
    obtain ⟨c, cs, rfl⟩ := List.exists_cons_of_ne_nil hsep
    simp [cut, closes_nil hsep]
  | cons c p ih =>
    have hlen : sep.length ≤ (c :: p ++ sep).length := by
      rw [List.length_append]
      exact Nat.le_add_left _ _
    have hprefix : sep <+: c :: (p ++ sep ++ r) ↔ sep <+: c :: p ++ sep :=
      ⟨fun h ↦ List.prefix_of_prefix_length_le h (List.prefix_append (c :: p ++ sep) r) hlen,
        fun h ↦ h.trans (List.prefix_append (c :: p ++ sep) r)⟩
    rw [closes_cons hsep, ← ih, ← hprefix, List.cons_append, List.cons_append, cut]
    by_cases hpre : sep <+: c :: (p ++ sep ++ r)
    · rw [if_pos hpre]
      exact iff_of_false (by simp) fun h ↦ h.1 hpre
    · rw [if_neg hpre]
      refine ⟨fun h ↦ ⟨hpre, ?_⟩, fun h ↦ by rw [h.2]; rfl⟩
      obtain ⟨⟨a, b⟩, hcut, heq⟩ := Option.map_eq_some_iff.mp h
      obtain ⟨hcons, rfl⟩ := Prod.mk.inj heq
      obtain ⟨-, rfl⟩ := List.cons.inj hcons
      exact hcut

/-- Enough cuts are as good as any number of them. -/
theorem splitN_eq (hsep : sep ≠ []) {m n : ℕ} {s : List α} (hm : s.length ≤ m) (hn : s.length ≤ n) :
    splitN sep m s = splitN sep n s := by
  induction m generalizing n s with
  | zero =>
    obtain rfl := List.length_eq_zero_iff.mp (Nat.le_zero.mp hm)
    cases n <;> rfl
  | succ m ih =>
    cases n with
    | zero =>
      obtain rfl := List.length_eq_zero_iff.mp (Nat.le_zero.mp hn)
      rfl
    | succ n =>
      cases hcut : cut sep s with
      | none => simp only [splitN, hcut]
      | some r =>
        have hlen := congrArg List.length (append_of_cut hcut)
        have hpos := List.length_pos_iff.mpr hsep
        simp only [List.length_append] at hlen
        simp only [splitN, hcut]
        rw [ih (n := n) (by omega) (by omega)]

theorem split_of_none {s : List α} (h : cut sep s = none) : split sep s = [s] := by
  unfold split
  cases s.length <;> simp only [splitN, h]

theorem split_of_some (hsep : sep ≠ []) {s a b : List α} (h : cut sep s = some (a, b)) :
    split sep s = a :: split sep b := by
  have hlen := congrArg List.length (append_of_cut h)
  have hpos := List.length_pos_iff.mpr hsep
  simp only [List.length_append] at hlen
  obtain ⟨n, hn⟩ : ∃ n, s.length = n + 1 := ⟨s.length - 1, by omega⟩
  rw [split, hn]
  simp only [splitN, h]
  rw [split, splitN_eq hsep (by omega) le_rfl]

theorem split_ne_nil (s : List α) : split sep s ≠ [] := by
  unfold split
  cases s.length with
  | zero => exact List.cons_ne_nil _ _
  | succ n =>
    unfold splitN
    split <;> exact List.cons_ne_nil _ _

/-- The parts put together again are the text. -/
theorem join_split (hsep : sep ≠ []) (s : List α) : sep.intercalate (split sep s) = s := by
  obtain ⟨n, hn⟩ : ∃ n, n = s.length := ⟨_, rfl⟩
  induction n using Nat.strong_induction_on generalizing s with
  | _ n ih =>
    cases hcut : cut sep s with
    | none => rw [split_of_none hcut, List.intercalate_singleton]
    | some r =>
      obtain ⟨a, b⟩ := r
      have heq := append_of_cut hcut
      have hlen := congrArg List.length heq
      have hpos := List.length_pos_iff.mpr hsep
      simp only [List.length_append] at hlen
      rw [split_of_some hsep hcut, List.intercalate_cons_of_ne_nil (split_ne_nil b),
        ih b.length (by omega) b rfl, ← heq]

/-- The parts that are put together are found again just if each but the last closes. -/
theorem split_join_iff (hsep : sep ≠ []) {ps : List (List α)} {l : List α} :
    split sep (sep.intercalate (ps ++ [l])) = ps ++ [l] ↔
      (∀ p ∈ ps, Closes sep p) ∧ ¬sep <:+: l := by
  induction ps with
  | nil =>
    rw [List.nil_append, List.intercalate_singleton]
    cases hcut : cut sep l with
    | none => simp [split_of_none hcut, (cut_eq_none hsep).mp hcut]
    | some r =>
      have hin : sep <:+: l := by
        by_contra hnot
        rw [(cut_eq_none hsep).mpr hnot] at hcut
        cases hcut
      simp [split_of_some hsep hcut, split_ne_nil, hin]
  | cons p ps ih =>
    have hne : ps ++ [l] ≠ [] := List.append_ne_nil_of_right_ne_nil _ (List.cons_ne_nil _ _)
    have hjoin : sep.intercalate (p :: ps ++ [l]) = p ++ sep ++ sep.intercalate (ps ++ [l]) := by
      rw [List.cons_append, List.intercalate_cons_of_ne_nil hne, List.append_assoc]
    rw [hjoin, List.forall_mem_cons, and_assoc, ← ih, ← cut_append hsep]
    cases hcut : cut sep (p ++ sep ++ sep.intercalate (ps ++ [l])) with
    | none => exact absurd ⟨p, _, rfl⟩ ((cut_eq_none hsep).mp hcut)
    | some r =>
      obtain ⟨a, b⟩ := r
      have heq := append_of_cut hcut
      rw [split_of_some hsep hcut, List.cons_append, List.cons.injEq, Option.some.injEq,
        Prod.mk.injEq]
      constructor
      · rintro ⟨rfl, hsplit⟩
        obtain rfl := List.append_cancel_left heq
        exact ⟨⟨rfl, rfl⟩, hsplit⟩
      · rintro ⟨⟨rfl, rfl⟩, hsplit⟩
        exact ⟨rfl, hsplit⟩

omit [DecidableEq α] in
theorem closes_singleton {c : α} {p : List α} : Closes [c] p ↔ c ∉ p := by
  rw [Closes, List.dropLast_concat, List.singleton_infix_iff]

/-- Each separator of one letter is a place to cut. -/
theorem length_split_singleton (c : α) (s : List α) : (split [c] s).length = s.count c + 1 := by
  have hsep : [c] ≠ [] := List.cons_ne_nil _ _
  obtain ⟨n, hn⟩ : ∃ n, n = s.length := ⟨_, rfl⟩
  induction n using Nat.strong_induction_on generalizing s with
  | _ n ih =>
    cases hcut : cut [c] s with
    | none =>
      have hnot : c ∉ s := fun h ↦
        (cut_eq_none hsep).mp hcut ((List.singleton_infix_iff _ _).mpr h)
      rw [split_of_none hcut, List.count_eq_zero_of_not_mem hnot]
      rfl
    | some r =>
      obtain ⟨a, b⟩ := r
      obtain rfl := append_of_cut hcut
      have hfirst : c ∉ a := closes_singleton.mp ((cut_append hsep).mp hcut)
      have hlen : b.length < n := by
        rw [hn, List.length_append, List.length_append, List.length_singleton]
        omega
      rw [split_of_some hsep hcut, List.length_cons, ih b.length hlen b rfl, List.count_append,
        List.count_append, List.count_eq_zero_of_not_mem hfirst, List.count_singleton_self]
      omega

theorem split_join_of_free {c : α} {ps : List (List α)} (hne : ps ≠ []) (h : ∀ p ∈ ps, c ∉ p) :
    split [c] ([c].intercalate ps) = ps := by
  obtain rfl | ⟨init, l, rfl⟩ := List.eq_nil_or_concat' ps
  · exact absurd rfl hne
  · refine (split_join_iff (List.cons_ne_nil _ _)).mpr ⟨fun p hp ↦ ?_, fun hl ↦ ?_⟩
    · exact closes_singleton.mpr (h p (List.mem_append_left _ hp))
    · exact h l (List.mem_append_right _ (List.mem_singleton_self l))
        ((List.singleton_infix_iff _ _).mp hl)

/-- Each letter in a part makes for one part more. -/
theorem length_split_join {c : α} {ps : List (List α)} (hne : ps ≠ []) :
    (split [c] ([c].intercalate ps)).length = ps.length + (ps.map (·.count c)).sum := by
  rw [length_split_singleton]
  induction ps with
  | nil => exact absurd rfl hne
  | cons p ps ih =>
    cases ps with
    | nil => simp [Nat.add_comm]
    | cons q ps =>
      rw [List.intercalate_cons_of_ne_nil (List.cons_ne_nil _ _), List.count_append,
        List.count_append, List.count_singleton_self, List.map_cons, List.sum_cons,
        List.length_cons]
      have := ih (List.cons_ne_nil _ _)
      omega

end Split

section Replace

variable {old new : List α}

/-- Put `new` wherever `old` is found, from the left; `old` is not empty. -/
def replaceAll (s old new : List α) : List α := new.intercalate (split old s)

theorem replaceAll_of_not {s : List α} (hold : old ≠ []) (h : ¬old <:+: s) :
    replaceAll s old new = s := by
  rw [replaceAll, split_of_none ((cut_eq_none hold).mpr h), List.intercalate_singleton]

theorem replaceAll_of_cut {s a b : List α} (hold : old ≠ []) (h : cut old s = some (a, b))
    (hb : cut old b = none) : replaceAll s old new = a ++ new ++ b := by
  rw [replaceAll, split_of_some hold h, split_of_none hb,
    List.intercalate_cons_of_ne_nil (List.cons_ne_nil _ _), List.intercalate_singleton,
    List.append_assoc]

theorem replaceAll_once (hold : old ≠ []) {p r : List α} (hp : Closes old p) (hr : ¬old <:+: r) :
    replaceAll (p ++ old ++ r) old new = p ++ new ++ r :=
  replaceAll_of_cut hold ((cut_append hold).mpr hp) ((cut_eq_none hold).mpr hr)

/-- The first letter of `old` is found in one place only. -/
theorem replaceAll_of_notMem {c : α} {cs p r : List α} (hp : c ∉ p) (hr : c ∉ r) :
    replaceAll (p ++ c :: cs ++ r) (c :: cs) new = p ++ new ++ r := by
  refine replaceAll_once (List.cons_ne_nil _ _) (closes_of_notMem hp) fun h ↦ ?_
  exact hr (h.subset List.mem_cons_self)

omit [DecidableEq α] in
theorem length_join {ps : List (List α)} (hne : ps ≠ []) (sep : List α) :
    (sep.intercalate ps).length + sep.length = (ps.map List.length).sum + ps.length * sep.length := by
  induction ps with
  | nil => exact absurd rfl hne
  | cons p ps ih =>
    cases ps with
    | nil => simp
    | cons q ps =>
      have hrest := ih (List.cons_ne_nil _ _)
      rw [List.intercalate_cons_of_ne_nil (List.cons_ne_nil _ _), List.map_cons, List.sum_cons,
        List.length_append, List.length_append, List.length_cons, Nat.succ_mul]
      omega

/-- Each place where `old` is found makes the same difference. -/
theorem length_replaceAll (hold : old ≠ []) (s new : List α) :
    (replaceAll s old new).length + new.length + (split old s).length * old.length =
      s.length + old.length + (split old s).length * new.length := by
  have hne : split old s ≠ [] := split_ne_nil s
  have hnew := length_join hne new
  have hjoin := length_join hne old
  rw [join_split hold] at hjoin
  rw [replaceAll]
  omega

/-- The first place where `old` is found is not after any other. -/
theorem length_le_of_cut {s x z a b : List α} (hs : s = x ++ old ++ z)
    (h : cut old s = some (a, b)) : a.length ≤ x.length := by
  subst hs
  induction x generalizing a with
  | nil =>
    cases old with
    | nil =>
      cases z with
      | nil => cases h
      | cons c z =>
        rw [List.nil_append, List.nil_append, cut, if_pos List.nil_prefix] at h
        obtain ⟨rfl, -⟩ := Prod.mk.inj (Option.some.inj h)
        exact le_rfl
    | cons c cs =>
      have hpre : c :: cs <+: c :: (cs ++ z) := List.prefix_append (c :: cs) z
      rw [List.nil_append, List.cons_append, cut, if_pos hpre] at h
      obtain ⟨rfl, -⟩ := Prod.mk.inj (Option.some.inj h)
      exact le_rfl
  | cons c x ih =>
    rw [List.cons_append, List.cons_append, cut] at h
    split_ifs at h
    · obtain ⟨rfl, -⟩ := Prod.mk.inj (Option.some.inj h)
      exact Nat.zero_le _
    · obtain ⟨⟨a', b'⟩, hcut, heq⟩ := Option.map_eq_some_iff.mp h
      obtain ⟨rfl, rfl⟩ := Prod.mk.inj heq
      exact Nat.succ_le_succ (ih hcut)

theorem one_lt_length_split (hold : old ≠ []) {s : List α} (h : old <:+: s) :
    1 < (split old s).length := by
  cases hcut : cut old s with
  | none => exact absurd h ((cut_eq_none hold).mp hcut)
  | some found =>
    rw [split_of_some hold hcut, List.length_cons]
    have hne : split old found.2 ≠ [] := split_ne_nil found.2
    have hpos := List.length_pos_iff.mpr hne
    omega

/-- Where `old` is found once more before, that one is replaced, too. -/
theorem replaceAll_ne (hold : old ≠ []) (hlen : new.length ≠ old.length) {p r : List α}
    (h : old <:+: p) : replaceAll (p ++ old ++ r) old new ≠ p ++ new ++ r := by
  intro heq
  have hlength := length_replaceAll hold (p ++ old ++ r) new
  obtain ⟨x, y, rfl⟩ := h
  have hwhole : x ++ old ++ y ++ old ++ r = x ++ old ++ (y ++ old ++ r) := by simp
  cases hcut : cut old (x ++ old ++ y ++ old ++ r) with
  | none => exact (cut_eq_none hold).mp hcut ⟨x, y ++ old ++ r, hwhole.symm⟩
  | some found =>
    obtain ⟨a, b⟩ := found
    have hparts := append_of_cut hcut
    have ha := length_le_of_cut hwhole hcut
    have hb : y ++ old ++ r <:+ b := by
      refine List.suffix_of_suffix_length_le ⟨x ++ old, hwhole.symm⟩ ⟨a ++ old, hparts.symm⟩ ?_
      have hsame := congrArg List.length hparts
      simp only [List.length_append] at hsame ⊢
      omega
    have hagain : old <:+: b := List.IsInfix.trans ⟨y, r, rfl⟩ hb.isInfix
    have hmany : 2 < (split old (x ++ old ++ y ++ old ++ r)).length := by
      rw [split_of_some hold hcut, List.length_cons]
      have := one_lt_length_split hold hagain
      omega
    obtain ⟨m, hm⟩ : ∃ m, (split old (x ++ old ++ y ++ old ++ r)).length = m + 3 :=
      ⟨_, (Nat.sub_add_cancel hmany).symm⟩
    rw [heq, hm, Nat.add_mul, Nat.add_mul] at hlength
    simp only [List.length_append] at hlength
    have hmul : (m + 1) * new.length = (m + 1) * old.length := by
      rw [Nat.succ_mul, Nat.succ_mul]
      omega
    exact hlen (Nat.eq_of_mul_eq_mul_left (Nat.succ_pos m) hmul)

omit [DecidableEq α] in
/-- A letter that is not in `sep` keeps apart what stands on its two sides. -/
theorem infix_append_cons_iff {sep : List α} {c : α} (hc : c ∉ sep) {x y : List α} :
    sep <:+: x ++ c :: y ↔ sep <:+: x ∨ sep <:+: y := by
  have hpre : ∀ x : List α, sep <+: x ++ c :: y → sep <+: x := by
    intro x h
    by_cases hlen : sep.length ≤ x.length
    · exact List.prefix_of_prefix_length_le h (List.prefix_append _ _) hlen
    · have hx : x ++ [c] <+: x ++ c :: y := by simp
      have hin : x ++ [c] <+: sep := by
        apply List.prefix_of_prefix_length_le hx h
        rw [List.length_append, List.length_singleton]
        omega
      exact absurd (hin.subset (by simp)) hc
  induction x with
  | nil =>
    rw [List.nil_append, List.infix_cons_iff]
    constructor
    · exact Or.imp_left fun h ↦ (hpre [] h).isInfix
    · rintro (h | h)
      · rw [List.infix_nil.mp h]
        exact .inl List.nil_prefix
      · exact .inr h
  | cons a x ih =>
    have hfirst : sep <+: a :: x ++ c :: y ↔ sep <+: a :: x :=
      ⟨hpre (a :: x), fun h ↦ h.trans (List.prefix_append (a :: x) _)⟩
    rw [List.cons_append, List.infix_cons_iff, List.infix_cons_iff, or_assoc]
    exact or_congr hfirst ih

omit [DecidableEq α] in
theorem closes_concat_iff {sep : List α} (hsep : sep ≠ []) {c : α} (hc : c ∉ sep) {x : List α} :
    Closes sep (x ++ [c]) ↔ ¬sep <:+: x := by
  have hdrop : (x ++ [c] ++ sep).dropLast = x ++ c :: sep.dropLast := by
    rw [List.append_assoc, List.dropLast_append_of_ne_nil (by simp), List.singleton_append,
      List.dropLast_cons_of_ne_nil hsep]
  have hself : ¬sep <:+: sep.dropLast := by
    intro h
    have hlen := h.length_le
    have hpos := List.length_pos_iff.mpr hsep
    rw [List.length_dropLast] at hlen
    omega
  rw [Closes, hdrop, infix_append_cons_iff hc, or_iff_left hself]

end Replace

section Parts

variable {c : α} {s p q : List α} {ps : List (List α)}

theorem notMem_part (h : p ∈ split [c] s) : c ∉ p := by
  have hsep : [c] ≠ [] := List.cons_ne_nil _ _
  have hjoin := congrArg (split [c]) (join_split hsep s)
  obtain hnil | ⟨init, l, hparts⟩ := List.eq_nil_or_concat' (split [c] s)
  · exact absurd hnil (split_ne_nil s)
  · rw [hparts] at hjoin h
    obtain ⟨hinit, hlast⟩ := (split_join_iff hsep).mp hjoin
    obtain h | h := List.mem_append.mp h
    · exact closes_singleton.mp (hinit p h)
    · rw [List.mem_singleton.mp h]
      exact fun hmem ↦ hlast ((List.singleton_infix_iff _ _).mpr hmem)

/-- The more parts there are, the shorter is each of them. -/
theorem length_part_le (h : p ∈ split [c] s) :
    p.length + (split [c] s).length ≤ s.length + 1 := by
  have hlength := length_join (@split_ne_nil _ _ [c] s) [c]
  rw [join_split (List.cons_ne_nil _ _), List.length_singleton, Nat.mul_one] at hlength
  have hpart := List.le_sum_of_mem (List.mem_map_of_mem (f := List.length) h)
  omega

theorem split_append_of_notMem (hp : c ∉ p) (h : split [c] s = q :: ps) :
    split [c] (p ++ s) = (p ++ q) :: ps := by
  have hsep : [c] ≠ [] := List.cons_ne_nil _ _
  have hjoin : p ++ s = [c].intercalate ((p ++ q) :: ps) := by
    rw [← join_split hsep s, h]
    cases ps with
    | nil => rw [List.intercalate_singleton, List.intercalate_singleton]
    | cons q' ps =>
      rw [List.intercalate_cons_cons, List.intercalate_cons_cons]
      simp only [List.append_assoc]
  rw [hjoin]
  refine split_join_of_free (List.cons_ne_nil _ _) fun p' hp' ↦ ?_
  have hfree : ∀ p' ∈ q :: ps, c ∉ p' := fun p' hp' ↦ notMem_part (h ▸ hp')
  obtain rfl | hp' := List.mem_cons.mp hp'
  · rw [List.mem_append, not_or]
    exact ⟨hp, hfree q List.mem_cons_self⟩
  · exact hfree p' (List.mem_cons_of_mem _ hp')

omit [DecidableEq α] in
theorem join_append {sep : List α} {qs : List (List α)} (hps : ps ≠ []) (hqs : qs ≠ []) :
    sep.intercalate (ps ++ qs) = sep.intercalate ps ++ sep ++ sep.intercalate qs := by
  induction ps with
  | nil => exact absurd rfl hps
  | cons p ps ih =>
    cases ps with
    | nil => rw [List.singleton_append, List.intercalate_cons_of_ne_nil hqs,
        List.intercalate_singleton, List.append_assoc]
    | cons p' ps =>
      rw [List.cons_append, List.intercalate_cons_of_ne_nil (by simp), ih (by simp),
        List.intercalate_cons_cons]
      simp only [List.append_assoc]

/-- What is put together of texts is cut where each of them is, and between them. -/
theorem split_join (hne : ps ≠ []) : split [c] ([c].intercalate ps) = ps.flatMap (split [c]) := by
  have hsep : [c] ≠ [] := List.cons_ne_nil _ _
  have hflat : ∀ ps : List (List α), ps ≠ [] → ps.flatMap (split [c]) ≠ [] := by
    intro ps hne h
    obtain ⟨p, hp⟩ := List.exists_mem_of_ne_nil _ hne
    exact split_ne_nil p (List.flatMap_eq_nil_iff.mp h p hp)
  have hjoin : [c].intercalate ps = [c].intercalate (ps.flatMap (split [c])) := by
    induction ps with
    | nil => rfl
    | cons p ps ih =>
      rw [List.flatMap_cons]
      by_cases hps : ps = []
      · rw [hps, List.flatMap_nil, List.append_nil, List.intercalate_singleton, join_split hsep]
      · rw [List.intercalate_cons_of_ne_nil hps, join_append (split_ne_nil p) (hflat ps hps),
          join_split hsep, ← ih hps, List.append_assoc]
  rw [hjoin]
  refine split_join_of_free (hflat ps hne) fun p hp ↦ ?_
  obtain ⟨q, -, hp⟩ := List.mem_flatMap.mp hp
  exact notMem_part hp

end Parts

section Trim

variable {ws : List (List α)} {s : List α}

/-- Drop what of `ws` stands at the front, `n` times at most. -/
def dropFront (ws : List (List α)) : ℕ → List α → List α
  | 0, s => s
  | n + 1, s => match ws.find? (· <+: s) with
    | none => s
    | some w => dropFront ws n (s.drop w.length)

def trimFront (ws : List (List α)) (s : List α) : List α := dropFront ws s.length s

/-- Drop what of `ws` stands at either end; no text of `ws` is empty. -/
def trim (ws : List (List α)) (s : List α) : List α :=
  (trimFront (ws.map List.reverse) (trimFront ws s).reverse).reverse

theorem dropFront_suffix (n : ℕ) : dropFront ws n s <:+ s := by
  induction n generalizing s with
  | zero => exact List.suffix_rfl
  | succ n ih =>
    unfold dropFront
    split
    · exact List.suffix_rfl
    · exact ih.trans (List.drop_suffix _ _)

theorem trimFront_eq_self (hws : ∀ w ∈ ws, w ≠ []) :
    trimFront ws s = s ↔ ∀ w ∈ ws, ¬w <+: s := by
  constructor
  · intro h w hw hpre
    have hpos := List.length_pos_iff.mpr (hws w hw)
    have hlen := hpre.length_le
    obtain ⟨n, hn⟩ : ∃ n, s.length = n + 1 := ⟨s.length - 1, by omega⟩
    rw [trimFront, hn, dropFront] at h
    split at h
    next hnone => exact List.find?_eq_none.mp hnone w hw (by simpa using hpre)
    next v hv =>
      have hpos := List.length_pos_iff.mpr (hws v (List.mem_of_find?_eq_some hv))
      have hsuffix : dropFront ws n (s.drop v.length) <:+ s.drop v.length := dropFront_suffix n
      have hshort := hsuffix.length_le
      rw [h, List.length_drop] at hshort
      omega
  · intro h
    have hnone : ws.find? (· <+: s) = none := by
      rw [List.find?_eq_none]
      exact fun w hw ↦ by simpa using h w hw
    unfold trimFront dropFront
    split
    · rfl
    · rw [hnone]

theorem trimFront_eq_of_length (h : s.length ≤ (trimFront ws s).length) : trimFront ws s = s :=
  (dropFront_suffix _).eq_of_length_le h

theorem length_trim_le_front : (trim ws s).length ≤ (trimFront ws s).length := by
  calc (trim ws s).length
      = (trimFront (ws.map List.reverse) (trimFront ws s).reverse).length := List.length_reverse
    _ ≤ (trimFront ws s).reverse.length := (dropFront_suffix _).length_le
    _ = (trimFront ws s).length := List.length_reverse

theorem length_trim_le : (trim ws s).length ≤ s.length :=
  length_trim_le_front.trans (dropFront_suffix _).length_le

/-- A text that is not shorter without what stands at its ends. -/
theorem trim_eq_of_length (h : s.length ≤ (trim ws s).length) : trim ws s = s := by
  have hfront : trimFront ws s = s := trimFront_eq_of_length (h.trans length_trim_le_front)
  have hback : s.reverse.length ≤ (trimFront (ws.map List.reverse) s.reverse).length := by
    rw [trim, hfront, List.length_reverse] at h
    rwa [List.length_reverse]
  rw [trim, hfront, trimFront_eq_of_length hback, List.reverse_reverse]

theorem trim_eq_self_iff (hws : ∀ w ∈ ws, w ≠ []) :
    trim ws s = s ↔ ∀ w ∈ ws, ¬w <+: s ∧ ¬w <:+ s := by
  have hback : (trimFront (ws.map List.reverse) s.reverse).reverse = s ↔
      ∀ w ∈ ws, ¬w <:+ s := by
    rw [List.reverse_eq_iff, trimFront_eq_self, List.forall_mem_map]
    · simp only [List.reverse_prefix]
    · exact List.forall_mem_map.mpr fun w hw ↦ List.reverse_ne_nil_iff.mpr (hws w hw)
  rw [forall₂_and, ← trimFront_eq_self hws, ← hback]
  constructor
  · intro h
    have hfront : trimFront ws s = s :=
      trimFront_eq_of_length ((congrArg List.length h).ge.trans length_trim_le_front)
    rw [trim, hfront] at h
    exact ⟨hfront, h⟩
  · rintro ⟨hfront, hback⟩
    rw [trim, hfront]
    exact hback

end Trim

end Rosmon.Library
