import Rosmon.Job.Suspension

namespace Rosmon.Job

open Go Service

section Groups

variable {c : Char} {s : List Char}

/-- Digits in groups of three, of which the first may be shorter, with a dot before each of the
others. -/
def Grouped (digits text : List Char) : Prop :=
  ∃ (first : List Char) (rest : List (List Char)), (1 ≤ first.length ∧ first.length ≤ 3) ∧
    (∀ g ∈ rest, g.length = 3) ∧ first ++ rest.flatten = digits ∧
    text = first ++ rest.flatMap ('.' :: ·)

/-- One more character at the front. -/
theorem groupThousands_cons (h : s ≠ []) : groupThousands (c :: s) =
    if s.length % 3 = 0 then c :: '.' :: groupThousands s else c :: groupThousands s := by
  obtain ⟨d, s, rfl⟩ := List.exists_cons_of_ne_nil h
  -- Behind the first two characters, what decides is the same number of characters that follow.
  have hrest : (s.zipIdx 2).flatMap (fun p ↦
      if 0 < p.2 ∧ (s.length + 1 + 1 - p.2) % 3 = 0 then ['.', p.1] else [p.1]) =
      (s.zipIdx 1).flatMap (fun p ↦
        if 0 < p.2 ∧ (s.length + 1 - p.2) % 3 = 0 then ['.', p.1] else [p.1]) := by
    rw [show (2 : ℕ) = 1 + 1 from rfl, List.zipIdx_succ, List.flatMap_map]
    refine List.flatMap_congr fun p hp ↦ ?_
    have hpos : 1 ≤ p.2 := List.le_snd_of_mem_zipIdx hp
    have hpos' : 0 < p.2 := hpos
    simp only [Nat.succ_pos, true_and, Nat.add_sub_add_right, hpos']
  simp only [groupThousands, List.length_cons, List.zipIdx_cons, List.flatMap_cons, Nat.zero_add,
    Nat.add_sub_cancel, Nat.lt_irrefl, false_and, if_false, Nat.lt_one_iff]
  rw [hrest]
  split_ifs <;> simp_all

theorem grouped_groupThousands (h : s ≠ []) : Grouped s (groupThousands s) := by
  induction s with
  | nil => exact absurd rfl h
  | cons c s ih =>
    by_cases hs : s = []
    · subst hs
      exact ⟨[c], [], ⟨by simp, by simp⟩, by simp, by simp, by simp [groupThousands]⟩
    obtain ⟨first, rest, ⟨hpos, hthree⟩, hrest, hflat, htext⟩ := ih hs
    have hlength : s.length = first.length + rest.length * 3 := by
      rw [← hflat, List.length_append, List.length_flatten,
        List.map_congr_left fun g hg ↦ hrest g hg]
      simp
    rw [groupThousands_cons hs, htext]
    split_ifs with hmod
    · refine ⟨[c], first :: rest, ⟨by simp, by simp⟩, ?_, by simp [hflat], by simp⟩
      intro g hg
      obtain rfl | hg := List.mem_cons.mp hg
      · omega
      · exact hrest g hg
    · refine ⟨c :: first, rest, ⟨by simp, ?_⟩, hrest, by simp [hflat], by simp⟩
      rw [List.length_cons]
      omega

/-- Without the dots, the digits are left. -/
theorem filter_grouped {digits text : List Char} (h : Grouped digits text) (hdot : '.' ∉ digits) :
    text.filter (· ≠ '.') = digits := by
  obtain ⟨first, rest, -, -, rfl, rfl⟩ := h
  have hkeep : ∀ l : List Char, '.' ∉ l → l.filter (· ≠ '.') = l := by
    intro l hl
    rw [List.filter_eq_self]
    intro c hc
    simpa using ne_of_mem_of_not_mem hc hl
  have hgroups : ∀ l : List (List Char), '.' ∉ l.flatten →
      (l.flatMap ('.' :: ·)).filter (· ≠ '.') = l.flatten := by
    intro l hl
    induction l with
    | nil => rfl
    | cons g l ih =>
      rw [List.flatten_cons, List.mem_append, not_or] at hl
      rw [List.flatMap_cons, List.flatten_cons, List.filter_append, ih hl.2, List.filter_cons,
        if_neg (by simp), hkeep g hl.1]
  rw [List.mem_append, not_or] at hdot
  rw [List.filter_append, hkeep first hdot.1, hgroups rest hdot.2]

end Groups

section Agreement

/-- The decimal text of an amount with dots between the groups of its digits, and nowhere else. -/
def Written (amount : ℤ) (text : List Char) : Prop :=
  text.filter (· ≠ '.') = itoa amount ∧
    ∃ s, Grouped (fmtInt amount.natAbs) s ∧ text = (if amount < 0 then ['-'] else []) ++ s

theorem written_groupThousands (amount : ℤ) : Written amount
    ((if amount < 0 then ['-'] else []) ++ groupThousands (fmtInt amount.natAbs)) := by
  have hgrouped : Grouped (fmtInt amount.natAbs) (groupThousands (fmtInt amount.natAbs)) :=
    grouped_groupThousands Nat.toDigits_ne_nil
  have hdot : '.' ∉ fmtInt amount.natAbs := fun h ↦ absurd (isDigit_of_mem_fmtInt h) (by decide)
  refine ⟨?_, _, hgrouped, rfl⟩
  rw [List.filter_append, filter_grouped hgrouped hdot]
  unfold itoa
  split_ifs <;> rfl

theorem toList_toString (n : ℤ) : (toString n).toList = itoa n := by
  cases n with
  | ofNat n =>
    have hpos : ¬(n : ℤ) < 0 := by omega
    simp only [itoa, fmtInt, Int.ofNat_eq_natCast, if_neg hpos, Int.natAbs_natCast]
    exact String.toList_ofList
  | negSucc n => simp [itoa, fmtInt, toString, Int.repr]

/-- Texts of at most three characters have no dots in them either. -/
theorem rupiah_eq (amount : ℤ) :
    rupiah amount = "Rp " ++ String.ofList (groupThousands (itoa amount)) := by
  unfold rupiah
  dsimp only
  rw [toList_toString]
  split_ifs with hshort
  · have hsame : groupThousands (itoa amount) = itoa amount := by
      match itoa amount, hshort with
      | [], _ => rfl
      | [_], _ => rfl
      | [_, _], _ => rfl
      | [_, _, _], _ => rfl
    rw [hsame]
  · rfl

theorem append_ofList_inj {s t : List Char} :
    "Rp " ++ String.ofList s = "Rp " ++ String.ofList t ↔ s = t := by
  rw [← String.toList_inj, String.toList_append, String.toList_append, List.append_cancel_left_eq,
    String.toList_ofList, String.toList_ofList]

theorem neg_toInt {amount : Int64} (h : amount ≠ Int64.minValue) :
    (-amount.toInt).bmod (2 ^ 64) = -amount.toInt := by
  have hlow := Int64.le_toInt amount
  have hhigh := Int64.toInt_lt amount
  have hne : amount.toInt ≠ -2 ^ 63 := fun heq ↦ h (Int64.toInt_inj.mp heq)
  rw [Int.bmod_eq_of_le] <;> omega

/-- The sign is written before the groups, except for the amount that is its own negative. -/
theorem formatRupiah_eq {amount : Int64} (h : amount ≠ Int64.minValue) :
    formatRupiah amount.toInt = String.ofList ((if amount.toInt < 0 then ['-'] else []) ++
      groupThousands (fmtInt amount.toInt.natAbs)) := by
  unfold formatRupiah
  split_ifs with hneg
  · have hitoa : itoa (-amount.toInt) = fmtInt amount.toInt.natAbs := by
      rw [itoa, if_neg (by omega), Int.natAbs_neg]
    rw [neg_toInt h, hitoa, List.singleton_append, ← String.toList_inj]
    simp
  · rw [itoa, if_neg hneg, List.nil_append]

/-- Both write an amount alike, with a dot between the groups of its digits. -/
def Agree (amount : Int64) : Prop :=
  rupiah amount.toInt = "Rp " ++ formatRupiah amount.toInt ∧
    Written amount.toInt (formatRupiah amount.toInt).toList ∧
    ∃ text, rupiah amount.toInt = "Rp " ++ text ∧ Written amount.toInt text.toList

/-- They do just if the minus sign is not counted into the groups: the amount is not negative, or
its digits do not make up whole groups and it has a negative. -/
theorem rupiah_agree_iff (amount : Int64) : Agree amount ↔ 0 ≤ amount ∨
    amount ≠ Int64.minValue ∧ (fmtInt amount.toInt.natAbs).length % 3 ≠ 0 := by
  have hsign : 0 ≤ amount ↔ 0 ≤ amount.toInt := Int64.le_iff_toInt_le
  by_cases hmin : amount = Int64.minValue
  · subst hmin
    refine iff_of_false (fun h ↦ absurd h.1 (by decide)) ?_
    decide
  have hformat := formatRupiah_eq hmin
  have hwritten : Written amount.toInt (formatRupiah amount.toInt).toList := by
    rw [hformat, String.toList_ofList]
    exact written_groupThousands amount.toInt
  have hreduce : Agree amount ↔ rupiah amount.toInt = "Rp " ++ formatRupiah amount.toInt :=
    ⟨fun h ↦ h.1, fun h ↦ ⟨h, hwritten, _, h, hwritten⟩⟩
  rw [hreduce, rupiah_eq, hformat, append_ofList_inj, hsign, itoa]
  by_cases hneg : amount.toInt < 0
  · have hcons := groupThousands_cons (c := '-') (s := fmtInt amount.toInt.natAbs)
      Nat.toDigits_ne_nil
    rw [if_pos hneg, if_pos hneg, hcons]
    by_cases hmod : (fmtInt amount.toInt.natAbs).length % 3 = 0
    · rw [if_pos hmod]
      refine iff_of_false (fun heq ↦ ?_) (by simp [hmod, hneg])
      have hlength := congrArg List.length heq
      simp at hlength
    · rw [if_neg hmod]
      exact iff_of_true rfl (.inr ⟨hmin, hmod⟩)
  · rw [if_neg hneg, if_neg hneg, List.nil_append]
    exact iff_of_true rfl (.inl (not_lt.mp hneg))

/-- Three digits behind a minus sign: `Rp -.250` and `-250`. -/
theorem dot_after_minus : ¬Agree (-250) := by
  intro h
  exact absurd h.1 (by decide)

end Agreement

end Rosmon.Job
