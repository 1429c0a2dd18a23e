import Rosmon.Go.Text

namespace Rosmon.Notification

open Go

/-- What both normalisers keep of a phone text. -/
def digitsOf (phone : String) : List Char := phone.toList.filter isDigit

/-- `normalizePhone` of the payment service. -/
def normalizePhone (phone : String) : String :=
  let digits := digitsOf phone
  if ['0'] <+: digits then String.ofList (['6', '2'] ++ digits.drop 1)
  else if ¬['6', '2'] <+: digits then String.ofList (['6', '2'] ++ digits)
  else String.ofList digits

/-- `normalizeNumber` of the WhatsApp manager. -/
def normalizeNumber (phone cc : String) : String :=
  let d := digitsOf phone
  if d = [] then ""
  else if ['0'] <+: d then String.ofList (cc.toList ++ d.drop 1)
  else String.ofList d

section Phones

variable {p : String} {d : List Char}

/-- A number that begins as one of the country does. -/
def Fronted (d : List Char) : Prop := ['0'] <+: d ∨ ['6', '2'] <+: d

/-- A number without the zero or the code that it begins with. -/
def national (d : List Char) : List Char :=
  if ['0'] <+: d then d.drop 1 else if ['6', '2'] <+: d then d.drop 2 else d

/-- Two texts that differ only in what is no digit, and in a zero or a code of the country at the
front. -/
def Alike (p q : String) : Prop :=
  ∃ n, ∃ a ∈ [[], ['0'], ['6', '2']], ∃ b ∈ [[], ['0'], ['6', '2']],
    digitsOf p = a ++ n ∧ digitsOf q = b ++ n

theorem append_national (h : ['6', '2'] <+: d) : ['6', '2'] ++ national d = d := by
  obtain ⟨n, rfl⟩ := h
  have hzero : ¬['0'] <+: ['6', '2'] ++ n := by simp
  rw [national, if_neg hzero, if_pos (List.prefix_append _ _)]
  rfl

theorem normalizePhone_eq (p : String) :
    normalizePhone p = String.ofList (['6', '2'] ++ national (digitsOf p)) := by
  unfold normalizePhone
  dsimp only
  split_ifs with hzero hcode
  · rw [national, if_pos hzero]
  · rw [append_national hcode]
  · rw [national, if_neg hzero, if_neg hcode]

theorem normalizeNumber_fronted (h : Fronted (digitsOf p)) :
    normalizeNumber p "62" = String.ofList (['6', '2'] ++ national (digitsOf p)) := by
  have hne : digitsOf p ≠ [] := by
    intro hnil
    rw [hnil] at h
    obtain h | h := h <;> exact absurd h (by decide)
  unfold normalizeNumber
  dsimp only
  rw [if_neg hne]
  by_cases hzero : ['0'] <+: digitsOf p
  · rw [if_pos hzero, national, if_pos hzero]
    rfl
  · rw [if_neg hzero, append_national (h.resolve_left hzero)]

theorem normalizeNumber_other (h : ¬Fronted (digitsOf p)) :
    normalizeNumber p "62" = String.ofList (digitsOf p) := by
  unfold normalizeNumber
  dsimp only
  split_ifs with hnil hzero
  · rw [hnil]
  · exact absurd (.inl hzero) h
  · rfl

/-- A number of digits is the text that it is. -/
theorem digitsOf_ofList (h : ∀ c ∈ d, isDigit c = true) : digitsOf (String.ofList d) = d := by
  rw [digitsOf, String.toList_ofList, List.filter_eq_self]
  exact h

theorem isDigit_digitsOf (p : String) : ∀ c ∈ digitsOf p, isDigit c = true :=
  fun _ hc ↦ List.of_mem_filter hc

theorem isDigit_national (p : String) :
    ∀ c ∈ ['6', '2'] ++ national (digitsOf p), isDigit c = true := by
  have hkeeps : ∀ c ∈ national (digitsOf p), c ∈ digitsOf p := by
    intro c hc
    unfold national at hc
    split_ifs at hc
    · exact List.mem_of_mem_drop hc
    · exact List.mem_of_mem_drop hc
    · exact hc
  intro c hc
  obtain hc | hc := List.mem_append.mp hc
  · obtain rfl | rfl : c = '6' ∨ c = '2' := by simpa using hc
    · rfl
    · rfl
  · exact isDigit_digitsOf p c (hkeeps c hc)

theorem digitsOf_normalizePhone (p : String) :
    digitsOf (normalizePhone p) = ['6', '2'] ++ national (digitsOf p) := by
  rw [normalizePhone_eq, digitsOf_ofList (isDigit_national p)]

theorem normalizePhone_idem (p : String) :
    normalizePhone (normalizePhone p) = normalizePhone p := by
  rw [normalizePhone_eq (normalizePhone p), digitsOf_normalizePhone,
    append_national (List.prefix_append _ _), normalizePhone_eq]

theorem normalizeNumber_idem (p : String) :
    normalizeNumber (normalizeNumber p "62") "62" = normalizeNumber p "62" := by
  by_cases h : Fronted (digitsOf p)
  · have hdigits : digitsOf (normalizeNumber p "62") = ['6', '2'] ++ national (digitsOf p) := by
      rw [normalizeNumber_fronted h, digitsOf_ofList (isDigit_national p)]
    have hcode : ['6', '2'] <+: digitsOf (normalizeNumber p "62") :=
      hdigits ▸ List.prefix_append _ _
    rw [normalizeNumber_fronted (.inr hcode), append_national hcode, hdigits,
      normalizeNumber_fronted h]
  · have hdigits : digitsOf (normalizeNumber p "62") = digitsOf p := by
      rw [normalizeNumber_other h, digitsOf_ofList (isDigit_digitsOf p)]
    rw [normalizeNumber_other (hdigits ▸ h), hdigits, normalizeNumber_other h]

theorem ofList_inj {s t : List Char} : String.ofList s = String.ofList t ↔ s = t := by
  rw [← String.toList_inj, String.toList_ofList, String.toList_ofList]

theorem normalizers_iff (p : String) :
    normalizePhone p = normalizeNumber p "62" ↔ Fronted (digitsOf p) := by
  rw [normalizePhone_eq]
  by_cases h : Fronted (digitsOf p)
  · exact iff_of_true (normalizeNumber_fronted h).symm h
  · rw [normalizeNumber_other h, ofList_inj]
    exact iff_of_false (fun heq ↦ h (.inr ⟨_, heq⟩)) h

/-- What a phone text `p`, and one that is like it, are normalised to. -/
structure Normalised (p q : String) : Prop where
  same : normalizePhone p = normalizeNumber p "62"
  phone : normalizePhone (normalizePhone p) = normalizePhone p
  number : normalizeNumber (normalizeNumber p "62") "62" = normalizeNumber p "62"
  alike : Alike p q →
    normalizePhone p = normalizePhone q ∧ normalizeNumber p "62" = normalizeNumber q "62"

/-- They are normalised as they should be just if the first begins as a number of the country, and
the other so too if it is like the first, with the same digits behind. -/
theorem normalised_iff (p q : String) : Normalised p q ↔ Fronted (digitsOf p) ∧
    (Alike p q → Fronted (digitsOf q) ∧ national (digitsOf p) = national (digitsOf q)) := by
  constructor
  · intro h
    have hp := (normalizers_iff p).mp h.same
    refine ⟨hp, fun halike ↦ ?_⟩
    obtain ⟨hphone, hnumber⟩ := h.alike halike
    have hq : normalizePhone q = normalizeNumber q "62" := by rw [← hphone, ← hnumber, h.same]
    rw [normalizePhone_eq, normalizePhone_eq, ofList_inj, List.append_cancel_left_eq] at hphone
    exact ⟨(normalizers_iff q).mp hq, hphone⟩
  · rintro ⟨hp, hq⟩
    refine ⟨(normalizers_iff p).mpr hp, normalizePhone_idem p, normalizeNumber_idem p,
      fun halike ↦ ?_⟩
    obtain ⟨hq, hnational⟩ := hq halike
    have hphone : normalizePhone p = normalizePhone q := by
      rw [normalizePhone_eq, normalizePhone_eq, hnational]
    refine ⟨hphone, ?_⟩
    rw [← (normalizers_iff p).mpr hp, ← (normalizers_iff q).mpr hq, hphone]

/-- A number of another country becomes one of this in an invoice, and stays what it is in a
message. -/
theorem other_country : ¬Normalised "+65 8123 4567" "+65 8123 4567" := by
  intro h
  exact absurd h.same (by decide)

end Phones

end Rosmon.Notification
