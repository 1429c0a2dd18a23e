import Mathlib.Data.List.Basic

namespace Rosmon.Mikrotik

/-- Where in a script a character stands: outside every string literal, in one, behind the
backslash in one, or in the name of a variable in one. -/
inductive Place
  | code
  | literal
  | escape
  | name
  deriving DecidableEq

/-- `"` -/
def quoteMark : UInt8 := 34

/-- `\` -/
def backslash : UInt8 := 92

/-- `$` -/
def dollarSign : UInt8 := 36

/-- What a character adds to the structure of a script. One that a literal merely holds adds
nothing. -/
inductive Token
  | code (c : UInt8)
  | quote
  | expansion
  | name (c : UInt8)
  deriving DecidableEq

/-- A letter or a digit. -/
def isWord (c : UInt8) : Bool := (Char.ofNat c.toNat).isAlphanum

/-- A character in a literal. -/
def literalStep (c : UInt8) : Place × Option Token :=
  if c = quoteMark then (.code, some .quote)
  else if c = backslash then (.escape, none)
  else if c = dollarSign then (.name, some .expansion)
  else (.literal, none)

def Place.step (p : Place) (c : UInt8) : Place × Option Token :=
  match p with
  | .code => if c = quoteMark then (.literal, some .quote) else (.code, some (.code c))
  | .literal => literalStep c
  | .escape => (.literal, none)
  | .name => if isWord c then (.name, some (.name c)) else literalStep c

/-- Where the character stands that follows a text. -/
def Place.after (p : Place) (s : List UInt8) : Place := s.foldl (fun p c ↦ (p.step c).1) p

/-- Characters that are marked with where they come from. -/
abbrev Marked (τ : Type) := List (τ × UInt8)

section Tokens

variable {τ : Type}

/-- The structure of a script, each token with the mark of its character. -/
def tokens : Place → Marked τ → List (τ × Token)
  | _, [] => []
  | p, (m, c) :: s => ((p.step c).2.map fun t ↦ (m, t)).toList ++ tokens (p.step c).1 s

theorem tokens_append (p : Place) (s t : Marked τ) :
    tokens p (s ++ t) = tokens p s ++ tokens (p.after (s.map Prod.snd)) t := by
  induction s generalizing p with
  | nil => rfl
  | cons a s ih =>
    obtain ⟨m, c⟩ := a
    rw [List.cons_append, tokens, tokens, ih, List.append_assoc]
    rfl

theorem after_append (p : Place) (s t : List UInt8) : p.after (s ++ t) = (p.after s).after t :=
  List.foldl_append

theorem mark_of_mem_tokens {p : Place} {s : Marked τ} {a : τ × Token} (h : a ∈ tokens p s) :
    ∃ c, (a.1, c) ∈ s := by
  induction s generalizing p with
  | nil => cases h
  | cons b s ih =>
    obtain ⟨m, c⟩ := b
    rw [tokens, List.mem_append] at h
    obtain h | h := h
    · obtain ⟨t, -, rfl⟩ := Option.map_eq_some_iff.mp (Option.mem_toList.mp h)
      exact ⟨c, List.mem_cons_self⟩
    · obtain ⟨c', hc'⟩ := ih h
      exact ⟨c', List.mem_cons_of_mem _ hc'⟩

end Tokens

/-- Every quote and every dollar sign is behind a backslash, and something stands behind every
backslash. -/
def contained : List UInt8 → Bool
  | [] => true
  | [c] => c ≠ backslash && c ≠ quoteMark && c ≠ dollarSign
  | c :: d :: s =>
    if c = backslash then contained s
    else c ≠ quoteMark && c ≠ dollarSign && contained (d :: s)

/-- No character of the text means anything in a literal. -/
def Plain (s : List UInt8) : Prop := ∀ c ∈ s, c ≠ quoteMark ∧ c ≠ backslash ∧ c ≠ dollarSign

instance (s : List UInt8) : Decidable (Plain s) :=
  decidable_of_iff (s.all fun c ↦ decide (c ≠ quoteMark ∧ c ≠ backslash ∧ c ≠ dollarSign))
    (by simp [Plain])

theorem Plain.append {s t : List UInt8} (hs : Plain s) (ht : Plain t) : Plain (s ++ t) := by
  intro c hc
  exact (List.mem_append.mp hc).elim (hs c) (ht c)

section Contained

variable {τ : Type} (m : τ)

/-- A text with one mark. -/
def marked (s : List UInt8) : Marked τ := s.map fun c ↦ (m, c)

@[simp] theorem marked_append (s t : List UInt8) : marked m (s ++ t) = marked m s ++ marked m t :=
  List.map_append

@[simp] theorem map_snd_marked (s : List UInt8) : (marked m s).map Prod.snd = s := by
  simp [marked, Function.comp_def]

theorem literalStep_plain {c : UInt8} (hquote : c ≠ quoteMark) (hslash : c ≠ backslash)
    (hdollar : c ≠ dollarSign) : literalStep c = (.literal, none) := by
  rw [literalStep, if_neg hquote, if_neg hslash, if_neg hdollar]

theorem contained_cons {c : UInt8} (s : List UInt8) (h : c ≠ backslash) :
    contained (c :: s) = (decide (c ≠ quoteMark) && decide (c ≠ dollarSign) && contained s) := by
  cases s with
  | nil => simp [contained, h]
  | cons d s => rw [contained, if_neg h]

theorem contained_backslash (d : UInt8) (s : List UInt8) :
    contained (backslash :: d :: s) = contained s := by
  rw [contained, if_pos rfl]

/-- What a literal makes of a character that means nothing in it. -/
theorem tokens_cons_plain {c : UInt8} (hquote : c ≠ quoteMark) (hslash : c ≠ backslash)
    (hdollar : c ≠ dollarSign) (s : List UInt8) :
    tokens .literal (marked m (c :: s)) = tokens .literal (marked m s) ∧
      Place.literal.after (c :: s) = Place.literal.after s := by
  have hstep : Place.literal.step c = (.literal, none) := literalStep_plain hquote hslash hdollar
  rw [marked, List.map_cons, tokens, Place.after, List.foldl_cons, hstep]
  exact ⟨rfl, rfl⟩

/-- A text that adds nothing is contained and leads back into the literal, or else it ends in a
backslash that is left open. -/
theorem contained_of_tokens {s : List UInt8} (h : tokens .literal (marked m s) = []) :
    contained s = true ∧ Place.literal.after s = .literal ∨ Place.literal.after s = .escape := by
  induction s using contained.induct with
  | case1 => exact .inl ⟨rfl, rfl⟩
  | case2 c =>
    by_cases hslash : c = backslash
    · subst hslash
      exact .inr rfl
    · have hquote : c ≠ quoteMark := by
        rintro rfl
        cases h
      have hdollar : c ≠ dollarSign := by
        rintro rfl
        cases h
      rw [(tokens_cons_plain m hquote hslash hdollar []).2, contained_cons _ hslash]
      simp [hquote, hdollar, contained, Place.after]
  | case3 d s ih =>
    rw [contained_backslash]
    exact ih h
  | case4 c d s hslash ih =>
    have hquote : c ≠ quoteMark := by
      rintro rfl
      cases h
    have hdollar : c ≠ dollarSign := by
      rintro rfl
      cases h
    obtain ⟨htokens, hafter⟩ := tokens_cons_plain m hquote hslash hdollar (d :: s)
    rw [htokens] at h
    rw [hafter, contained_cons _ hslash]
    simpa [hquote, hdollar] using ih h

theorem tokens_of_contained {s : List UInt8} (h : contained s = true) :
    tokens .literal (marked m s) = [] ∧ Place.literal.after s = .literal := by
  induction s using contained.induct with
  | case1 => exact ⟨rfl, rfl⟩
  | case2 c =>
    have hplain : (¬c = backslash ∧ ¬c = quoteMark) ∧ ¬c = dollarSign := by
      simpa [contained] using h
    obtain ⟨htokens, hafter⟩ := tokens_cons_plain m hplain.1.2 hplain.1.1 hplain.2 []
    rw [htokens, hafter]
    exact ⟨rfl, rfl⟩
  | case3 d s ih =>
    rw [contained_backslash] at h
    exact ih h
  | case4 c d s hslash ih =>
    simp only [contained_cons _ hslash, Bool.and_eq_true, decide_eq_true_eq] at h
    obtain ⟨htokens, hafter⟩ := tokens_cons_plain m h.1.1 hslash h.1.2 (d :: s)
    rw [htokens, hafter]
    exact ih h.2

theorem contained_of_plain {s : List UInt8} (h : Plain s) : contained s = true := by
  induction s with
  | nil => rfl
  | cons c s ih =>
    obtain ⟨hquote, hslash, hdollar⟩ := h c List.mem_cons_self
    rw [contained_cons s hslash, ih fun d hd ↦ h d (List.mem_cons_of_mem _ hd)]
    simp [hquote, hdollar]

theorem after_of_plain {s : List UInt8} (h : Plain s) : Place.literal.after s = .literal :=
  (tokens_of_contained () (contained_of_plain h)).2

end Contained

section Holes

variable {p : Place} {x y h v : List UInt8} {r r' : Marked Bool}

/-- A value that stands where a contained one would, in a literal of a text that is the same
otherwise: the structure is the same just if the value adds nothing to it and what follows
makes the same of where the value ends. -/
theorem tokens_hole (hx : p.after x = .literal) (hh : contained h = true)
    (hy : tokens .literal (marked false y) ≠ []) :
    tokens p (marked false x ++ marked true v ++ marked false y ++ r) =
        tokens p (marked false x ++ marked true h ++ marked false y ++ r') ↔
      tokens .literal (marked true v) = [] ∧
        tokens (Place.literal.after v) (marked false y ++ r) =
          tokens .literal (marked false y ++ r') := by
  obtain ⟨hnothing, hback⟩ := tokens_of_contained true hh
  simp only [List.append_assoc]
  rw [tokens_append p, tokens_append p, map_snd_marked, hx, List.append_cancel_left_eq,
    tokens_append .literal (marked true v), tokens_append .literal (marked true h),
    map_snd_marked, map_snd_marked, hnothing, hback, List.nil_append]
  constructor
  · intro heq
    cases hv : tokens .literal (marked true v) with
    | nil => exact ⟨rfl, by rwa [hv, List.nil_append] at heq⟩
    | cons a as =>
      obtain ⟨b, bs, hb⟩ := List.exists_cons_of_ne_nil hy
      rw [hv, tokens_append .literal (marked false y), hb, List.cons_append, List.cons_append,
        List.cons.injEq] at heq
      obtain ⟨c, hc⟩ := mark_of_mem_tokens (hv ▸ List.mem_cons_self : a ∈ _)
      obtain ⟨d, hd⟩ := mark_of_mem_tokens (hb ▸ List.mem_cons_self : b ∈ _)
      have htrue : c ∈ v ∧ a.1 = true := by simpa [marked] using hc
      have hfalse : d ∈ y ∧ b.1 = false := by simpa [marked] using hd
      have hsame := htrue.2
      rw [heq.1, hfalse.2] at hsame
      cases hsame
  · rintro ⟨hv, heq⟩
    rw [hv, List.nil_append, heq]

/-- A hole before a text that makes the same of a literal and of an open backslash. -/
theorem tokens_hole_plain {c : UInt8} (hc : Plain [c]) (hx : p.after x = .literal)
    (hh : contained h = true) (hy : tokens .literal (marked false (c :: y)) ≠ []) :
    tokens p (marked false x ++ marked true v ++ marked false (c :: y) ++ r) =
        tokens p (marked false x ++ marked true h ++ marked false (c :: y) ++ r') ↔
      tokens .literal (marked true v) = [] ∧
        tokens (Place.literal.after y) r = tokens (Place.literal.after y) r' := by
  rw [tokens_hole hx hh hy]
  refine and_congr_right fun hv ↦ ?_
  obtain ⟨hquote, hslash, hdollar⟩ := hc c (List.mem_singleton_self c)
  have hstep : Place.literal.step c = (.literal, none) := literalStep_plain hquote hslash hdollar
  have hback : ∀ q : Place, q = .literal ∨ q = .escape → ∀ r : Marked Bool,
      tokens q (marked false (c :: y) ++ r) =
        tokens .literal (marked false y) ++ tokens (Place.literal.after y) r := by
    rintro q (rfl | rfl) r
    · rw [marked, List.map_cons, List.cons_append, tokens, hstep, ← marked, tokens_append,
        map_snd_marked]
      rfl
    · rw [marked, List.map_cons, List.cons_append, tokens, ← marked]
      exact (tokens_append _ _ _).trans (by rw [map_snd_marked]; rfl)
  have hplace : Place.literal.after v = .literal ∨ Place.literal.after v = .escape :=
    (contained_of_tokens true hv).imp_left And.right
  rw [hback _ hplace, hback _ (.inl rfl), List.append_cancel_left_eq]

/-- A hole before a text that gives an open backslash away. -/
theorem tokens_hole_told (hx : p.after x = .literal) (hh : contained h = true)
    (hy : tokens .literal (marked false y) ≠ [])
    (htells : tokens .escape (marked false y ++ r) ≠ tokens .literal (marked false y ++ r')) :
    tokens p (marked false x ++ marked true v ++ marked false y ++ r) =
        tokens p (marked false x ++ marked true h ++ marked false y ++ r') ↔
      contained v = true ∧
        tokens (Place.literal.after y) r = tokens (Place.literal.after y) r' := by
  rw [tokens_hole hx hh hy]
  have hback : tokens .literal (marked false y ++ r) = tokens .literal (marked false y ++ r') ↔
      tokens (Place.literal.after y) r = tokens (Place.literal.after y) r' := by
    rw [tokens_append, tokens_append, map_snd_marked, List.append_cancel_left_eq]
  constructor
  · rintro ⟨hv, heq⟩
    obtain ⟨hcontained, hplace⟩ | hplace := contained_of_tokens true hv
    · rw [hplace] at heq
      exact ⟨hcontained, hback.mp heq⟩
    · rw [hplace] at heq
      exact absurd heq htells
  · rintro ⟨hcontained, heq⟩
    obtain ⟨hv, hplace⟩ := tokens_of_contained true hcontained
    rw [hplace]
    exact ⟨hv, hback.mpr heq⟩

end Holes

end Rosmon.Mikrotik
