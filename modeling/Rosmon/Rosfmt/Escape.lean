import Rosmon.Mikrotik.Literals

namespace Rosmon.Rosfmt

open Mikrotik

def lineFeed : UInt8 := 10

def carriageReturn : UInt8 := 13

/-- The pairs of the replacer, each with the one byte that it replaces. -/
def replacements : List (UInt8 × List UInt8) :=
  [(backslash, [backslash, backslash]), (quoteMark, [backslash, quoteMark]),
    (dollarSign, [backslash, dollarSign]), (lineFeed, [backslash, 110]),
    (carriageReturn, [backslash, 114])]

/-- What the replacer writes for a byte: that of the first pair that replaces it, or itself. -/
def escaped (c : UInt8) : List UInt8 := (replacements.lookup c).getD [c]

def escapeScriptString (s : List UInt8) : List UInt8 := s.flatMap escaped

def quoteScriptString (s : List UInt8) : List UInt8 :=
  quoteMark :: (escapeScriptString s ++ [quoteMark])

section Reading

/-- What a letter stands for behind a backslash. -/
def escapeValue (c : UInt8) : Option UInt8 :=
  if c = backslash ∨ c = quoteMark ∨ c = dollarSign then some c
  else if c = 110 then some lineFeed
  else if c = 114 then some carriageReturn
  else none

/-- How RouterOS reads a string literal behind its first quote: the value, and what follows the
last quote. A literal with a variable in it has no value of its own, and none goes on over the end
of a line. -/
def readRest : List UInt8 → Option (List UInt8 × List UInt8)
  | [] => none
  | c :: s =>
    if c = quoteMark then some ([], s)
    else if c = backslash then
      match s with
      | [] => none
      | d :: s => (escapeValue d).bind fun v ↦ (readRest s).map fun r ↦ (v :: r.1, r.2)
    else if c = dollarSign ∨ c = lineFeed ∨ c = carriageReturn then none
    else (readRest s).map fun r ↦ (c :: r.1, r.2)

def readLiteral : List UInt8 → Option (List UInt8 × List UInt8)
  | [] => none
  | c :: s => if c = quoteMark then readRest s else none

/-- The value of a text with escapes. -/
def unescapeScriptString (s : List UInt8) : List UInt8 :=
  ((readRest (s ++ [quoteMark])).map Prod.fst).getD []

end Reading

section Escaping

variable {c : UInt8} {s r : List UInt8}

/-- A byte is replaced by a backslash and a letter that stands for it, or it is a plain one. -/
theorem escaped_cases (c : UInt8) :
    (∃ d, escaped c = [backslash, d] ∧ escapeValue d = some c) ∨
      escaped c = [c] ∧ c ≠ backslash ∧ c ≠ quoteMark ∧ c ≠ dollarSign ∧ c ≠ lineFeed ∧
        c ≠ carriageReturn := by
  by_cases hslash : c = backslash
  · exact .inl ⟨backslash, by rw [hslash]; rfl, by rw [hslash]; rfl⟩
  by_cases hquote : c = quoteMark
  · exact .inl ⟨quoteMark, by rw [hquote]; rfl, by rw [hquote]; rfl⟩
  by_cases hdollar : c = dollarSign
  · exact .inl ⟨dollarSign, by rw [hdollar]; rfl, by rw [hdollar]; rfl⟩
  by_cases hfeed : c = lineFeed
  · exact .inl ⟨110, by rw [hfeed]; rfl, by rw [hfeed]; rfl⟩
  by_cases hreturn : c = carriageReturn
  · exact .inl ⟨114, by rw [hreturn]; rfl, by rw [hreturn]; rfl⟩
  · refine .inr ⟨?_, hslash, hquote, hdollar, hfeed, hreturn⟩
    simp [escaped, replacements, List.lookup_cons, beq_false_of_ne hslash, beq_false_of_ne hquote,
      beq_false_of_ne hdollar, beq_false_of_ne hfeed, beq_false_of_ne hreturn]

/-- The literal goes on behind what stands for one byte. -/
theorem readRest_escaped (c : UInt8) (r : List UInt8) :
    readRest (escaped c ++ r) = (readRest r).map fun p ↦ (c :: p.1, p.2) := by
  obtain ⟨d, hd, hvalue⟩ | ⟨hc, hslash, hquote, hdollar, hfeed, hreturn⟩ := escaped_cases c
  · rw [hd, List.cons_append, List.cons_append, List.nil_append, readRest.eq_def]
    dsimp only
    rw [if_neg (by decide), if_pos rfl, hvalue, Option.bind_some]
  · rw [hc, List.cons_append, List.nil_append, readRest.eq_def]
    dsimp only
    rw [if_neg hquote, if_neg hslash, if_neg (by simp [hdollar, hfeed, hreturn])]

/-- What is escaped is read as it was, up to the quote that follows. -/
theorem readRest_escape (s r : List UInt8) :
    readRest (escapeScriptString s ++ quoteMark :: r) = some (s, r) := by
  induction s with
  | nil =>
    rw [escapeScriptString, List.flatMap_nil, List.nil_append, readRest.eq_def]
    exact if_pos rfl
  | cons c s ih =>
    rw [escapeScriptString, List.flatMap_cons, List.append_assoc, readRest_escaped]
    exact congrArg (Option.map _) ih

theorem unescape_escape (s : List UInt8) :
    unescapeScriptString (escapeScriptString s) = s := by
  rw [unescapeScriptString, readRest_escape]
  rfl

theorem readLiteral_quote (s r : List UInt8) :
    readLiteral (quoteScriptString s ++ r) = some (s, r) := by
  have hrest := readRest_escape s r
  rw [quoteScriptString, List.cons_append, List.append_assoc, readLiteral, if_pos rfl]
  exact hrest

theorem contained_escaped (c : UInt8) (h : contained r = true) :
    contained (escaped c ++ r) = true := by
  obtain ⟨d, hd, -⟩ | ⟨hc, hslash, hquote, hdollar, -⟩ := escaped_cases c
  · rw [hd, List.cons_append, List.cons_append, List.nil_append, contained, if_pos rfl]
    exact h
  · rw [hc, List.cons_append, List.nil_append, contained_cons _ hslash, h]
    simp [hquote, hdollar]

theorem contained_escape (s : List UInt8) : contained (escapeScriptString s) = true := by
  induction s with
  | nil => rfl
  | cons c s ih => exact contained_escaped c ih

/-- No byte of what is written breaks the line. -/
theorem notMem_escape (s : List UInt8) :
    lineFeed ∉ escapeScriptString s ∧ carriageReturn ∉ escapeScriptString s := by
  have hbyte : ∀ b ∈ escapeScriptString s, b ≠ lineFeed ∧ b ≠ carriageReturn := by
    intro b hb
    obtain ⟨c, -, hb⟩ := List.mem_flatMap.mp hb
    obtain ⟨d, hd, hvalue⟩ | ⟨hc, -, -, -, hfeed, hreturn⟩ := escaped_cases c
    · rw [hd] at hb
      obtain rfl | rfl : b = backslash ∨ b = d := by simpa using hb
      · decide
      · constructor <;> rintro rfl <;> cases hvalue
    · rw [hc] at hb
      obtain rfl := List.mem_singleton.mp hb
      exact ⟨hfeed, hreturn⟩
  exact ⟨fun h ↦ (hbyte _ h).1 rfl, fun h ↦ (hbyte _ h).2 rfl⟩

/-- Escaping can be undone, leaves nothing that means anything in a literal, and between quotes
makes the literal whose value is the text. -/
theorem escape_quote : Function.LeftInverse unescapeScriptString escapeScriptString ∧
    Function.Injective escapeScriptString ∧
    (∀ s, contained (escapeScriptString s) = true ∧ lineFeed ∉ escapeScriptString s ∧
      carriageReturn ∉ escapeScriptString s) ∧
    ∀ s, readLiteral (quoteScriptString s) = some (s, []) := by
  have hinverse : Function.LeftInverse unescapeScriptString escapeScriptString := unescape_escape
  refine ⟨hinverse, hinverse.injective, fun s ↦ ⟨contained_escape s, notMem_escape s⟩, fun s ↦ ?_⟩
  have hread := readLiteral_quote s []
  rwa [List.append_nil] at hread

end Escaping

end Rosmon.Rosfmt
