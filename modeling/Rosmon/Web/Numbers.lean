import Rosmon.Go.Itoa
import Rosmon.Go.ParseFloat

namespace Rosmon.Web

open Go

/-- A finite Number; the two zeros are one. -/
@[ext]
structure Number where
  value : ℚ
  double : toFloat64 value = some value
  deriving DecidableEq

/-- The Number for a mathematical value, if that is finite. -/
def Number.of (q : ℚ) : Option Number :=
  match h : toFloat64 q with
  | none => none
  | some r => some ⟨r, toFloat64_idem h⟩

theorem Number.of_eq_some {q : ℚ} {x : Number} :
    Number.of q = some x ↔ toFloat64 q = some x.value := by
  unfold Number.of
  split
  next h => simp [h]
  next r h => simp [h, Number.ext_iff]

theorem toFloat64_zero : toFloat64 0 = some 0 := by
  simpa using toFloat64_of_lt (n := 0) (by decide)

instance : Zero Number := ⟨⟨0, toFloat64_zero⟩⟩

section Reading

/-- White space and line terminators. -/
def isWhite (c : Char) : Bool :=
  c.toNat ∈ [0x09, 0x0A, 0x0B, 0x0C, 0x0D, 0x20, 0xA0, 0x1680, 0x2028, 0x2029, 0x202F, 0x205F,
    0x3000, 0xFEFF] || (0x2000 ≤ c.toNat && c.toNat ≤ 0x200A)

def trim (s : List Char) : List Char :=
  ((s.dropWhile isWhite).reverse.dropWhile isWhite).reverse

def withSign {α : Type} [Neg α] (neg : Bool) (q : α) : α := if neg then -q else q

/-- `Number.parseInt(s, 10)` before it is made a Number; `NaN` is none. -/
def parseInt (s : List Char) : Option ℤ :=
  let (neg, rest) := signed (s.dropWhile isWhite)
  let digits := rest.takeWhile isDigit
  if digits = [] then none else some (withSign neg (decimal digits))

/-- What is not finite is made 0. -/
def parseInt0 (s : List Char) : Number := ((parseInt s).bind fun n ↦ Number.of n).getD 0

/-- What follows `0x`, `0o` or `0b`. -/
def based (base : ℕ) (digits : List Char) : Float64 :=
  if digits ≠ [] ∧ digits.all (fun c ↦ (fromHexChar c).any (·.toNat < base)) then
    .ofRat (digitsValue base digits)
  else .nan

/-- The exponent with its letter. -/
def exponentOf : List Char → Option ℤ
  | [] => some 0
  | c :: s =>
    let (neg, digits) := signed s
    if (c = 'e' ∨ c = 'E') ∧ digits ≠ [] ∧ digits.all isDigit then
      some (withSign neg (decimal digits))
    else none

/-- The digits after a point, and what follows them. -/
def fractionOf : List Char → List Char × List Char
  | '.' :: s => (s.takeWhile isDigit, s.dropWhile isDigit)
  | s => ([], s)

/-- A decimal literal without a sign. -/
def readUnsigned (s : List Char) : Option ℚ :=
  let whole := s.takeWhile isDigit
  let (fraction, rest) := fractionOf (s.dropWhile isDigit)
  if whole = [] ∧ fraction = [] then none
  else (exponentOf rest).map fun e : ℤ ↦
    (decimal (whole ++ fraction) : ℚ) * 10 ^ (e - fraction.length)

def readLiteral (s : List Char) : Float64 :=
  let (neg, rest) := signed s
  if rest = "Infinity".toList then .infinite neg
  else match readUnsigned rest with
    | none => .nan
    | some q => .ofRat (withSign neg q)

/-- `Number(s)`. -/
def toNumber (s : List Char) : Float64 :=
  match trim s with
  | [] => .finite 0
  | '0' :: 'x' :: digits | '0' :: 'X' :: digits => based 16 digits
  | '0' :: 'o' :: digits | '0' :: 'O' :: digits => based 8 digits
  | '0' :: 'b' :: digits | '0' :: 'B' :: digits => based 2 digits
  | s => readLiteral s

end Reading

example : toNumber " 1e3 ".toList = .finite 1000 ∧ toNumber "12kg".toList = .nan ∧
    parseInt " 12kg".toList = some 12 := by
  decide +kernel

theorem toFloat64_withSign {q r : ℚ} (neg : Bool) (h : toFloat64 q = some r) :
    toFloat64 (withSign neg q) = some (withSign neg r) := by
  cases neg with
  | true => exact toFloat64_neg h
  | false => exact h

theorem abs_withSign (neg : Bool) (q : ℚ) : |withSign neg q| = |q| := by
  cases neg with
  | true => exact abs_neg q
  | false => rfl

theorem withSign_natAbs (m : ℤ) : withSign (decide (m < 0)) (m.natAbs : ℚ) = m := by
  unfold withSign
  rw [Nat.cast_natAbs]
  split_ifs with hneg
  · rw [abs_of_neg (of_decide_eq_true hneg), Int.cast_neg, neg_neg]
  · rw [abs_of_nonneg (by simpa using hneg)]

theorem parseInt0_int (s : List Char) : ∃ m : ℤ, (parseInt0 s).value = m := by
  unfold parseInt0
  cases hof : (parseInt s).bind fun n ↦ Number.of n with
  | none => exact ⟨0, Int.cast_zero.symm⟩
  | some x =>
    obtain ⟨n, -, hn⟩ := Option.bind_eq_some_iff.mp hof
    exact toFloat64_int (Number.of_eq_some.mp hn)

theorem parseInt0_of_parseInt {s : List Char} {neg : Bool} {n : ℕ} {q : ℚ} {x : Number}
    (h : parseInt s = some (withSign neg (n : ℤ))) (hn : toFloat64 n = some q)
    (hx : withSign neg q = x.value) : parseInt0 s = x := by
  have hcast : ((withSign neg (n : ℤ) : ℤ) : ℚ) = withSign neg (n : ℚ) := by
    cases neg <;> simp [withSign]
  have hof : Number.of ((withSign neg (n : ℤ) : ℤ) : ℚ) = some x := by
    rw [Number.of_eq_some, hcast, ← hx]
    exact toFloat64_withSign neg hn
  rw [parseInt0, h, Option.bind_some, hof]
  rfl

theorem isDigit_facts {c : Char} (h : isDigit c = true) :
    isWhite c = false ∧ c ∉ ['+', '-', 'I', 'x', 'X', 'o', 'O', 'b', 'B'] :=
  forall_mem_of_all (l := numerals)
    (p := fun c ↦ isWhite c = false ∧ c ∉ ['+', '-', 'I', 'x', 'X', 'o', 'O', 'b', 'B'])
    (by decide) c (mem_numerals (by simp [isNumeric, h]))

theorem dropWhile_of_forall {p : Char → Bool} {s : List Char} (h : ∀ c ∈ s, p c = false) :
    s.dropWhile p = s := by
  cases s with
  | nil => rfl
  | cons c s => rw [List.dropWhile_cons, h c List.mem_cons_self, if_neg Bool.false_ne_true]

theorem trim_of_forall {s : List Char} (h : ∀ c ∈ s, isWhite c = false) : trim s = s := by
  have hreverse : ∀ c ∈ s.reverse, isWhite c = false := fun c hc ↦ h c (List.mem_reverse.mp hc)
  rw [trim, dropWhile_of_forall h, dropWhile_of_forall hreverse, List.reverse_reverse]

theorem toNumber_eq {s : List Char} (hs : trim s = s) (hne : s ≠ [])
    (hx : ∀ x cs, s = '0' :: x :: cs → x ∉ ['x', 'X', 'o', 'O', 'b', 'B']) :
    toNumber s = readLiteral s := by
  unfold toNumber
  rw [hs]
  split
  case h_1 => exact absurd rfl hne
  case h_8 => rfl
  all_goals exact absurd (by decide) (hx _ _ rfl)

/-- A decimal literal: the digits before the point, those after it and the exponent. -/
structure Literal where
  whole : List Char
  fraction : List Char
  exponent : List Char
  power : ℤ
  whole_ne : whole ≠ []
  digits : ∀ c ∈ whole ++ fraction, isDigit c = true
  starts : ∀ c ∈ exponent.head?, c = 'e'
  written : ∀ c ∈ exponent, isWhite c = false
  means : exponentOf exponent = some power

namespace Literal

variable (l : Literal) (neg : Bool)

def text : List Char := l.whole ++ (pointed l.fraction ++ l.exponent)

def value : ℚ := decimal (l.whole ++ l.fraction) * 10 ^ (l.power - l.fraction.length)

/-- The literal with its sign. -/
def signedText : List Char := if neg then '-' :: l.text else l.text

theorem head_rest : ∀ c ∈ (pointed l.fraction ++ l.exponent).head?, c = '.' ∨ c = 'e' := by
  intro c hc
  unfold pointed at hc
  split_ifs at hc with hfraction
  · exact .inr (l.starts c hc)
  · cases hc
    exact .inl rfl

theorem isWhite_text : ∀ c ∈ l.text, isWhite c = false := by
  intro c hc
  have hdigit : ∀ c ∈ l.whole ++ l.fraction, isWhite c = false := fun c hc ↦
    (isDigit_facts (l.digits c hc)).1
  rw [text, List.mem_append, List.mem_append] at hc
  obtain hc | hc | hc := hc
  · exact hdigit c (List.mem_append_left _ hc)
  · unfold pointed at hc
    split_ifs at hc with hfraction
    · cases hc
    · obtain rfl | hc := List.mem_cons.mp hc
      · decide
      · exact hdigit c (List.mem_append_right _ hc)
  · exact l.written c hc

theorem text_eq_cons : ∃ c cs, l.text = c :: cs ∧ isDigit c = true := by
  obtain ⟨c, cs, hwhole⟩ := List.exists_cons_of_ne_nil l.whole_ne
  refine ⟨c, _, by rw [text, hwhole]; rfl, l.digits c ?_⟩
  simp [hwhole]

theorem signed_signedText : signed (l.signedText neg) = (neg, l.text) := by
  obtain ⟨c, cs, htext, hc⟩ := l.text_eq_cons
  cases neg with
  | true => rfl
  | false =>
    refine signed_of_head fun d hd ↦ ?_
    have hd : c = d := by simpa [signedText, htext] using hd
    subst hd
    have hfacts := (isDigit_facts hc).2
    constructor
    · rintro rfl
      exact hfacts (by decide)
    · rintro rfl
      exact hfacts (by decide)

theorem isDigit_whole : ∀ c ∈ l.whole, isDigit c = true :=
  fun c hc ↦ l.digits c (List.mem_append_left _ hc)

/-- The digits before the point end at it. -/
theorem whole_spec : l.text.takeWhile isDigit = l.whole ∧
    l.text.dropWhile isDigit = pointed l.fraction ++ l.exponent := by
  refine takeWhile_of_head l.isDigit_whole fun c hc ↦ ?_
  obtain rfl | rfl := l.head_rest c hc <;> rfl

theorem fractionOf_rest : fractionOf (pointed l.fraction ++ l.exponent) =
    (l.fraction, l.exponent) := by
  unfold pointed
  split_ifs with hnil
  · rw [List.nil_append, hnil]
    unfold fractionOf
    split
    next heq => exact absurd (l.starts '.' (by rw [heq]; rfl)) (by decide)
    next => rfl
  · have hstop : ∀ c ∈ l.exponent.head?, isDigit c = false := by
      intro c hc
      rw [l.starts c hc]
      rfl
    obtain ⟨htake, hdrop⟩ :=
      takeWhile_of_head (fun c hc ↦ l.digits c (List.mem_append_right _ hc)) hstop
    rw [List.cons_append, fractionOf, htake, hdrop]

theorem readUnsigned_text : readUnsigned l.text = some l.value := by
  obtain ⟨htake, hdrop⟩ := l.whole_spec
  unfold readUnsigned
  rw [htake, hdrop, l.fractionOf_rest]
  simp only [l.whole_ne, false_and, if_false, l.means, Option.map_some, value]

theorem isWhite_signedText : ∀ c ∈ l.signedText neg, isWhite c = false := by
  intro c hc
  unfold signedText at hc
  split_ifs at hc
  · obtain rfl | hc := List.mem_cons.mp hc
    · decide
    · exact l.isWhite_text c hc
  · exact l.isWhite_text c hc

/-- `parseInt` reads the digits before the point. -/
theorem parseInt_signedText :
    parseInt (l.signedText neg) = some (withSign neg (decimal l.whole : ℤ)) := by
  unfold parseInt
  rw [dropWhile_of_forall (l.isWhite_signedText neg), l.signed_signedText]
  dsimp only
  rw [l.whole_spec.1, if_neg l.whole_ne]

theorem readLiteral_signedText :
    readLiteral (l.signedText neg) = .ofRat (withSign neg l.value) := by
  obtain ⟨c, cs, htext, hc⟩ := l.text_eq_cons
  have hfinite : l.text ≠ "Infinity".toList := by
    intro heq
    have hI : c = 'I' := by
      rw [htext] at heq
      exact (List.cons.inj heq).1
    exact (isDigit_facts hc).2 (by rw [hI]; decide)
  unfold readLiteral
  rw [l.signed_signedText]
  dsimp only
  rw [if_neg hfinite, l.readUnsigned_text]

/-- A zero may come first, but not for a base. -/
theorem second_text {x : Char} {cs : List Char} (h : l.text = '0' :: x :: cs) :
    x ∉ ['x', 'X', 'o', 'O', 'b', 'B'] := by
  obtain ⟨c, ws, hwhole⟩ := List.exists_cons_of_ne_nil l.whole_ne
  rw [text, hwhole, List.cons_append, List.cons_eq_cons] at h
  cases ws with
  | nil =>
    have hhead : x ∈ (pointed l.fraction ++ l.exponent).head? := by
      rw [← List.nil_append (pointed l.fraction ++ l.exponent), h.2]
      rfl
    obtain rfl | rfl := l.head_rest x hhead <;> decide
  | cons w ws =>
    obtain ⟨rfl, -⟩ := List.cons_eq_cons.mp h.2
    have hw := (isDigit_facts (l.isDigit_whole w (by simp [hwhole]))).2
    intro hmem
    exact hw (List.mem_append_right ['+', '-', 'I'] hmem)

theorem toNumber_signedText : toNumber (l.signedText neg) = .ofRat (withSign neg l.value) := by
  obtain ⟨c, cs, htext, hc⟩ := l.text_eq_cons
  rw [← l.readLiteral_signedText neg]
  refine toNumber_eq (trim_of_forall (l.isWhite_signedText neg)) ?_ fun x cs h ↦ ?_
  · cases neg <;> simp [signedText, htext]
  · cases neg with
    | true => cases h
    | false => exact l.second_text h

end Literal

end Rosmon.Web
