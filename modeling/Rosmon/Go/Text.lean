import Mathlib.Algebra.Ring.Int.Defs
import Mathlib.Data.List.Infix
import Mathlib.Data.Nat.Notation

namespace Rosmon.Go

/-- `unicode.ToLower` on the letters whose lower case is an ASCII letter. Every
other letter is left alone: its lower case is not ASCII, so no comparison with
an ASCII text can tell the difference. -/
def lowerRune (c : Char) : Char :=
  if 'A' ≤ c ∧ c ≤ 'Z' then Char.ofNat (c.toNat + 32)
  else if c.toNat = 0x130 then 'i'
  else if c.toNat = 0x212A then 'k'
  else c

/-- `strings.ToLower`. -/
def toLower (s : String) : String := String.ofList (s.toList.map lowerRune)

/-- `unicode.IsSpace`. -/
def isSpace (c : Char) : Bool :=
  c.toNat ∈ [0x09, 0x0A, 0x0B, 0x0C, 0x0D, 0x20, 0x85, 0xA0, 0x1680, 0x2028, 0x2029, 0x202F,
    0x205F, 0x3000] || (0x2000 ≤ c.toNat && c.toNat ≤ 0x200A)

/-- `strings.TrimSpace`. -/
def trimSpace (s : String) : String :=
  String.ofList (((s.toList.dropWhile isSpace).reverse.dropWhile isSpace).reverse)

def isDigit (c : Char) : Bool := '0' ≤ c && c ≤ '9'

/-- The value of a run of decimal digits. -/
def decimal (digits : List Char) : ℕ :=
  digits.foldl (fun n c ↦ n * 10 + (c.toNat - '0'.toNat)) 0

/-- The range of `int64`, and of `int` on a 64-bit machine. -/
def fitsInt64 (n : ℤ) : Bool := -2 ^ 63 ≤ n && n < 2 ^ 63

/-- `strconv.Atoi`: an optional sign and at least one digit, in the range of `int`. -/
def atoi (s : String) : Option ℤ :=
  let magnitude (digits : List Char) : Option ℤ :=
    if digits ≠ [] ∧ digits.all isDigit then some (decimal digits) else none
  let value := match s.toList with
    | '-' :: digits => (magnitude digits).map Neg.neg
    | '+' :: digits => magnitude digits
    | digits => magnitude digits
  value.filter fitsInt64

/-- The digits of `n` with a dot before every group of three counted from the right. -/
def groupThousands (digits : List Char) : List Char :=
  digits.zipIdx.flatMap fun (d, i) ↦
    if 0 < i ∧ (digits.length - i) % 3 = 0 then ['.', d] else [d]

/-- `strings.Contains`. -/
def contains (s sub : String) : Bool := s.toList.tails.any (sub.toList.isPrefixOf ·)

theorem contains_iff {s sub : String} : contains s sub = true ↔ sub.toList <:+: s.toList := by
  simp only [contains, List.any_eq_true, List.mem_tails, List.isPrefixOf_iff_prefix,
    List.infix_iff_prefix_suffix]
  exact exists_congr fun _ ↦ and_comm

example : toLower "Paİd" = "paid" := by decide

example : atoi "-12" = some (-12) ∧ atoi "1_000" = none ∧ atoi "" = none := by decide

section Bytes

/-- The bytes of a text. -/
def bytes (s : String) : List UInt8 := s.toUTF8.data.toList

theorem bytes_append (s t : String) : bytes (s ++ t) = bytes s ++ bytes t := by
  simp [bytes]

theorem bytes_injective : Function.Injective bytes := by
  intro s t h
  apply String.toByteArray_inj.mp
  apply ByteArray.ext
  exact Array.toList_inj.mp h

@[simp] theorem bytes_empty : bytes "" = [] := rfl

theorem bytes_eq_nil {s : String} : bytes s = [] ↔ s = "" :=
  ⟨fun h ↦ bytes_injective h, fun h ↦ h ▸ rfl⟩

end Bytes

end Rosmon.Go
