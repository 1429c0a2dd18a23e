import Rosmon.Go.Numbers

namespace Rosmon.Go

/-- `strconv.Itoa`, `strconv.FormatInt` to the base 10, and `%d`. -/
def itoa (n : ℤ) : List Char := if n < 0 then '-' :: fmtInt n.natAbs else fmtInt n.natAbs

theorem mem_itoa {n : ℤ} {c : Char} (h : c ∈ itoa n) : c = '-' ∨ c.isDigit = true := by
  unfold itoa at h
  split_ifs at h
  · exact (List.mem_cons.mp h).imp_right isDigit_of_mem_fmtInt
  · exact .inr (isDigit_of_mem_fmtInt h)

theorem decimal_eq (ds : List Char) : decimal ds = Nat.ofDigitChars 10 ds 0 := by
  rw [decimal, Nat.ofDigitChars_eq_foldl]
  exact List.foldl_ext _ _ 0 fun n c _ ↦ by rw [Nat.mul_comm]

theorem decimal_fmtInt (v : ℕ) : decimal (fmtInt v) = v := by
  rw [decimal_eq, fmtInt, Nat.ofDigitChars_toDigits (by omega) (by omega)]

theorem all_isDigit_fmtInt (v : ℕ) : (fmtInt v).all isDigit = true := by
  refine List.all_eq_true.mpr fun c hc ↦ ?_
  rw [isDigit_eq]
  exact isDigit_of_mem_fmtInt hc

theorem head_fmtInt {v : ℕ} {c : Char} {cs : List Char} (h : fmtInt v = c :: cs) :
    c ≠ '-' ∧ c ≠ '+' := by
  have hc : c.isDigit = true := isDigit_of_mem_fmtInt (h ▸ List.mem_cons_self)
  constructor <;> rintro rfl <;> cases hc

/-- What is written of a number that fits is read back. -/
theorem atoi_itoa {n : ℤ} (h : fitsInt64 n = true) : atoi (String.ofList (itoa n)) = some n := by
  have hdigits : fmtInt n.natAbs ≠ [] ∧ (fmtInt n.natAbs).all isDigit = true :=
    ⟨Nat.toDigits_ne_nil, all_isDigit_fmtInt _⟩
  have hfilter : (some n).filter fitsInt64 = some n := by
    rw [Option.filter_some, if_pos h]
  unfold atoi itoa
  dsimp only
  rw [String.toList_ofList]
  split_ifs with hneg
  · have hvalue : -((fmtInt n.natAbs |> decimal : ℕ) : ℤ) = n := by
      rw [decimal_fmtInt]
      omega
    simp only [if_pos hdigits, Option.map_some, hvalue, hfilter]
  · have hvalue : ((fmtInt n.natAbs |> decimal : ℕ) : ℤ) = n := by
      rw [decimal_fmtInt]
      omega
    split
    next digits heq => exact absurd rfl (head_fmtInt heq).1
    next digits heq => exact absurd rfl (head_fmtInt heq).2
    · rw [if_pos hdigits, hvalue, hfilter]

end Rosmon.Go
