import Mathlib.Data.Nat.Notation

namespace Rosmon.Go

def hexDigit (n : UInt8) : Char := Nat.digitChar n.toNat

/-- `hex.EncodeToString`. -/
def hexEncode : List UInt8 → List Char
  | [] => []
  | b :: bs => hexDigit (b / 16) :: hexDigit (b % 16) :: hexEncode bs

def fromHexChar (c : Char) : Option UInt8 :=
  if '0' ≤ c ∧ c ≤ '9' then some (.ofNat (c.toNat - '0'.toNat))
  else if 'a' ≤ c ∧ c ≤ 'f' then some (.ofNat (c.toNat - 'a'.toNat + 10))
  else if 'A' ≤ c ∧ c ≤ 'F' then some (.ofNat (c.toNat - 'A'.toNat + 10))
  else none

/-- `hex.DecodeString`: pairs of digits, in capitals or not. -/
def hexDecode : List Char → Option (List UInt8)
  | [] => some []
  | [_] => none
  | a :: b :: cs =>
    match fromHexChar a, fromHexChar b, hexDecode cs with
    | some high, some low, some bs => some ((high * 16 + low) :: bs)
    | _, _, _ => none

theorem fromHexChar_hexDigit : ∀ n < 16, fromHexChar (hexDigit (.ofNat n)) = some (.ofNat n) := by
  decide

theorem fromHexChar_digit {b : UInt8} (hb : b < 16) : fromHexChar (hexDigit b) = some b := by
  have h := fromHexChar_hexDigit b.toNat hb
  rwa [UInt8.ofNat_toNat] at h

theorem hexDecode_hexEncode (bs : List UInt8) : hexDecode (hexEncode bs) = some bs := by
  induction bs with
  | nil => rfl
  | cons b bs ih =>
    have hhigh : b / 16 < 16 := by
      rw [UInt8.lt_iff_toNat_lt, UInt8.toNat_div]
      have := b.toNat_lt
      simp
      omega
    have hlow : b % 16 < 16 := UInt8.mod_lt b (by decide)
    have hvalue : b / 16 * 16 + b % 16 = b := by
      refine UInt8.toNat_inj.mp ?_
      have := b.toNat_lt
      simp
      omega
    simp only [hexEncode, hexDecode, fromHexChar_digit hhigh, fromHexChar_digit hlow, ih, hvalue]

/-- A pair of digits is decoded if both of them are digits. -/
theorem hexDecode_cons {a b : Char} {cs : List Char} {bs : List UInt8} :
    hexDecode (a :: b :: cs) = some bs ↔ ∃ high low bs', fromHexChar a = some high ∧
      fromHexChar b = some low ∧ hexDecode cs = some bs' ∧ (high * 16 + low) :: bs' = bs := by
  rw [hexDecode]
  split
  next high low bs' ha hb hcs => simp [ha, hb, hcs]
  next hnone =>
    refine iff_of_false nofun fun ⟨high, low, bs', ha, hb, hcs, _⟩ ↦ ?_
    exact hnone high low bs' ha hb hcs

theorem hexDecode_length {cs : List Char} {bs : List UInt8} (h : hexDecode cs = some bs) :
    cs.length = 2 * bs.length := by
  induction cs using hexDecode.induct generalizing bs with
  | case1 =>
    cases h
    rfl
  | case2 c => cases h
  | case3 a b cs _ _ _ _ _ _ ih | case4 a b cs _ ih =>
    obtain ⟨high, low, bs', -, -, hcs, rfl⟩ := hexDecode_cons.mp h
    simp only [List.length_cons, ih hcs]
    omega

/-- An even number of digits is what can be decoded. -/
theorem hexDecode_isSome {cs : List Char} : (hexDecode cs).isSome ↔
    (∀ c ∈ cs, (fromHexChar c).isSome) ∧ cs.length % 2 = 0 := by
  induction cs using hexDecode.induct with
  | case1 => simp [hexDecode]
  | case2 c => simp [hexDecode]
  | case3 a b cs _ _ _ _ _ _ ih | case4 a b cs _ ih =>
    have hlength : (a :: b :: cs).length % 2 = cs.length % 2 := by
      simp only [List.length_cons]
      omega
    rw [hlength, List.forall_mem_cons, List.forall_mem_cons, and_assoc, and_assoc, ← ih]
    simp only [Option.isSome_iff_exists, hexDecode_cons]
    constructor
    · rintro ⟨bs, high, low, bs', ha, hb, hcs, -⟩
      exact ⟨⟨high, ha⟩, ⟨low, hb⟩, ⟨bs', hcs⟩⟩
    · rintro ⟨⟨high, ha⟩, ⟨low, hb⟩, ⟨bs', hcs⟩⟩
      exact ⟨_, high, low, bs', ha, hb, hcs, rfl⟩

example : hexDecode ['1', 'F', 'e', '0'] = some [31, 224] ∧ hexDecode ['1', 'g'] = none := by decide

end Rosmon.Go
