import Rosmon.Go.Hex
import Rosmon.Store.Errors

namespace Rosmon.Store

open Go

/-- The nonce of AES-GCM has twelve bytes. -/
abbrev Nonce := { bytes : List UInt8 // bytes.length = 12 }

/-- AES-256-GCM under the key of the server. -/
structure GCM where
  encipher : Nonce → String → List UInt8
  decipher : Nonce → List UInt8 → Option String
  decipher_encipher : ∀ nonce plaintext, decipher nonce (encipher nonce plaintext) = some plaintext

instance : Inhabited GCM where
  default :=
    { encipher := fun _ plaintext ↦ plaintext.toByteArray.data.toList
      decipher := fun _ bytes ↦ String.fromUTF8? ⟨bytes.toArray⟩
      decipher_encipher := fun _ plaintext ↦ by
        simp only [Array.toArray_toList, String.fromUTF8?]
        exact dif_pos plaintext.isValidUTF8 }

/-- `encryptSecret`. Without a key nothing is encrypted; with one, a nonce is drawn. -/
def encryptSecret (key : Option GCM) (nonce : Except Error Nonce) (plaintext : String) :
    Except Error String :=
  match key with
  | none => .ok plaintext
  | some gcm => nonce.map fun nonce ↦
    String.ofList (hexEncode (nonce.val ++ gcm.encipher nonce plaintext))

/-- `decryptSecret`. What is not hexadecimal or cannot be deciphered is taken for a text from
the time before the key was set. -/
def decryptSecret (key : Option GCM) (encoded : String) : Except Error String :=
  match key with
  | none => .ok encoded
  | some gcm =>
    match hexDecode encoded.toList with
    | none => .ok encoded
    | some data =>
      if h : 12 ≤ data.length then
        .ok ((gcm.decipher ⟨data.take 12, List.length_take_of_le h⟩ (data.drop 12)).getD encoded)
      else .error (.new "store: ciphertext terlalu pendek")

variable {key : Option GCM} {nonce : Except Error Nonce} {plaintext stored : String}

theorem decryptSecret_encryptSecret (h : encryptSecret key nonce plaintext = .ok stored) :
    decryptSecret key stored = .ok plaintext := by
  cases key with
  | none =>
    cases h
    rfl
  | some gcm =>
    cases nonce with
    | error err => cases h
    | ok nonce =>
      obtain ⟨bytes, hbytes⟩ := nonce
      cases h
      have hlength : 12 ≤ (bytes ++ gcm.encipher ⟨bytes, hbytes⟩ plaintext).length := by
        rw [List.length_append]
        omega
      simp only [decryptSecret, String.toList_ofList, hexDecode_hexEncode, dif_pos hlength,
        List.take_left' hbytes, List.drop_left' hbytes, gcm.decipher_encipher, Option.getD_some]

/-- A text that is not empty is not stored as an empty one. -/
theorem encryptSecret_ne (h : encryptSecret key nonce plaintext = .ok stored)
    (hplaintext : plaintext ≠ "") : stored ≠ "" := by
  cases key with
  | none =>
    cases h
    exact hplaintext
  | some gcm =>
    cases nonce with
    | error err => cases h
    | ok nonce =>
      obtain ⟨bytes, hbytes⟩ := nonce
      cases h
      cases bytes with
      | nil => cases hbytes
      | cons b bs => simp [hexEncode]

end Rosmon.Store
