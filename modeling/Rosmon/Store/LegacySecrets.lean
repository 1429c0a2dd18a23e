import Mathlib.Data.List.Forall2
import Rosmon.Devices.Manager
import Rosmon.Store.Secrets

namespace Rosmon.Store

open Go

section Texts

/-- An even number of hexadecimal digits, fewer than a nonce takes. -/
def ShortHex (text : String) : Prop :=
  (∀ c ∈ text.toList, (fromHexChar c).isSome) ∧ text.toList.length % 2 = 0 ∧
    text.toList.length < 24

instance (text : String) : Decidable (ShortHex text) :=
  have : Decidable (∀ c ∈ text.toList, (fromHexChar c).isSome) := List.decidableBAll _ _
  inferInstanceAs (Decidable (_ ∧ _ ∧ _))

theorem shortHex_iff {text : String} :
    ShortHex text ↔ ∃ bytes, hexDecode text.toList = some bytes ∧ bytes.length < 12 := by
  rw [ShortHex, ← and_assoc, ← hexDecode_isSome, Option.isSome_iff_exists]
  constructor
  · rintro ⟨⟨bytes, hbytes⟩, hshort⟩
    have hlength := hexDecode_length hbytes
    exact ⟨bytes, hbytes, by omega⟩
  · rintro ⟨bytes, hbytes, hshort⟩
    have hlength := hexDecode_length hbytes
    exact ⟨⟨bytes, hbytes⟩, by omega⟩

variable {g : GCM} {nonce : Except Error Nonce} {p text stored : String}

/-- Nothing is deciphered that has not been enciphered. -/
def GCM.Authentic (g : GCM) : Prop :=
  ∀ nonce bytes p, g.decipher nonce bytes = some p → bytes = g.encipher nonce p

/-- The text of an operator, which is not what the encryption writes. -/
def GCM.Legacy (g : GCM) (text : String) : Prop :=
  ∀ (nonce : Nonce) p, hexDecode text.toList ≠ some (nonce.val ++ g.encipher nonce p)

theorem decryptSecret_short (h : ShortHex text) :
    decryptSecret (some g) text = .error (.new "store: ciphertext terlalu pendek") := by
  obtain ⟨bytes, hbytes, hshort⟩ := shortHex_iff.mp h
  simp only [decryptSecret, hbytes, dif_neg (not_le.mpr hshort)]

theorem decryptSecret_legacy (hg : g.Authentic) (htext : g.Legacy text) (h : ¬ShortHex text) :
    decryptSecret (some g) text = .ok text := by
  cases hbytes : hexDecode text.toList with
  | none => simp only [decryptSecret, hbytes]
  | some bytes =>
    have hlong : 12 ≤ bytes.length := by
      by_contra hshort
      exact h (shortHex_iff.mpr ⟨bytes, hbytes, not_le.mp hshort⟩)
    simp only [decryptSecret, hbytes, dif_pos hlong]
    cases hplain : g.decipher ⟨bytes.take 12, List.length_take_of_le hlong⟩ (bytes.drop 12) with
    | none => rfl
    | some p =>
      refine absurd hbytes ?_
      rw [← List.take_append_drop 12 bytes, hg _ _ _ hplain]
      exact htext ⟨bytes.take 12, List.length_take_of_le hlong⟩ p

/-- What the encryption writes is longer than a nonce. -/
theorem not_shortHex_encrypted (h : encryptSecret (some g) nonce p = .ok stored) :
    ¬ShortHex stored := by
  intro hshort
  have hread := decryptSecret_encryptSecret h
  rw [decryptSecret_short hshort] at hread
  cases hread

/-- What the column of a secret may hold once there is a key. -/
inductive Keeps (g : GCM) : String → String → Prop
  | encrypted {nonce : Except Error Nonce} {p stored : String}
    (h : encryptSecret (some g) nonce p = .ok stored) : Keeps g p stored
  | legacy {p : String} (h : g.Legacy p) : Keeps g p p

theorem Keeps.readable_iff (hg : g.Authentic) (h : Keeps g p stored) :
    decryptSecret (some g) stored = .ok p ↔ ¬ShortHex stored := by
  cases h with
  | encrypted h => exact iff_of_true (decryptSecret_encryptSecret h) (not_shortHex_encrypted h)
  | legacy h =>
    refine ⟨fun hread hshort ↦ ?_, decryptSecret_legacy hg h⟩
    rw [decryptSecret_short hshort] at hread
    cases hread

end Texts

section Rows

/-- The column of a row that holds its secret. -/
structure SecretColumn (ρ : Type) where
  get : ρ → String
  set : String → ρ → ρ
  get_set : ∀ s r, get (set s r) = s
  set_set : ∀ s s' r, set s (set s' r) = set s r
  set_get : ∀ r, set (get r) r = r

def Subscription.secret : SecretColumn Subscription where
  get := Subscription.mikrotikPassword
  set s sub := { sub with mikrotikPassword := s }
  get_set _ _ := rfl
  set_set _ _ _ := rfl
  set_get _ := rfl

/-- The rows of a query with their secrets decrypted. One that cannot be read fails them all. -/
def decryptRows {ρ : Type} (col : SecretColumn ρ) (key : Option GCM) :
    List ρ → Except Error (List ρ)
  | [] => .ok []
  | r :: rows =>
    match decryptSecret key (col.get r) with
    | .error err => .error err
    | .ok p => (decryptRows col key rows).map (col.set p r :: ·)

def decryptSubscriptions (key : Option GCM) (subs : List Subscription) :
    Except Error (List Subscription) :=
  decryptRows Subscription.secret key subs

def MikrotikDevice.secret : SecretColumn Devices.MikrotikDevice where
  get := Devices.MikrotikDevice.password
  set s d := { d with password := s }
  get_set _ _ := rfl
  set_set _ _ _ := rfl
  set_get _ := rfl

def decryptPasswords (key : Option GCM) (ds : List Devices.MikrotikDevice) :
    Except Error (List Devices.MikrotikDevice) :=
  decryptRows MikrotikDevice.secret key ds

variable {ρ : Type} {col : SecretColumn ρ} {g : GCM}

/-- The row that the secret of `plain` is stored in. -/
def SecretColumn.Stored (col : SecretColumn ρ) (g : GCM) (plain row : ρ) : Prop :=
  ∃ stored, Keeps g (col.get plain) stored ∧ row = col.set stored plain

theorem SecretColumn.Stored.readable_iff {plain row : ρ} (hg : g.Authentic)
    (h : col.Stored g plain row) :
    decryptSecret (some g) (col.get row) = .ok (col.get plain) ↔ ¬ShortHex (col.get row) := by
  obtain ⟨stored, hkeeps, rfl⟩ := h
  rw [col.get_set]
  exact hkeeps.readable_iff hg

/-- A read row is the one in clear. -/
theorem SecretColumn.Stored.set_eq {plain row : ρ} (h : col.Stored g plain row) :
    col.set (col.get plain) row = plain := by
  obtain ⟨stored, -, rfl⟩ := h
  rw [col.set_set, col.set_get]

/-- Rows are read as they were in clear just if each of them is. -/
theorem decryptRows_iff (hg : g.Authentic) {plain rows : List ρ}
    (h : List.Forall₂ (col.Stored g) plain rows) :
    decryptRows col (some g) rows = .ok plain ↔ ∀ r ∈ rows, ¬ShortHex (col.get r) := by
  induction h with
  | nil => simp [decryptRows]
  | @cons d r plain rows hd _ ih =>
    rw [List.forall_mem_cons, ← ih, decryptRows]
    by_cases hshort : ShortHex (col.get r)
    · simp [decryptSecret_short hshort, hshort]
    · simp only [(hd.readable_iff hg).mpr hshort, hd.set_eq]
      cases decryptRows col (some g) rows with
      | error err => simp [Except.map]
      | ok rs => simp [Except.map, hshort]

end Rows

/-- What has been encrypted is always read back. A text from before the key was set is, and does
not keep the rows around it from being read, just if it is not short and hexadecimal. -/
theorem secrets_readable_iff (g : GCM) (hg : g.Authentic) :
    (∀ nonce p stored, encryptSecret (some g) nonce p = .ok stored →
      decryptSecret (some g) stored = .ok p) ∧
    (∀ text, g.Legacy text → (decryptSecret (some g) text = .ok text ↔ ¬ShortHex text)) ∧
    (∀ plain rows, List.Forall₂ (Subscription.secret.Stored g) plain rows →
      (decryptSubscriptions (some g) rows = .ok plain ↔
        ∀ sub ∈ rows, ¬ShortHex sub.mikrotikPassword)) ∧
    ∀ plain rows, List.Forall₂ (MikrotikDevice.secret.Stored g) plain rows →
      (decryptPasswords (some g) rows = .ok plain ↔ ∀ d ∈ rows, ¬ShortHex d.password) :=
  ⟨fun _ _ _ ↦ decryptSecret_encryptSecret, fun _ htext ↦ (Keeps.legacy htext).readable_iff hg,
    fun _ _ ↦ decryptRows_iff hg, fun _ _ ↦ decryptRows_iff hg⟩

/-- A cipher that writes the text itself. -/
theorem default_authentic : (default : GCM).Authentic := by
  intro nonce bytes p h
  simp only [default, String.fromUTF8?] at h
  split at h
  · cases h
    rfl
  · cases h

/-- A password that is not hexadecimal survives the first start with a key. -/
theorem password_readable : decryptSecret (some default) "rahasia" = .ok "rahasia" := by
  refine ((secrets_readable_iff default default_authentic).2.1 "rahasia" ?_).mpr (by decide)
  intro nonce p h
  rw [show hexDecode "rahasia".toList = none by decide] at h
  cases h

/-- A text shorter than a nonce is none that the encryption writes. -/
theorem ShortHex.legacy {text : String} (h : ShortHex text) (g : GCM) : g.Legacy text := by
  intro nonce p hbytes
  obtain ⟨bytes, hshort, hlength⟩ := shortHex_iff.mp h
  obtain rfl := Option.some.inj (hbytes.symm.trans hshort)
  rw [List.length_append, nonce.property] at hlength
  omega

/-- A PIN of four digits does not. -/
theorem pin_unreadable : ¬∀ g : GCM, g.Authentic → ∀ text, g.Legacy text →
    decryptSecret (some g) text = .ok text := by
  intro h
  have hpin : ShortHex "1234" := by decide
  have hread := h default default_authentic "1234" (hpin.legacy _)
  rw [decryptSecret_short hpin] at hread
  cases hread

end Rosmon.Store
