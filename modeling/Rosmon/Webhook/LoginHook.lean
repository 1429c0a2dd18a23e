import Rosmon.Go.Form
import Rosmon.Scripts.OnLogin
import Rosmon.Vouchers.Generate

namespace Rosmon.Webhook

open Go Library Scripts

/-- What `Login` reads of a request; there is none without a user. -/
structure LoginForm where
  user : List UInt8
  mac : List UInt8
  ip : List UInt8
  profile : List UInt8
  deriving DecidableEq

def truncate (s : List UInt8) (maxLen : ℕ) : List UInt8 :=
  if s.length ≤ maxLen then s else s.take maxLen

/-- `Login` as far as it reads the body. -/
def readLogin (body : List UInt8) : Option LoginForm :=
  let form := parseQuery body
  let user := trimSpaces (postForm form "user")
  if user = [] then none
  else some
    { user := if 128 < user.length then user.take 128 else user
      mac := truncate (trimSpaces (postForm form "mac")) 17
      ip := truncate (trimSpaces (postForm form "ip")) 45
      profile := truncate (trimSpaces (postForm form "profile")) 64 }

/-- What an operand is when the script runs: a value stands in it as it is. -/
def value (env : String → List UInt8) : OnLogin.Operand → List UInt8
  | .literal text value => bytes text ++ bytes value
  | .var name => env name

/-- The body that the script concatenates. -/
def requestBody (env : String → List UInt8) (o : OnLogin.Options) : List UInt8 :=
  (OnLogin.httpData o).flatMap (value env)

/-- An address of the router: it has no separator in it. -/
def Address (s : List UInt8) : Prop := 38 ∉ s

/-- At every login of the user, the hook reads the names of the user and of the profile. -/
def Delivers (o : OnLogin.Options) (user : String) : Prop :=
  ∀ env, env "user" = bytes user → Address (env "\"mac-address\"") → Address (env "address") →
    ∃ form, readLogin (requestBody env o) = some form ∧ form.user = bytes user ∧
      form.profile = bytes o.profileName

/-- A text that a form carries without encoding, in a field that is cut after `n` bytes. -/
def Carried (n : ℕ) (s : List UInt8) : Prop :=
  s.length ≤ n ∧ (59 ∉ s ∧ 37 ∉ s ∧ 43 ∉ s) ∧ 38 ∉ s ∧ ∀ w ∈ spaces, ¬w <+: s ∧ ¬w <:+ s

section Reading

variable {n : ℕ} {s v : List UInt8}

theorem truncate_eq (s : List UInt8) (n : ℕ) : truncate s n = s.take n := by
  unfold truncate
  split_ifs with hlen
  · exact (List.take_of_length_le hlen).symm
  · rfl

theorem length_of_truncate (h : truncate (trimSpaces v) n = s) : s.length ≤ v.length := by
  rw [← h, truncate_eq]
  exact (List.length_take_le' n _).trans length_trim_le

/-- What is not longer than a text is read as that text only if it is the text. -/
theorem truncate_trim_iff (hle : v.length ≤ s.length) : truncate (trimSpaces v) n = s ↔
    v = s ∧ s.length ≤ n ∧ ∀ w ∈ spaces, ¬w <+: s ∧ ¬w <:+ s := by
  rw [truncate_eq]
  constructor
  · intro h
    have hlen := congrArg List.length h
    rw [List.length_take] at hlen
    have hlength : s.length ≤ (trimSpaces v).length := by omega
    have htrim : trimSpaces v = v := trim_eq_of_length (hle.trans hlength)
    rw [htrim] at h hlen
    have hshort : v.length ≤ n := by omega
    rw [List.take_of_length_le hshort] at h
    subst h
    exact ⟨rfl, hshort, (trim_eq_self_iff spaces_ne_nil).mp htrim⟩
  · rintro ⟨rfl, hshort, hends⟩
    have htrim : trimSpaces v = v := (trim_eq_self_iff spaces_ne_nil).mpr hends
    rw [htrim, List.take_of_length_le hshort]

/-- The value of a field without a separator in it. -/
theorem field_iff (hfree : 38 ∉ s) :
    truncate (trimSpaces ((readValue s).getD [])) n = s ↔ Carried n s := by
  have hle : ((readValue s).getD []).length ≤ s.length := by
    cases hread : readValue s with
    | none => exact Nat.zero_le _
    | some v => exact length_readValue hread
  have hself : (readValue s).getD [] = s ↔ 59 ∉ s ∧ 37 ∉ s ∧ 43 ∉ s := by
    rw [← readValue_eq_self]
    cases hread : readValue s with
    | none =>
      refine iff_of_false (fun h ↦ ?_) nofun
      rw [← (h : [] = s)] at hread
      cases hread
    | some v => rw [Option.getD_some, Option.some.injEq]
  rw [truncate_trim_iff hle, hself, Carried, and_iff_right hfree]
  exact and_left_comm

end Reading

section Body

/-- The fields of the body. -/
def fields (user mac ip profile : List UInt8) : List (List UInt8 × List UInt8) :=
  [(bytes "user", user), (bytes "mac", mac), (bytes "ip", ip), (bytes "profile", profile)]

theorem requestBody_eq (env : String → List UInt8) (o : OnLogin.Options) : requestBody env o =
    query (fields (env "user") (env "\"mac-address\"") (env "address") (bytes o.profileName)) := by
  have huser : bytes "user=" = bytes "user" ++ [61] := by decide
  have hmac : bytes "&mac=" = [38] ++ (bytes "mac" ++ [61]) := by decide
  have hip : bytes "&ip=" = [38] ++ (bytes "ip" ++ [61]) := by decide
  have hprofile : bytes "&profile=" = [38] ++ (bytes "profile" ++ [61]) := by decide
  simp only [requestBody, OnLogin.httpData, List.flatMap_cons, List.flatMap_nil, value, huser, hmac,
    hip, hprofile, bytes_empty, query, fields, List.map_cons, List.map_nil,
    List.intercalate_cons_cons, List.intercalate_singleton, List.append_nil, List.append_assoc]

variable {user mac ip profile : List UInt8}

theorem fields_keys : ∀ f ∈ fields user mac ip profile, PlainKey f.1 := by
  have huser : PlainKey (bytes "user") := by decide +kernel
  have hmac : PlainKey (bytes "mac") := by decide +kernel
  have hip : PlainKey (bytes "ip") := by decide +kernel
  have hprofile : PlainKey (bytes "profile") := by decide +kernel
  simp only [fields, List.forall_mem_cons]
  exact ⟨huser, hmac, hip, hprofile, nofun⟩

theorem fields_nodup : ((fields user mac ip profile).map Prod.fst).Nodup := by
  change [bytes "user", bytes "mac", bytes "ip", bytes "profile"].Nodup
  decide

theorem postForm_of_free (huser : 38 ∉ user) (hmac : 38 ∉ mac) (hip : 38 ∉ ip)
    (hprofile : 38 ∉ profile) :
    postForm (parseQuery (query (fields user mac ip profile))) "user" =
        (readValue user).getD [] ∧
      postForm (parseQuery (query (fields user mac ip profile))) "profile" =
        (readValue profile).getD [] := by
  have hfree : ∀ f ∈ fields user mac ip profile, 38 ∉ f.2 := by
    simp only [fields, List.forall_mem_cons]
    exact ⟨huser, hmac, hip, hprofile, nofun⟩
  have hfirst : (fields user mac ip profile).lookup (bytes "user") = some user := by
    rw [fields, List.lookup_cons_self]
  have hlast : (fields user mac ip profile).lookup (bytes "profile") = some profile := by
    have huser : (bytes "profile" == bytes "user") = false := by decide
    have hmac : (bytes "profile" == bytes "mac") = false := by decide
    have hip : (bytes "profile" == bytes "ip") = false := by decide
    rw [fields, List.lookup_cons, huser, List.lookup_cons, hmac, List.lookup_cons, hip,
      List.lookup_cons_self]
  unfold postForm
  rw [parseQuery_of_notMem fields_keys (List.cons_ne_nil _ _) hfree, lookup_read fields_nodup,
    lookup_read fields_nodup, hfirst, hlast]
  exact ⟨rfl, rfl⟩

theorem fields_longer (hmac : 38 ∉ mac) (hip : 38 ∉ ip) (n : ℕ) :
    (∃ g ∈ fields user mac ip profile, 38 ∈ g.2 ∧ n < g.2.length) ↔
      38 ∈ user ∧ n < user.length ∨ 38 ∈ profile ∧ n < profile.length := by
  simp [fields, hmac, hip]

/-- What the hook takes for the names is cut from the values of the form. -/
theorem readLogin_names {body : List UInt8} :
    (∃ form, readLogin body = some form ∧ form.user = user ∧ form.profile = profile) ↔ user ≠ [] ∧
      truncate (trimSpaces (postForm (parseQuery body) "user")) 128 = user ∧
      truncate (trimSpaces (postForm (parseQuery body) "profile")) 64 = profile := by
  have htake : ∀ s : List UInt8, (if 128 < s.length then s.take 128 else s) = truncate s 128 := by
    intro s
    unfold truncate
    split_ifs <;> first | rfl | omega
  unfold readLogin
  dsimp only
  rw [htake]
  generalize trimSpaces (postForm (parseQuery body) "user") = u
  by_cases hempty : u = []
  · rw [if_pos hempty, hempty]
    exact iff_of_false nofun fun h ↦ h.1 h.2.1.symm
  · rw [if_neg hempty]
    have hne : truncate u 128 ≠ [] := by
      rw [truncate_eq]
      exact fun h ↦ hempty (by simpa using h)
    constructor
    · rintro ⟨form, heq, rfl, rfl⟩
      obtain rfl := Option.some.inj heq
      exact ⟨hne, rfl, rfl⟩
    · rintro ⟨-, rfl, rfl⟩
      exact ⟨_, rfl, rfl, rfl⟩

/-- What the hook reads is what was sent just if the form carries both. -/
theorem readLogin_iff (hmac : 38 ∉ mac) (hip : 38 ∉ ip) :
    (∃ form, readLogin (query (fields user mac ip profile)) = some form ∧ form.user = user ∧
      form.profile = profile) ↔ user ≠ [] ∧ Carried 128 user ∧ Carried 64 profile := by
  rw [readLogin_names]
  constructor
  · rintro ⟨hne, huser, hprofile⟩
    have hlenUser := length_of_truncate huser
    have hlenProfile := length_of_truncate hprofile
    -- A name with a separator in it would have to come out of the other one, which is longer.
    have hfromUser : 38 ∈ user → 38 ∈ profile ∧ user.length < profile.length := by
      intro hmem
      have hpos := List.length_pos_iff.mpr hne
      obtain hown | hother := length_postForm fields_keys fields_nodup "user" (bytes "user", user)
        List.mem_cons_self rfl (List.length_pos_iff.mp (hpos.trans_le hlenUser))
      · exact absurd hmem hown.1
      · obtain hself | hother := (fields_longer hmac hip _).mp hother
        · omega
        · exact ⟨hother.1, by omega⟩
    have hfromProfile : 38 ∈ profile → 38 ∈ user ∧ profile.length < user.length := by
      intro hmem
      have hpos := List.length_pos_of_mem hmem
      obtain hown | hother := length_postForm fields_keys fields_nodup "profile"
        (bytes "profile", profile) (by simp [fields]) rfl
        (List.length_pos_iff.mp (hpos.trans_le hlenProfile))
      · exact absurd hmem hown.1
      · obtain hother | hself := (fields_longer hmac hip _).mp hother
        · exact ⟨hother.1, by omega⟩
        · omega
    have hfreeUser : 38 ∉ user := by
      intro hmem
      obtain ⟨hmem', hlt⟩ := hfromUser hmem
      have := (hfromProfile hmem').2
      omega
    have hfreeProfile : 38 ∉ profile := fun hmem ↦ hfreeUser (hfromProfile hmem).1
    obtain ⟨hreadUser, hreadProfile⟩ := postForm_of_free hfreeUser hmac hip hfreeProfile
    rw [hreadUser, field_iff hfreeUser] at huser
    rw [hreadProfile, field_iff hfreeProfile] at hprofile
    exact ⟨hne, huser, hprofile⟩
  · rintro ⟨hne, huser, hprofile⟩
    obtain ⟨hreadUser, hreadProfile⟩ := postForm_of_free huser.2.2.1 hmac hip hprofile.2.2.1
    rw [hreadUser, hreadProfile]
    exact ⟨hne, (field_iff huser.2.2.1).mpr huser, (field_iff hprofile.2.2.1).mpr hprofile⟩

end Body

/-- The names of a user and of a profile arrive just if a form carries both as they are. -/
theorem delivers_iff (o : OnLogin.Options) (user : String) : Delivers o user ↔
    user ≠ "" ∧ Carried 128 (bytes user) ∧ Carried 64 (bytes o.profileName) := by
  have hnil : bytes user ≠ [] ↔ user ≠ "" := not_congr bytes_eq_nil
  rw [← hnil]
  constructor
  · intro h
    let env : String → List UInt8 := fun name ↦ if name = "user" then bytes user else []
    have henv : env "user" = bytes user := if_pos rfl
    have hmac : env "\"mac-address\"" = [] := if_neg (by decide)
    have hip : env "address" = [] := if_neg (by decide)
    have hread := h env henv (by simp [hmac, Address]) (by simp [hip, Address])
    rw [requestBody_eq, henv, hmac, hip] at hread
    exact (readLogin_iff (by simp) (by simp)).mp hread
  · intro h env huser hmac hip
    rw [requestBody_eq, huser]
    exact (readLogin_iff hmac hip).mpr h

/-- A user of the generator whose name has been given a prefix with a plus sign. -/
theorem plus_sign_lost :
    ∃ user ∈ ((Vouchers.generate id (fun _ ↦ "") .utc
        { Vouchers.pair with usernamePrefix := "a+b" }).run Vouchers.Call.exec Vouchers.leaving
          []).2,
      ¬Delivers ⟨.removeRecord, "1d", 5, 5, false, "http://a", "default"⟩ user.args.name := by
  have hmade : (⟨"*1", ⟨"a+bcdef", "a+bcdef", "default", "all", "", 0, "G0"⟩⟩ : Vouchers.User) ∈
      ((Vouchers.generate id (fun _ ↦ "") .utc
        { Vouchers.pair with usernamePrefix := "a+b" }).run Vouchers.Call.exec Vouchers.leaving
          []).2 := by
    decide
  refine ⟨_, hmade, fun h ↦ ?_⟩
  let env : String → List UInt8 := fun name ↦ if name = "user" then bytes "a+bcdef" else []
  obtain ⟨form, hread, huser, -⟩ := h env rfl (by simp [env, Address]) (by simp [env, Address])
  have hform : readLogin (requestBody env ⟨.removeRecord, "1d", 5, 5, false, "http://a",
      "default"⟩) = some ⟨bytes "a bcdef", [], [], bytes "default"⟩ := by
    decide
  rw [hform] at hread
  obtain rfl := Option.some.inj hread
  exact absurd huser (by decide)

end Rosmon.Webhook
