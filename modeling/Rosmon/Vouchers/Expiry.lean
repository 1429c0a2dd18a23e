import Rosmon.Vouchers.Spec

namespace Rosmon.Vouchers

open Go Store

/-- The slice that is read is one of bytes; no text with a letter of several bytes can be read. -/
def parseExpiry (comment : String) (loc : Zone) : Option ℤ :=
  let value := (trimSpace comment).toList
  if value.length < 20 then none
  else (parseStamp (value.take 20)).map fun (w, nsec) ↦ loc.resolve (w.time + nsec)

structure MikrotikDevice where
  id : ℕ
  timeZone : String
  deriving DecidableEq

structure HotspotUser where
  id : String
  name : String
  profile : String
  macAddress : String
  comment : String
  deriving DecidableEq

section CheckDevice

variable {Config : Type} (zones : String → Option Zone)

/-- The zone of the router, or UTC. -/
def location (d : MikrotikDevice) : Zone :=
  if d.timeZone = "" then .utc else (zones d.timeZone).getD .utc

/-- The loop over the users: those that `executeExpiry` is called for, with their profile. -/
def expired (loc : Zone) (now : ℤ) (getByName : String → Except Error Config) :
    List HotspotUser → List (HotspotUser × Config)
  | [] => []
  | u :: users => match parseExpiry u.comment loc with
    | none => expired loc now getByName users
    | some expiry =>
      if now < expiry then expired loc now getByName users
      else match getByName u.profile with
        | .error _ => expired loc now getByName users
        | .ok cfg => (u, cfg) :: expired loc now getByName users

def checkDevice (d : MikrotikDevice) (client : Except Error Unit)
    (userList : Except Error (List HotspotUser)) (now : ℤ)
    (getByName : String → Except Error Config) : Except Error (List (HotspotUser × Config)) :=
  match client with
  | .error err => .error err
  | .ok () => match userList with
    | .error err => .error (.wrap "userlist: " err)
    | .ok users => .ok (expired (location zones d) now getByName users)

theorem mem_expired_iff {loc : Zone} {now : ℤ} {getByName : String → Except Error Config}
    {users : List HotspotUser} {u : HotspotUser} {cfg : Config} :
    (u, cfg) ∈ expired loc now getByName users ↔ u ∈ users ∧
      (∃ expiry ∈ parseExpiry u.comment loc, expiry ≤ now) ∧ getByName u.profile = .ok cfg := by
  induction users with
  | nil => simp [expired]
  | cons v users ih =>
    -- A user that is passed over is none that is asked for.
    have hskip (h : ¬((∃ expiry ∈ parseExpiry v.comment loc, expiry ≤ now) ∧
        getByName v.profile = .ok cfg)) : (u ∈ users ∧
          (∃ expiry ∈ parseExpiry u.comment loc, expiry ≤ now) ∧ getByName u.profile = .ok cfg ↔
            u ∈ v :: users ∧ (∃ expiry ∈ parseExpiry u.comment loc, expiry ≤ now) ∧
              getByName u.profile = .ok cfg) := by
      rw [List.mem_cons]
      constructor
      · exact fun hu ↦ ⟨.inr hu.1, hu.2⟩
      · rintro ⟨rfl | hu, hrest⟩
        · exact absurd hrest h
        · exact ⟨hu, hrest⟩
    unfold expired
    cases hparse : parseExpiry v.comment loc with
    | none =>
      refine ih.trans (hskip ?_)
      simp [hparse]
    | some expiry =>
      dsimp only
      split_ifs with hnow
      · refine ih.trans (hskip ?_)
        simp [hparse, hnow]
      cases hget : getByName v.profile with
      | error err =>
        refine ih.trans (hskip ?_)
        simp [hget]
      | ok cfg' =>
        dsimp only
        rw [List.mem_cons, Prod.mk.injEq, ih, List.mem_cons]
        constructor
        · rintro (⟨rfl, rfl⟩ | ⟨hu, hrest⟩)
          · exact ⟨.inl rfl, ⟨expiry, hparse, not_lt.mp hnow⟩, hget⟩
          · exact ⟨.inr hu, hrest⟩
        · rintro ⟨rfl | hu, hrest⟩
          · rw [hget] at hrest
            exact .inl ⟨rfl, (Except.ok.inj hrest.2).symm⟩
          · exact .inr ⟨hu, hrest⟩

end CheckDevice

section Comments

/-- The text begins with a date, as a stamp has it. -/
def Dated (comment : String) : Prop :=
  ∃ w : Wall, w.Valid ∧ ∃ text rest, w.Written text ∧ (trimSpace comment).toList = text ++ rest

variable {comment : String} {loc : Zone} {w : Wall}

/-- A text of the right form at the beginning is what is read. -/
theorem parseExpiry_of_written {text rest : List Char} (hw : w.Valid) (htext : w.Written text)
    (h : (trimSpace comment).toList = text ++ rest) :
    parseExpiry comment loc = some (loc.resolve w.time) := by
  have hlength := htext.length hw
  have htake : (text ++ rest).take 20 = text := List.take_left' hlength
  have hlong : ¬(text ++ rest).length < 20 := by
    rw [List.length_append]
    omega
  have hparse := (parseStamp_iff hlength).mpr ⟨hw, htext, rfl⟩
  simp only [parseExpiry, h, hlong, if_false, htake, hparse, Option.map_some, Nat.cast_zero,
    add_zero]

theorem written_of_parseExpiry (h : parseExpiry comment loc ≠ none) :
    ∃ w : Wall, w.Valid ∧ w.Written ((trimSpace comment).toList.take 20) := by
  unfold parseExpiry at h
  dsimp only at h
  split_ifs at h with hshort
  · exact absurd rfl h
  · have hlength : ((trimSpace comment).toList.take 20).length = 20 := by
      rw [List.length_take]
      omega
    cases hparse : parseStamp ((trimSpace comment).toList.take 20) with
    | none => simp [hparse] at h
    | some p =>
      obtain ⟨hw, htext, -⟩ := (parseStamp_iff (w := p.1) (k := p.2) hlength).mp hparse
      exact ⟨p.1, hw, htext⟩

theorem parseExpiry_eq_none_iff : parseExpiry comment loc = none ↔ ¬Dated comment := by
  constructor
  · rintro h ⟨w, hw, text, rest, htext, hcomment⟩
    rw [parseExpiry_of_written hw htext hcomment] at h
    cases h
  · intro h
    by_contra hsome
    obtain ⟨w, hw, htext⟩ := written_of_parseExpiry hsome
    exact h ⟨w, hw, _, _, htext, (List.take_append_drop 20 _).symm⟩

/-- The expiry that is read of a comment with a stamp. -/
theorem parseExpiry_stamp_iff (server router : Zone) (e : ℤ) {tail : List Char}
    (h : comment = String.ofList (stamp (server.clock e) ++ tail)) :
    parseExpiry comment router = some (e - e % 1000000000) ↔
      (0 ≤ year (server.clock e) ∧ year (server.clock e) < 10000) ∧
        router.resolve (server.clock e) = e := by
  obtain ⟨tail', htrim⟩ := stamp_trim (server.clock e) tail
  rw [← h] at htrim
  by_cases hyear : 0 ≤ year (server.clock e) ∧ year (server.clock e) < 10000
  · obtain ⟨w, hw, htext, htime⟩ := stamp_written hyear
    rw [parseExpiry_of_written hw htext htrim, htime, Option.some.injEq,
      Zone.resolve_clock_iff, and_iff_right hyear]
  · simp only [hyear, false_and, iff_false]
    intro hsome
    have hread : parseExpiry comment router ≠ none := by
      rw [hsome]
      exact nofun
    obtain ⟨w, hw, htext⟩ := written_of_parseExpiry hread
    rw [htrim] at htext
    exact stamp_unreadable hyear hw htext

end Comments

/-- The instant at which a voucher that is made now is to expire. -/
def expiryOf (spec : VoucherSpec) (now : ℤ) : Option ℤ :=
  if spec.validity = "" then none
  else match Rosfmt.parseDuration spec.validity with
    | .error _ => none
    | .ok dur => if 0 < dur then some (now + dur - (now + dur) % 1000000000) else none

/-- What is built can be read back, and `checkDevice` goes by it. -/
def KeepsExpiry (loc : Zone) (zones : String → Option Zone) (d : MikrotikDevice)
    (spec : VoucherSpec) (username password : String) (now : ℤ) : Prop :=
  ∀ args, buildVoucherAddArgs loc now spec username password = .ok args →
    parseExpiry args.comment (location zones d) = expiryOf spec now ∧
      ∀ (Config : Type) (getByName : String → Except Error Config) (users : List HotspotUser)
        (u : HotspotUser) (cfg : Config) (now' : ℤ), u ∈ users → u.comment = args.comment →
          getByName u.profile = .ok cfg →
            ∃ acted, checkDevice zones d (.ok ()) (.ok users) now' getByName = .ok acted ∧
              ((u, cfg) ∈ acted ↔ ∃ expiry ∈ expiryOf spec now, expiry ≤ now')

/-- The router's zone takes what the server's clock shows at the instant for the instant itself;
a comment that gets no stamp does not look as if it had one. -/
def Legible (loc router : Zone) (spec : VoucherSpec) (now : ℤ) : Prop :=
  if spec.validity = "" then ¬Dated spec.comment
  else match Rosfmt.parseDuration spec.validity with
    | .error _ => True
    | .ok dur =>
      if 0 < dur then
        (0 ≤ year (loc.clock (now + dur)) ∧ year (loc.clock (now + dur)) < 10000) ∧
          router.resolve (loc.clock (now + dur)) = now + dur
      else ¬Dated spec.comment

section RoundTrip

variable (loc : Zone) (zones : String → Option Zone) (d : MikrotikDevice) (spec : VoucherSpec)
  (username password : String) (now : ℤ)

/-- What `checkDevice` does follows from what it reads. -/
theorem keepsExpiry_iff_parse : KeepsExpiry loc zones d spec username password now ↔
    ∀ args, buildVoucherAddArgs loc now spec username password = .ok args →
      parseExpiry args.comment (location zones d) = expiryOf spec now := by
  refine forall₂_congr fun args _ ↦ and_iff_left_of_imp fun hparse ↦ ?_
  intro Config getByName users u cfg now' hu hcomment hcfg
  refine ⟨_, rfl, ?_⟩
  rw [mem_expired_iff, hcomment, hparse]
  exact ⟨fun h ↦ h.2.1, fun h ↦ ⟨hu, h, hcfg⟩⟩

/-- A voucher expires when it is to expire just if its comment is legible for the router. -/
theorem keepsExpiry_iff : KeepsExpiry loc zones d spec username password now ↔
    Legible loc (location zones d) spec now := by
  rw [keepsExpiry_iff_parse]
  unfold buildVoucherAddArgs expiryOf Legible
  by_cases hvalidity : spec.validity = ""
  · simp [hvalidity, parseExpiry_eq_none_iff]
  simp only [hvalidity, if_false]
  cases hdur : Rosfmt.parseDuration spec.validity with
  | error err => simp
  | ok dur =>
    by_cases hpos : 0 < dur
    · simp only [hpos, if_true, Except.ok.injEq, forall_eq']
      have htail : ∃ tail, (if spec.comment = "" then
          String.ofList (stamp (loc.clock (now + dur)))
        else String.ofList (stamp (loc.clock (now + dur))) ++ " " ++ spec.comment) =
          String.ofList (stamp (loc.clock (now + dur)) ++ tail) := by
        split_ifs
        · exact ⟨[], by rw [List.append_nil]⟩
        · refine ⟨' ' :: spec.comment.toList, String.toList_injective ?_⟩
          simp [String.toList_append]
      obtain ⟨tail, htail⟩ := htail
      exact parseExpiry_stamp_iff loc _ _ htail
    · simp [hpos, parseExpiry_eq_none_iff]

end RoundTrip

/-- A voucher for one day that is made on 14 November 2023 at 22:13:20 UTC. -/
def oneDay : VoucherSpec where
  server := "all"
  userMode := "vc"
  length := 8
  usernamePrefix := ""
  charset := "lower"
  profile := "harian"
  timeLimit := ""
  dataLimit := 0
  comment := "G1"
  validity := "1d"
  batchSize := 1

/-- A server on UTC and a router seven hours ahead: the voucher expires seven hours early. -/
theorem expiry_shifted : ¬KeepsExpiry .utc (fun _ ↦ some (.fixed 25200 (by decide)))
    ⟨1, "Asia/Jakarta"⟩ oneDay "budi" "budi" (1700000000 * 1000000000) := by
  intro h
  have hargs : buildVoucherAddArgs .utc (1700000000 * 1000000000) oneDay "budi" "budi" =
      .ok ⟨"budi", "budi", "harian", "all", "", 0, "nov/15/2023 22:13:20 G1"⟩ := by
    decide +kernel
  have hparse := (h _ hargs).1
  revert hparse
  decide +kernel

end Rosmon.Vouchers
