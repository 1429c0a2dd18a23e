import Rosmon.Scripts.OnLogin
import Rosmon.Vouchers.Generate

namespace Rosmon.Vouchers

open Go Library Scripts

/-- The test that stands before the expiry is set in the script of a profile. -/
def loginTest (o : OnLogin.Options) : Option OnLogin.Condition :=
  if o.mode = .none then none else some OnLogin.firstLogin

/-- The test is the condition of an `:if` of the script. -/
theorem loginTest_in_script {o : OnLogin.Options} {c : OnLogin.Condition}
    (h : loginTest o = some c) : bytes "  :if (" ++ c.text ++ bytes ") do=\x7b\n" <:+:
      (OnLogin.build o).body := by
  unfold loginTest at h
  split_ifs at h with hmode
  obtain rfl := Option.some.inj h
  have hhead : bytes "  :if (" ++ OnLogin.firstLogin.text ++ bytes ") do=\x7b\n" <:+:
      OnLogin.expiryHead := by
    refine ⟨["\x7b\n", "  :local comment [/ip hotspot user get ",
      "[/ip hotspot user find where name=\"$user\"] comment];\n",
      "  :local ucode [:pic $comment 0 2];\n"].flatMap bytes,
      ["    :local date  [/system clock get date];\n", "    :local year  [:pick $date 7 11];\n",
      "    /sys sch add name=\"$user\" disable=no start-date=$date ",
      "interval=\""].flatMap bytes, ?_⟩
    simp only [OnLogin.expiryHead, List.flatMap_cons, List.flatMap_nil, List.append_assoc,
      List.append_nil]
  have hblock : OnLogin.expiryHead <:+: (OnLogin.build o).body := by
    rw [Script.body, OnLogin.build, if_neg hmode, OnLogin.writeExpiryBlock_eq]
    refine ⟨(OnLogin.writeMetadata o).map Prod.snd, bytes o.validity ++ OnLogin.expiryTail ++
      ((if o.lockMAC then OnLogin.writeLockMACBlock else []).map Prod.snd ++
        (OnLogin.writeWebhookBlock o).map Prod.snd), ?_⟩
    simp only [List.map_append, Mikrotik.map_snd_marked, pasted, List.append_assoc]
  exact hhead.trans hblock

/-- What the variables of the script are when a user with this comment logs in. -/
def loginEnv (comment : String) : String → List UInt8
  | "comment" => bytes comment
  | "ucode" => (bytes comment).take 2
  | _ => []

/-- The script of the profile sets the expiry of a user with this comment. -/
def StampsAtLogin (o : OnLogin.Options) (comment : String) : Prop :=
  ∃ c, loginTest o = some c ∧ c.eval (loginEnv comment) = true

/-- The validity is a duration of positive length. -/
def Positive (validity : String) : Prop := ∃ dur, Rosfmt.parseDuration validity = .ok dur ∧ 0 < dur

/-- The comment begins as those do that the script looks for. -/
def Coded (comment : String) : Prop :=
  (bytes comment).take 2 = bytes "vc" ∨ (bytes comment).take 2 = bytes "up"

theorem stampsAtLogin_iff {o : OnLogin.Options} (ho : o.mode ≠ .none) {comment : String} :
    StampsAtLogin o comment ↔ Coded comment ∨ comment = "" := by
  have htest : loginTest o = some OnLogin.firstLogin := if_neg ho
  have heval : OnLogin.firstLogin.eval (loginEnv comment) = true ↔
      Coded comment ∨ comment = "" := by
    simp [OnLogin.firstLogin, OnLogin.Condition.eval, loginEnv, Coded, bytes_eq_nil]
  simp [StampsAtLogin, htest, heval]

section Comments

theorem not_coded_of_head {s : String} {b : UInt8} (hs : (bytes s).head? = some b)
    (hv : b ≠ 118) (hu : b ≠ 117) : ¬(Coded s ∨ s = "") := by
  obtain ⟨bs, h⟩ := List.head?_eq_some_iff.mp hs
  have hvc : bytes "vc" = [118, 99] := by decide
  have hup : bytes "up" = [117, 112] := by decide
  rintro ((hs | hs) | rfl)
  · rw [h, hvc, List.take_succ_cons, List.cons.injEq] at hs
    exact hv hs.1
  · rw [h, hup, List.take_succ_cons, List.cons.injEq] at hs
    exact hu hs.1
  · cases h

/-- What a comment is followed by, after a blank, does not count. -/
theorem coded_append {comment : String} (hne : comment ≠ "") (rest : String) :
    Coded (comment ++ " " ++ rest) ↔ Coded comment := by
  have hvc : bytes "vc" = [118, 99] := by decide
  have hup : bytes "up" = [117, 112] := by decide
  have hblank : bytes " " = [32] := by decide
  have hbytes : bytes comment ≠ [] := fun h ↦ hne (bytes_eq_nil.mp h)
  unfold Coded
  rw [bytes_append, bytes_append, hvc, hup, hblank, List.append_assoc]
  obtain ⟨b, bs, hb⟩ := List.exists_cons_of_ne_nil hbytes
  rw [hb]
  cases bs with
  | nil => simp
  | cons c cs => rfl

/-- A stamp begins with the name of a month. -/
theorem not_coded_stamp (t : ℤ) (rest : String) :
    ¬(Coded (String.ofList (stamp t) ++ rest) ∨ String.ofList (stamp t) ++ rest = "") := by
  have hhead : ∃ c cs, stamp t = c :: cs ∧ ∃ b, bytes (String.ofList [c]) = [b] ∧
      b ≠ 118 ∧ b ≠ 117 := by
    unfold stamp formatStamp
    obtain ⟨hlow, hhigh⟩ := month_range t
    generalize month t = m at hlow hhigh
    interval_cases m <;> exact ⟨_, _, rfl, _, rfl, by decide, by decide⟩
  obtain ⟨c, cs, hstamp, b, hc, hv, hu⟩ := hhead
  refine not_coded_of_head ?_ hv hu
  rw [bytes_append, hstamp, ← List.singleton_append, String.ofList_append, bytes_append, hc]
  rfl

theorem not_coded_gencode (rest : String) : ¬(Coded ("G" ++ rest) ∨ "G" ++ rest = "") := by
  have hletter : bytes "G" = [71] := by decide
  refine not_coded_of_head (b := 71) ?_ (by decide) (by decide)
  rw [bytes_append, hletter]
  rfl

/-- The comment with its gencode, as `Generate` puts it into the spec at some time. -/
def noted (comment : String) (now : ℤ) : String :=
  let gencode := "G" ++ toString (now / 1000000)
  if comment = "" then gencode else comment ++ " " ++ gencode

theorem coded_noted (comment : String) (now : ℤ) :
    Coded (noted comment now) ∨ noted comment now = "" ↔ Coded comment := by
  unfold noted
  split_ifs with hempty
  · have hnot : ¬Coded comment := by
      rw [hempty]
      unfold Coded
      decide
    exact iff_of_false (not_coded_gencode _) hnot
  · have hne : comment ++ " " ++ ("G" ++ toString (now / 1000000)) ≠ "" := by
      intro h
      have hbytes := bytes_eq_nil.mpr h
      rw [bytes_append, bytes_append] at hbytes
      exact hempty (bytes_eq_nil.mp (by simpa using hbytes : bytes comment = [] ∧ _).1)
    rw [or_iff_left hne]
    exact coded_append hempty _

end Comments

section Args

variable {loc : Zone} {now : ℤ} {spec : VoucherSpec} {username password : String}
  {args : UserAddArgs}

theorem not_positive_empty : ¬Positive "" := by
  rintro ⟨dur, hdur, hpos⟩
  cases hdur

/-- Which comment a voucher gets: one with a stamp in front, or that of the spec. -/
theorem comment_of_args (h : buildVoucherAddArgs loc now spec username password = .ok args) :
    Positive spec.validity ∧ (∃ t rest, args.comment = String.ofList (stamp t) ++ rest) ∨
      ¬Positive spec.validity ∧ args.comment = spec.comment := by
  unfold buildVoucherAddArgs at h
  by_cases hvalidity : spec.validity = ""
  · rw [if_pos hvalidity] at h
    cases h
    exact .inr ⟨hvalidity ▸ not_positive_empty, rfl⟩
  · rw [if_neg hvalidity] at h
    cases hdur : Rosfmt.parseDuration spec.validity with
    | error err =>
      rw [hdur] at h
      cases h
    | ok dur =>
      rw [hdur] at h
      by_cases hpos : 0 < dur
      · simp only [if_pos hpos] at h
        cases h
        refine .inl ⟨⟨dur, hdur, hpos⟩, loc.clock (now + dur), ?_⟩
        by_cases hcomment : spec.comment = ""
        · exact ⟨"", by simp [hcomment]⟩
        · exact ⟨" " ++ spec.comment, by simp [hcomment, String.append_assoc]⟩
      · simp only [if_neg hpos] at h
        cases h
        refine .inr ⟨fun hpositive ↦ hpos ?_, rfl⟩
        obtain ⟨dur', hdur', hpos'⟩ := hpositive
        rw [hdur] at hdur'
        cases hdur'
        exact hpos'

end Args

section Made

variable {loc : Zone} {spec : VoucherSpec}

/-- Every user has been made out of the spec. -/
def Made (loc : Zone) (spec : VoucherSpec) (users : List User) : Prop :=
  ∀ user ∈ users, ∃ now username password,
    buildVoucherAddArgs loc now spec username password = .ok user.args

theorem Draws.made {ok : Surroundings → Prop} {α : Type} {p : Prog α} (hp : p.Only Draws)
    {users : List User} (h : Made loc spec users) :
    p.wp Call.exec ok (fun _ users' ↦ Made loc spec users') users := by
  refine hp.wp (fun c e users' hc _ hmade ↦ ?_) h
  rw [(hc.quiet e users').2]
  exact hmade

theorem Made.concat {users : List User} (h : Made loc spec users) {now : ℤ}
    {username password id : String} {args : UserAddArgs}
    (hargs : buildVoucherAddArgs loc now spec username password = .ok args) :
    Made loc spec (users ++ [⟨id, args⟩]) := by
  intro user huser
  obtain huser | huser := List.mem_append.mp huser
  · exact h user huser
  · obtain rfl := List.mem_singleton.mp huser
    exact ⟨now, username, password, hargs⟩

theorem generateLoop_made {ok : Surroundings → Prop} (chars : String) (n : ℕ)
    (out : List GeneratedVoucher) {users : List User} (h : Made loc spec users) :
    (generateLoop loc spec chars n out).wp Call.exec ok
      (fun _ users' ↦ Made loc spec users') users := by
  induction n generalizing out users with
  | zero => exact h
  | succ n ih =>
    simp only [generateLoop, ask, Program.perform_bind]
    intro e _
    dsimp only [Call.exec]
    cases e.contextErr with
    | some err => exact h
    | none =>
      refine (Program.wp_bind _ _ _).mpr (Program.wp_mono
        (Draws.made (randomString_only _ _ _) h) fun username users' h' ↦ ?_)
      cases username with
      | error err => exact h'
      | ok username =>
        refine (Program.wp_bind _ _ _).mpr (Program.wp_mono
          (Draws.made (passwordOf_only _ _ _) h') fun password users'' h'' ↦ ?_)
        cases password with
        | error err => exact h''
        | ok password =>
          intro e' _
          dsimp only [Call.exec]
          cases hargs : buildVoucherAddArgs loc e'.now spec username password with
          | error err => exact h''
          | ok args =>
            dsimp only
            unfold userAdd
            split_ifs
            · exact h''
            · intro e'' _
              dsimp only [Call.exec]
              cases e''.router with
              | refused err => exact h''
              | done id => exact ih _ (h''.concat hargs)
              | lost id err => exact h''.concat hargs

end Made

/-- Surroundings in which nothing fails. -/
def smooth : Surroundings := ⟨none, .ok 0, 0, .done "*1"⟩

section Smooth

variable {loc : Zone} {spec : VoucherSpec} {users : List User}

theorem randomRunes_smooth (rune : Char) (runes : List Char) (n : ℕ) (b : List Char) :
    (randomRunes rune runes n b).wp Call.exec (· = smooth) (fun r users' ↦ users' = users ∧
      ∃ b', r = .ok b' ∧ b'.length = b.length + n) users := by
  induction n generalizing b with
  | zero => exact ⟨rfl, b, rfl, rfl⟩
  | succ n ih =>
    simp only [randomRunes, ask, Program.perform_bind]
    rintro e rfl
    refine Program.wp_mono (ih _) ?_
    rintro r users' ⟨rfl, b', rfl, hlen⟩
    refine ⟨rfl, b', rfl, ?_⟩
    rw [hlen, List.length_append, List.length_singleton]
    omega

theorem randomString_smooth (pre : String) {n : ℤ} (hn : 0 < n) {chars : String}
    (hchars : chars ≠ "") : (randomString pre n chars).wp Call.exec (· = smooth)
      (fun r users' ↦ users' = users ∧ ∃ s, r = .ok s ∧ s ≠ "") users := by
  unfold randomString
  split
  next h => exact absurd (String.toList_eq_nil_iff.mp h) hchars
  next rune runes _ =>
    rw [if_neg (by omega)]
    refine (Program.wp_map _ _ _).mpr (Program.wp_mono (randomRunes_smooth rune runes _ _) ?_)
    rintro r users' ⟨rfl, b', rfl, hlen⟩
    refine ⟨rfl, pre ++ String.ofList b', rfl, fun h ↦ ?_⟩
    have hlist := congrArg (List.length ∘ String.toList) h
    simp [String.toList_append, hlen] at hlist
    omega

theorem passwordOf_smooth (hn : 0 < spec.length) {chars : String} (hchars : chars ≠ "")
    {username : String} (hname : username ≠ "") :
    (generateLoop.passwordOf spec chars username).wp Call.exec (· = smooth)
      (fun r users' ↦ users' = users ∧ ∃ s, r = .ok s ∧ s ≠ "") users := by
  unfold generateLoop.passwordOf
  split_ifs
  · exact ⟨rfl, username, rfl, hname⟩
  · exact randomString_smooth "" hn hchars

/-- The validity is empty, or one that the program can read. -/
def Readable (validity : String) : Prop :=
  validity = "" ∨ ∃ dur, Rosfmt.parseDuration validity = .ok dur

theorem args_of_readable (h : Readable spec.validity) (now : ℤ) (username password : String) :
    ∃ args, buildVoucherAddArgs loc now spec username password = .ok args := by
  unfold buildVoucherAddArgs
  obtain hempty | ⟨dur, hdur⟩ := h
  · exact ⟨_, if_pos hempty⟩
  · by_cases hempty : spec.validity = ""
    · exact ⟨_, if_pos hempty⟩
    · rw [if_neg hempty, hdur]
      by_cases hpos : 0 < dur
      · exact ⟨_, if_pos hpos⟩
      · exact ⟨_, if_neg hpos⟩

theorem exec_ne_nil (c : Call) (e : Surroundings) (users : List User) (h : users ≠ []) :
    (c.exec e users).2 ≠ [] := by
  cases c with
  | add args =>
    dsimp only [Call.exec]
    cases e.router with
    | refused err => exact h
    | done id | lost id err => exact List.append_ne_nil_of_left_ne_nil h _
  | ctxErr | randInt | now => exact h

/-- A batch in which nothing fails makes a user. -/
theorem generateLoop_ne_nil (hn : 0 < spec.length) {chars : String} (hchars : chars ≠ "")
    (hvalidity : Readable spec.validity) (n : ℕ) (out : List GeneratedVoucher) :
    (generateLoop loc spec chars (n + 1) out).wp Call.exec (· = smooth)
      (fun _ users' ↦ users' ≠ []) users := by
  simp only [generateLoop, ask, Program.perform_bind]
  rintro e rfl
  refine (Program.wp_bind _ _ _).mpr (Program.wp_mono
    (randomString_smooth spec.usernamePrefix hn hchars) ?_)
  rintro r users' ⟨rfl, username, rfl, hname⟩
  refine (Program.wp_bind _ _ _).mpr (Program.wp_mono (passwordOf_smooth hn hchars hname) ?_)
  rintro r users' ⟨rfl, password, rfl, -⟩
  rintro e rfl
  have ⟨args, hargs⟩ : ∃ args, buildVoucherAddArgs loc smooth.now spec username password = .ok args :=
    args_of_readable hvalidity smooth.now username password
  have hargsName : args.name ≠ "" := by
    rw [(args_of_buildVoucherAddArgs hargs).1]
    exact hname
  dsimp only [Call.exec]
  rw [hargs]
  dsimp only
  rw [userAdd, if_neg hargsName]
  rintro e rfl
  exact Program.wp_keeps exec_ne_nil _ (List.append_ne_nil_of_right_ne_nil _ (by simp))

end Smooth

section Requests

variable {quote : String → String} {duration : Rosfmt.DurationError → String} {loc : Zone}
  {req : VoucherGenerateRequest}

/-- What the vouchers of a request are made of, if it is handled at some time. -/
def VoucherGenerateRequest.spec (req : VoucherGenerateRequest) (now : ℤ) : VoucherSpec :=
  { req.toDomain with comment := noted req.comment now }

/-- A request that passes every check before the first voucher. -/
def Accepted (req : VoucherGenerateRequest) : Prop :=
  req.valid = true ∧ validateVoucherSpec req.toDomain = .ok () ∧ Readable req.validity

theorem readable_of_args {now : ℤ} {spec : VoucherSpec} {username password : String}
    {args : UserAddArgs} (h : buildVoucherAddArgs loc now spec username password = .ok args) :
    Readable spec.validity := by
  unfold buildVoucherAddArgs at h
  by_cases hempty : spec.validity = ""
  · exact .inl hempty
  · rw [if_neg hempty] at h
    cases hdur : Rosfmt.parseDuration spec.validity with
    | error err =>
      rw [hdur] at h
      cases h
    | ok dur => exact .inr ⟨dur, hdur⟩

theorem generateVouchers_made {ok : Surroundings → Prop} (spec : VoucherSpec) :
    (generateVouchers loc spec).wp Call.exec ok (fun _ users ↦
      users = [] ∨ validateVoucherSpec spec = .ok () ∧ Made loc spec users) [] := by
  unfold generateVouchers
  cases hspec : validateVoucherSpec spec with
  | error err => exact .inl rfl
  | ok u =>
    refine Program.wp_mono (generateLoop_made _ _ _ fun user huser ↦ nomatch huser) ?_
    exact fun _ users hmade ↦ .inr ⟨rfl, hmade⟩

theorem validate_spec (now : ℤ) :
    validateVoucherSpec (req.spec now) = validateVoucherSpec req.toDomain := rfl

/-- The users of a request have been made of its spec, and it has been accepted. -/
theorem generate_made : (generate quote duration loc req).wp Call.exec (fun _ ↦ True)
    (fun _ users ↦ users = [] ∨ req.valid = true ∧ validateVoucherSpec req.toDomain = .ok () ∧
      ∃ now, Made loc (req.spec now) users) [] := by
  unfold generate
  by_cases hvalid : req.valid = true
  · rw [if_neg (not_not_intro hvalid)]
    simp only [ask, Program.perform_bind]
    intro e _
    refine (Program.wp_map _ _ _).mpr (Program.wp_mono
      (generateVouchers_made (req.spec (Call.now.exec e []).1)) fun _ users hmade ↦ ?_)
    obtain hnone | ⟨hspec, hmade⟩ := hmade
    · exact .inl hnone
    · exact .inr ⟨hvalid, validate_spec _ ▸ hspec, _, hmade⟩
  · rw [if_pos hvalid]
    exact .inl rfl

theorem drawable_of_valid {spec : VoucherSpec} (h : validateVoucherSpec spec = .ok ()) :
    0 < spec.length ∧ ((Charset.ofString spec.charset).map Charset.chars).getD "" ≠ "" := by
  unfold validateVoucherSpec at h
  by_cases hbatch : spec.batchSize ≤ 0
  · rw [if_pos hbatch] at h
    cases h
  by_cases hcapped : 1000 < spec.batchSize
  · rw [if_neg hbatch, if_pos hcapped] at h
    cases h
  by_cases hlength : spec.length ≤ 0 ∨ 32 < spec.length
  · rw [if_neg hbatch, if_neg hcapped, if_pos hlength] at h
    cases h
  rw [if_neg hbatch, if_neg hcapped, if_neg hlength] at h
  refine ⟨by omega, fun hchars ↦ ?_⟩
  cases hcharset : Charset.ofString spec.charset with
  | none =>
    rw [hcharset] at h
    cases h
  | some charset =>
    rw [hcharset] at h hchars
    have hempty : charset.chars = "" := hchars
    simp only [hempty, if_true] at h
    cases h

theorem generateVouchers_ne_nil {spec : VoucherSpec} (h : validateVoucherSpec spec = .ok ())
    (hvalidity : Readable spec.validity) : (generateVouchers loc spec).wp Call.exec (· = smooth)
      (fun _ users ↦ users ≠ []) [] := by
  obtain ⟨hlength, hchars⟩ := drawable_of_valid h
  have hpos := batchSize_pos h
  obtain ⟨n, hn⟩ : ∃ n, spec.batchSize.toNat = n + 1 :=
    ⟨_, (Nat.succ_pred_eq_of_pos (by omega)).symm⟩
  unfold generateVouchers
  rw [h]
  dsimp only
  rw [hn]
  exact generateLoop_ne_nil hlength hchars hvalidity n []

theorem generate_ne_nil (h : Accepted req) : (generate quote duration loc req).wp Call.exec
    (· = smooth) (fun _ users ↦ users ≠ []) [] := by
  obtain ⟨hvalid, hspec, hvalidity⟩ := h
  unfold generate
  rw [if_neg (not_not_intro hvalid)]
  simp only [ask, Program.perform_bind]
  rintro e rfl
  have hspec : validateVoucherSpec (req.spec (Call.now.exec smooth []).1) = .ok () := hspec
  exact (Program.wp_map _ _ _).mpr (generateVouchers_ne_nil hspec hvalidity)

end Requests

/-- The vouchers of a request and the script of their profile agree on when the validity starts:
the script sets the expiry of just those that have none yet. -/
def Agree (quote : String → String) (duration : Rosfmt.DurationError → String) (loc : Zone)
    (req : VoucherGenerateRequest) : Prop :=
  ∀ o : OnLogin.Options, o.mode ≠ .none → o.profileName = req.profile →
    ∀ env : ℕ → Surroundings, ∀ user ∈ ((generate quote duration loc req).run Call.exec env []).2,
      (StampsAtLogin o user.args.comment ↔ ¬Positive req.validity)

/-- What the script does with a user that has been made of the spec of a request. -/
theorem stampsAtLogin_made {loc : Zone} {req : VoucherGenerateRequest} {users : List User}
    {t : ℤ} (hmade : Made loc (req.spec t) users) {user : User} (huser : user ∈ users)
    {o : OnLogin.Options} (ho : o.mode ≠ .none) :
    Readable req.validity ∧ (StampsAtLogin o user.args.comment ↔
      ¬Positive req.validity ∧ Coded req.comment) := by
  obtain ⟨now, username, password, hargs⟩ := hmade user huser
  refine ⟨readable_of_args hargs, (stampsAtLogin_iff ho).trans ?_⟩
  obtain ⟨hpos, stamped, rest, hcomment⟩ | ⟨hpos, hcomment⟩ := comment_of_args hargs
  · rw [hcomment]
    exact iff_of_false (not_coded_stamp _ _) fun h ↦ h.1 hpos
  · rw [hcomment]
    exact (coded_noted req.comment t).trans (and_iff_right hpos).symm

/-- They agree for a request that makes vouchers just if it has a validity of positive length or
a comment that begins as the script wants it. -/
theorem agree_iff (quote : String → String) (duration : Rosfmt.DurationError → String) (loc : Zone)
    (req : VoucherGenerateRequest) : Agree quote duration loc req ↔
      (Accepted req → Positive req.validity ∨ Coded req.comment) := by
  have hmade (env : ℕ → Surroundings) := Program.run_of_wp (@generate_made quote duration loc req)
    env fun _ ↦ trivial
  constructor
  · intro hagree haccepted
    have hne := Program.run_of_wp (@generate_ne_nil quote duration loc req haccepted)
      (fun _ ↦ smooth) fun _ ↦ rfl
    obtain hnone | ⟨-, -, t, hmade⟩ := hmade fun _ ↦ smooth
    · exact absurd hnone hne
    · obtain ⟨user, huser⟩ := List.exists_mem_of_ne_nil _ hne
      let o : OnLogin.Options := ⟨.remove, "", 0, 0, false, "", req.profile⟩
      have ho : o.mode ≠ .none := nofun
      have hagree := hagree o ho rfl (fun _ ↦ smooth) user huser
      rw [(stampsAtLogin_made hmade huser ho).2] at hagree
      by_cases hpos : Positive req.validity
      · exact .inl hpos
      · exact .inr (hagree.mpr hpos).2
  · intro h o ho _ env user huser
    obtain hnone | ⟨hvalid, hspec, t, hmade⟩ := hmade env
    · rw [hnone] at huser
      cases huser
    · obtain ⟨hreadable, hstamps⟩ := stampsAtLogin_made hmade huser ho
      rw [hstamps]
      obtain hpos | hcoded := h ⟨hvalid, hspec, hreadable⟩
      · exact iff_of_false (fun h ↦ h.1 hpos) (not_not_intro hpos)
      · exact and_iff_left hcoded

/-- A request without a comment and a validity: the gencode keeps the script from setting the
expiry. -/
theorem gencode_hides_login : ¬Agree id (fun _ ↦ "") .utc pair := by
  intro h
  have hmade : (⟨"*1", ⟨"cdef", "cdef", "default", "all", "", 0, "G0"⟩⟩ : User) ∈
      ((generate id (fun _ ↦ "") .utc pair).run Call.exec leaving []).2 := by
    decide
  let o : OnLogin.Options := ⟨.remove, "1d", 0, 0, false, "", "default"⟩
  have ho : o.mode ≠ .none := nofun
  have hstamps := (h o ho rfl leaving _ hmade).mpr not_positive_empty
  exact not_coded_gencode "0" ((stampsAtLogin_iff ho).mp hstamps)

end Rosmon.Vouchers
