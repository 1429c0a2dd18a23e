import Rosmon.Handler.Handlers
import Rosmon.Vouchers.Spec

namespace Rosmon.Vouchers

open Go Library Store Handler

structure GeneratedVoucher where
  id : String
  username : String
  password : String
  deriving DecidableEq

structure GenerateVouchersErr where
  created : List GeneratedVoucher
  failed : VoucherError
  deriving DecidableEq

/-- The error of `GenerateVouchers`: `errors.As` finds a `GenerateVouchersErr` in it or not. -/
inductive GenerateError
  | batch (err : GenerateVouchersErr)
  | plain (err : VoucherError)
  deriving DecidableEq

structure VoucherGenerateRequest where
  server : String
  userMode : String
  length : ℤ
  usernamePrefix : String
  charset : String
  profile : String
  timeLimit : String
  dataLimit : ℤ
  comment : String
  validity : String
  price : ℤ
  sellPrice : ℤ
  batchSize : ℤ
  deriving DecidableEq

/-- The binding rules of the request. -/
def VoucherGenerateRequest.valid (req : VoucherGenerateRequest) : Bool :=
  req.userMode ∈ ["", "up", "vc"] && 4 ≤ req.length && req.length ≤ 32 &&
    req.usernamePrefix.length ≤ 16 && req.charset ≠ "" && req.profile ≠ "" &&
    req.profile.length ≤ 128 && 0 ≤ req.dataLimit && req.comment.length ≤ 128 && 0 ≤ req.price &&
    0 ≤ req.sellPrice && 1 ≤ req.batchSize && req.batchSize ≤ 1000

def VoucherGenerateRequest.toDomain (req : VoucherGenerateRequest) : VoucherSpec where
  server := if req.server = "" then "all" else req.server
  userMode := if req.userMode = "" then "up" else req.userMode
  length := req.length
  usernamePrefix := req.usernamePrefix
  charset := req.charset
  profile := req.profile
  timeLimit := req.timeLimit
  dataLimit := req.dataLimit
  comment := req.comment
  validity := req.validity
  batchSize := req.batchSize

structure VoucherGenerateResponse where
  vouchers : List GeneratedVoucher
  count : ℕ
  gencode : String
  profile : String
  isPartial : Bool
  error : String
  deriving DecidableEq

section Text

-- What `%q` makes of a text, and the text of an error of `ParseDuration`.
variable (quote : String → String) (duration : Rosfmt.DurationError → String)

def VoucherError.text : VoucherError → String
  | .batchSize => invalid ++ "batch_size must be > 0"
  | .batchSizeCapped => invalid ++ "batch_size capped at 1000"
  | .length => invalid ++ "length must be in (0, 32]"
  | .charset name => invalid ++ "invalid charset " ++ quote name
  | .emptyCharset => invalid ++ "empty character set"
  | .profile => invalid ++ "profile required"
  | .emptyChars => "randomString: empty chars"
  | .random err => "randomString: rand.Int: " ++ err.text
  | .validity value err => invalid ++ "invalid validity " ++ quote value ++ ": " ++ duration err
  | .userAdd username err => "UserAdd " ++ quote username ++ ": " ++ err.text
  | .context err => err.text
where
  invalid := Sentinel.mikrotikInvalidArgument.text ++ ": "

def VoucherError.error (err : VoucherError) : Error := ⟨err.text quote duration, err.chain⟩

end Text

/-- What the request asks of its surroundings. -/
inductive Call
  | ctxErr
  | randInt (last : ℕ)
  | now
  | add (args : UserAddArgs)

/-- A random number is at most `last`; `add` replies with the id of the new user. -/
abbrev Call.Reply : Call → Type
  | .ctxErr => Option Sentinel
  | .randInt last => Except Error (Fin (last + 1))
  | .now => ℤ
  | .add _ => Except Error String

abbrev Prog := Program Call Call.Reply

abbrev ask (c : Call) : Prog c.Reply := Program.perform c

/-- The loop that picks the characters. -/
def randomRunes (rune : Char) (runes : List Char) :
    ℕ → List Char → Prog (Except VoucherError (List Char))
  | 0, b => return .ok b
  | n + 1, b => do
    match ← ask (.randInt runes.length) with
    | .error err => return .error (.random err)
    | .ok idx => randomRunes rune runes n (b ++ [(rune :: runes).get idx])

def randomString (pre : String) (n : ℤ) (chars : String) : Prog (Except VoucherError String) :=
  match chars.toList with
  | [] => return .error .emptyChars
  | rune :: runes =>
    if n ≤ 0 then return .ok pre
    else Except.map (fun b ↦ pre ++ String.ofList b) <$> randomRunes rune runes n.toNat []

def userAdd (a : UserAddArgs) : Prog (Except Error String) :=
  if a.name = "" then return .error (.of .mikrotikInvalidArgument) else ask (.add a)

section Generate

variable (loc : Zone) (spec : VoucherSpec)

/-- The loop of `GenerateVouchers`, with `n` vouchers still to be made. -/
def generateLoop (chars : String) :
    ℕ → List GeneratedVoucher → Prog (List GeneratedVoucher × Option GenerateError)
  | 0, out => return (out, none)
  | n + 1, out => do
    match ← ask .ctxErr with
    | some err => return (out, some (.plain (.context err)))
    | none =>
      match ← randomString spec.usernamePrefix spec.length chars with
      | .error err => return (out, some (.batch ⟨out, err⟩))
      | .ok username =>
        match ← passwordOf username with
        | .error err => return (out, some (.batch ⟨out, err⟩))
        | .ok password =>
          let now ← ask .now
          match buildVoucherAddArgs loc now spec username password with
          | .error err => return (out, some (.batch ⟨out, err⟩))
          | .ok args =>
            match ← userAdd args with
            | .error err => return (out, some (.batch ⟨out, .userAdd username err⟩))
            | .ok id => generateLoop chars n (out ++ [⟨id, username, password⟩])
where
  passwordOf (username : String) : Prog (Except VoucherError String) :=
    if spec.userMode = "vc" then return .ok username else randomString "" spec.length chars

def generateVouchers : Prog (List GeneratedVoucher × Option GenerateError) :=
  match validateVoucherSpec spec with
  | .error err => return ([], some (.plain err))
  | .ok () =>
    generateLoop loc spec (((Charset.ofString spec.charset).map Charset.chars).getD "")
      spec.batchSize.toNat []

end Generate

section Handler

variable (quote : String → String) (duration : Rosfmt.DurationError → String)

/-- The end of `Generate`: what is written of the outcome of the batch. -/
def answer (gencode profile : String) :
    List GeneratedVoucher × Option GenerateError → Response VoucherGenerateResponse
  | (_, some (.batch err)) =>
    .success 207
      { vouchers := err.created
        count := err.created.length
        gencode := ""
        profile := ""
        isPartial := true
        error := err.failed.text quote duration }
  | (_, some (.plain err)) => writeErr (err.error quote duration)
  | (created, none) =>
    .success 200
      { vouchers := created
        count := created.length
        gencode
        profile
        isPartial := false
        error := "" }

/-- A gencode counts milliseconds. -/
def generate (loc : Zone) (req : VoucherGenerateRequest) :
    Prog (Response VoucherGenerateResponse) := do
  if ¬req.valid then return .failure 400 "VALIDATION" "request validation failed"
  let spec := req.toDomain
  let now ← ask .now
  let gencode := "G" ++ toString (now / 1000000)
  let comment := if spec.comment = "" then gencode else spec.comment ++ " " ++ gencode
  answer quote duration gencode spec.profile <$> generateVouchers loc { spec with comment }

end Handler

/-- A user of the router. -/
structure User where
  id : String
  args : UserAddArgs
  deriving DecidableEq

def User.voucher (user : User) : GeneratedVoucher := ⟨user.id, user.args.name, user.args.password⟩

/-- What becomes of a command that adds a user. A reply can be lost once the user is there. -/
inductive Outcome
  | refused (err : Error)
  | done (id : String)
  | lost (id : String) (err : Error)

structure Surroundings where
  contextErr : Option Sentinel
  random : Except Error ℕ
  now : ℤ
  router : Outcome

/-- The state is the users that the request has made. -/
def Call.exec : (c : Call) → Surroundings → List User → c.Reply × List User
  | .ctxErr, e, users => (e.contextErr, users)
  | .randInt last, e, users => (e.random.map (Fin.ofNat (last + 1)), users)
  | .now, e, users => (e.now, users)
  | .add args, e, users => match e.router with
    | .refused err => (.error err, users)
    | .done id => (.ok id, users ++ [⟨id, args⟩])
    | .lost id err => (.error err, users ++ [⟨id, args⟩])

section Reporting

def listed : Response VoucherGenerateResponse → List GeneratedVoucher
  | .success _ res => res.vouchers
  | .failure _ _ _ => []

def flagged : Response VoucherGenerateResponse → Bool
  | .success _ res => res.isPartial
  | .failure _ _ _ => false

/-- The answer lists the users that were made, and is flagged if they are some of the batch. -/
def Reports (batchSize : ℤ) (res : Response VoucherGenerateResponse) (users : List User) : Prop :=
  listed res = users.map User.voucher ∧
    (users ≠ [] → users.length < batchSize → flagged res = true)

instance (batchSize : ℤ) (res : Response VoucherGenerateResponse) (users : List User) :
    Decidable (Reports batchSize res users) :=
  inferInstanceAs (Decidable (_ ∧ _))

/-- A context is alive when it is asked for after a user has been made, and a command that makes
a user does not fail. -/
def Undisturbed : Call → Surroundings → List User → Prop
  | .ctxErr, e, users => users ≠ [] → e.contextErr = none
  | .add _, e, _ => ∀ id err, e.router ≠ .lost id err
  | _, _, _ => True

theorem listed_writeErr (err : Error) : listed (writeErr err) = [] := by
  unfold writeErr
  split_ifs <;> rfl

theorem reports_nil {batchSize : ℤ} {res : Response VoucherGenerateResponse} (h : listed res = []) :
    Reports batchSize res [] :=
  ⟨h, fun hne ↦ absurd rfl hne⟩

/-- The calls that draw a random number. -/
def Draws (c : Call) : Prop := ∃ last, c = .randInt last

theorem Draws.quiet {c : Call} (hc : Draws c) (e : Surroundings) (users : List User) :
    Undisturbed c e users ∧ (c.exec e users).2 = users := by
  obtain ⟨last, rfl⟩ := hc
  exact ⟨trivial, rfl⟩

theorem randomRunes_only (rune : Char) (runes : List Char) (n : ℕ) (b : List Char) :
    (randomRunes rune runes n b).Only Draws := by
  induction n generalizing b with
  | zero => exact Program.only_ret _
  | succ n ih =>
    refine (Program.only_call _ _).mpr ⟨⟨_, rfl⟩, fun r ↦ ?_⟩
    cases r with
    | error err => exact Program.only_ret _
    | ok idx => exact ih _

theorem randomString_only (pre : String) (n : ℤ) (chars : String) :
    (randomString pre n chars).Only Draws := by
  unfold randomString
  split
  · exact Program.only_ret _
  · split_ifs
    · exact Program.only_ret _
    · exact (randomRunes_only _ _ _ _).bind fun _ ↦ Program.only_ret _

theorem passwordOf_only (spec : VoucherSpec) (chars username : String) :
    (generateLoop.passwordOf spec chars username).Only Draws := by
  unfold generateLoop.passwordOf
  split_ifs
  · exact Program.only_ret _
  · exact randomString_only _ _ _

theorem args_of_buildVoucherAddArgs {loc : Zone} {now : ℤ} {spec : VoucherSpec}
    {username password : String} {args : UserAddArgs}
    (h : buildVoucherAddArgs loc now spec username password = .ok args) :
    args.name = username ∧ args.password = password := by
  unfold buildVoucherAddArgs at h
  by_cases hvalidity : spec.validity = ""
  · rw [if_pos hvalidity] at h
    cases h
    exact ⟨rfl, rfl⟩
  · rw [if_neg hvalidity] at h
    cases hdur : Rosfmt.parseDuration spec.validity with
    | error err =>
      rw [hdur] at h
      cases h
    | ok dur =>
      rw [hdur] at h
      by_cases hpos : 0 < dur
      · simp only [if_pos hpos] at h
        cases h
        exact ⟨rfl, rfl⟩
      · simp only [if_neg hpos] at h
        cases h
        exact ⟨rfl, rfl⟩

/-- The rule of `UserAdd`: the user is not made, or is made, or is made without a reply. -/
theorem userAdd_decides {β : Type} {args : UserAddArgs} {k : Except Error String → Prog β}
    {Q : β → List User → Prop} {users : List User}
    (hrefused : ∀ err, (k (.error err)).Decides Call.exec Undisturbed Q users)
    (hdone : ∀ id, (k (.ok id)).Decides Call.exec Undisturbed Q (users ++ [⟨id, args⟩]))
    (hlost : ∀ id err env, ¬Q ((k (.error err)).run Call.exec env (users ++ [⟨id, args⟩])).1
      ((k (.error err)).run Call.exec env (users ++ [⟨id, args⟩])).2) :
    (userAdd args >>= k).Decides Call.exec Undisturbed Q users := by
  unfold userAdd
  split_ifs
  · exact hrefused _
  · refine Program.decides_call (fun e hkept ↦ ?_) fun e hnot env ↦ ?_
    · dsimp only [Call.exec]
      cases hrouter : e.router with
      | refused err => exact hrefused err
      | done id => exact hdone id
      | lost id err => exact absurd hrouter (hkept id err)
    · dsimp only [Call.exec]
      cases hrouter : e.router with
      | refused err => exact absurd (fun id err ↦ by rw [hrouter]; nofun) hnot
      | done id => exact absurd (fun id err ↦ by rw [hrouter]; nofun) hnot
      | lost id err => exact hlost id err env

section Loop

variable {quote : String → String} {duration : Rosfmt.DurationError → String} {loc : Zone}
  {spec : VoucherSpec} {gencode profile chars : String} {batchSize : ℤ}

/-- The answer to the users that `out` lists, if one more voucher cannot be made. -/
theorem reports_batch {out : List GeneratedVoucher} {users : List User}
    (hout : users.map User.voucher = out) (err : VoucherError) :
    Reports batchSize (answer quote duration gencode profile (out, some (.batch ⟨out, err⟩)))
      users :=
  ⟨hout.symm, fun _ _ ↦ rfl⟩

/-- Nothing is listed of a batch that ends with a plain error. -/
theorem reports_plain_iff {out : List GeneratedVoucher} {users : List User} (err : VoucherError) :
    Reports batchSize (answer quote duration gencode profile (out, some (.plain err))) users ↔
      users = [] := by
  have hlisted : listed (answer quote duration gencode profile (out, some (.plain err))) = [] :=
    listed_writeErr _
  constructor
  · intro h
    exact List.map_eq_nil_iff.mp (h.1.symm.trans hlisted)
  · rintro rfl
    exact reports_nil hlisted

theorem not_reports_lost {out : List GeneratedVoucher} {users : List User}
    (hout : users.map User.voucher = out) (err : VoucherError) (user : User) :
    ¬Reports batchSize (answer quote duration gencode profile (out, some (.batch ⟨out, err⟩)))
      (users ++ [user]) := by
  intro h
  have hlength : out.length = (out ++ [user.voucher]).length :=
    congrArg List.length (h.1.trans (by rw [List.map_append, hout]; rfl))
  rw [List.length_append, List.length_singleton] at hlength
  omega

theorem generateLoop_decides (n : ℕ) {out : List GeneratedVoucher} {users : List User}
    (hout : users.map User.voucher = out) (hlen : (users.length + n : ℤ) = batchSize) :
    (generateLoop loc spec chars n out).Decides Call.exec Undisturbed
      (fun r ↦ Reports batchSize (answer quote duration gencode profile r)) users := by
  induction n generalizing out users with
  | zero =>
    refine Program.decides_ret ⟨hout.symm, fun _ hlt ↦ ?_⟩
    exact absurd hlt (by simp [← hlen])
  | succ n ih =>
    have hstop (err : VoucherError) : (Program.ret (R := Call.Reply)
        (out, some (GenerateError.batch ⟨out, err⟩))).Decides Call.exec Undisturbed
          (fun r ↦ Reports batchSize (answer quote duration gencode profile r)) users :=
      Program.decides_ret (reports_batch hout err)
    refine Program.decides_call (fun e halive ↦ ?_) fun e hdead env ↦ ?_
    · dsimp only [Call.exec]
      cases hctx : e.contextErr with
      | some err =>
        have hnone : users = [] := by
          by_contra hne
          exact Option.some_ne_none err (hctx.symm.trans (halive hne))
        exact Program.decides_ret ((reports_plain_iff _).mpr hnone)
      | none =>
        refine (randomString_only _ _ _).decides (fun c e hc ↦ hc.quiet e users) fun username ↦ ?_
        cases username with
        | error err => exact hstop err
        | ok username =>
        refine (passwordOf_only _ _ _).decides (fun c e hc ↦ hc.quiet e users) fun password ↦ ?_
        cases password with
        | error err => exact hstop err
        | ok password =>
        refine Program.decides_call (fun e _ ↦ ?_) fun e hno ↦ absurd trivial hno
        dsimp only [Call.exec, Program.bind]
        cases hargs : buildVoucherAddArgs loc e.now spec username password with
        | error err => exact hstop err
        | ok args =>
        obtain ⟨rfl, rfl⟩ := args_of_buildVoucherAddArgs hargs
        refine userAdd_decides (fun err ↦ hstop _) (fun id ↦ ih ?_ ?_) fun id err _ ↦ ?_
        · rw [List.map_append, hout]
          rfl
        · rw [List.length_append, List.length_singleton, ← hlen]
          push_cast
          omega
        · exact not_reports_lost hout _ _
    · -- The users made so far are not listed.
      cases hctx : e.contextErr with
      | none => exact absurd (fun _ ↦ hctx) hdead
      | some err =>
        dsimp only [Call.exec]
        rw [hctx]
        intro hreports
        exact hdead fun hne ↦ absurd ((reports_plain_iff _).mp hreports) hne

theorem batchSize_pos (h : validateVoucherSpec spec = .ok ()) : 0 < spec.batchSize := by
  by_contra hsize
  unfold validateVoucherSpec at h
  rw [if_pos (Int.not_lt.mp hsize)] at h
  cases h

theorem generateVouchers_decides :
    (generateVouchers loc spec).Decides Call.exec Undisturbed
      (fun r ↦ Reports spec.batchSize (answer quote duration gencode profile r)) [] := by
  unfold generateVouchers
  cases hvalid : validateVoucherSpec spec with
  | error err => exact Program.decides_ret ((reports_plain_iff err).mpr rfl)
  | ok _ =>
    refine generateLoop_decides _ rfl ?_
    have hpos := batchSize_pos hvalid
    rw [List.length_nil, Int.toNat_of_nonneg hpos.le]
    exact zero_add _

end Loop

/-- The answer tells of the users that were made if and only if the context is alive at each check
that follows one of them and no command fails that has made one. -/
theorem reports_iff (quote : String → String) (duration : Rosfmt.DurationError → String)
    (loc : Zone) (req : VoucherGenerateRequest) (env : ℕ → Surroundings) :
    Reports req.batchSize ((generate quote duration loc req).run Call.exec env []).1
        ((generate quote duration loc req).run Call.exec env []).2 ↔
      (generate quote duration loc req).Meets Call.exec Undisturbed env [] := by
  suffices h : (generate quote duration loc req).Decides Call.exec Undisturbed
      (Reports req.batchSize) [] from h env
  unfold generate
  split_ifs
  · refine Program.decides_call (fun e _ ↦ ?_) fun e hnot ↦ ?_
    · exact Program.decides_map _ generateVouchers_decides
    · exact absurd trivial hnot
  · refine Program.decides_ret (reports_nil ?_)
    rfl

def pair : VoucherGenerateRequest where
  server := ""
  userMode := "vc"
  length := 4
  usernamePrefix := ""
  charset := "lower"
  profile := "default"
  timeLimit := ""
  dataLimit := 0
  comment := ""
  validity := ""
  price := 0
  sellPrice := 0
  batchSize := 2

/-- The client goes away once the first user has been made. -/
def leaving (n : ℕ) : Surroundings where
  contextErr := if n < 8 then none else some .canceled
  random := .ok n
  now := 0
  router := .done "*1"

theorem created_user_unreported :
    ¬Reports pair.batchSize
      ((generate id (fun _ ↦ "") .utc pair).run Call.exec leaving []).1
      ((generate id (fun _ ↦ "") .utc pair).run Call.exec leaving []).2 := by
  decide +kernel

example : (generate id (fun _ ↦ "") .utc pair).run Call.exec leaving [] =
    (.failure 499 "CANCELED" "request canceled",
      [⟨"*1", ⟨"cdef", "cdef", "default", "all", "", 0, "G0"⟩⟩]) := by
  decide +kernel

end Reporting

end Rosmon.Vouchers
