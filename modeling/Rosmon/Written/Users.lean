import Rosmon.Auth.Service
import Rosmon.Handler.Handlers
import Rosmon.Library.Program
import Rosmon.Profiles.Store

namespace Rosmon.Written

open Go Library Store Program
open Profiles (orDefault)

section Fields

variable {α : Type}

/-- A field that the request sets has its value in the row. -/
def Reads (sent : Option α) (value : α) : Prop := ∀ v ∈ sent, value = v

instance [DecidableEq α] (sent : Option α) (value : α) : Decidable (Reads sent value) :=
  inferInstanceAs (Decidable (∀ v ∈ sent, value = v))

variable {sent : Option α} {zero dflt old : α}

theorem reads_getD (sent : Option α) (zero : α) : Reads sent (sent.getD zero) := by
  rintro v ⟨⟩
  rfl

theorem reads_map_iff (f : α → α) (sent : Option α) (zero : α) :
    Reads sent (f (sent.getD zero)) ↔ ∀ v ∈ sent, f v = v := by
  cases sent <;> simp [Reads]

/-- The zero value gives way to another one. -/
theorem reads_orDefault_iff [DecidableEq α] (hne : dflt ≠ zero) (absent : α) :
    Reads sent (orDefault zero dflt (sent.getD absent)) ↔ sent ≠ some zero := by
  cases sent with
  | none => simp [Reads]
  | some v =>
    simp only [Reads, Option.mem_some_iff, forall_eq', Option.getD_some, orDefault]
    split_ifs with h
    · simp [h, hne]
    · simp [h]

/-- The zero value leaves the old one. -/
theorem reads_old_iff [DecidableEq α] :
    Reads sent (if sent.getD zero ≠ zero then sent.getD zero else old) ↔
      (sent = some zero → old = zero) := by
  cases sent with
  | none => simp [Reads]
  | some v =>
    simp only [Reads, Option.mem_some_iff, forall_eq', Option.getD_some]
    split_ifs with h
    · simp [h]
    · simp [not_not.mp h]

end Fields

section Definitions

/-- The calls of the service, and `Create` of the users. -/
inductive Call
  | service (c : Auth.Call)
  | createUser (u : Auth.User)

abbrev Call.Reply : Call → Type
  | .service c => c.Reply
  | .createUser _ => Except Auth.StoreError Auth.User

abbrev Prog := Program Call Call.Reply

abbrev perform (c : Call) : Prog c.Reply := Program.perform c

/-- What `Create` of gorm stores of a user. -/
def insertedUser (u : Auth.User) : Auth.User :=
  { u with
    role := orDefault "" "operator" u.role
    active := orDefault false true u.active }

def Call.exec (s : Auth.Service) :
    (c : Call) → Auth.Env → Auth.World → c.Reply × Auth.World
  | .service c, e, w => c.exec s e w
  | .createUser u, e, w =>
    Auth.orFault e w
      (if w.taken { u with id := w.users.next } then
        (.error (.other (.duplicateKey "idx_users_username")), w)
      else (.ok { insertedUser u with id := w.users.next },
        { w with users := w.users.insert (insertedUser u) }))

/-- `isUniqueViolation` of the service. -/
def isUniqueViolation (err : Error) : Bool :=
  contains (toLower err.text) "duplicate" || contains (toLower err.text) "unique constraint" ||
    contains (toLower err.text) "unique violation"

def errTokenWrongType : Error := .new "auth: token wrong type"
def errTokenInvalid : Error := .new "auth: token invalid"
def errUserExists : Error := .new "auth: username already exists"

structure CreateUserInput where
  username : String
  email : String
  password : String
  role : String
  active : Bool

variable (s : Auth.Service)

def createUser (inp : CreateUserInput) : Prog (Except Error Auth.User) := do
  let username := trimSpace inp.username
  let email := trimSpace inp.email
  if username = "" then return .error Auth.errInvalidCredentials
  if ¬Auth.isValidRole inp.role then return .error Auth.errRoleInvalid
  match ← (Auth.hash s inp.password).lift Call.service fun _ r ↦ r with
  | .error err => return .error err
  | .ok password =>
    match ← perform (.createUser ⟨0, username, email, password, inp.role, inp.active, none⟩) with
    | .error err => return .error (if isUniqueViolation err.err then errUserExists else err.err)
    | .ok u => return .ok u

/-- `writeAuthErr`. -/
def writeAuthErr {α : Type} (err : Error) : Handler.Response α :=
  if err = Auth.errInvalidCredentials then
    .failure 401 "INVALID_CREDENTIALS" "invalid username or password"
  else if err = Auth.errUserInactive then .failure 403 "USER_INACTIVE" "user account inactive"
  else if err = Auth.errTokenExpired then .failure 401 "TOKEN_EXPIRED" "token expired"
  else if err = errTokenWrongType then .failure 401 "TOKEN_WRONG_TYPE" "wrong token type"
  else if err = errTokenInvalid then .failure 401 "TOKEN_INVALID" "token invalid"
  else if err = Auth.errRefreshRevoked then
    .failure 401 "REFRESH_REVOKED" "refresh token revoked"
  else if err = errUserExists then .failure 409 "USER_EXISTS" "username already exists"
  else if err = Auth.errUserNotFound then .failure 404 "USER_NOT_FOUND" "user not found"
  else if err = Auth.errRoleInvalid then .failure 400 "ROLE_INVALID" "role invalid"
  else if err = Auth.errWeakPassword then .failure 400 "WEAK_PASSWORD" "password too short"
  else Handler.writeErr err

/-- The body of `POST /auth/users`: a field that it leaves out is `none`. -/
structure UserCreateBody where
  username : Option String
  email : Option String
  password : Option String
  role : Option String
  active : Option Bool

structure UserCreateRequest where
  username : String
  email : String
  password : String
  role : String
  active : Option Bool

def UserCreateBody.bind (b : UserCreateBody) : UserCreateRequest where
  username := b.username.getD ""
  email := b.email.getD ""
  password := b.password.getD ""
  role := b.role.getD ""
  active := b.active

/-- `isEmail` is the rule `email` of the validator. -/
def UserCreateRequest.valid (isEmail : String → Bool) (req : UserCreateRequest) : Bool :=
  3 ≤ req.username.length && req.username.length ≤ 64 && (req.email = "" || isEmail req.email) &&
    8 ≤ req.password.length && req.role ∈ ["admin", "operator", "viewer"]

/-- What `Users.Create` passes on. -/
def UserCreateBody.input (b : UserCreateBody) : CreateUserInput :=
  let req := b.bind
  ⟨req.username, req.email, req.password, req.role, req.active.getD true⟩

/-- `Users.Create`. -/
def create (isEmail : String → Bool) (b : UserCreateBody) : Prog (Handler.Response Auth.User) := do
  if ¬b.bind.valid isEmail then return .failure 400 "VALIDATION" "request validation failed"
  match ← createUser s b.input with
  | .error err => return writeAuthErr err
  | .ok u => return .success 201 u

end Definitions

variable {s : Auth.Service} {isEmail : String → Bool} {b : UserCreateBody} {w : Auth.World}

/-- The user that `CreateUser` returns is the one that is read back. -/
structure Created (s : Auth.Service) (inp : CreateUserInput) (u : Auth.User) (w : Auth.World) :
    Prop where
  found : w.user u.id = some u
  username : u.username = trimSpace inp.username
  email : u.email = trimSpace inp.email
  password : ∃ salt, s.generate salt inp.password = .ok u.password
  role : u.role = inp.role
  active : u.active = orDefault false true inp.active

theorem user_insert (u : Auth.User) (hu : u.deletedAt = none) (w : Auth.World) :
    ({ w with users := w.users.insert u } : Auth.World).user w.users.next =
      some { u with id := w.users.next } := by
  have hold : w.users.rows.find? (Auth.World.live w.users.next) = none := by
    rw [List.find?_eq_none]
    intro r hr hlive
    rw [Auth.World.live, Bool.and_eq_true, decide_eq_true_eq] at hlive
    exact (w.users.fresh r hr).ne hlive.1
  change (w.users.rows ++ [{ u with id := w.users.next }]).find? _ = _
  rw [List.find?_append, hold, Option.none_or]
  exact List.find?_cons_of_pos (by simp [Auth.World.live, hu])

/-- `Create` inserts the user, or fails. -/
theorem exec_createUser (s : Auth.Service) (u : Auth.User) (e : Auth.Env) (w : Auth.World) :
    (∃ err, (Call.createUser u).exec s e w = (.error err, w)) ∨
      (Call.createUser u).exec s e w = (.ok { insertedUser u with id := w.users.next },
        { w with users := w.users.insert (insertedUser u) }) := by
  unfold Call.exec Auth.orFault
  dsimp only
  cases e.fault with
  | some err => exact .inl ⟨_, rfl⟩
  | none =>
    by_cases htaken : w.taken { u with id := w.users.next } = true
    · exact .inl ⟨_, if_pos htaken⟩
    · exact .inr (if_neg htaken)

section Answers

variable {α : Type} {code message : String} {n status : ℕ} {body : α}

theorem failure_ne_success : (.failure n code message : Handler.Response α) ≠ .success status body :=
  nofun

theorem ite_failure_ne {c : Prop} [Decidable c] {r : Handler.Response α}
    (h : r ≠ .success status body) :
    (if c then .failure n code message else r) ≠ .success status body := by
  split
  · exact failure_ne_success
  · exact h

theorem writeErr_ne_success (err : Error) : Handler.writeErr err ≠ .success status body := by
  unfold Handler.writeErr
  repeat' refine ite_failure_ne ?_
  exact failure_ne_success

end Answers

theorem writeAuthErr_ne_success (err : Error) (status : ℕ) (u : Auth.User) :
    writeAuthErr err ≠ .success status u := by
  unfold writeAuthErr
  iterate 10 refine ite_failure_ne ?_
  exact writeErr_ne_success err

theorem createUser_wp (s : Auth.Service) (inp : CreateUserInput) (w : Auth.World) :
    (createUser s inp).wp (Call.exec s) (fun _ ↦ True)
      (fun out w' ↦ ∀ u, out = .ok u → Created s inp u w') w := by
  unfold createUser
  dsimp only
  split
  · nofun
  split
  · nofun
  rename_i hrole
  unfold Auth.hash
  split
  · nofun
  intro e _
  change (match s.generate e.random inp.password with
    | .error err => return .error err
    | .ok password => _ : Prog (Except Error Auth.User)).wp (Call.exec s) _ _ w
  cases hhash : s.generate e.random inp.password with
  | error err => nofun
  | ok password =>
    intro e' _
    obtain ⟨err, hfails⟩ | hruns := exec_createUser s ⟨0, trimSpace inp.username,
      trimSpace inp.email, password, inp.role, inp.active, none⟩ e' w
    · rw [hfails]
      nofun
    · rw [hruns]
      rintro u ⟨⟩
      have hrole : inp.role ≠ "" := by
        rintro h
        rw [h] at hrole
        exact hrole (by decide)
      exact ⟨user_insert _ rfl w, rfl, rfl, ⟨e.random, hhash⟩, if_neg hrole, rfl⟩

/-- A field that `CreateUser` trims has no blanks around it, and the user is not to be inactive. -/
structure UserCreateBody.Plain (b : UserCreateBody) : Prop where
  username : ∀ v ∈ b.username, trimSpace v = v
  email : ∀ v ∈ b.email, trimSpace v = v
  active : b.active ≠ some false

/-- The fields that the request sets read back. Of the password there is a hash. -/
structure UserCreateBody.Kept (s : Auth.Service) (b : UserCreateBody) (u : Auth.User) : Prop where
  username : Reads b.username u.username
  email : Reads b.email u.email
  password : ∀ v ∈ b.password, ∃ salt, s.generate salt v = .ok u.password
  role : Reads b.role u.role
  active : Reads b.active u.active

variable {s : Auth.Service} {b : UserCreateBody} {u : Auth.User} {w : Auth.World}

theorem UserCreateBody.kept_iff (h : Created s b.input u w) : b.Kept s u ↔ b.Plain := by
  have hname : Reads b.username u.username ↔ ∀ v ∈ b.username, trimSpace v = v := by
    rw [h.username]
    exact reads_map_iff trimSpace b.username ""
  have hemail : Reads b.email u.email ↔ ∀ v ∈ b.email, trimSpace v = v := by
    rw [h.email]
    exact reads_map_iff trimSpace b.email ""
  have hactive : Reads b.active u.active ↔ b.active ≠ some false := by
    rw [h.active]
    exact reads_orDefault_iff Bool.noConfusion true
  constructor
  · exact fun hk ↦ ⟨hname.mp hk.username, hemail.mp hk.email, hactive.mp hk.active⟩
  · refine fun hp ↦ ⟨hname.mpr hp.username, hemail.mpr hp.email, fun v hv ↦ ?_, ?_,
      hactive.mpr hp.active⟩
    · obtain ⟨salt, hhash⟩ := h.password
      exact ⟨salt, by rwa [input, bind, hv] at hhash⟩
    · rw [h.role]
      exact reads_getD b.role ""

theorem create_wp (s : Auth.Service) (isEmail : String → Bool) (b : UserCreateBody)
    (w : Auth.World) : (create s isEmail b).wp (Call.exec s) (fun _ ↦ True) (fun out w' ↦
      ∀ u, out = .success 201 u → Created s b.input u w') w := by
  unfold create
  generalize b.bind.valid isEmail = valid
  cases valid with
  | false => nofun
  | true =>
    rw [if_neg (not_not.mpr rfl)]
    rw [wp_bind]
    refine wp_mono (createUser_wp s b.input w) fun out w' h ↦ ?_
    cases out with
    | error err => exact fun u hu ↦ absurd hu (writeAuthErr_ne_success err 201 u)
    | ok u =>
      intro u' hu
      obtain rfl : u = u' := (Handler.Response.success.inj hu).2
      exact h u rfl

end Rosmon.Written
