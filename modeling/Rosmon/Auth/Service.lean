import Rosmon.Library.Pool
import Rosmon.Store.Stores

namespace Rosmon.Auth

open Library Store Go

structure User where
  id : ℕ
  username : String
  email : String
  password : String
  role : String
  active : Bool
  deletedAt : Option Time
  deriving DecidableEq

structure RefreshToken where
  id : ℕ
  jti : String
  userID : ℕ
  expiresAt : Time
  revokedAt : Option Time
  createdAt : Time
  deriving DecidableEq

instance : Row User where
  key := User.id
  withKey n u := { u with id := n }
  key_withKey _ _ := rfl

instance : Row RefreshToken where
  key := RefreshToken.id
  withKey n t := { t with id := n }
  key_withKey _ _ := rfl

/-- The two tables of the service; `jti` has a unique index. -/
structure World where
  users : Table User
  tokens : Table RefreshToken
  unique : ∀ t ∈ tokens, ∀ t' ∈ tokens, t.jti = t'.jti → t = t'

/-- The errors of the stores that the service tells apart. -/
inductive StoreError
  | userNotFound
  | refreshTokenNotFound
  | other (err : Error)
  deriving DecidableEq

def StoreError.err : StoreError → Error
  | .userNotFound => .new "store: user not found"
  | .refreshTokenNotFound => .new "store: refresh token not found"
  | .other err => err

def errInvalidCredentials : Error := .new "auth: invalid credentials"
def errTokenExpired : Error := .new "auth: token expired"
def errRefreshRevoked : Error := .new "auth: refresh token revoked"
def errUserNotFound : Error := .new "auth: user not found"
def errUserInactive : Error := .new "auth: user inactive"
def errRoleInvalid : Error := .new "auth: role invalid"
def errWeakPassword : Error := .new "auth: password too short (min 8 chars)"

def isValidRole (role : String) : Bool := role ∈ ["admin", "operator", "viewer"]

/-- The claims of a refresh token. -/
structure Claims where
  userID : ℕ
  username : String
  role : String
  jti : String
  deriving DecidableEq

structure TokenPair where
  accessToken : String
  refreshToken : String
  accessExpiresAt : Time
  refreshExpiresAt : Time
  deriving DecidableEq

/-- What the service is set up with. `compare` and `generate` are bcrypt's; the latter draws
a salt. -/
structure Service where
  accessTTL : ℤ
  refreshTTL : ℤ
  generate : (salt plaintext : String) → Except Error String
  compare : (hash plaintext : String) → Except Error Bool

/-- What the outside offers to a call: a fault of the database, the time, what the random
generator yields, the signature. -/
structure Env where
  fault : Option Error
  now : Time
  random : String
  signed : Except Error String

inductive Call
  | now
  | newJTI
  | salt
  | signRefresh (claims : Claims)
  | signAccess (userID : ℕ) (username role : String)
  | userByID (id : ℕ)
  | userByUsername (username : String)
  | updateUser (u : User)
  | deleteUser (id : ℕ)
  | createToken (t : RefreshToken)
  | tokenByJTI (jti : String)
  | revoke (jti : String) (revokedAt : Time)
  | revokeAllForUser (userID : ℕ) (revokedAt : Time)

abbrev Call.Reply : Call → Type
  | .now => Time
  | .newJTI | .salt => String
  | .signRefresh _ => Except Error (String × Time)
  | .signAccess _ _ _ => Except Error String
  | .userByID _ | .userByUsername _ => Except StoreError User
  | .updateUser _ | .deleteUser _ => Except StoreError Unit
  | .createToken _ => Except StoreError Unit
  | .tokenByJTI _ => Except StoreError RefreshToken
  | .revoke _ _ | .revokeAllForUser _ _ => Except StoreError Unit

abbrev Prog := Program Call Call.Reply

abbrev perform (c : Call) : Prog c.Reply := Program.perform c

namespace World

def live (id : ℕ) (u : User) : Bool := u.id = id && u.deletedAt = none

/-- The user that queries find. -/
def user (id : ℕ) (w : World) : Option User := w.users.find (live id)

/-- Another user has the name or the address. -/
def taken (u : User) (w : World) : Bool :=
  (w.users.find fun r ↦
    r.id ≠ u.id && (r.username = u.username || (u.email ≠ "" && r.email = u.email))).isSome

/-- What `Save` makes of the row with the key of `u`. A deleted row is not updated but
inserted again, where a zero value gives way to the default of its column. -/
def saved (u r : User) : User :=
  if r.deletedAt = none then { u with id := r.id }
  else { u with
    id := r.id
    role := if u.role = "" then "operator" else u.role
    active := true }

instance (u : User) : KeepsKey (saved u) := ⟨fun r ↦ by unfold saved; split <;> rfl⟩

instance (now : Time) : KeepsKey fun u : User ↦ { u with deletedAt := some now } := ⟨fun _ ↦ rfl⟩

instance (now : Time) : KeepsKey fun t : RefreshToken ↦ { t with revokedAt := some now } :=
  ⟨fun _ ↦ rfl⟩

/-- A token that satisfies `p` and has not been revoked. -/
def unrevoked (p : RefreshToken → Bool) (t : RefreshToken) : Bool := p t && t.revokedAt = none

/-- `UPDATE refresh_tokens SET revoked_at = ... WHERE ... AND revoked_at IS NULL`. -/
def revoke (p : RefreshToken → Bool) (revokedAt : Time) (w : World) : World where
  users := w.users
  tokens := w.tokens.update (unrevoked p) fun t ↦ { t with revokedAt := some revokedAt }
  unique := by
    intro t ht t' ht' hjti
    obtain ⟨s, hs, rfl⟩ := Table.mem_update.mp ht
    obtain ⟨s', hs', rfl⟩ := Table.mem_update.mp ht'
    have heq : s = s' := by
      refine w.unique s hs s' hs' ?_
      split at hjti <;> split at hjti <;> exact hjti
    rw [heq]

/-- A token whose `jti` is new. -/
def issue (t : RefreshToken) (w : World) (hnew : ∀ t' ∈ w.tokens, t'.jti ≠ t.jti) : World where
  users := w.users
  tokens := w.tokens.insert t
  unique := by
    intro a ha b hb hjti
    obtain ha | rfl := Table.mem_insert.mp ha
    · obtain hb | rfl := Table.mem_insert.mp hb
      · exact w.unique a ha b hb hjti
      · exact absurd hjti (hnew a ha)
    · obtain hb | rfl := Table.mem_insert.mp hb
      · exact absurd hjti.symm (hnew b hb)
      · rfl

end World

/-- A statement that fails changes nothing. -/
def orFault {α : Type} (e : Env) (w : World) (done : Except StoreError α × World) :
    Except StoreError α × World :=
  match e.fault with
  | some err => (.error (.other err), w)
  | none => done

def found {α : Type} (missing : StoreError) : Option α → Except StoreError α
  | some a => .ok a
  | none => .error missing

variable (s : Service)

def Call.exec : (c : Call) → Env → World → c.Reply × World
  | .now, e, w => (e.now, w)
  | .newJTI, e, w => (e.random, w)
  | .salt, e, w => (e.random, w)
  | .signRefresh _, e, w => (e.signed.map fun token ↦ (token, e.now + s.refreshTTL), w)
  | .signAccess _ _ _, e, w => (e.signed, w)
  | .userByID id, e, w => orFault e w (found .userNotFound (w.user id), w)
  | .userByUsername username, e, w =>
    orFault e w (found .userNotFound
      (w.users.find fun u ↦ u.username = username && u.deletedAt = none), w)
  | .updateUser u, e, w =>
    orFault e w
      (if w.taken u then (.error (.other (.duplicateKey "uq_users_email")), w)
       else (.ok (), { w with users := w.users.update (·.id = u.id) (World.saved u) }))
  | .deleteUser id, e, w =>
    orFault e w
      (if (w.user id).isSome then
        (.ok (), { w with
          users := w.users.update (World.live id) fun u ↦ { u with deletedAt := some e.now } })
       else (.error .userNotFound, w))
  | .createToken t, e, w =>
    orFault e w
      (if hnew : ∀ t' ∈ w.tokens, t'.jti ≠ t.jti then (.ok (), w.issue t hnew)
       else (.error (.other (.duplicateKey "idx_refresh_tokens_jti")), w))
  | .tokenByJTI jti, e, w =>
    orFault e w (found .refreshTokenNotFound (w.tokens.find (·.jti = jti)), w)
  | .revoke jti revokedAt, e, w =>
    orFault e w
      (if (w.tokens.find (World.unrevoked (·.jti = jti))).isSome then
        (.ok (), w.revoke (·.jti = jti) revokedAt)
       else (.error .refreshTokenNotFound, w))
  | .revokeAllForUser userID revokedAt, e, w =>
    orFault e w (.ok (), w.revoke (·.userID = userID) revokedAt)

/-- `Hasher.Verify`. -/
def verify (hash plaintext : String) : Except Error Unit :=
  match s.compare hash plaintext with
  | .ok true => .ok ()
  | .ok false => .error errInvalidCredentials
  | .error err => .error err

/-- `Hasher.Hash`. -/
def hash (plaintext : String) : Prog (Except Error String) := do
  if plaintext.utf8ByteSize < 8 then return .error errWeakPassword
  else
    let salt ← perform .salt
    return s.generate salt plaintext

def issueTokens (u : User) : Prog (Except Error (TokenPair × User)) := do
  let jti ← perform .newJTI
  match ← perform (.signRefresh ⟨u.id, u.username, u.role, jti⟩) with
  | .error err => return .error err
  | .ok (refreshToken, refreshExpiresAt) =>
    match ← perform (.signAccess u.id u.username u.role) with
    | .error err => return .error err
    | .ok accessToken =>
      let createdAt ← perform .now
      match ← perform (.createToken
          ⟨0, jti, u.id, refreshExpiresAt, none, createdAt⟩) with
      | .error err => return .error err.err
      | .ok () =>
        let now ← perform .now
        return .ok (⟨accessToken, refreshToken, now + s.accessTTL, refreshExpiresAt⟩, u)

def login (username password : String) : Prog (Except Error (TokenPair × User)) := do
  match ← perform (.userByUsername (trimSpace username)) with
  | .error .userNotFound => return .error errInvalidCredentials
  | .error err => return .error err.err
  | .ok u =>
    if u.active = false then return .error errUserInactive
    else
      match verify s u.password password with
      | .error err => return .error err
      | .ok () => issueTokens s u

/-- `token` is what `VerifyRefresh` makes of the token of the request. -/
def refresh (token : Except Error Claims) : Prog (Except Error (TokenPair × User)) := do
  match token with
  | .error err => return .error err
  | .ok claims =>
    match ← perform (.tokenByJTI claims.jti) with
    | .error .refreshTokenNotFound => return .error errRefreshRevoked
    | .error err => return .error err.err
    | .ok stored =>
      if stored.revokedAt ≠ none then return .error errRefreshRevoked
      else
        let now ← perform .now
        if stored.expiresAt ≤ now then return .error errTokenExpired
        else
          match ← perform (.userByID claims.userID) with
          | .error .userNotFound => return .error errUserNotFound
          | .error err => return .error err.err
          | .ok u =>
            if u.active = false then return .error errUserInactive
            else
              let now ← perform .now
              match ← perform (.revoke claims.jti now) with
              | .error err => return .error err.err
              | .ok () => issueTokens s u

def logout (token : Except Error Claims) : Prog (Except Error Unit) := do
  match token with
  | .error _ => return .ok ()
  | .ok claims =>
    let now ← perform .now
    match ← perform (.revoke claims.jti now) with
    | .ok () => return .ok ()
    | .error .refreshTokenNotFound => return .ok ()
    | .error err => return .error err.err

structure UpdateUserInput where
  email : Option String
  role : Option String
  active : Option Bool
  password : Option String

def UpdateUserInput.setFields (inp : UpdateUserInput) (u : User) : Except Error User :=
  if inp.role.all isValidRole then
    .ok { u with
      email := (inp.email.map trimSpace).getD u.email
      role := inp.role.getD u.role
      active := inp.active.getD u.active }
  else .error errRoleInvalid

def UpdateUserInput.setPassword (inp : UpdateUserInput) (u : User) : Prog (Except Error User) := do
  match inp.password with
  | none => return .ok u
  | some plaintext =>
    match ← hash s plaintext with
    | .error err => return .error err
    | .ok password => return .ok { u with password }

/-- The user is deactivated, or gets a password or a role. -/
def UpdateUserInput.revokes (inp : UpdateUserInput) : Bool :=
  inp.active = some false || inp.password.isSome || inp.role.isSome

/-- `UpdateUser` from the row it has read on. -/
def updateRow (inp : UpdateUserInput) (u : User) : Prog (Except Error User) := do
  match inp.setFields u with
  | .error err => return .error err
  | .ok u =>
    match ← inp.setPassword s u with
    | .error err => return .error err
    | .ok u =>
      match ← perform (.updateUser u) with
      | .error err => return .error err.err
      | .ok () =>
        if inp.revokes then
          let now ← perform .now
          match ← perform (.revokeAllForUser u.id now) with
          | .error err => return .error err.err
          | .ok () => return .ok u
        else return .ok u

def updateUser (id : ℕ) (inp : UpdateUserInput) : Prog (Except Error User) := do
  match ← perform (.userByID id) with
  | .error .userNotFound => return .error errUserNotFound
  | .error err => return .error err.err
  | .ok u => updateRow s inp u

def deleteUser (id : ℕ) : Prog (Except Error Unit) := do
  let now ← perform .now
  match ← perform (.revokeAllForUser id now) with
  | .error err => return .error err.err
  | .ok () =>
    match ← perform (.deleteUser id) with
    | .error err => return .error err.err
    | .ok () => return .ok ()

structure UpdateMeInput where
  email : String
  currentPassword : String
  newPassword : String

/-- The fields that are not empty. -/
def UpdateMeInput.toUpdate (inp : UpdateMeInput) : UpdateUserInput where
  email := if inp.email ≠ "" then some inp.email else none
  role := none
  active := none
  password := if inp.newPassword ≠ "" then some inp.newPassword else none

def updateMe (userID : ℕ) (inp : UpdateMeInput) : Prog (Except Error User) := do
  match ← perform (.userByID userID) with
  | .error .userNotFound => return .error errUserNotFound
  | .error err => return .error err.err
  | .ok u =>
    if inp.newPassword ≠ "" then
      match verify s u.password inp.currentPassword with
      | .error _ => return .error errInvalidCredentials
      | .ok () => updateUser s userID inp.toUpdate
    else updateUser s userID inp.toUpdate

inductive Request
  | login (username password : String)
  | refresh (token : Except Error Claims)
  | logout (token : Except Error Claims)
  | updateUser (id : ℕ) (inp : UpdateUserInput)
  | updateMe (id : ℕ) (inp : UpdateMeInput)
  | deleteUser (id : ℕ)

inductive Answer
  | pair (pair : TokenPair) (u : User)
  | user (u : User)
  | done

def Request.prog : Request → Prog (Except Error Answer)
  | .login username password =>
    Except.map (fun r ↦ .pair r.1 r.2) <$> Auth.login s username password
  | .refresh token => Except.map (fun r ↦ .pair r.1 r.2) <$> Auth.refresh s token
  | .logout token => Except.map (fun _ ↦ .done) <$> Auth.logout token
  | .updateUser id inp => Except.map .user <$> Auth.updateUser s id inp
  | .updateMe id inp => Except.map .user <$> Auth.updateMe s id inp
  | .deleteUser id => Except.map (fun _ ↦ .done) <$> Auth.deleteUser id

end Rosmon.Auth
