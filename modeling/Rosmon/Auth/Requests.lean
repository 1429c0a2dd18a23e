import Rosmon.Auth.Service

namespace Rosmon.Auth

open Library Program Store

/-- What has been seen of a request: the password it came with, the user it is to change, the
user it has read, the user for whom it is to issue a token and whether it has tried to, the
token it has revoked, the one it has issued and for whom, and whether it has revoked all tokens
of the user. -/
structure Mark where
  password : String
  admin : Option ℕ
  user : Option ℕ
  hand : Option ℕ
  ended : Bool
  spent : Option String
  issued : Option (String × ℕ)
  cleared : Bool

def Mark.blank : Mark := ⟨"", none, none, none, false, none, none, false⟩

def Request.start : Request → Mark
  | .login _ password => { Mark.blank with password }
  | .refresh _ => Mark.blank
  | .logout _ => Mark.blank
  | .updateUser id _ => { Mark.blank with admin := some id }
  | .updateMe id _ => { Mark.blank with admin := some id }
  | .deleteUser id => { Mark.blank with admin := some id, user := some id }

/-- No token is to be issued or has been spent. -/
def Mark.Fresh (m : Mark) : Prop := m.hand = none ∧ m.spent = none ∧ m.issued = none

/-- A token for the user is to be issued. -/
def Mark.Carries (userID : ℕ) (m : Mark) : Prop := m.hand = some userID ∧ m.ended = false

instance (userID : ℕ) (m : Mark) : Decidable (m.Carries userID) :=
  inferInstanceAs (Decidable (_ ∧ _))

variable (s : Service)

/-- The row with which `Login` issues a token. -/
def Mark.accepts (m : Mark) (u : User) : Bool := u.active && (verify s u.password m.password).isOk

def observer : Monitor Call Call.Reply Mark where
  allows m c := match c with
    | .userByID id => ∀ a ∈ m.admin, a = id
    | .userByUsername _ => m.Fresh
    | .revoke _ _ => m.Fresh
    | .createToken t => m.Carries t.userID ∧ m.issued = none
    | .updateUser u => m.user = some u.id
    | .deleteUser id => m.admin = some id ∧ m.cleared = true
    | .revokeAllForUser id _ => m.user = some id
    | _ => True
  next m c r := match c, r with
    | .userByUsername _, .ok u => if m.accepts s u then { m with hand := some u.id } else m
    | .userByID _, .ok u => { m with user := some u.id }
    | .revoke jti _, .ok _ => { m with hand := m.user, spent := some jti }
    | .signRefresh _, .error _ => { m with ended := true }
    | .signAccess _ _ _, .error _ => { m with ended := true }
    | .createToken t, .ok _ => { m with ended := true, issued := some (t.jti, t.userID) }
    | .createToken _, .error _ => { m with ended := true }
    | .revokeAllForUser _ _, .ok _ => { m with cleared := true }
    | _, _ => m

/-- What a request that succeeds has done. -/
def Request.Done (m : Mark) : Request → Prop
  | .refresh (.ok claims) => m.spent = some claims.jti
  | .updateUser _ inp => inp.revokes = true → m.cleared = true
  | .deleteUser _ => m.cleared = true
  | _ => True

theorem next_login (m : Mark) (username : String) (u : User) :
    (observer s).next m (.userByUsername username) (.ok u) =
      if m.accepts s u then { m with hand := some u.id } else m := rfl

section Follows

variable {α : Type} {P : Mark → Prop} {m : Mark}

/-- If it returns a value, `P` holds of the mark. -/
def IfOk (P : Mark → Prop) (m : Mark) (r : Except Error α) : Prop := ∀ a, r = .ok a → P m

theorem ifOk_error (err : Error) : IfOk P m (.error err : Except Error α) := fun a h ↦ by cases h

theorem IfOk.map {β : Type} {r : Except Error α} {f : α → β} (h : IfOk P m r) :
    IfOk P m (r.map f) := by
  intro b hb
  cases r with
  | error err => cases hb
  | ok a => exact h a rfl

theorem issueTokens_follows {u : User} (hhand : m.Carries u.id) (hissued : m.issued = none) :
    (issueTokens s u).Follows (observer s) (IfOk fun m' ↦ m'.spent = m.spent) m := by
  refine ⟨trivial, fun jti ↦ ⟨trivial, fun r ↦ ?_⟩⟩
  cases r with
  | error err => exact ifOk_error err
  | ok r =>
    refine ⟨trivial, fun r ↦ ?_⟩
    cases r with
    | error err => exact ifOk_error err
    | ok accessToken =>
      refine ⟨trivial, fun createdAt ↦ ⟨⟨hhand, hissued⟩, fun r ↦ ?_⟩⟩
      cases r with
      | error err => exact ifOk_error _
      | ok _ => exact ⟨trivial, fun now _ _ ↦ rfl⟩

theorem login_follows (username password : String) :
    (login s username password).Follows (observer s) (IfOk fun _ ↦ True)
      (Request.login username password).start := by
  refine ⟨⟨rfl, rfl, rfl⟩, fun r ↦ ?_⟩
  cases r with
  | error err => cases err <;> exact ifOk_error _
  | ok u =>
    change Follows (observer s) _ _ (if u.active = false then _ else _)
    split
    · exact ifOk_error _
    · next hactive =>
      cases hverify : verify s u.password password with
      | error err => exact ifOk_error err
      | ok _ =>
        have haccepts : (Request.login username password).start.accepts s u = true := by
          simp only [Mark.accepts, Request.start, hverify, Bool.and_eq_true]
          exact ⟨by simpa using hactive, rfl⟩
        have hnext : (observer s).next (Request.login username password).start
            (.userByUsername (Go.trimSpace username)) (.ok u) =
            { (Request.login username password).start with hand := some u.id } :=
          if_pos haccepts
        rw [hnext]
        exact (issueTokens_follows s ⟨rfl, rfl⟩ rfl).mono fun m r h a ha ↦ trivial

theorem refresh_follows (token : Except Error Claims) :
    (refresh s token).Follows (observer s) (IfOk fun m ↦ (Request.refresh token).Done m)
      (Request.refresh token).start := by
  cases token with
  | error err => exact ifOk_error err
  | ok claims =>
    refine ⟨trivial, fun r ↦ ?_⟩
    cases r with
    | error err => cases err <;> exact ifOk_error _
    | ok stored =>
      change Follows (observer s) _ _ (if stored.revokedAt ≠ none then _ else _)
      split
      · exact ifOk_error _
      · refine ⟨trivial, fun now ↦ ?_⟩
        change Follows (observer s) _ _ (if stored.expiresAt ≤ now then _ else _)
        split
        · exact ifOk_error _
        · refine ⟨fun a ha ↦ (by cases ha), fun r ↦ ?_⟩
          cases r with
          | error err => cases err <;> exact ifOk_error _
          | ok u =>
            change Follows (observer s) _ _ (if u.active = false then _ else _)
            split
            · exact ifOk_error _
            · refine ⟨trivial, fun now ↦ ⟨⟨rfl, rfl, rfl⟩, fun r ↦ ?_⟩⟩
              cases r with
              | error err => exact ifOk_error _
              | ok _ => exact (issueTokens_follows s ⟨rfl, rfl⟩ rfl).mono fun m r h a ha ↦ h a ha

theorem logout_follows (token : Except Error Claims) :
    (logout token).Follows (observer s) (IfOk fun _ ↦ True) (Request.logout token).start := by
  cases token with
  | error err => exact fun _ _ ↦ trivial
  | ok claims =>
    refine ⟨trivial, fun now ↦ ⟨⟨rfl, rfl, rfl⟩, fun r ↦ ?_⟩⟩
    cases r with
    | ok _ => exact fun _ _ ↦ trivial
    | error err => cases err <;> exact fun _ _ ↦ trivial

theorem UpdateUserInput.setFields_id {inp : UpdateUserInput} {u u' : User}
    (h : inp.setFields u = .ok u') : u'.id = u.id := by
  unfold setFields at h
  split at h
  · cases h
    rfl
  · cases h

theorem setPassword_follows (inp : UpdateUserInput) (u : User) (m : Mark) :
    (inp.setPassword s u).Follows (observer s)
      (fun m' r ↦ m' = m ∧ ∀ u', r = .ok u' → u'.id = u.id) m := by
  unfold UpdateUserInput.setPassword
  cases inp.password with
  | none => exact ⟨rfl, fun u' h ↦ by cases h; rfl⟩
  | some plaintext =>
    have hhash : (hash s plaintext).Follows (observer s) (fun m' _ ↦ m' = m) m := by
      unfold hash
      split
      · rfl
      · exact ⟨trivial, fun salt ↦ rfl⟩
    refine hhash.bind fun m' r hm ↦ ?_
    cases r with
    | error err => exact ⟨hm, fun u' h ↦ by cases h⟩
    | ok password => exact ⟨hm, fun u' h ↦ by cases h; rfl⟩

theorem updateRow_follows (inp : UpdateUserInput) {u : User} (huser : m.user = some u.id) :
    (updateRow s inp u).Follows (observer s)
      (IfOk fun m' ↦ inp.revokes = true → m'.cleared = true) m := by
  unfold updateRow
  cases hfields : inp.setFields u with
  | error err => exact ifOk_error err
  | ok u₁ =>
    refine (setPassword_follows s inp u₁ _).bind fun m' r hm ↦ ?_
    obtain ⟨rfl, hid⟩ := hm
    cases r with
    | error err => exact ifOk_error err
    | ok u₂ =>
      have hu : m'.user = some u₂.id := by
        rw [huser, hid u₂ rfl, UpdateUserInput.setFields_id hfields]
      refine ⟨hu, fun r ↦ ?_⟩
      cases r with
      | error err => exact ifOk_error _
      | ok _ =>
        change Follows (observer s) _ _ (if inp.revokes = true then _ else _)
        split
        · refine ⟨trivial, fun now ↦ ⟨hu, fun r ↦ ?_⟩⟩
          cases r with
          | error err => exact ifOk_error _
          | ok _ => exact fun _ _ _ ↦ rfl
        · next hrevokes => exact fun _ _ h ↦ absurd h hrevokes

theorem updateUser_follows {id : ℕ} (inp : UpdateUserInput) (hadmin : m.admin = some id) :
    (updateUser s id inp).Follows (observer s)
      (IfOk fun m' ↦ inp.revokes = true → m'.cleared = true) m := by
  refine ⟨fun a ha ↦ Option.some.inj (ha.symm.trans hadmin), fun r ↦ ?_⟩
  cases r with
  | error err => cases err <;> exact ifOk_error _
  | ok u => exact updateRow_follows s inp rfl

theorem updateMe_follows {id : ℕ} (inp : UpdateMeInput) (hadmin : m.admin = some id) :
    (updateMe s id inp).Follows (observer s) (IfOk fun _ ↦ True) m := by
  have hupdate : ∀ u : User, (updateUser s id inp.toUpdate).Follows (observer s)
      (IfOk fun _ ↦ True) { m with user := some u.id } := fun u ↦
    (updateUser_follows s (m := { m with user := some u.id }) inp.toUpdate hadmin).mono
      fun _ _ _ _ _ ↦ trivial
  refine ⟨fun a ha ↦ Option.some.inj (ha.symm.trans hadmin), fun r ↦ ?_⟩
  cases r with
  | error err => cases err <;> exact ifOk_error _
  | ok u =>
    change Follows (observer s) _ _ (if inp.newPassword ≠ "" then _ else _)
    split
    · cases verify s u.password inp.currentPassword with
      | error err => exact ifOk_error _
      | ok _ => exact hupdate u
    · exact hupdate u

theorem deleteUser_follows (id : ℕ) :
    (deleteUser id).Follows (observer s) (IfOk fun m ↦ m.cleared = true)
      (Request.deleteUser id).start := by
  refine ⟨trivial, fun now ↦ ⟨rfl, fun r ↦ ?_⟩⟩
  cases r with
  | error err => exact ifOk_error _
  | ok _ =>
    refine ⟨⟨rfl, rfl⟩, fun r ↦ ?_⟩
    cases r with
    | error err => exact ifOk_error _
    | ok _ => exact fun _ _ ↦ rfl

theorem prog_follows (req : Request) :
    (req.prog s).Follows (observer s) (IfOk fun m ↦ req.Done m) req.start := by
  cases req with
  | login username password =>
    exact (follows_map _ _ _).mpr ((login_follows s username password).mono fun _ _ h ↦ h.map)
  | refresh token =>
    exact (follows_map _ _ _).mpr ((refresh_follows s token).mono fun _ _ h ↦ h.map)
  | logout token =>
    exact (follows_map _ _ _).mpr ((logout_follows s token).mono fun _ _ h ↦ h.map)
  | updateUser id inp =>
    exact (follows_map _ _ _).mpr ((updateUser_follows s inp rfl).mono fun _ _ h ↦ h.map)
  | updateMe id inp =>
    exact (follows_map _ _ _).mpr ((updateMe_follows s inp rfl).mono fun _ _ h ↦ h.map)
  | deleteUser id =>
    exact (follows_map _ _ _).mpr ((deleteUser_follows s id).mono fun _ _ h ↦ h.map)

end Follows

end Rosmon.Auth
