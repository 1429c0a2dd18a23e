import Rosmon.Api.Routes
import Rosmon.Auth.Revocation
import Mathlib.Data.List.Induction

namespace Rosmon.Api

open Library Program Store

/-- What has been seen of a request to the service: the row it has read and the refresh token that
it has revoked. -/
structure Sight where
  request : Auth.Request
  row : Option Auth.User
  spent : Option String

variable (s : Auth.Service)

/-- What lets the request have a token for the user of the row: the password of the user, or a
refresh token that it has revoked. -/
def Entitled (u : Auth.User) (m : Sight) : Prop :=
  match m.request with
  | .login _ password => (Auth.verify s u.password password).isOk = true
  | .refresh (.ok claims) => m.spent = some claims.jti
  | _ => False

def signing : Monitor Auth.Call Auth.Call.Reply Sight where
  allows m c := match c with
    | .signAccess userID username role => ∃ u, m.row = some u ∧ u.active = true ∧ u.id = userID ∧
        u.username = username ∧ u.role = role ∧ Entitled s u m
    | _ => True
  next m c r := match c, r with
    | .userByUsername _, .ok u => { m with row := some u }
    | .userByID _, .ok u => { m with row := some u }
    | .revoke jti _, .ok _ => { m with spent := some jti }
    | _, _ => m

section Follows

variable {α : Type} {m : Sight}

/-- Calls that sign no access token. -/
def Unsigned (c : Auth.Call) : Prop := ∀ userID username role, c ≠ .signAccess userID username role

theorem Unsigned.follows {p : Auth.Prog α} (hp : p.Only Unsigned) (m : Sight) :
    p.Follows (signing s) (fun _ _ ↦ True) m := by
  refine (hp.follows (I := fun _ ↦ True) (fun m c _ hc ↦ ⟨?_, fun _ ↦ trivial⟩) trivial).mono
    fun _ _ _ ↦ trivial
  cases c with
  | signAccess userID username role => exact absurd rfl (hc userID username role)
  | _ => trivial

theorem logout_unsigned (token : Except Error Auth.Claims) : (Auth.logout token).Only Unsigned := by
  cases token with
  | error err => trivial
  | ok claims =>
    refine ⟨by simp [Unsigned], fun now ↦ ⟨by simp [Unsigned], fun r ↦ ?_⟩⟩
    cases r with
    | ok _ => trivial
    | error err => cases err <;> trivial

theorem setPassword_unsigned (inp : Auth.UpdateUserInput) (u : Auth.User) :
    (inp.setPassword s u).Only Unsigned := by
  unfold Auth.UpdateUserInput.setPassword
  cases inp.password with
  | none => trivial
  | some plaintext =>
    have hhash : (Auth.hash s plaintext).Only Unsigned := by
      unfold Auth.hash
      split
      · trivial
      · exact ⟨by simp [Unsigned], fun salt ↦ trivial⟩
    refine hhash.bind fun r ↦ ?_
    cases r <;> trivial

theorem updateRow_unsigned (inp : Auth.UpdateUserInput) (u : Auth.User) :
    (Auth.updateRow s inp u).Only Unsigned := by
  unfold Auth.updateRow
  cases inp.setFields u with
  | error err => trivial
  | ok u =>
    refine (setPassword_unsigned s inp u).bind fun r ↦ ?_
    cases r with
    | error err => trivial
    | ok u =>
      refine ⟨by simp [Unsigned], fun r ↦ ?_⟩
      cases r with
      | error err => trivial
      | ok _ =>
        change Only Unsigned (if inp.revokes = true then _ else _)
        split
        · refine ⟨by simp [Unsigned], fun now ↦ ⟨by simp [Unsigned], fun r ↦ ?_⟩⟩
          cases r <;> trivial
        · trivial

theorem updateUser_unsigned (id : ℕ) (inp : Auth.UpdateUserInput) :
    (Auth.updateUser s id inp).Only Unsigned := by
  refine ⟨by simp [Unsigned], fun r ↦ ?_⟩
  cases r with
  | error err => cases err <;> trivial
  | ok u => exact updateRow_unsigned s inp u

theorem updateMe_unsigned (id : ℕ) (inp : Auth.UpdateMeInput) :
    (Auth.updateMe s id inp).Only Unsigned := by
  refine ⟨by simp [Unsigned], fun r ↦ ?_⟩
  cases r with
  | error err => cases err <;> trivial
  | ok u =>
    change Only Unsigned (if inp.newPassword ≠ "" then _ else _)
    split
    · cases Auth.verify s u.password inp.currentPassword with
      | error err => trivial
      | ok _ => exact updateUser_unsigned s id inp.toUpdate
    · exact updateUser_unsigned s id inp.toUpdate

theorem deleteUser_unsigned (id : ℕ) : (Auth.deleteUser id).Only Unsigned := by
  refine ⟨by simp [Unsigned], fun now ↦ ⟨by simp [Unsigned], fun r ↦ ?_⟩⟩
  cases r with
  | error err => trivial
  | ok _ =>
    refine ⟨by simp [Unsigned], fun r ↦ ?_⟩
    cases r <;> trivial

theorem issueTokens_signs {u : Auth.User} (hrow : m.row = some u) (hactive : u.active = true)
    (hentitled : Entitled s u m) :
    (Auth.issueTokens s u).Follows (signing s) (fun _ _ ↦ True) m := by
  refine ⟨trivial, fun jti ↦ ⟨trivial, fun r ↦ ?_⟩⟩
  cases r with
  | error err => trivial
  | ok r =>
    refine ⟨⟨u, hrow, hactive, rfl, rfl, rfl, hentitled⟩, fun r ↦ ?_⟩
    cases r with
    | error err => trivial
    | ok accessToken =>
      refine ⟨trivial, fun createdAt ↦ ⟨trivial, fun r ↦ ?_⟩⟩
      cases r with
      | error err => trivial
      | ok _ => exact ⟨trivial, fun now ↦ trivial⟩

theorem login_signs (username password : String) {m : Sight}
    (hm : m.request = .login username password) :
    (Auth.login s username password).Follows (signing s) (fun _ _ ↦ True) m := by
  refine ⟨trivial, fun r ↦ ?_⟩
  cases r with
  | error err => cases err <;> trivial
  | ok u =>
    change Follows (signing s) _ _ (if u.active = false then _ else _)
    split
    · trivial
    next hactive =>
      cases hverify : Auth.verify s u.password password with
      | error err => trivial
      | ok _ =>
        refine issueTokens_signs s (m := { m with row := some u }) rfl (by simpa using hactive) ?_
        simp only [Entitled, hm, hverify]
        rfl

theorem refresh_signs (token : Except Error Auth.Claims) {m : Sight}
    (hm : m.request = .refresh token) :
    (Auth.refresh s token).Follows (signing s) (fun _ _ ↦ True) m := by
  cases token with
  | error err => trivial
  | ok claims =>
    refine ⟨trivial, fun r ↦ ?_⟩
    cases r with
    | error err => cases err <;> trivial
    | ok stored =>
      change Follows (signing s) _ _ (if stored.revokedAt ≠ none then _ else _)
      split
      · trivial
      · refine ⟨trivial, fun now ↦ ?_⟩
        change Follows (signing s) _ _ (if stored.expiresAt ≤ now then _ else _)
        split
        · trivial
        · refine ⟨trivial, fun r ↦ ?_⟩
          cases r with
          | error err => cases err <;> trivial
          | ok u =>
            change Follows (signing s) _ _ (if u.active = false then _ else _)
            split
            · trivial
            next hactive =>
              refine ⟨trivial, fun now ↦ ⟨trivial, fun r ↦ ?_⟩⟩
              cases r with
              | error err => trivial
              | ok _ =>
                refine issueTokens_signs s
                  (m := { m with row := some u, spent := some claims.jti }) rfl
                  (by simpa using hactive) ?_
                simp only [Entitled, hm]

theorem prog_signs (req : Auth.Request) (m : Sight) (hm : m.request = req) :
    (req.prog s).Follows (signing s) (fun _ _ ↦ True) m := by
  cases req with
  | login username password => exact (follows_map _ _ _).mpr (login_signs s username password hm)
  | refresh token => exact (follows_map _ _ _).mpr (refresh_signs s token hm)
  | logout token => exact (follows_map _ _ _).mpr (Unsigned.follows s (logout_unsigned token) m)
  | updateUser id inp =>
    exact (follows_map _ _ _).mpr (Unsigned.follows s (updateUser_unsigned s id inp) m)
  | updateMe id inp =>
    exact (follows_map _ _ _).mpr (Unsigned.follows s (updateMe_unsigned s id inp) m)
  | deleteUser id =>
    exact (follows_map _ _ _).mpr (Unsigned.follows s (deleteUser_unsigned id) m)

end Follows

section Runs

variable {ι : Type} [DecidableEq ι]

abbrev Server (ι : Type) :=
  Pool ι Auth.Call Auth.Call.Reply (Except Error Auth.Answer) Auth.World Sight

/-- The requests to the service at their first call. -/
def pool (w : Auth.World) (reqs : ι → Auth.Request) : Server ι where
  state := w
  threads i := (reqs i).prog s
  marks i := ⟨reqs i, none, none⟩

def after (w : Auth.World) (reqs : ι → Auth.Request) (schedule : List (ι × Auth.Env)) :
    Server ι :=
  (pool s w reqs).run (Auth.Call.exec s) (signing s) schedule

variable {s} {w : Auth.World} {reqs : ι → Auth.Request}

theorem after_sound (schedule : List (ι × Auth.Env)) :
    (after s w reqs schedule).Sound (signing s) (fun _ _ _ ↦ True) fun _ _ ↦ True := by
  have hpool : (pool s w reqs).Sound (signing s) (fun _ _ _ ↦ True) fun _ _ ↦ True :=
    ⟨trivial, fun i ↦ prog_signs s (reqs i) _ rfl⟩
  exact hpool.run_all (fun _ _ _ _ _ _ _ ↦ trivial) schedule

theorem after_snoc (schedule : List (ι × Auth.Env)) (a : ι × Auth.Env) :
    after s w reqs (schedule ++ [a]) =
      (after s w reqs schedule).step (Auth.Call.exec s) (signing s) a :=
  Pool.run_append _ _ _ _ _

theorem found_ok {α : Type} {e : Auth.Env} {w : Auth.World} {missing : Auth.StoreError}
    {o : Option α} {a : α}
    (h : (Auth.orFault e w (Auth.found missing o, w)).1 = .ok a) : o = some a := by
  unfold Auth.orFault Auth.found at h
  cases hfault : e.fault with
  | some err =>
    rw [hfault] at h
    cases h
  | none =>
    rw [hfault] at h
    cases o with
    | none => cases h
    | some b => exact congrArg some (Except.ok.inj h)

/-- A call that reads a row reads one that is there. -/
theorem row_next {m : Sight} {c : Auth.Call} {e : Auth.Env} {w : Auth.World} {u : Auth.User}
    (h : ((signing s).next m c (c.exec s e w).1).row = some u) :
    m.row = some u ∨ u ∈ w.users ∧ u.deletedAt = none := by
  cases c with
  | userByID id =>
    cases hreply : ((Auth.Call.userByID id).exec s e w).1 with
    | error err =>
      rw [hreply] at h
      exact .inl h
    | ok v =>
      rw [hreply] at h
      obtain rfl : v = u := Option.some.inj h
      have hfind := found_ok hreply
      have hlive := Table.find_sat hfind
      simp only [Auth.World.live, Bool.and_eq_true, decide_eq_true_eq] at hlive
      exact .inr ⟨Table.mem_of_find hfind, hlive.2⟩
  | userByUsername username =>
    cases hreply : ((Auth.Call.userByUsername username).exec s e w).1 with
    | error err =>
      rw [hreply] at h
      exact .inl h
    | ok v =>
      rw [hreply] at h
      obtain rfl : v = u := Option.some.inj h
      have hfind := found_ok hreply
      have hlive := Table.find_sat hfind
      simp only [Bool.and_eq_true, decide_eq_true_eq] at hlive
      exact .inr ⟨Table.mem_of_find hfind, hlive.2⟩
  | revoke jti revokedAt =>
    cases hreply : ((Auth.Call.revoke jti revokedAt).exec s e w).1 with
    | error err =>
      rw [hreply] at h
      exact .inl h
    | ok _ =>
      rw [hreply] at h
      exact .inl h
  | _ => exact .inl h

/-- The row that a request has in mind was there when the request read it. -/
theorem row_read (schedule : List (ι × Auth.Env)) (i : ι) {u : Auth.User}
    (h : ((after s w reqs schedule).marks i).row = some u) :
    ∃ before b later, schedule = before ++ b :: later ∧ b.1 = i ∧
      u ∈ (after s w reqs before).state.users ∧ u.deletedAt = none := by
  induction schedule using List.reverseRecOn with
  | nil => cases h
  | append_singleton schedule a ih =>
    have hearlier (hrow : ((after s w reqs schedule).marks i).row = some u) :
        ∃ before b later, schedule ++ [a] = before ++ b :: later ∧ b.1 = i ∧
          u ∈ (after s w reqs before).state.users ∧ u.deletedAt = none := by
      obtain ⟨before, b, later, rfl, hb⟩ := ih hrow
      exact ⟨before, b, later ++ [a], by simp, hb⟩
    rw [after_snoc] at h
    obtain hstep | ⟨c, k, hc, hstep⟩ :=
      Pool.step_cases (Auth.Call.exec s) (signing s) (after s w reqs schedule) a
    · rw [hstep] at h
      exact hearlier h
    · rw [hstep] at h
      by_cases hi : i = a.1
      · subst hi
        dsimp only at h
        rw [Function.update_self] at h
        rcases row_next h with hrow | hread
        · exact hearlier hrow
        · exact ⟨schedule, a, [], rfl, rfl, hread⟩
      · dsimp only at h
        rw [Function.update_of_ne hi] at h
        exact hearlier h

variable (s w reqs) in
/-- A call that signs the claims, at the time of the call. -/
def Signs (signer : Signer) (schedule : List (ι × Auth.Env)) (a : ι × Auth.Env) (p : Payload) :
    Prop :=
  ∃ c k, (after s w reqs schedule).threads a.1 = .call c k ∧ match c with
    | .signAccess userID username role =>
      ∃ jti, p = (signer.accessClaims a.2.now jti userID username role).payload
    | .signRefresh claims =>
      p = (signer.refreshClaims a.2.now claims.jti claims.userID claims.username
        claims.role).payload
    | _ => False

variable (s w reqs) in
/-- The tokens that the server has signed: those of a run of the service, and those of customers. -/
def Issued (signer : Signer) (schedule : List (ι × Auth.Env)) (p : Payload) : Prop :=
  (∃ earlier a later, schedule = earlier ++ a :: later ∧ Signs s w reqs signer earlier a p) ∨
    ∃ now jti id phone, p = (signer.customerClaims now jti id phone).payload

end Runs

section Holders

variable {ι : Type} [DecidableEq ι] {s : Auth.Service} {w : Auth.World} {reqs : ι → Auth.Request}
variable {signer : Signer} {j : Jwt} {now : Time} {token : String}

theorem verifyTyp_ok {typ : String} {p : Payload} (h : verifyTyp j now typ token = .ok p) :
    j.parse now token = .ok p ∧ p.typ = typ := by
  unfold verifyTyp parse at h
  cases hparse : j.parse now token with
  | error err => cases err <;> simp [hparse] at h
  | ok q =>
    simp only [hparse] at h
    split at h
    · cases h
    next htyp =>
      obtain rfl := Except.ok.inj h
      exact ⟨rfl, not_not.mp htyp⟩

theorem verifyAccess_ok {claims : Claims} (h : verifyAccess j now token = .ok claims) :
    ∃ p, j.parse now token = .ok p ∧ p.typ = "access" ∧ p.claims = claims := by
  unfold verifyAccess at h
  cases hverify : verifyTyp j now "access" token with
  | error err => simp [hverify, Except.map] at h
  | ok p =>
    simp only [hverify, Except.map, Except.ok.injEq] at h
    obtain ⟨hparse, htyp⟩ := verifyTyp_ok hverify
    exact ⟨p, hparse, htyp, h⟩

theorem verifyCustomerAccess_ok {claims : CustomerClaims}
    (h : verifyCustomerAccess j now token = .ok claims) :
    ∃ p, j.parse now token = .ok p ∧ p.typ = "customer_access" ∧ p.customerClaims = claims := by
  unfold verifyCustomerAccess at h
  cases hverify : verifyTyp j now "customer_access" token with
  | error err => simp [hverify, Except.map] at h
  | ok p =>
    simp only [hverify, Except.map, Except.ok.injEq] at h
    obtain ⟨hparse, htyp⟩ := verifyTyp_ok hverify
    exact ⟨p, hparse, htyp, h⟩

theorem lt_of_numericDate {t : Time} (h : now < numericDate t * 1000000000) : now < t := by
  have hle : numericDate t * 1000000000 ≤ t := Int.ediv_mul_le t (by decide)
  exact Int.lt_of_lt_of_le h hle

variable (s w reqs signer) in
/-- A user whose row a request has read in the run, when the user was active, and for whom the
request, entitled to it, signed a token that is not over at `now`. -/
def Holder (schedule : List (ι × Auth.Env)) (now : Time) (claims : Claims) (u : Auth.User) :
    Prop :=
  claims.userID = u.id ∧ claims.username = u.username ∧ claims.role = u.role ∧
    u.active = true ∧ u.deletedAt = none ∧
    ∃ before b mid a later, schedule = before ++ b :: mid ++ a :: later ∧ b.1 = a.1 ∧
      u ∈ (after s w reqs before).state.users ∧
      Entitled s u ((after s w reqs (before ++ b :: mid)).marks a.1) ∧
      now < a.2.now + signer.accessTTL

/-- A token that passes as one of staff goes back to an active user. -/
theorem holder_of_verified (hlawful : j.Lawful) {schedule : List (ι × Auth.Env)}
    (hissued : ∀ p, j.parse now token = .ok p → Issued s w reqs signer schedule p)
    {claims : Claims} (h : verifyAccess j now token = .ok claims) :
    ∃ u, Holder s w reqs signer schedule now claims u := by
  obtain ⟨p, hparse, htyp, rfl⟩ := verifyAccess_ok h
  have hfresh := hlawful.fresh _ _ _ hparse
  obtain ⟨earlier, a, later, rfl, c, k, hc, hsigns⟩ | ⟨now', jti, id, phone, rfl⟩ :=
    hissued p hparse
  · have hfollows := (@after_sound s ι _ w reqs earlier).follows a.1
    rw [hc] at hfollows
    cases c with
    | signAccess userID username role =>
      obtain ⟨jti, rfl⟩ := hsigns
      obtain ⟨u, hrow, hactive, rfl, rfl, rfl, hentitled⟩ := hfollows.1
      obtain ⟨before, b, mid, rfl, hb, hmem, hdeleted⟩ := row_read earlier a.1 hrow
      exact ⟨u, rfl, rfl, rfl, hactive, hdeleted, before, b, mid, a, later, rfl, hb, hmem,
        hentitled, lt_of_numericDate hfresh⟩
    | signRefresh claims =>
      dsimp only at hsigns
      subst hsigns
      exact absurd htyp (by simp [Claims.payload, Signer.refreshClaims])
    | _ => cases hsigns
  · exact absurd htyp (by simp [CustomerClaims.payload, Signer.customerClaims])

variable (signer) in
/-- The claims of a customer whose token is not over at `now`. -/
def CustomerHolder (now : Time) (claims : CustomerClaims) : Prop :=
  ∃ signedAt jti id phone, claims = signer.customerClaims signedAt jti id phone ∧
    now < signedAt + signer.customerTTL

/-- A token that passes as one of a customer was signed as such. -/
theorem customer_of_verified (hlawful : j.Lawful) {schedule : List (ι × Auth.Env)}
    (hissued : ∀ p, j.parse now token = .ok p → Issued s w reqs signer schedule p)
    {claims : CustomerClaims} (h : verifyCustomerAccess j now token = .ok claims) :
    CustomerHolder signer now claims := by
  obtain ⟨p, hparse, htyp, rfl⟩ := verifyCustomerAccess_ok h
  have hfresh := hlawful.fresh _ _ _ hparse
  obtain ⟨earlier, a, later, rfl, c, k, hc, hsigns⟩ | ⟨signedAt, jti, id, phone, rfl⟩ :=
    hissued p hparse
  · cases c with
    | signAccess userID username role =>
      obtain ⟨jti, rfl⟩ := hsigns
      exact absurd htyp (by simp [Claims.payload, Signer.accessClaims])
    | signRefresh claims =>
      dsimp only at hsigns
      subst hsigns
      exact absurd htyp (by simp [Claims.payload, Signer.refreshClaims])
    | _ => cases hsigns
  · exact ⟨signedAt, jti, id, phone, rfl, lt_of_numericDate hfresh⟩

/-- Whoever has a request served by a route that is not open to anyone is a customer, or a user who
was active when a login or a refresh signed the token, not longer ago than the life of the token,
and with a role that the rule for the method and the path asks for. -/
theorem served_for_holder {d : Deps} (hsigner : d.authSigner = true) (hlawful : j.Lawful)
    {r : Route} (hr : r ∈ serverRoutes d) {env : Env} {req : Request} {ctx : Context}
    (hserved : runChain j env req r.method r.path r.chain = .ok ctx)
    {schedule : List (ι × Auth.Env)}
    (hissued : ∀ token p, extractBearerOrQuery req = some token →
      j.parse env.now token = .ok p → Issued s w reqs signer schedule p) :
    match access r.method r.path with
    | .anyone _ => ctx = ⟨none, none⟩
    | .account =>
      (∃ claims u, ctx = ⟨some claims, none⟩ ∧ Holder s w reqs signer schedule env.now claims u) ∨
        ∃ claims, ctx = ⟨none, some claims⟩ ∧ CustomerHolder signer env.now claims
    | .customer => ∃ claims, ctx = ⟨none, some claims⟩ ∧ CustomerHolder signer env.now claims
    | .staff =>
      ∃ claims u, ctx = ⟨some claims, none⟩ ∧ Holder s w reqs signer schedule env.now claims u
    | .role roles => ∃ claims u, ctx = ⟨some claims, none⟩ ∧
        Holder s w reqs signer schedule env.now claims u ∧ u.role ∈ roles := by
  have hgrants := granted hsigner hr hserved
  cases haccess : access r.method r.path with
  | anyone throttled =>
    rw [haccess] at hgrants
    exact hgrants
  | account =>
    rw [haccess] at hgrants
    obtain ⟨token, htoken, ⟨c, hc, rfl⟩ | ⟨-, c, hc, rfl⟩⟩ := hgrants
    · obtain ⟨u, hu⟩ := holder_of_verified hlawful (hissued token · htoken) hc
      exact .inl ⟨c, u, rfl, hu⟩
    · exact .inr ⟨c, rfl, customer_of_verified hlawful (hissued token · htoken) hc⟩
  | customer =>
    rw [haccess] at hgrants
    obtain ⟨token, c, htoken, hc, rfl⟩ := hgrants
    exact ⟨c, rfl, customer_of_verified hlawful (hissued token · htoken) hc⟩
  | staff =>
    rw [haccess] at hgrants
    obtain ⟨token, c, htoken, hc, rfl⟩ := hgrants
    obtain ⟨u, hu⟩ := holder_of_verified hlawful (hissued token · htoken) hc
    exact ⟨c, u, rfl, hu⟩
  | role roles =>
    rw [haccess] at hgrants
    obtain ⟨token, c, htoken, hc, hrole, rfl⟩ := hgrants
    obtain ⟨u, hu⟩ := holder_of_verified hlawful (hissued token · htoken) hc
    exact ⟨c, u, rfl, hu, hu.2.2.1 ▸ hrole⟩

end Holders

section Operator

theorem Jwt.one_lawful (p : Payload) : (Jwt.one p).Lawful where
  fresh now token q h := by
    simp only [Jwt.one] at h
    split at h
    · cases h
    · split at h
      next hfresh => exact Except.ok.inj h ▸ hfresh
      · cases h
  signed q token h now hfresh := by
    simp only [Jwt.one] at h ⊢
    split at h
    next hq =>
      subst hq
      cases h
      simp [hfresh]
    · cases h

def sitiClaims : Claims := (newSigner 0 0).accessClaims 0 "jti" 1 "siti" "operator"

def sitiLogin : List (Unit × Auth.Env) := List.replicate 4 ((), Auth.calm)

/-- An operator signs in and makes a customer. -/
theorem customer_made_by_siti :
    ∃ claims u, (⟨some sitiClaims, none⟩ : Context) = ⟨some claims, none⟩ ∧
      Holder Auth.plainService .oneToken (fun _ ↦ .login "siti" "rahasia123") (newSigner 0 0)
        sitiLogin 1 claims u ∧ u.role ∈ [roleAdmin, roleOperator] := by
  have haccess : access .post (api ++ ["customers"]) = .role [roleAdmin, roleOperator] := by
    decide +kernel
  have hissued : ∀ token p, extractBearerOrQuery ⟨"", "jwt", "10.0.0.9"⟩ = some token →
      (Jwt.one sitiClaims.payload).parse 1 token = .ok p →
        Issued Auth.plainService .oneToken (fun _ ↦ .login "siti" "rahasia123") (newSigner 0 0)
          sitiLogin p := by
    intro token p _ hparse
    simp only [Jwt.one] at hparse
    split at hparse
    · cases hparse
    · split at hparse
      · obtain rfl := Except.ok.inj hparse
        exact .inl ⟨List.replicate 3 ((), Auth.calm), ((), Auth.calm), [], rfl,
          .signAccess 1 "siti" "operator", _, rfl, "jti", rfl⟩
      · cases hparse
  have h := @served_for_holder Unit _ Auth.plainService .oneToken
    (fun _ ↦ .login "siti" "rahasia123") (newSigner 0 0) (.one sitiClaims.payload) .full rfl
    (Jwt.one_lawful sitiClaims.payload)
    ⟨.post, api ++ ["customers"], "Customers.Create", roleChain .full [roleAdmin, roleOperator]⟩
    (by decide +kernel) (.idle 1) ⟨"", "jwt", "10.0.0.9"⟩ ⟨some sitiClaims, none⟩
    (by decide +kernel) sitiLogin hissued
  dsimp only at h
  rw [haccess] at h
  exact h

end Operator

end Rosmon.Api
