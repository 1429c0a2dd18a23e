import Mathlib.Data.Fintype.Basic
import Rosmon.Auth.SingleUse

namespace Rosmon.Auth

open Library Program Store

/-- There is a row for a token of the user. -/
def World.HasToken (jti : String) (userID : ℕ) (w : World) : Prop :=
  ∃ t ∈ w.tokens, t.jti = jti ∧ t.userID = userID

section Steps

variable (s : Service) {w : World} {m : Mark} {c : Call} {e : Env} {userID : ℕ}

theorem next_issued (m : Mark) {c : Call} (hc : ∀ t, c ≠ .createToken t) (r : c.Reply) :
    ((observer s).next m c r).issued = m.issued := by
  cases c with
  | now | newJTI | salt | updateUser | deleteUser | tokenByJTI => rfl
  | signRefresh | signAccess | userByID | revoke | revokeAllForUser => cases r <;> rfl
  | userByUsername username =>
    cases r with
    | error err => rfl
    | ok u =>
      rw [next_login]
      split <;> rfl
  | createToken t => exact absurd rfl (hc t)

theorem next_cleared (m : Mark) {c : Call}
    (hc : ∀ userID revokedAt, c ≠ .revokeAllForUser userID revokedAt) (r : c.Reply) :
    ((observer s).next m c r).cleared = m.cleared := by
  cases c with
  | now | newJTI | salt | updateUser | deleteUser | tokenByJTI => rfl
  | signRefresh | signAccess | userByID | revoke | createToken => cases r <;> rfl
  | userByUsername username =>
    cases r with
    | error err => rfl
    | ok u =>
      rw [next_login]
      split <;> rfl
  | revokeAllForUser userID revokedAt => exact absurd rfl (hc userID revokedAt)

theorem mem_revoke {p : RefreshToken → Bool} {revokedAt : Time} {t : RefreshToken}
    (ht : t ∈ (w.revoke p revokedAt).tokens) :
    ∃ t₀ ∈ w.tokens, t.jti = t₀.jti ∧ t.userID = t₀.userID ∧
      (t₀.revokedAt.isSome = true ∨ p t₀ = true → t.revokedAt.isSome = true) := by
  obtain ⟨t₀, ht₀, rfl⟩ := Table.mem_update.mp ht
  refine ⟨t₀, ht₀, ?_⟩
  split
  · exact ⟨rfl, rfl, fun _ ↦ rfl⟩
  · next hopen =>
    refine ⟨rfl, rfl, fun h ↦ ?_⟩
    cases hrevoked : t₀.revokedAt with
    | some time => rfl
    | none => simp_all [World.unrevoked]

/-- Every row has been there before, or has just been created. -/
theorem row_origin {t : RefreshToken} (ht : t ∈ (c.exec s e w).2.tokens) :
    (∃ t₀ ∈ w.tokens, t.jti = t₀.jti ∧ t.userID = t₀.userID ∧
      (t₀.revokedAt.isSome = true → t.revokedAt.isSome = true)) ∨
    ∃ t₁, c = .createToken t₁ ∧ t.jti = t₁.jti ∧ t.userID = t₁.userID ∧
      ∀ t₀ ∈ w.tokens, t₀.jti ≠ t₁.jti := by
  revert ht
  have hsame : t ∈ w.tokens → (∃ t₀ ∈ w.tokens, t.jti = t₀.jti ∧ t.userID = t₀.userID ∧
      (t₀.revokedAt.isSome = true → t.revokedAt.isSome = true)) ∨
      ∃ t₁, c = .createToken t₁ ∧ t.jti = t₁.jti ∧ t.userID = t₁.userID ∧
        ∀ t₀ ∈ w.tokens, t₀.jti ≠ t₁.jti := fun h ↦ .inl ⟨t, h, rfl, rfl, fun h ↦ h⟩
  have hrevoke : ∀ p revokedAt, t ∈ (w.revoke p revokedAt).tokens →
      ∃ t₀ ∈ w.tokens, t.jti = t₀.jti ∧ t.userID = t₀.userID ∧
        (t₀.revokedAt.isSome = true → t.revokedAt.isSome = true) := by
    intro p revokedAt ht
    obtain ⟨t₀, ht₀, hjti, huser, hrevoked⟩ := mem_revoke ht
    exact ⟨t₀, ht₀, hjti, huser, fun h ↦ hrevoked (.inl h)⟩
  cases c with
  | now | newJTI | salt | signRefresh | signAccess => exact hsame
  | userByID | userByUsername | tokenByJTI =>
    exact orFault_keeps (I := fun w' ↦ t ∈ w'.tokens → _) hsame hsame
  | updateUser u =>
    refine orFault_keeps (I := fun w' ↦ t ∈ w'.tokens → _) hsame ?_
    split <;> exact hsame
  | deleteUser id =>
    refine orFault_keeps (I := fun w' ↦ t ∈ w'.tokens → _) hsame ?_
    split <;> exact hsame
  | createToken t₁ =>
    refine orFault_keeps (I := fun w' ↦ t ∈ w'.tokens → _) hsame ?_
    split
    next hnew =>
      intro ht
      obtain ht | rfl := Table.mem_insert.mp ht
      · exact hsame ht
      · exact .inr ⟨t₁, rfl, rfl, rfl, hnew⟩
    next => exact hsame
  | revoke jti revokedAt =>
    refine orFault_keeps (I := fun w' ↦ t ∈ w'.tokens → _) hsame ?_
    split
    · exact fun ht ↦ .inl (hrevoke _ _ ht)
    · exact hsame
  | revokeAllForUser userID revokedAt =>
    exact orFault_keeps (I := fun w' ↦ t ∈ w'.tokens → _) hsame fun ht ↦ .inl (hrevoke _ _ ht)

/-- No row goes. -/
theorem World.HasToken.exec {jti : String} (h : w.HasToken jti userID) (c : Call) (e : Env) :
    (c.exec s e w).2.HasToken jti userID := by
  have hrevoke : ∀ p revokedAt, (w.revoke p revokedAt).HasToken jti userID := by
    intro p revokedAt
    obtain ⟨t, ht, hjti, huser⟩ := h
    refine ⟨_, Table.mem_update.mpr ⟨t, ht, rfl⟩, ?_⟩
    split <;> exact ⟨hjti, huser⟩
  cases c with
  | now | newJTI | salt | signRefresh | signAccess => exact h
  | userByID | userByUsername | tokenByJTI => exact orFault_keeps h h
  | updateUser u =>
    refine orFault_keeps h ?_
    split <;> exact h
  | deleteUser id =>
    refine orFault_keeps h ?_
    split <;> exact h
  | createToken t₁ =>
    refine orFault_keeps h ?_
    split
    next hnew =>
      obtain ⟨t, ht, hjti⟩ := h
      exact ⟨t, Table.mem_insert.mpr (.inl ht), hjti⟩
    next => exact h
  | revoke jti revokedAt =>
    refine orFault_keeps h ?_
    split
    · exact hrevoke _ _
    · exact h
  | revokeAllForUser userID revokedAt => exact orFault_keeps h (hrevoke _ _)

theorem found_ok {α : Type} {missing : StoreError} {o : Option α} {a : α}
    (h : (orFault e w (found missing o, w)).1 = .ok a) : o = some a := by
  unfold orFault at h
  split at h
  · cases h
  · cases o with
    | none => cases h
    | some b => exact congrArg some (Except.ok.inj h)

theorem createToken_ok {t : RefreshToken} (h : ((Call.createToken t).exec s e w).1 = .ok ()) :
    (∀ t₀ ∈ w.tokens, t₀.jti ≠ t.jti) ∧
      ((Call.createToken t).exec s e w).2.HasToken t.jti t.userID := by
  simp only [Call.exec, orFault] at h ⊢
  cases hfault : e.fault with
  | some err => simp [hfault] at h
  | none =>
    simp only [hfault] at h ⊢
    split at h
    next hnew =>
      rw [dif_pos hnew]
      exact ⟨hnew, _, Table.mem_insert.mpr (.inr rfl), rfl, rfl⟩
    next => cases h

/-- A request that issues a token has created the row. -/
theorem issued_step (m : Mark) (c : Call) (e : Env) (w : World) :
    ((observer s).next m c (c.exec s e w).1).issued = m.issued ∨
      ∃ t, c = .createToken t ∧
        ((observer s).next m c (c.exec s e w).1).issued = some (t.jti, t.userID) ∧
        (∀ t₀ ∈ w.tokens, t₀.jti ≠ t.jti) ∧ (c.exec s e w).2.HasToken t.jti t.userID := by
  by_cases hc : ∃ t, c = .createToken t
  · obtain ⟨t, rfl⟩ := hc
    cases hr : ((Call.createToken t).exec s e w).1 with
    | error err => exact .inl rfl
    | ok _ =>
      obtain ⟨hnew, hrow⟩ := createToken_ok s hr
      exact .inr ⟨t, rfl, rfl, hnew, hrow⟩
  · exact .inl (next_issued s m (fun t heq ↦ hc ⟨t, heq⟩) _)

theorem revokeAll_ok {revokedAt : Time}
    (h : ((Call.revokeAllForUser userID revokedAt).exec s e w).1 = .ok ()) :
    ∀ t ∈ ((Call.revokeAllForUser userID revokedAt).exec s e w).2.tokens, t.userID = userID →
      t.revokedAt.isSome = true := by
  simp only [Call.exec, orFault] at h ⊢
  cases hfault : e.fault with
  | some err => simp [hfault] at h
  | none =>
    intro t ht huser
    obtain ⟨t₀, -, -, huser₀, hrevoked⟩ := mem_revoke ht
    exact hrevoked (.inr (by simpa [← huser₀] using huser))

/-- `RevokeAllForUser` leaves no unrevoked token of the user. -/
theorem cleared_step (hc : (observer s).allows m c)
    (h : ((observer s).next m c (c.exec s e w).1).cleared = true) :
    m.cleared = true ∨ ∃ userID revokedAt, c = .revokeAllForUser userID revokedAt ∧
      m.user = some userID ∧
      ∀ t ∈ (c.exec s e w).2.tokens, t.userID = userID → t.revokedAt.isSome = true := by
  by_cases hall : ∃ userID revokedAt, c = .revokeAllForUser userID revokedAt
  · obtain ⟨userID, revokedAt, rfl⟩ := hall
    cases hr : ((Call.revokeAllForUser userID revokedAt).exec s e w).1 with
    | error err =>
      rw [hr] at h
      exact .inl h
    | ok _ => exact .inr ⟨userID, revokedAt, rfl, hc, revokeAll_ok s hr⟩
  · refine .inl ?_
    rwa [next_cleared s m fun userID revokedAt heq ↦ hall ⟨userID, revokedAt, heq⟩] at h

/-- A request that is to issue a token has logged in, or has spent a token. -/
theorem carries_step (hc : (observer s).allows m c)
    (h : ((observer s).next m c (c.exec s e w).1).Carries userID) :
    m.Carries userID ∧ ((observer s).next m c (c.exec s e w).1).spent = m.spent ∨
    m.Fresh ∧ ((∃ username u, c = .userByUsername username ∧ m.accepts s u = true ∧
        (w.users.find fun u ↦ u.username = username && u.deletedAt = none) = some u ∧
        u.id = userID ∧ ((observer s).next m c (c.exec s e w).1).spent = none) ∨
      ∃ jti revokedAt, c = .revoke jti revokedAt ∧ m.user = some userID ∧ w.Unrevoked jti ∧
        ((observer s).next m c (c.exec s e w).1).spent = some jti) := by
  cases c with
  | now | newJTI | salt | updateUser | deleteUser | tokenByJTI => exact .inl ⟨h, rfl⟩
  | signRefresh claims =>
    cases hr : ((Call.signRefresh claims).exec s e w).1 with
    | error err => rw [hr] at h; exact absurd h.2 Bool.false_ne_true.symm
    | ok _ => rw [hr] at h; exact .inl ⟨h, rfl⟩
  | signAccess id username role =>
    cases hr : ((Call.signAccess id username role).exec s e w).1 with
    | error err => rw [hr] at h; exact absurd h.2 Bool.false_ne_true.symm
    | ok _ => rw [hr] at h; exact .inl ⟨h, rfl⟩
  | createToken t =>
    cases hr : ((Call.createToken t).exec s e w).1 <;>
      exact absurd (hr ▸ h).2 Bool.false_ne_true.symm
  | userByID id =>
    cases hr : ((Call.userByID id).exec s e w).1 with
    | error err => rw [hr] at h; exact .inl ⟨h, rfl⟩
    | ok u => rw [hr] at h; exact .inl ⟨h, rfl⟩
  | revokeAllForUser id revokedAt =>
    cases hr : ((Call.revokeAllForUser id revokedAt).exec s e w).1 with
    | error err => rw [hr] at h; exact .inl ⟨h, rfl⟩
    | ok _ => rw [hr] at h; exact .inl ⟨h, rfl⟩
  | userByUsername username =>
    cases hr : ((Call.userByUsername username).exec s e w).1 with
    | error err => rw [hr] at h; exact .inl ⟨h, rfl⟩
    | ok u =>
      rw [hr] at h
      by_cases haccepts : m.accepts s u = true
      · have hnext : (observer s).next m (.userByUsername username) (.ok u) =
            { m with hand := some u.id } := if_pos haccepts
        rw [hnext] at h ⊢
        exact .inr ⟨hc, .inl ⟨username, u, rfl, haccepts, found_ok hr, Option.some.inj h.1, hc.2.1⟩⟩
      · have hnext : (observer s).next m (.userByUsername username) (.ok u) = m :=
          if_neg haccepts
        rw [hnext] at h ⊢
        exact .inl ⟨h, rfl⟩
  | revoke jti revokedAt =>
    cases hr : ((Call.revoke jti revokedAt).exec s e w).1 with
    | error err => rw [hr] at h; exact .inl ⟨h, rfl⟩
    | ok _ =>
      rw [hr] at h
      exact .inr ⟨hc, .inr ⟨jti, revokedAt, rfl, h.1, (revoke_ok s hr).1, rfl⟩⟩

theorem hand_step (hc : (observer s).allows m c) (h : m.hand = some userID) (r : c.Reply) :
    ((observer s).next m c r).hand = some userID := by
  cases c with
  | now | newJTI | salt | updateUser | deleteUser | tokenByJTI => exact h
  | signRefresh | signAccess | userByID | createToken | revokeAllForUser => cases r <;> exact h
  | userByUsername => exact absurd (hc.1.symm.trans h) (by simp)
  | revoke => exact absurd (hc.1.symm.trans h) (by simp)

/-- The request is to change the user, and has read nobody else. -/
structure Mark.Targets (userID : ℕ) (m : Mark) : Prop where
  admin : m.admin = some userID
  user : ∀ id, m.user = some id → id = userID

theorem Mark.Targets.step (h : m.Targets userID) (hc : (observer s).allows m c) :
    ((observer s).next m c (c.exec s e w).1).Targets userID := by
  cases c with
  | now | newJTI | salt | updateUser | deleteUser | tokenByJTI => exact h
  | signRefresh claims =>
    cases ((Call.signRefresh claims).exec s e w).1 <;> exact ⟨h.admin, h.user⟩
  | signAccess id username role =>
    cases ((Call.signAccess id username role).exec s e w).1 <;> exact ⟨h.admin, h.user⟩
  | createToken t => cases ((Call.createToken t).exec s e w).1 <;> exact ⟨h.admin, h.user⟩
  | revoke jti revokedAt =>
    cases ((Call.revoke jti revokedAt).exec s e w).1 <;> exact ⟨h.admin, h.user⟩
  | revokeAllForUser id revokedAt =>
    cases ((Call.revokeAllForUser id revokedAt).exec s e w).1 <;> exact ⟨h.admin, h.user⟩
  | userByUsername username =>
    cases ((Call.userByUsername username).exec s e w).1 with
    | error err => exact h
    | ok u =>
      rw [next_login]
      split
      · exact ⟨h.admin, h.user⟩
      · exact h
  | userByID id =>
    cases hr : ((Call.userByID id).exec s e w).1 with
    | error err => exact h
    | ok u =>
      have hlive := Table.find_sat (found_ok hr)
      simp only [World.live, Bool.and_eq_true, decide_eq_true_eq] at hlive
      refine ⟨h.admin, fun id' hid ↦ ?_⟩
      rw [← Option.some.inj hid, hlive.1]
      exact (hc userID h.admin).symm

end Steps

variable {ι : Type} [DecidableEq ι] (s : Service)

section Succeeded

variable {M : Type}

def Succeeded (p : Pool ι Call Call.Reply (Except Error Answer) World M) (i : ι) : Prop :=
  ∃ a, p.result i = some (.ok a)

instance (p : Pool ι Call Call.Reply (Except Error Answer) World M) (i : ι) :
    Decidable (Succeeded p i) :=
  match h : p.result i with
  | some (.ok a) => isTrue ⟨a, h⟩
  | some (.error _) => isFalse fun ⟨_, ha⟩ ↦ by cases h.symm.trans ha
  | none => isFalse fun ⟨_, ha⟩ ↦ by cases h.symm.trans ha

end Succeeded

/-- The request deactivates or deletes the user, or gives him a password or a role. -/
def Request.Changes (userID : ℕ) : Request → Prop
  | .updateUser id inp => id = userID ∧ inp.revokes = true
  | .deleteUser id => id = userID
  | _ => False

/-- The tokens of the user that rest on what he was at the time of `mid`: those that there
were, those for which he had logged in or spent a token by then, and those that have been
issued in exchange for such tokens since. -/
inductive Old (userID : ℕ) (mid : Server ι) (m : ι → Mark) : String → Prop
  | stored {t : RefreshToken} : t ∈ mid.state.tokens → t.userID = userID → Old userID mid m t.jti
  | inHand {i : ι} {jti : String} : (mid.marks i).Carries userID →
      (m i).issued = some (jti, userID) → Old userID mid m jti
  | exchanged {i : ι} {jti jti' : String} : Old userID mid m jti → (m i).spent = some jti →
      (m i).issued = some (jti', userID) → Old userID mid m jti'

/-- Before the row is written: when the tokens of the user are revoked nobody is to issue one,
and from then on nobody logs in as the user, nor refreshes somebody else's token for him. -/
def Early (userID : ℕ) (admin : ι) (w : World) (m : ι → Mark) (i : ι) : Call → Prop
  | .revokeAllForUser _ _ => i = admin → ∀ j, ¬(m j).Carries userID
  | .userByUsername username => (m admin).cleared = true →
      ∀ u ∈ w.users.find fun u ↦ u.username = username && u.deletedAt = none,
        (m i).accepts s u = true → u.id ≠ userID
  | .revoke jti _ => (m admin).cleared = true → (m i).user = some userID →
      ∀ t ∈ w.tokens, t.jti = jti → t.userID = userID
  | _ => True

/-- After it: when the tokens of the user are revoked nobody is to issue an old one. -/
def Late (userID : ℕ) (admin : ι) (mid : Server ι) (_ : World) (m : ι → Mark) (i : ι) :
    Call → Prop
  | .revokeAllForUser _ _ => i = admin → ∀ j, (m j).Carries userID →
      ¬(mid.marks j).Carries userID ∧ ∀ jti, (m j).spent = some jti → ¬Old userID mid m jti
  | _ => True

/-- Before the row is written. -/
structure Window (userID : ℕ) (admin : ι) (w : World) (m : ι → Mark) : Prop where
  spent : Spent w m
  issued : ∀ i jti id, (m i).issued = some (jti, id) → w.HasToken jti id
  targets : (m admin).Targets userID
  closed : (m admin).cleared = true →
    (∀ t ∈ w.tokens, t.userID = userID → t.revokedAt.isSome = true) ∧
      ∀ i, ¬(m i).Carries userID

section Window

variable {s} {w : World} {m : ι → Mark} {i admin : ι} {c : Call} {e : Env} {userID : ℕ}

theorem targets_update (h : (m admin).Targets userID) (hc : (observer s).allows (m i) c) :
    (Function.update m i ((observer s).next (m i) c (c.exec s e w).1) admin).Targets userID := by
  by_cases hi : admin = i
  · subst hi
    rw [Function.update_self]
    exact h.step s hc
  · rwa [Function.update_of_ne hi]

/-- Who clears the tokens of the user has done so before, or does it with this call. -/
theorem cleared_update (h : (m admin).Targets userID) (hc : (observer s).allows (m i) c)
    (hcleared : (Function.update m i ((observer s).next (m i) c (c.exec s e w).1)
      admin).cleared = true) :
    (m admin).cleared = true ∨ i = admin ∧ ∃ revokedAt, c = .revokeAllForUser userID revokedAt ∧
      ∀ t ∈ (c.exec s e w).2.tokens, t.userID = userID → t.revokedAt.isSome = true := by
  by_cases hi : admin = i
  · subst hi
    rw [Function.update_self] at hcleared
    obtain hcleared | ⟨id, revokedAt, rfl, huser, hrows⟩ := cleared_step s hc hcleared
    · exact .inl hcleared
    · have hid := h.user id huser
      subst hid
      exact .inr ⟨rfl, revokedAt, rfl, hrows⟩
  · rw [Function.update_of_ne hi] at hcleared
    exact .inl hcleared

theorem carries_revokeAll {revokedAt : Time} {id : ℕ} {j : ι}
    (hc : (observer s).allows (m i) (.revokeAllForUser id revokedAt))
    (h : (Function.update m i ((observer s).next (m i) (.revokeAllForUser id revokedAt)
      ((Call.revokeAllForUser id revokedAt).exec s e w).1) j).Carries userID) :
    (m j).Carries userID := by
  by_cases hji : j = i
  · subst hji
    rw [Function.update_self] at h
    obtain ⟨hcarries, -⟩ | ⟨-, ⟨_, _, hcall, -⟩ | ⟨_, _, hcall, -⟩⟩ := carries_step s hc h
    · exact hcarries
    · cases hcall
    · cases hcall
  · rwa [Function.update_of_ne hji] at h

theorem Window.step (h : Window userID admin w m) (hc : (observer s).allows (m i) c)
    (hg : Early s userID admin w m i c) :
    Window userID admin (c.exec s e w).2
      (Function.update m i ((observer s).next (m i) c (c.exec s e w).1)) := by
  refine ⟨h.spent.step s i c e, fun j jti id hissued ↦ ?_, targets_update h.targets hc,
    fun hcleared ↦ ?_⟩
  · by_cases hji : j = i
    · subst hji
      rw [Function.update_self] at hissued
      obtain hsame | ⟨t, -, hissue, -, hrow⟩ := issued_step s (m j) c e w
      · exact (h.issued j jti id (hsame ▸ hissued)).exec s c e
      · rw [hissue] at hissued
        cases hissued
        exact hrow
    · rw [Function.update_of_ne hji] at hissued
      exact (h.issued j jti id hissued).exec s c e
  obtain hbefore | ⟨hi, revokedAt, rfl, hrows⟩ := cleared_update h.targets hc hcleared
  · obtain ⟨hrows, hhands⟩ := h.closed hbefore
    refine ⟨fun t ht huser ↦ ?_, fun j hj ↦ ?_⟩
    · obtain ⟨t₀, ht₀, -, huser₀, hrevoked⟩ | ⟨t₁, rfl, -, huser₁, -⟩ := row_origin s ht
      · exact hrevoked (hrows t₀ ht₀ (huser₀ ▸ huser))
      · refine absurd hc.1 ?_
        rw [← huser₁, huser]
        exact hhands i
    · by_cases hji : j = i
      · subst hji
        rw [Function.update_self] at hj
        obtain ⟨hcarries, -⟩ | ⟨-, ⟨username, u, rfl, haccepts, hfind, huser, -⟩ |
          ⟨jti, revokedAt, rfl, huser, hopen, -⟩⟩ := carries_step s hc hj
        · exact hhands j hcarries
        · exact hg hbefore u hfind haccepts huser
        · obtain ⟨t, ht, hjti, hnone⟩ := hopen
          have hrevoked := hrows t ht (hg hbefore huser t ht hjti)
          rw [hnone] at hrevoked
          cases hrevoked
      · rw [Function.update_of_ne hji] at hj
        exact hhands j hj
  · exact ⟨hrows, fun j hj ↦ hg hi j (carries_revokeAll hc hj)⟩

end Window

/-- After it. -/
structure Sealed (userID : ℕ) (admin : ι) (mid : Server ι) (w : World) (m : ι → Mark) : Prop where
  spent : Spent w m
  targets : (m admin).Targets userID
  known : ∀ jti, Old userID mid m jti → w.HasToken jti userID
  kept : ∀ i, (mid.marks i).Carries userID → (m i).hand = some userID
  closed : (m admin).cleared = true →
    (∀ t ∈ w.tokens, t.userID = userID → Old userID mid m t.jti → t.revokedAt.isSome = true) ∧
      ∀ i, (m i).Carries userID →
        ¬(mid.marks i).Carries userID ∧ ∀ jti, (m i).spent = some jti → ¬Old userID mid m jti

section Sealed

variable {s} {w : World} {m : ι → Mark} {i admin : ι} {c : Call} {e : Env} {userID : ℕ}
variable {mid : Server ι}

theorem spent_of_issued {mark : Mark} (hc : (observer s).allows mark c) (h : mark.issued ≠ none)
    (r : c.Reply) : ((observer s).next mark c r).spent = mark.spent := by
  refine next_spent s mark (fun jti revokedAt heq ↦ ?_) r
  subst heq
  exact h hc.2.2

omit [DecidableEq ι] in
theorem Spent.not_new {jti : String} (h : Spent w m) (hnew : ∀ t₀ ∈ w.tokens, t₀.jti ≠ jti)
    (k : ι) : (m k).spent ≠ some jti := by
  intro hk
  obtain ⟨t₀, ht₀, hjti, -⟩ := h.revoked k jti hk
  exact hnew t₀ ht₀ hjti

/-- A token that becomes an old one has just been created, by a request that had an old one in
hand. -/
theorem Old.of_step (hspent : Spent w m) (hc : (observer s).allows (m i) c) {jti : String}
    (h : Old userID mid (Function.update m i ((observer s).next (m i) c (c.exec s e w).1)) jti) :
    Old userID mid m jti ∨ ∃ t, c = .createToken t ∧ t.jti = jti ∧ t.userID = userID ∧
      (∀ t₀ ∈ w.tokens, t₀.jti ≠ jti) ∧ (c.exec s e w).2.HasToken jti userID ∧
      ((mid.marks i).Carries userID ∨ ∃ jti₀, (m i).spent = some jti₀ ∧ Old userID mid m jti₀) := by
  have hissued : ∀ {k : ι} {jti : String},
      (Function.update m i ((observer s).next (m i) c (c.exec s e w).1) k).issued =
        some (jti, userID) → (m k).issued = some (jti, userID) ∨ k = i ∧ ∃ t, c = .createToken t ∧
          t.jti = jti ∧ t.userID = userID ∧ (∀ t₀ ∈ w.tokens, t₀.jti ≠ jti) ∧
          (c.exec s e w).2.HasToken jti userID := by
    intro k jti hk
    by_cases hki : k = i
    · subst hki
      rw [Function.update_self] at hk
      obtain hsame | ⟨t, hcreate, hissue, hnew, hrow⟩ := issued_step s (m k) c e w
      · exact .inl (hsame ▸ hk)
      · rw [hissue] at hk
        cases hk
        exact .inr ⟨rfl, t, hcreate, rfl, rfl, hnew, hrow⟩
    · rw [Function.update_of_ne hki] at hk
      exact .inl hk
  induction h with
  | stored ht huser => exact .inl (.stored ht huser)
  | inHand hmid hk =>
    obtain hk | ⟨rfl, t, hcreate, hjti, huser, hnew, hrow⟩ := hissued hk
    · exact .inl (.inHand hmid hk)
    · exact .inr ⟨t, hcreate, hjti, huser, hnew, hrow, .inl hmid⟩
  | @exchanged k jti jti' _ hk hk' ih =>
    have hspentk : (m k).spent = some jti := by
      by_cases hki : k = i
      · subst hki
        rw [Function.update_self] at hk
        obtain hissue | ⟨-, t, rfl, -⟩ := hissued hk'
        · rwa [spent_of_issued hc (by simp [hissue])] at hk
        · rwa [next_spent s (m k) (by simp)] at hk
      · rwa [Function.update_of_ne hki] at hk
    have hold : Old userID mid m jti := by
      obtain hold | ⟨t, -, -, -, hnew, -⟩ := ih
      · exact hold
      · exact absurd hspentk (hspent.not_new hnew k)
    obtain hissue | ⟨rfl, t, hcreate, hjti, huser, hnew, hrow⟩ := hissued hk'
    · exact .inl (.exchanged hold hspentk hissue)
    · exact .inr ⟨t, hcreate, hjti, huser, hnew, hrow, .inr ⟨jti, hspentk, hold⟩⟩

/-- A spent token does not become an old one. -/
theorem Old.of_spent (hspent : Spent w m) (hc : (observer s).allows (m i) c) {jti : String} {k : ι}
    (hk : (m k).spent = some jti)
    (h : Old userID mid (Function.update m i ((observer s).next (m i) c (c.exec s e w).1)) jti) :
    Old userID mid m jti := by
  obtain hold | ⟨t, -, -, -, hnew, -⟩ := h.of_step hspent hc
  · exact hold
  · exact absurd hk (hspent.not_new hnew k)

/-- Who is to issue a token after the tokens of the user have been revoked has no old one in
hand. -/
theorem Sealed.hands (h : Sealed userID admin mid w m) (hc : (observer s).allows (m i) c)
    (hcleared : (m admin).cleared = true) {j : ι}
    (hj : (Function.update m i ((observer s).next (m i) c (c.exec s e w).1) j).Carries userID) :
    ¬(mid.marks j).Carries userID ∧ ∀ jti,
      (Function.update m i ((observer s).next (m i) c (c.exec s e w).1) j).spent = some jti →
      ¬Old userID mid (Function.update m i ((observer s).next (m i) c (c.exec s e w).1)) jti := by
  obtain ⟨hrows, hhands⟩ := h.closed hcleared
  by_cases hji : j = i
  · subst hji
    rw [Function.update_self] at hj ⊢
    have hmid : (m j).Fresh → ¬(mid.marks j).Carries userID := fun hfresh hcarries ↦
      absurd (hfresh.1.symm.trans (h.kept j hcarries)) (by simp)
    obtain ⟨hcarries, hsame⟩ | ⟨hfresh, ⟨username, u, rfl, -, -, -, hnone⟩ |
      ⟨jti, revokedAt, rfl, -, hopen, hspent⟩⟩ := carries_step s hc hj
    · refine ⟨(hhands j hcarries).1, fun jti hspent hold ↦ ?_⟩
      rw [hsame] at hspent
      exact (hhands j hcarries).2 jti hspent (hold.of_spent h.spent hc hspent)
    · exact ⟨hmid hfresh, fun jti hspent ↦ absurd (hnone.symm.trans hspent) (by simp)⟩
    · refine ⟨hmid hfresh, fun jti' hspent' hold ↦ ?_⟩
      obtain rfl := Option.some.inj (hspent.symm.trans hspent')
      obtain hold | ⟨t, hcall, -⟩ := hold.of_step h.spent hc
      · obtain ⟨t, ht, hjti, huser⟩ := h.known jti hold
        have hrevoked : w.Revoked jti := ⟨t, ht, hjti, hrows t ht huser (hjti ▸ hold)⟩
        exact hrevoked.not_unrevoked hopen
      · cases hcall
  · rw [Function.update_of_ne hji] at hj ⊢
    refine ⟨(hhands j hj).1, fun jti hspent hold ↦ ?_⟩
    exact (hhands j hj).2 jti hspent (hold.of_spent h.spent hc hspent)

theorem Sealed.step (h : Sealed userID admin mid w m) (hc : (observer s).allows (m i) c)
    (hg : Late userID admin mid w m i c) :
    Sealed userID admin mid (c.exec s e w).2
      (Function.update m i ((observer s).next (m i) c (c.exec s e w).1)) := by
  refine ⟨h.spent.step s i c e, targets_update h.targets hc, fun jti hold ↦ ?_, fun j hj ↦ ?_,
    fun hcleared ↦ ?_⟩
  · obtain hold | ⟨t, -, -, -, -, hrow, -⟩ := hold.of_step h.spent hc
    · exact (h.known jti hold).exec s c e
    · exact hrow
  · have hhand := h.kept j hj
    by_cases hji : j = i
    · subst hji
      rw [Function.update_self]
      exact hand_step s hc hhand _
    · rwa [Function.update_of_ne hji]
  · obtain hbefore | ⟨hi, revokedAt, rfl, hrows⟩ := cleared_update h.targets hc hcleared
    · obtain ⟨hrows, hhands⟩ := h.closed hbefore
      refine ⟨fun t ht huser hold ↦ ?_, fun j hj ↦ ?_⟩
      · obtain hold | ⟨t₁, rfl, -, huser₁, -, -, hcarried⟩ := hold.of_step h.spent hc
        · obtain ⟨t₀, ht₀, hjti, huser₀, hrevoked⟩ | ⟨t₁, -, hjti, -, hnew⟩ := row_origin s ht
          · exact hrevoked (hrows t₀ ht₀ (huser₀ ▸ huser) (hjti ▸ hold))
          · obtain ⟨t₀, ht₀, hjti₀, -⟩ := h.known t.jti hold
            exact absurd (hjti₀.trans hjti) (hnew t₀ ht₀)
        · obtain ⟨hmid, hspent⟩ := hhands i (huser₁ ▸ hc.1)
          obtain hcarries | ⟨jti₀, hjti₀, hold⟩ := hcarried
          · exact absurd hcarries hmid
          · exact absurd hold (hspent jti₀ hjti₀)
      · exact h.hands hc hbefore hj
    · refine ⟨fun t ht huser _ ↦ hrows t ht huser, fun j hj ↦ ?_⟩
      obtain ⟨hmid, hspent⟩ := hg hi j (carries_revokeAll hc hj)
      refine ⟨hmid, fun jti hjti hold ↦ ?_⟩
      have hsame : (m j).spent = some jti := by
        by_cases hji : j = i
        · subst hji
          rwa [Function.update_self, next_spent s (m j) (by simp)] at hjti
        · rwa [Function.update_of_ne hji] at hjti
      exact hspent jti hsame (hold.of_spent h.spent hc hsame)

omit [DecidableEq ι] in
theorem Window.sealed (h : Window userID admin mid.state mid.marks) :
    Sealed userID admin mid mid.state mid.marks := by
  refine ⟨h.spent, h.targets, fun jti hold ↦ ?_, fun i hi ↦ hi.1, fun hcleared ↦ ?_⟩
  · cases hold with
    | stored ht huser => exact ⟨_, ht, rfl, huser⟩
    | inHand _ hissued => exact h.issued _ _ _ hissued
    | exchanged _ _ hissued => exact h.issued _ _ _ hissued
  · obtain ⟨hrows, hhands⟩ := h.closed hcleared
    exact ⟨fun t ht huser _ ↦ hrows t ht huser, fun i hi ↦ absurd hi (hhands i)⟩

end Sealed

section Requests

variable (w : World) (reqs : ι → Request) {userID : ℕ} {admin : ι}

omit [DecidableEq ι] in
theorem start_window (hadmin : (reqs admin).Changes userID) :
    Window userID admin (pool s w reqs).state (pool s w reqs).marks where
  spent := (pool_sound s w reqs).inv
  issued i jti id h := by
    have hnone : (reqs i).start.issued = none := by cases reqs i <;> rfl
    exact absurd (hnone.symm.trans h) (by simp)
  targets := by
    change Mark.Targets userID (reqs admin).start
    cases hreq : reqs admin with
    | updateUser id inp =>
      rw [hreq] at hadmin
      exact ⟨congrArg some hadmin.1, fun _ h ↦ by cases h⟩
    | deleteUser id =>
      rw [hreq] at hadmin
      exact ⟨congrArg some hadmin, fun _ h ↦ (Option.some.inj h).symm.trans hadmin⟩
    | _ => rw [hreq] at hadmin; cases hadmin
  closed h := by
    have hnone : (reqs admin).start.cleared = false := by cases reqs admin <;> rfl
    exact absurd (hnone.symm.trans h) (by simp)

/-- Once the request that changes a user has succeeded, the tokens of the user that rest on
what he was before are revoked, and no request brings an unrevoked one about. -/
theorem old_tokens_revoked (earlier later : List (ι × Env)) (hadmin : (reqs admin).Changes userID)
    (hearly : (pool s w reqs).Guarded (Call.exec s) (observer s) (Early s userID admin) earlier)
    (hlate : (after s w reqs earlier).Guarded (Call.exec s) (observer s)
      (Late userID admin (after s w reqs earlier)) later)
    (hsucceeded : Succeeded (after s w reqs (earlier ++ later)) admin) :
    ∀ t ∈ (after s w reqs (earlier ++ later)).state.tokens, t.userID = userID →
      Old userID (after s w reqs earlier) (after s w reqs (earlier ++ later)).marks t.jti →
      t.revokedAt.isSome = true := by
  have hstart : (pool s w reqs).Sound (observer s) (fun i ↦ IfOk fun m ↦ (reqs i).Done m)
      (Window userID admin) := ⟨start_window s w reqs hadmin, (pool_sound s w reqs).follows⟩
  have hmid := hstart.run (fun _ ↦ True) (fun _ _ _ _ _ h hc hg _ ↦ h.step hc hg) hearly
    fun _ _ ↦ trivial
  have hsealed : (after s w reqs earlier).Sound (observer s)
      (fun i ↦ IfOk fun m ↦ (reqs i).Done m) (Sealed userID admin (after s w reqs earlier)) :=
    ⟨hmid.inv.sealed, hmid.follows⟩
  have hend := hsealed.run (fun _ ↦ True) (fun _ _ _ _ _ h hc hg _ ↦ h.step hc hg) hlate
    fun _ _ ↦ trivial
  have hrun : after s w reqs (earlier ++ later) =
      (after s w reqs earlier).run (Call.exec s) (observer s) later := Pool.run_append _ _ _ _ _
  rw [hrun] at hsucceeded ⊢
  obtain ⟨a, ha⟩ := hsucceeded
  have hdone := hend.result ha a rfl
  have hcleared : (((after s w reqs earlier).run (Call.exec s) (observer s) later).marks
      admin).cleared = true := by
    cases hreq : reqs admin with
    | updateUser id inp =>
      rw [hreq] at hdone hadmin
      exact hdone hadmin.2
    | deleteUser id =>
      rw [hreq] at hdone
      exact hdone
    | _ => rw [hreq] at hadmin; cases hadmin
  exact (hend.inv.closed hcleared).1

/-- When the tokens of the user are revoked nobody is to issue one. -/
def Nobody (userID : ℕ) (_ : World) (m : ι → Mark) (_ : ι) : Call → Prop
  | .revokeAllForUser _ _ => ∀ j, ¬(m j).Carries userID
  | _ => True

omit [DecidableEq ι] in
theorem Nobody.late {w : World} {m : ι → Mark} {i : ι} {c : Call} {mid : Server ι}
    (h : Nobody userID w m i c) : Late userID admin mid w m i c := by
  cases c with
  | revokeAllForUser => exact fun _ j hj ↦ absurd hj (h j)
  | _ => trivial

instance [Fintype ι] (w : World) (m : ι → Mark) (i : ι) (c : Call) :
    Decidable (Early s userID admin w m i c) := by
  unfold Early
  split <;> infer_instance

instance [Fintype ι] (w : World) (m : ι → Mark) (i : ι) (c : Call) :
    Decidable (Nobody userID w m i c) := by
  unfold Nobody
  split <;> infer_instance

end Requests

/-- A hash is the plaintext behind the mark of bcrypt. -/
def plainService : Service where
  accessTTL := 15
  refreshTTL := 1000
  generate _ plaintext := .ok ("$2a$12$" ++ plaintext)
  compare hash plaintext := .ok (hash = "$2a$12$" ++ plaintext)

def siti : User := ⟨1, "siti", "", "$2a$12$rahasia123", "operator", true, none⟩

/-- One user with one refresh token. -/
def World.oneToken : World where
  users := Table.empty.insert siti
  tokens := Table.empty.insert ⟨0, "lama", 1, 1000, none, 0⟩
  unique := by decide

def calm : Env := ⟨none, 0, "baru", .ok "jwt"⟩

def turns (order : List Bool) : List (Bool × Env) := order.map fun i ↦ (i, calm)

def newPassword : Request := .updateUser 1 ⟨none, none, none, some "rahasia456"⟩

def loginOrPassword (i : Bool) : Request :=
  if i then newPassword else .login "siti" "rahasia123"

/-- The login comes before the change of the password. -/
theorem login_then_password :
    let before := turns (List.replicate 7 false ++ List.replicate 3 true)
    ∀ t ∈ (after plainService .oneToken loginOrPassword
        (before ++ turns [true, true])).state.tokens, t.userID = 1 →
      Old 1 (after plainService .oneToken loginOrPassword before)
        (after plainService .oneToken loginOrPassword (before ++ turns [true, true])).marks t.jti →
      t.revokedAt.isSome = true :=
  let before := turns (List.replicate 7 false ++ List.replicate 3 true)
  have hlate : (after plainService .oneToken loginOrPassword before).Guarded
      (Call.exec plainService) (observer plainService) (Nobody 1) (turns [true, true]) := by
    decide
  @old_tokens_revoked Bool _ plainService .oneToken loginOrPassword 1 true before _ ⟨rfl, rfl⟩
    (by decide) (hlate.mono fun _ _ _ _ h ↦ h.late) (by decide)

def refreshOrPassword (i : Bool) : Request :=
  if i then newPassword else .refresh (.ok ⟨1, "siti", "operator", "lama"⟩)

def loginOrDelete (i : Bool) : Request :=
  if i then .deleteUser 1 else .login "siti" "rahasia123"

/-- A refresh whose token has been revoked, and whose new one has not been created when the
user gets a new password. -/
def refreshAcross : List (Bool × Env) :=
  turns (List.replicate 5 false ++ [true, true])

/-- A login between the revocation of the tokens and the deletion of the user. -/
def loginBetween : List (Bool × Env) :=
  turns ([true, true] ++ List.replicate 7 false)

theorem old_tokens_unrevoked :
    (let before := after plainService .oneToken refreshOrPassword refreshAcross
     let mid := after plainService .oneToken refreshOrPassword (refreshAcross ++ turns [true])
     let last := after plainService .oneToken refreshOrPassword
       (refreshAcross ++ turns [true] ++ turns ([true, true] ++ List.replicate 6 false))
     before.state.user 1 ≠ mid.state.user 1 ∧ Succeeded last true ∧
      ∃ t ∈ last.state.tokens, t.userID = 1 ∧ Old 1 mid last.marks t.jti ∧ t.revokedAt = none) ∧
    let before := after plainService .oneToken loginOrDelete loginBetween
    let last := after plainService .oneToken loginOrDelete (loginBetween ++ turns [true])
    before.state.user 1 ≠ last.state.user 1 ∧ Succeeded last true ∧
      ∃ t ∈ last.state.tokens, t.userID = 1 ∧ Old 1 last last.marks t.jti ∧ t.revokedAt = none := by
  refine ⟨⟨by decide, by decide, ⟨2, "baru", 1, 1000, none, 0⟩, by decide,
    rfl, ?_, rfl⟩, by decide, by decide, ⟨2, "baru", 1, 1000, none, 0⟩,
    by decide, rfl, ?_, rfl⟩
  · exact .inHand (i := false) (by decide) (by decide)
  · exact .stored (t := ⟨2, "baru", 1, 1000, none, 0⟩) (by decide) rfl

end Rosmon.Auth
