import Mathlib.Logic.Relation
import Rosmon.Auth.Requests

namespace Rosmon.Auth

open Library Program Store

namespace World

variable {w : World} {jti : String}

def Revoked (jti : String) (w : World) : Prop :=
  ∃ t ∈ w.tokens, t.jti = jti ∧ t.revokedAt.isSome = true

def Unrevoked (jti : String) (w : World) : Prop :=
  ∃ t ∈ w.tokens, t.jti = jti ∧ t.revokedAt = none

theorem Revoked.not_unrevoked (h : w.Revoked jti) : ¬w.Unrevoked jti := by
  intro hopen
  obtain ⟨t, ht, hjti, hrevoked⟩ := h
  obtain ⟨t', ht', hjti', hnone⟩ := hopen
  have heq : t = t' := w.unique t ht t' ht' (hjti.trans hjti'.symm)
  rw [heq, hnone] at hrevoked
  cases hrevoked

theorem Revoked.revoke (h : w.Revoked jti) (p : RefreshToken → Bool) (revokedAt : Time) :
    (w.revoke p revokedAt).Revoked jti := by
  obtain ⟨t, ht, hjti, hrevoked⟩ := h
  have hp : unrevoked p t = false := by
    obtain ⟨time, htime⟩ := Option.isSome_iff_exists.mp hrevoked
    simp [unrevoked, htime]
  exact ⟨t, Table.mem_update_of_not ht hp, hjti, hrevoked⟩

theorem Revoked.issue (h : w.Revoked jti) {t : RefreshToken}
    (hnew : ∀ t' ∈ w.tokens, t'.jti ≠ t.jti) : (w.issue t hnew).Revoked jti := by
  obtain ⟨t', ht', hjti⟩ := h
  exact ⟨t', Table.mem_insert.mpr (.inl ht'), hjti⟩

theorem revoke_revoked (h : w.Unrevoked jti) (revokedAt : Time) :
    (w.revoke (·.jti = jti) revokedAt).Revoked jti := by
  obtain ⟨t, ht, hjti, hnone⟩ := h
  have hp : unrevoked (·.jti = jti) t = true := by simp [unrevoked, hjti, hnone]
  exact ⟨_, Table.mem_update_of ht hp, hjti, rfl⟩

end World

section Steps

variable {w : World} {jti : String}

theorem orFault_keeps {α : Type} {I : World → Prop} {e : Env} {done : Except StoreError α × World}
    (hw : I w) (hdone : I done.2) : I (orFault e w done).2 := by
  unfold orFault
  split
  · exact hw
  · exact hdone

variable (s : Service)

/-- A token that is revoked stays revoked. -/
theorem World.Revoked.exec (h : w.Revoked jti) (c : Call) (e : Env) :
    (c.exec s e w).2.Revoked jti := by
  cases c with
  | now | newJTI | salt | signRefresh | signAccess => exact h
  | userByID | userByUsername | tokenByJTI => exact orFault_keeps h h
  | updateUser u =>
    refine orFault_keeps h ?_
    split
    · exact h
    · exact h
  | deleteUser id =>
    refine orFault_keeps h ?_
    split
    · exact h
    · exact h
  | createToken t =>
    refine orFault_keeps h ?_
    split
    next hnew => exact h.issue hnew
    next => exact h
  | revoke jti' revokedAt =>
    refine orFault_keeps h ?_
    split
    · exact h.revoke _ _
    · exact h
  | revokeAllForUser userID revokedAt => exact orFault_keeps h (h.revoke _ _)

/-- `Revoke` succeeds on a token that has not been revoked before. -/
theorem revoke_ok {e : Env} {revokedAt : Time}
    (h : ((Call.revoke jti revokedAt).exec s e w).1 = .ok ()) :
    w.Unrevoked jti ∧ ((Call.revoke jti revokedAt).exec s e w).2.Revoked jti := by
  simp only [Call.exec, orFault] at h ⊢
  cases hfault : e.fault with
  | some err => simp [hfault] at h
  | none =>
    simp only [hfault] at h ⊢
    split at h
    next hfound =>
      obtain ⟨t, ht⟩ := Option.isSome_iff_exists.mp hfound
      have hsat := Table.find_sat ht
      simp only [World.unrevoked, Bool.and_eq_true, decide_eq_true_eq] at hsat
      have hopen : w.Unrevoked jti := ⟨t, Table.mem_of_find ht, hsat.1, hsat.2⟩
      rw [if_pos hfound]
      exact ⟨hopen, World.revoke_revoked hopen revokedAt⟩
    next => cases h

theorem next_spent (m : Mark) {c : Call} (hc : ∀ jti revokedAt, c ≠ .revoke jti revokedAt)
    (r : c.Reply) : ((observer s).next m c r).spent = m.spent := by
  cases c with
  | now | newJTI | salt | updateUser | deleteUser | tokenByJTI => rfl
  | signRefresh | signAccess | userByID | createToken | revokeAllForUser => cases r <;> rfl
  | userByUsername username =>
    cases r with
    | error err => rfl
    | ok u =>
      rw [next_login]
      split <;> rfl
  | revoke jti revokedAt => exact absurd rfl (hc jti revokedAt)

/-- A request spends a token by revoking it, and only one that has not been revoked before. -/
theorem spent_step (m : Mark) (c : Call) (e : Env) (w : World) :
    ((observer s).next m c (c.exec s e w).1).spent = m.spent ∨
      ∃ jti, ((observer s).next m c (c.exec s e w).1).spent = some jti ∧ w.Unrevoked jti ∧
        (c.exec s e w).2.Revoked jti := by
  by_cases hc : ∃ jti revokedAt, c = .revoke jti revokedAt
  · obtain ⟨jti, revokedAt, rfl⟩ := hc
    cases hr : ((Call.revoke jti revokedAt).exec s e w).1 with
    | error err => exact .inl rfl
    | ok _ => exact .inr ⟨jti, rfl, revoke_ok s hr⟩
  · exact .inl (next_spent s m (fun jti revokedAt heq ↦ hc ⟨jti, revokedAt, heq⟩) _)

end Steps

variable {ι : Type} [DecidableEq ι] (s : Service)

/-- A token has been spent by one request at most, and is revoked. -/
structure Spent (w : World) (m : ι → Mark) : Prop where
  once : ∀ i j jti, (m i).spent = some jti → (m j).spent = some jti → i = j
  revoked : ∀ i jti, (m i).spent = some jti → w.Revoked jti

theorem Spent.step {w : World} {m : ι → Mark} (h : Spent w m) (i : ι) (c : Call) (e : Env) :
    Spent (c.exec s e w).2
      (Function.update m i ((observer s).next (m i) c (c.exec s e w).1)) := by
  obtain hsame | ⟨jti, hspent, hopen, hrevoked⟩ := spent_step s (m i) c e w
  · have hm : ∀ j, (Function.update m i ((observer s).next (m i) c (c.exec s e w).1) j).spent =
        (m j).spent := by
      intro j
      by_cases hj : j = i
      · rw [hj, Function.update_self, hsame]
      · rw [Function.update_of_ne hj]
    constructor
    · intro j k jti hj hk
      exact h.once j k jti (hm j ▸ hj) (hm k ▸ hk)
    · intro j jti hj
      exact (h.revoked j jti (hm j ▸ hj)).exec s c e
  · have hnew : ∀ j, (m j).spent ≠ some jti := fun j hj ↦ (h.revoked j jti hj).not_unrevoked hopen
    have hm : ∀ j jti', (Function.update m i ((observer s).next (m i) c (c.exec s e w).1) j).spent =
        some jti' → j = i ∧ jti' = jti ∨ j ≠ i ∧ (m j).spent = some jti' := by
      intro j jti' hj
      by_cases hji : j = i
      · rw [hji, Function.update_self, hspent] at hj
        exact .inl ⟨hji, (Option.some.inj hj).symm⟩
      · rw [Function.update_of_ne hji] at hj
        exact .inr ⟨hji, hj⟩
    constructor
    · intro j k jti' hj hk
      obtain ⟨hji, hjti⟩ | ⟨-, hj'⟩ := hm j jti' hj
      · obtain ⟨hki, -⟩ | ⟨-, hk'⟩ := hm k jti' hk
        · exact hji.trans hki.symm
        · exact absurd (hjti ▸ hk') (hnew k)
      · obtain ⟨-, hjti⟩ | ⟨-, hk'⟩ := hm k jti' hk
        · exact absurd (hjti ▸ hj') (hnew j)
        · exact h.once j k jti' hj' hk'
    · intro j jti' hj
      obtain ⟨-, hjti⟩ | ⟨-, hj'⟩ := hm j jti' hj
      · exact hjti ▸ hrevoked
      · exact (h.revoked j jti' hj').exec s c e

section Requests

/-- The service with the requests that are being served. -/
abbrev Server (ι : Type) := Pool ι Call Call.Reply (Except Error Answer) World Mark

/-- The requests at their first call. -/
def pool (w : World) (reqs : ι → Request) : Server ι where
  state := w
  threads i := (reqs i).prog s
  marks i := (reqs i).start

variable (w : World) (reqs : ι → Request)

def after (schedule : List (ι × Env)) : Server ι :=
  (pool s w reqs).run (Call.exec s) (observer s) schedule

/-- The request has been answered with a new pair. -/
def Exchanged (p : Server ι) (i : ι) : Prop :=
  ∃ pair u, p.result i = some (.ok (.pair pair u))

/-- The second token has been issued in exchange for the first. -/
def Successor (p : Server ι) (jti jti' : String) : Prop :=
  ∃ i userID, (p.marks i).spent = some jti ∧ (p.marks i).issued = some (jti', userID)

/-- The tokens that go back to the `first` one, which a login has issued. -/
def Descends (p : Server ι) (first : String) : String → Prop :=
  Relation.ReflTransGen (Successor p) first

theorem start_spent (req : Request) (jti : String) : req.start.spent ≠ some jti := by
  cases req <;> simp [Request.start, Mark.blank]

omit [DecidableEq ι] in
theorem pool_sound : (pool s w reqs).Sound (observer s) (fun i ↦ IfOk fun m ↦ (reqs i).Done m)
    Spent where
  inv :=
    { once := fun i _ jti hi _ ↦ absurd hi (start_spent (reqs i) jti)
      revoked := fun i jti hi ↦ absurd hi (start_spent (reqs i) jti) }
  follows i := prog_follows s (reqs i)

theorem after_sound (schedule : List (ι × Env)) :
    (after s w reqs schedule).Sound (observer s) (fun i ↦ IfOk fun m ↦ (reqs i).Done m) Spent :=
  (pool_sound s w reqs).run_all (fun _ _ i c e h _ ↦ h.step s i c e) schedule

variable {s w reqs}

theorem Exchanged.spent {schedule : List (ι × Env)} {i : ι} {claims : Claims}
    (h : Exchanged (after s w reqs schedule) i) (hi : reqs i = .refresh (.ok claims)) :
    ((after s w reqs schedule).marks i).spent = some claims.jti := by
  obtain ⟨pair, u, hresult⟩ := h
  have hdone := (after_sound s w reqs schedule).result hresult _ rfl
  rwa [hi] at hdone

/-- Once a token is revoked, nobody spends it any more. -/
theorem spent_of_revoked {earlier later : List (ι × Env)} {i : ι} {jti : String}
    (hrevoked : (after s w reqs earlier).state.Revoked jti)
    (hfirst : ((after s w reqs earlier).marks i).spent ≠ some jti) :
    ((after s w reqs (earlier ++ later)).marks i).spent ≠ some jti := by
  have hstart : (after s w reqs earlier).Sound (observer s)
      (fun i ↦ IfOk fun m ↦ (reqs i).Done m)
      fun w m ↦ w.Revoked jti ∧ (m i).spent ≠ some jti :=
    ⟨⟨hrevoked, hfirst⟩, (after_sound s w reqs earlier).follows⟩
  have hstep : ∀ w m j c e, World.Revoked jti w ∧ (m i).spent ≠ some jti →
      World.Revoked jti (Call.exec s c e w).2 ∧
        (Function.update m j ((observer s).next (m j) c (c.exec s e w).1) i).spent ≠ some jti := by
    intro w m j c e h
    refine ⟨h.1.exec s c e, ?_⟩
    by_cases hij : i = j
    · subst hij
      rw [Function.update_self]
      obtain hsame | ⟨jti', hspent, hopen, -⟩ := spent_step s (m i) c e w
      · exact hsame ▸ h.2
      · rw [hspent]
        intro heq
        exact h.1.not_unrevoked (Option.some.inj heq ▸ hopen)
    · rw [Function.update_of_ne hij]
      exact h.2
  have hend := hstart.run_all (fun w m j c e h _ ↦ hstep w m j c e h) later
  rw [after, Pool.run_append]
  exact hend.inv.2

omit [DecidableEq ι] in
/-- Of the tokens that go back to one login all but one have been spent. -/
theorem descendant_unique {p : Server ι} (hp : Spent p.state p.marks) {first jti jti' : String}
    (h : Descends p first jti)
    (h' : Descends p first jti') (hopen : p.state.Unrevoked jti)
    (hopen' : p.state.Unrevoked jti') : jti = jti' := by
  have hunique : Relator.RightUnique (Successor p) := by
    intro a b c hb hc
    obtain ⟨i, userID, hi, hissued⟩ := hb
    obtain ⟨j, userID', hj, hissued'⟩ := hc
    rw [hp.once i j a hi hj, hissued'] at hissued
    cases hissued
    rfl
  have hlast : ∀ {a b}, p.state.Unrevoked a → Descends p a b → a = b := by
    intro a b ha hab
    obtain heq | ⟨c, hac, -⟩ := hab.cases_head
    · exact heq
    · obtain ⟨i, _, hi, _⟩ := hac
      exact absurd ha (hp.revoked i a hi).not_unrevoked
  obtain hle | hle := h.total_of_right_unique hunique h'
  · exact hlast hopen hle
  · exact (hlast hopen' hle).symm

/-- A refresh token is exchanged at most once, and not at all once it is revoked; of the tokens
that go back to one login at most one is unrevoked. -/
theorem refresh_tokens_rotate (s : Service) (w : World) (reqs : ι → Request)
    (schedule : List (ι × Env)) :
    (∀ i j claims claims', reqs i = .refresh (.ok claims) → reqs j = .refresh (.ok claims') →
      claims.jti = claims'.jti → Exchanged (after s w reqs schedule) i →
      Exchanged (after s w reqs schedule) j → i = j) ∧
    (∀ earlier later i claims revokedAt k, schedule = earlier ++ later →
      reqs i = .refresh (.ok claims) →
      (after s w reqs earlier).threads i = .call (.revoke claims.jti revokedAt) k →
      (after s w reqs earlier).state.Revoked claims.jti →
      ¬Exchanged (after s w reqs schedule) i) ∧
    ∀ first jti jti', Descends (after s w reqs schedule) first jti →
      Descends (after s w reqs schedule) first jti' →
      (after s w reqs schedule).state.Unrevoked jti →
      (after s w reqs schedule).state.Unrevoked jti' → jti = jti' := by
  refine ⟨?_, ?_, ?_⟩
  · intro i j claims claims' hi hj hjti hexchanged hexchanged'
    exact (after_sound s w reqs schedule).inv.once i j claims.jti (hexchanged.spent hi)
      (hjti ▸ hexchanged'.spent hj)
  · intro earlier later i claims revokedAt k hschedule hi hcall hrevoked hexchanged
    have hfresh := (after_sound s w reqs earlier).follows i
    rw [hcall] at hfresh
    have hspent : ((after s w reqs earlier).marks i).spent ≠ some claims.jti := by
      simp [hfresh.1.2.1]
    subst hschedule
    exact spent_of_revoked hrevoked hspent (hexchanged.spent hi)
  · intro first jti jti' h h' hopen hopen'
    exact descendant_unique (after_sound s w reqs schedule).inv h h' hopen hopen'

end Requests

end Rosmon.Auth
