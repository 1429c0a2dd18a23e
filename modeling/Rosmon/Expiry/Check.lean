import Rosmon.Vouchers.Expiry
import Rosmon.Workflows.Cascades

namespace Rosmon.Expiry

open Go Library Store Workflows Program
open Vouchers (MikrotikDevice location parseExpiry)

section Definitions

variable (quote : String → String)

/-- `UserSet`, of which the only other argument that is used here is the limit. -/
def userSet (id limitUptime : String) : Workflows.Prog (Except Error Unit) :=
  if id = "" then return .error (.of .mikrotikInvalidArgument)
  else Program.perform (Command.set .user id
    (if limitUptime = "" then [] else [(.limitUptime, limitUptime)]))

def activeList : Workflows.Prog (Except Error (List Sentence)) := print .active none

def activeRemove (id : String) : Workflows.Prog (Except Error Unit) := removeID .active id

/-- The sessions of a user are removed as far as that works. -/
def kick (name : String) : List Sentence → Workflows.Prog Unit
  | [] => return
  | a :: actives => do
    if a.user = name then
      let _ ← activeRemove a.id
      kick name actives
    else kick name actives

def executeExpiry (u : Sentence) (mode : String) : Workflows.Prog (Except Error Unit) :=
  if mode = "0" then return .ok ()
  else if mode = "rem" ∨ mode = "remc" then deleteUser quote u.id
  else if mode = "ntf" ∨ mode = "ntfc" then do
    -- The limit comes first, so that the user cannot log in again.
    match ← userSet u.id "1s" with
    | .error err => return .error err
    | .ok () =>
      match ← activeList with
      | .error _ => return .ok ()
      | .ok actives =>
        kick u.name actives
        return .ok ()
  else return .ok ()

variable (loc : Zone) (now : ℤ) (getByName : String → Except Error String)

/-- The loop over the users that were listed: the actions that have failed. -/
def checkUsers : List Sentence → Workflows.Prog (List (Sentence × Error))
  | [] => return []
  | u :: users => match parseExpiry u.comment loc with
    | none => checkUsers users
    | some expiry =>
      if now < expiry then checkUsers users
      else match getByName u.profile with
        | .error _ => checkUsers users
        | .ok mode => do
          match ← executeExpiry quote u mode with
          | .ok () => checkUsers users
          | .error err => return (u, err) :: (← checkUsers users)

variable (zones : String → Option Zone)

def checkDevice (d : MikrotikDevice) (client : Except Error Unit) :
    Workflows.Prog (Except Error (List (Sentence × Error))) :=
  match client with
  | .error err => return .error err
  | .ok () => do
    match ← print .user none with
    | .error err => return .error (err.wrap "userlist: ")
    | .ok users => return .ok (← checkUsers quote (location zones d) now getByName users)

/-- The mode of the profile of a user whose comment has a stamp that is not later than now. -/
def verdict (u : Sentence) : Option String :=
  match parseExpiry u.comment loc with
  | none => none
  | some expiry => if now < expiry then none else (getByName u.profile).toOption

end Definitions

section Loop

variable {quote : String → String} {loc : Zone} {now : ℤ} {getByName : String → Except Error String}
  {u : Sentence} {users : List Sentence}

theorem verdict_eq_some_iff {mode : String} : verdict loc now getByName u = some mode ↔
    (∃ expiry ∈ parseExpiry u.comment loc, expiry ≤ now) ∧ getByName u.profile = .ok mode := by
  unfold verdict
  cases parseExpiry u.comment loc with
  | none => simp
  | some expiry =>
    dsimp only
    split_ifs with hnow
    · simp [hnow]
    · cases getByName u.profile <;> simp [Except.toOption, not_lt.mp hnow]

/-- One user after the other: only the verdict counts. -/
theorem checkUsers_cons : checkUsers quote loc now getByName (u :: users) =
    match verdict loc now getByName u with
    | none => checkUsers quote loc now getByName users
    | some mode => do
      match ← executeExpiry quote u mode with
      | .ok () => checkUsers quote loc now getByName users
      | .error err => return (u, err) :: (← checkUsers quote loc now getByName users) := by
  rw [checkUsers, verdict]
  cases parseExpiry u.comment loc with
  | none => rfl
  | some expiry =>
    dsimp only
    split_ifs
    · rfl
    · cases getByName u.profile <;> rfl

end Loop

section Outcomes

/-- A list that has lost elements: those that satisfy `must`, and others only of those that satisfy
`may`. -/
def Between (must may : Sentence → Prop) (l l' : List Sentence) : Prop :=
  ∃ keep : Sentence → Bool, l' = l.filter keep ∧
    ∀ s ∈ l, (must s → keep s = false) ∧ (¬may s → keep s = true)

theorem Between.trans {must may must' may' : Sentence → Prop} {l l' l'' : List Sentence}
    (h : Between must may l l') (h' : Between must' may' l' l'') :
    Between (fun s ↦ must s ∨ must' s) (fun s ↦ may s ∨ may' s) l l'' := by
  obtain ⟨keep, rfl, hkeep⟩ := h
  obtain ⟨keep', rfl, hkeep'⟩ := h'
  refine ⟨fun s ↦ keep' s && keep s, List.filter_filter, fun s hs ↦ ⟨fun hmust ↦ ?_, fun hmay ↦ ?_⟩⟩
  · cases hk : keep s with
    | false => simp [hk]
    | true =>
      have hs' : s ∈ l.filter keep := List.mem_filter.mpr ⟨hs, hk⟩
      obtain hmust | hmust := hmust
      · simp [(hkeep s hs).1 hmust] at hk
      · simp [(hkeep' s hs').1 hmust]
  · obtain ⟨hmay, hmay'⟩ := not_or.mp hmay
    have hk := (hkeep s hs).2 hmay
    simp [hk, (hkeep' s (List.mem_filter.mpr ⟨hs, hk⟩)).2 hmay']

theorem Between.mono {must may must' may' : Sentence → Prop} {l l' : List Sentence}
    (h : Between must may l l') (hmust : ∀ s ∈ l, must' s → must s)
    (hmay : ∀ s ∈ l, may s → may' s) : Between must' may' l l' := by
  obtain ⟨keep, rfl, hkeep⟩ := h
  exact ⟨keep, rfl, fun s hs ↦ ⟨fun h ↦ (hkeep s hs).1 (hmust s hs h),
    fun h ↦ (hkeep s hs).2 (mt (hmay s hs) h)⟩⟩

theorem Between.refl (may : Sentence → Prop) (l : List Sentence) :
    Between (fun _ ↦ False) may l l :=
  ⟨fun _ ↦ true, (List.filter_eq_self.mpr fun _ _ ↦ rfl).symm, fun _ _ ↦ ⟨False.elim, fun _ ↦ rfl⟩⟩

theorem Between.filter {p : Sentence → Bool} (l : List Sentence) :
    Between (fun s ↦ p s = true) (fun s ↦ p s = true) l (l.filter (!p ·)) :=
  ⟨(!p ·), rfl, fun s _ ↦ ⟨fun h ↦ by simp [h], fun h ↦ by simpa using h⟩⟩

variable (removes limits : Sentence → Bool)

/-- The limit that locks a user out. -/
def limited (u : Sentence) : Sentence := u.set (.limitUptime, "1s")

/-- What becomes of a user when those of `users` are dealt with, and the actions on those of
`failed` fail. -/
def fate (users failed : List Sentence) (u : Sentence) : Option Sentence :=
  if u ∈ users ∧ u ∉ failed then
    if removes u then none else if limits u then some (limited u) else some u
  else some u

/-- What the check makes of the router. A user on whom an action fails stays as it is, and for the
others that makes no difference; `fails` are those for whom some command fails. -/
structure Outcome (users failed : List Sentence) (fails : Sentence → Prop) (r t : Router) :
    Prop where
  logged : ∀ u ∈ failed, u ∈ users ∧ fails u
  accounts : t.sentences .user =
    (r.sentences .user).filterMap (fate removes limits users failed)
  owned : ∀ m, m = .script ∨ m = .scheduler → Between
    (fun s ↦ ∃ u ∈ users, removes u ∧ u ∉ failed ∧ s.ownedBy .name u.name = true)
    (fun s ↦ ∃ u ∈ users, removes u ∧ s.ownedBy .name u.name = true) (r.sentences m) (t.sentences m)
  sessions : Between
    (fun a ↦ ∃ u ∈ users, limits u ∧ ¬fails u ∧ a.user = u.name)
    (fun a ↦ ∃ u ∈ users, limits u ∧ u ∉ failed ∧ a.user = u.name)
    (r.sentences .active) (t.sentences .active)
  others : ∀ m, m ∉ [Menu.user, .script, .scheduler, .active] → t.sentences m = r.sentences m

end Outcomes

section Steps

variable {removes limits : Sentence → Bool} {u v : Sentence} {users failed failed' : List Sentence}
  {fails fails' : Sentence → Prop} {r s t : Router}

theorem fate_of_not_mem (h : v ∉ users) : fate removes limits users failed v = some v :=
  if_neg fun hv ↦ h hv.1

theorem Outcome.refl (fails : Sentence → Prop) (r : Router)
    (h : ∀ u ∈ users, removes u = false ∧ limits u = false) :
    Outcome removes limits users [] fails r r where
  logged u hu := by cases hu
  accounts := by
    have hfate : ∀ v, fate removes limits users [] v = some v := by
      intro v
      unfold fate
      split_ifs with hv hremoves hlimits
      · simp [(h v hv.1).1] at hremoves
      · simp [(h v hv.1).2] at hlimits
      · rfl
      · rfl
    rw [funext hfate, List.filterMap_some]
  owned m _ := (Between.refl _ _).mono
    (fun s _ ⟨u, hu, hremoves, _⟩ ↦ by simp [(h u hu).1] at hremoves) fun _ _ h ↦ h
  sessions := (Between.refl _ _).mono
    (fun s _ ⟨u, hu, hlimits, _⟩ ↦ by simp [(h u hu).2] at hlimits) fun _ _ h ↦ h
  others _ _ := rfl

theorem Outcome.mono (h : Outcome removes limits users failed fails r t)
    (hfails : ∀ u ∈ users, fails u → fails' u) :
    Outcome removes limits users failed fails' r t where
  logged u hu := ⟨(h.logged u hu).1, hfails u (h.logged u hu).1 (h.logged u hu).2⟩
  accounts := h.accounts
  owned := h.owned
  sessions := h.sessions.mono
    (fun _ _ ⟨u, hu, hlimits, hfine, ha⟩ ↦ ⟨u, hu, hlimits, mt (hfails u hu) hfine, ha⟩)
    fun _ _ h ↦ h
  others := h.others

/-- One user after the other. -/
theorem Outcome.cons (hnodup : ((u :: users).map Sentence.id).Nodup)
    (h : Outcome removes limits [u] failed fails r s)
    (h' : Outcome removes limits users failed' fails s t) :
    Outcome removes limits (u :: users) (failed ++ failed') fails r t := by
  have hids : ∀ v ∈ users, v.id ≠ u.id := fun v hv heq ↦
    (List.nodup_cons.mp hnodup).1 (heq ▸ List.mem_map_of_mem hv)
  have hu : u ∉ users := fun hmem ↦ hids u hmem rfl
  have hu' : u ∉ failed' := fun hmem ↦ hu (h'.logged u hmem).1
  have hfailed : ∀ v ∈ users, v ∉ failed := fun v hv hmem ↦
    hu (List.mem_singleton.mp (h.logged v hmem).1 ▸ hv)
  refine ⟨fun v hv ↦ ?_, ?_, fun m hm ↦ ((h.owned m hm).trans (h'.owned m hm)).mono ?_ ?_,
    (h.sessions.trans h'.sessions).mono ?_ ?_, fun m hm ↦ (h'.others m hm).trans (h.others m hm)⟩
  · obtain hv | hv := List.mem_append.mp hv
    · exact ⟨List.mem_singleton.mp (h.logged v hv).1 ▸ List.mem_cons_self, (h.logged v hv).2⟩
    · exact ⟨List.mem_cons_of_mem u (h'.logged v hv).1, (h'.logged v hv).2⟩
  · rw [h'.accounts, h.accounts, List.filterMap_filterMap]
    refine List.filterMap_congr fun v _ ↦ ?_
    by_cases hvu : v = u
    · subst hvu
      have hlimited : limited v ∉ users := fun hmem ↦ hids _ hmem (Sentence.id_set v _)
      have hfirst : fate removes limits (v :: users) (failed ++ failed') v =
          fate removes limits [v] failed v := by
        simp [fate, hu']
      rw [hfirst]
      unfold fate
      split_ifs
      · rfl
      · exact fate_of_not_mem hlimited
      · exact fate_of_not_mem hu
      · exact fate_of_not_mem hu
    · have hother : v ∉ [u] := mt List.mem_singleton.mp hvu
      rw [fate_of_not_mem hother]
      have hmem : v ∉ failed := fun hmem ↦ hother (h.logged v hmem).1
      simp [fate, hvu, hmem]
  · rintro x - ⟨v, hv, hremoves, hfine, hx⟩
    rw [List.mem_append, not_or] at hfine
    obtain rfl | hv := List.mem_cons.mp hv
    · exact .inl ⟨v, List.mem_cons_self, hremoves, hfine.1, hx⟩
    · exact .inr ⟨v, hv, hremoves, hfine.2, hx⟩
  · rintro x - (⟨v, hv, hrest⟩ | ⟨v, hv, hrest⟩)
    · exact ⟨v, List.mem_singleton.mp hv ▸ List.mem_cons_self, hrest⟩
    · exact ⟨v, List.mem_cons_of_mem u hv, hrest⟩
  · rintro x - ⟨v, hv, hrest⟩
    obtain rfl | hv := List.mem_cons.mp hv
    · exact .inl ⟨v, List.mem_cons_self, hrest⟩
    · exact .inr ⟨v, hv, hrest⟩
  · rintro x - (⟨v, hv, hlimits, hfine, hx⟩ | ⟨v, hv, hlimits, hfine, hx⟩)
    · obtain rfl := List.mem_singleton.mp hv
      exact ⟨v, List.mem_cons_self, hlimits, by simp [hfine, hu'], hx⟩
    · exact ⟨v, List.mem_cons_of_mem u hv, hlimits, by simp [hfine, hfailed v hv], hx⟩

end Steps

section Actions

variable {quote : String → String} {removes limits : Sentence → Bool} {ok : Env → Prop}
  {u : Sentence} {r : Router} {mode : String}

/-- The sessions of a name are gone, if no command fails. -/
theorem wp_kick {name : String} {l : List Sentence} (hl : ∀ a ∈ l, a ∈ r.sentences .active)
    (hnodup : (l.map Sentence.id).Nodup) :
    (kick name l).wp Command.exec ok (fun _ t ↦ Between (fun a ↦ ¬Faulty ok ∧ a ∈ l ∧ a.user = name)
      (fun a ↦ a.user = name) (r.sentences .active) (t.sentences .active) ∧
        ∀ m, m ≠ .active → t.sentences m = r.sentences m) r := by
  induction l generalizing r with
  | nil => exact ⟨(Between.refl _ _).mono (by simp) fun _ _ h ↦ h, fun _ _ ↦ rfl⟩
  | cons a l ih =>
    have ha := hl a List.mem_cons_self
    obtain ⟨hnot, hrest⟩ := List.nodup_cons.mp hnodup
    have hskip := ih (fun b hb ↦ hl b (List.mem_cons_of_mem a hb)) hrest
    rw [kick]
    split_ifs with hname
    · refine wp_removeID (r.id_ne_empty .active ha) (fun err herr ↦ ?_) (fun _ ↦ ?_)
        fun hnone ↦ absurd rfl (hnone a ha)
      · exact wp_mono hskip fun _ t ht ↦
          ⟨ht.1.mono (fun _ _ h ↦ absurd herr h.1) fun _ _ h ↦ h, ht.2⟩
      · refine wp_mono (ih (fun b hb ↦ ?_) hrest) fun _ t ht ↦ ⟨?_, fun m hm ↦ ?_⟩
        · rw [Router.mem_drop]
          refine ⟨hl b (List.mem_cons_of_mem a hb), fun h ↦ hnot ?_⟩
          exact of_decide_eq_true h.2 ▸ List.mem_map_of_mem hb
        · have hfirst := Between.filter (p := (·.id = a.id)) (r.sentences .active)
          rw [← Router.drop_self] at hfirst
          refine (hfirst.trans ht.1).mono ?_ ?_
          · rintro b hb ⟨hfine, hmem, hb'⟩
            obtain rfl | hmem := List.mem_cons.mp hmem
            · exact .inl (decide_eq_true rfl)
            · exact .inr ⟨hfine, hmem, hb'⟩
          · rintro b hb (hid | hb')
            · exact r.eq_of_id .active hb ha (of_decide_eq_true hid) ▸ hname
            · exact hb'
        · rw [ht.2 m hm, Router.drop_of_ne _ _ hm]
    · refine wp_mono hskip fun _ t ht ↦ ⟨ht.1.mono ?_ fun _ _ h ↦ h, ht.2⟩
      rintro b hb ⟨hfine, hmem, hb'⟩
      obtain rfl | hmem := List.mem_cons.mp hmem
      · exact absurd hb' hname
      · exact ⟨hfine, hmem, hb'⟩

/-- The user, if the action on it has failed. -/
def failedOn (u : Sentence) : Except Error Unit → List Sentence
  | .ok () => []
  | .error _ => [u]

theorem outcome_of_deleted {fails : Sentence → Prop} (hu : u ∈ r.sentences .user)
    (hremoves : removes u = true) (hlimits : limits u = false) :
    Outcome removes limits [u] [] fails r (r.withoutUser u) where
  logged v hv := by cases hv
  accounts := by
    rw [Router.withoutUser, Router.drop_self, Router.drop_of_ne _ _ (by decide),
      Router.drop_of_ne _ _ (by decide), ← List.filterMap_eq_filter]
    refine List.filterMap_congr fun v hv ↦ ?_
    by_cases hvu : v = u
    · simp [fate, hvu, hremoves]
    · have hid : v.id ≠ u.id := fun heq ↦ hvu (r.eq_of_id .user hv hu heq)
      simp [fate, hvu, hid]
  owned m hm := by
    have hdrop : (r.withoutUser u).sentences m =
        (r.sentences m).filter (!·.ownedBy .name u.name) := by
      rw [Router.withoutUser]
      obtain rfl | rfl := hm
      · rw [Router.drop_of_ne _ _ (by decide), Router.drop_of_ne _ _ (by decide), Router.drop_self]
      · rw [Router.drop_of_ne _ _ (by decide), Router.drop_self, Router.drop_of_ne _ _ (by decide)]
    rw [hdrop]
    refine (Between.filter _).mono ?_ fun s _ h ↦ ⟨u, List.mem_singleton_self u, hremoves, h⟩
    rintro s - ⟨v, hv, -, -, hs⟩
    exact List.mem_singleton.mp hv ▸ hs
  sessions := by
    rw [Router.withoutUser, Router.drop_of_ne _ _ (by decide), Router.drop_of_ne _ _ (by decide),
      Router.drop_of_ne _ _ (by decide)]
    refine (Between.refl _ _).mono ?_ fun _ _ h ↦ h
    rintro a - ⟨v, hv, hv', -⟩
    rw [List.mem_singleton.mp hv, hlimits] at hv'
    cases hv'
  others m hm := by
    simp only [List.mem_cons, List.not_mem_nil, or_false, not_or] at hm
    rw [Router.withoutUser, Router.drop_of_ne _ _ hm.1, Router.drop_of_ne _ _ hm.2.2.1,
      Router.drop_of_ne _ _ hm.2.1]

/-- An action that has failed may have begun, if it is a deletion. -/
theorem outcome_of_failed {fails : Sentence → Prop} {t : Router} (hfails : fails u)
    (h : Lost (fun m s ↦ removes u = true ∧ u.OwnedByUser m s) r t) :
    Outcome removes limits [u] [u] fails r t where
  logged v hv := ⟨hv, List.mem_singleton.mp hv ▸ hfails⟩
  accounts := by
    have hfate : ∀ v, fate removes limits [u] [u] v = some v := fun v ↦ if_neg fun hv ↦ hv.2 hv.1
    rw [funext hfate, List.filterMap_some]
    exact h.same fun x _ hx ↦ by obtain ⟨-, h | h, -⟩ := hx <;> cases h
  owned m hm := by
    obtain ⟨keep, hkeep, hkept⟩ := h.kept m
    refine ⟨keep, hkeep, fun s hs ↦ ⟨?_, fun hmay ↦ hkept s hs fun hs' ↦ hmay ?_⟩⟩
    · rintro ⟨v, hv, -, hnot, -⟩
      exact absurd hv hnot
    · exact ⟨u, List.mem_singleton_self u, hs'.1, hs'.2.2⟩
  sessions := by
    rw [h.same fun x _ hx ↦ by obtain ⟨-, h | h, -⟩ := hx <;> cases h]
    refine (Between.refl _ _).mono ?_ fun _ _ h ↦ h
    rintro a - ⟨v, hv, -, hfine, -⟩
    exact absurd (List.mem_singleton.mp hv ▸ hfails) hfine
  others m hm := by
    simp only [List.mem_cons, List.not_mem_nil, or_false, not_or] at hm
    exact h.same fun x _ hx ↦ hx.2.1.elim hm.2.1 hm.2.2.1

theorem outcome_of_limited {fails : Sentence → Prop} {t : Router} (hu : u ∈ r.sentences .user)
    (hremoves : removes u = false) (hlimits : limits u = true)
    (hactive : Between (fun a ↦ ¬fails u ∧ a ∈ r.sentences .active ∧ a.user = u.name)
      (fun a ↦ a.user = u.name) (r.sentences .active) (t.sentences .active))
    (hothers : ∀ m, m ≠ .active →
      t.sentences m = (r.set .user u.id [(.limitUptime, "1s")]).sentences m) :
    Outcome removes limits [u] [] fails r t where
  logged v hv := by cases hv
  accounts := by
    rw [hothers _ (by decide), Router.set_self, ← List.filterMap_eq_map]
    refine List.filterMap_congr fun v hv ↦ ?_
    by_cases hvu : v = u
    · simp [fate, hvu, hremoves, hlimits, limited, Sentence.setAll]
    · have hid : v.id ≠ u.id := fun heq ↦ hvu (r.eq_of_id .user hv hu heq)
      simp [fate, hvu, hid]
  owned m hm := by
    have hsame : t.sentences m = r.sentences m := by
      obtain rfl | rfl := hm
      · exact (hothers _ (by decide)).trans (Router.set_of_ne _ _ _ (by decide))
      · exact (hothers _ (by decide)).trans (Router.set_of_ne _ _ _ (by decide))
    rw [hsame]
    refine (Between.refl _ _).mono ?_ fun _ _ h ↦ h
    rintro s - ⟨v, hv, hv', -⟩
    rw [List.mem_singleton.mp hv, hremoves] at hv'
    cases hv'
  sessions := by
    refine hactive.mono ?_ fun a _ ha ↦ ⟨u, List.mem_singleton_self u, hlimits, List.not_mem_nil, ha⟩
    rintro a ha ⟨v, hv, -, hfine, hname⟩
    obtain rfl := List.mem_singleton.mp hv
    exact ⟨hfine, ha, hname⟩
  others m hm := by
    simp only [List.mem_cons, List.not_mem_nil, or_false, not_or] at hm
    exact (hothers m hm.2.2.2).trans (Router.set_of_ne _ _ _ hm.1)

/-- `executeExpiry` does to a user that is there what the mode says. -/
theorem wp_executeExpiry (hu : u ∈ r.sentences .user)
    (hremoves : removes u = decide (mode = "rem" ∨ mode = "remc"))
    (hlimits : limits u = decide (mode = "ntf" ∨ mode = "ntfc")) :
    (executeExpiry quote u mode).wp Command.exec ok
      (fun res t ↦ Outcome removes limits [u] (failedOn u res) (fun _ ↦ Faulty ok) r t) r := by
  have hid := r.id_ne_empty .user hu
  unfold executeExpiry
  split_ifs with hzero hrem hntf
  · subst hzero
    exact Outcome.refl _ r (by simp [hremoves, hlimits])
  · have hremoves' : removes u = true := hremoves.trans (decide_eq_true hrem)
    have hlimits' : limits u = false := by
      rw [hlimits]
      obtain rfl | rfl := hrem <;> decide
    refine wp_mono (wp_deleteUser hu) fun res t ht ↦ ?_
    cases res with
    | ok =>
      obtain rfl : t = r.withoutUser u := ht
      exact outcome_of_deleted hu hremoves' hlimits'
    | error => exact outcome_of_failed ht.1 (ht.2.mono fun m s _ hs ↦ ⟨hremoves', hs⟩)
  · have hremoves' : removes u = false := hremoves.trans (decide_eq_false hrem)
    have hlimits' : limits u = true := hlimits.trans (decide_eq_true hntf)
    rw [userSet, if_neg hid]
    refine wp_set (fun err herr ↦ outcome_of_failed herr (Lost.refl _ r)) (fun _ ↦ ?_)
      fun hnone ↦ absurd rfl (hnone u hu)
    have hpairs : (if "1s" = "" then [] else [(Field.limitUptime, "1s")]) =
        [(Field.limitUptime, "1s")] := if_neg (by decide)
    rw [hpairs]
    have hactive := Router.set_of_ne (n := .active) (m := .user) r u.id [(.limitUptime, "1s")]
      (by decide)
    refine wp_print (fun err herr ↦ ?_) ?_
    · refine outcome_of_limited hu hremoves' hlimits' ?_ fun m _ ↦ rfl
      rw [hactive]
      exact (Between.refl _ _).mono (fun _ _ h ↦ h.1 herr) fun _ _ h ↦ h
    · have hall : ((r.set .user u.id [(.limitUptime, "1s")]).sentences .active).filter
          (·.matches none) = r.sentences .active := by
        rw [hactive]
        exact List.filter_eq_self.mpr fun _ _ ↦ rfl
      rw [hall]
      change (kick u.name (r.sentences .active) >>= fun _ ↦ pure (Except.ok ())).wp _ ok _ _
      refine (wp_bind _ _ _).mpr (wp_mono (wp_kick (fun a ha ↦ ?_) (r.unique .active))
        fun _ t ht ↦ outcome_of_limited hu hremoves' hlimits' ?_ ht.2)
      · rw [hactive]
        exact ha
      · rw [hactive] at ht
        exact ht.1
  · refine Outcome.refl _ r fun v hv ↦ ?_
    rw [List.mem_singleton.mp hv, hremoves, hlimits]
    exact ⟨decide_eq_false hrem, decide_eq_false hntf⟩

end Actions

section Runs

variable (quote : String → String) (loc : Zone) (now : ℤ) (getByName : String → Except Error String)

def removes (u : Sentence) : Bool :=
  verdict loc now getByName u ∈ [some "rem", some "remc"]

def limits (u : Sentence) : Bool :=
  verdict loc now getByName u ∈ [some "ntf", some "ntfc"]

/-- The users for whom a command fails, when each command is made for one user. -/
def Failing (owner : ℕ → Option Sentence) (env : ℕ → Env) (u : Sentence) : Prop :=
  ∃ n, owner n = some u ∧ (env n).fault ≠ none

/-- The loop: every user in turn, and each with commands of its own. -/
theorem checkUsers_outcome {users : List Sentence} {r : Router} (env : ℕ → Env)
    (hnodup : (users.map Sentence.id).Nodup) (husers : ∀ u ∈ users, u ∈ r.sentences .user) :
    ∃ owner, Outcome (removes loc now getByName) (limits loc now getByName) users
      (((checkUsers quote loc now getByName users).run Command.exec env r).1.map Prod.fst)
      (Failing owner env) r ((checkUsers quote loc now getByName users).run Command.exec env r).2 := by
  induction users generalizing r env with
  | nil => exact ⟨fun _ ↦ none, Outcome.refl _ r fun u hu ↦ by cases hu⟩
  | cons u users ih =>
    have hrest := (List.nodup_cons.mp hnodup).2
    rw [checkUsers_cons]
    cases hverdict : verdict loc now getByName u with
    | none =>
      obtain ⟨owner, howner⟩ := ih env hrest fun v hv ↦ husers v (List.mem_cons_of_mem u hv)
      have hidle : Outcome (removes loc now getByName) (limits loc now getByName) [u] []
          (Failing owner env) r r := by
        refine Outcome.refl _ r fun v hv ↦ ?_
        rw [List.mem_singleton.mp hv, removes, limits, hverdict]
        decide
      exact ⟨owner, hidle.cons hnodup howner⟩
    | some mode =>
      have hremoves : removes loc now getByName u = decide (mode = "rem" ∨ mode = "remc") := by
        simp [removes, hverdict]
      have hlimits : limits loc now getByName u = decide (mode = "ntf" ∨ mode = "ntfc") := by
        simp [limits, hverdict]
      obtain ⟨m, hrun, hwithin⟩ := run_bind_within Command.exec (executeExpiry quote u mode)
        (fun res ↦ match res with
          | .ok () => checkUsers quote loc now getByName users
          | .error err => do return (u, err) :: (← checkUsers quote loc now getByName users)) env r
      have hfirst := hwithin (fun e ↦ ∃ n < m, env n = e) _
        (wp_executeExpiry (husers u List.mem_cons_self) hremoves hlimits) fun n hn ↦ ⟨n, hn, rfl⟩
      have hleft : ∀ v ∈ users,
          v ∈ ((executeExpiry quote u mode).run Command.exec env r).2.sentences .user := by
        intro v hv
        rw [hfirst.accounts]
        refine List.mem_filterMap.mpr ⟨v, husers v (List.mem_cons_of_mem u hv), ?_⟩
        refine fate_of_not_mem fun hvu ↦ (List.nodup_cons.mp hnodup).1 ?_
        exact List.mem_singleton.mp hvu ▸ List.mem_map_of_mem hv
      obtain ⟨owner, howner⟩ := ih (fun n ↦ env (n + m)) hrest hleft
      -- The first `m` commands are made for this user.
      refine ⟨fun n ↦ if n < m then some u else owner (n - m), ?_⟩
      have hcons := Outcome.cons hnodup
        (hfirst.mono fun v hv ⟨e, ⟨n, hn, he⟩, hfault⟩ ↦
          (⟨n, by simp [hn, List.mem_singleton.mp hv], he ▸ hfault⟩ :
            Failing (fun n ↦ if n < m then some u else owner (n - m)) env v))
        (howner.mono fun v _ ⟨n, hn, hfault⟩ ↦ ⟨n + m, by simpa using hn, hfault⟩)
      refine hrun ▸ ?_
      cases hres : ((executeExpiry quote u mode).run Command.exec env r).1 with
      | ok =>
        rw [hres] at hcons
        exact hcons
      | error err =>
        rw [hres] at hcons
        have hmap := run_map Command.exec (fun l ↦ (u, err) :: l)
          (checkUsers quote loc now getByName users) (fun n ↦ env (n + m))
          ((executeExpiry quote u mode).run Command.exec env r).2
        refine hmap ▸ ?_
        exact hcons

end Runs

section Subscribers

/-- The user of a hotspot subscription. -/
def Subscribed (subs : List Subscription) (d : MikrotikDevice) (u : Sentence) : Prop :=
  ∃ sub ∈ subs, sub.serviceType = .hotspot ∧ sub.deviceID = d.id ∧ sub.deletedAt = none ∧
    sub.mikrotikUsername = u.name

/-- An active subscription; the notes are what becomes of the comment on the router. -/
def subscription : Subscription where
  id := 1
  customerID := 1
  deviceID := 1
  pppProfileID := none
  hotspotProfileID := some 1
  serviceType := .hotspot
  mikrotikUsername := "budi"
  mikrotikPassword := "rahasia"
  status := .active
  billingDay := some 1
  nextInvoiceDate := none
  syncStatus := .synced
  syncNotes := ""
  syncRetryCount := 0
  activatedAt := some 0
  terminatedAt := none
  notes := "nov/14/2023 22:13:20"
  deletedAt := none

def subscriber : Sentence :=
  { Sentence.blank "*1" with name := "budi", profile := "harian", comment := subscription.notes }

def oneSubscriber : Router where
  sentences
    | .user => [subscriber]
    | _ => []
  given
    | .user => ["*1"]
    | _ => []
  unique m := by cases m <;> decide
  known m := by cases m <;> decide
  named m := by cases m <;> decide

end Subscribers

end Rosmon.Expiry
