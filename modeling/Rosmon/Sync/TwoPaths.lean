import Rosmon.Sync.Drain
import Rosmon.Sync.Shape
import Rosmon.Sync.Warnings

namespace Rosmon.Sync

open Library Store Mikrotik Program Service Job Handler

/-- The changes of status that the jobs and `applySettlement` make. -/
inductive Change
  | isolate
  | suspend
  | restore
  deriving DecidableEq

def Change.status : Change → SubscriptionStatus
  | .isolate => .isolir
  | .suspend => .suspended
  | .restore => .active

def Change.allowed : Change → SubscriptionStatus → Bool
  | .isolate, s => s = .active
  | .suspend, s => s = .active || s = .isolir
  | .restore, s => s = .isolir || s = .suspended

/-- Each change is made in a status that allows it. -/
def Allowed : SubscriptionStatus → List Change → Prop
  | _, [] => True
  | s, c :: cs => c.allowed s ∧ Allowed c.status cs

/-- What makes the change and writes the request for it. -/
def Change.prog (id : ℕ) : Change → Prog Unit
  | .isolate => isolir [] id
  | .suspend => hardSuspend id
  | .restore => do
    let _ ← restoreSubscription id
    return ()

/-- A change made by a job, and the outbox runs after it. -/
structure Background where
  change : Change
  env : ℕ → Env
  runs : ℕ
  envs : ℕ → ℕ → Env

def Background.Quiet (b : Background) : Prop :=
  (∀ n, (b.env n).Quiet) ∧ ∀ i n, (b.envs i n).Quiet

def background (id : ℕ) (w : World) (b : Background) : World :=
  outboxRuns b.envs b.runs ((b.change.prog id).run Call.exec b.env w).2

/-- The outbox has dealt with the request of the change. -/
def Served (id : ℕ) (w : World) (b : Background) : Prop :=
  ∀ sub, (background id w b).row id = some sub → sub.syncStatus.pending = false

instance (id : ℕ) (w : World) (b : Background) : Decidable (Served id w b) :=
  inferInstanceAs (Decidable
    (∀ sub ∈ (background id w b).row id, sub.syncStatus.pending = false))

/-- A change made through `PatchStatus`. -/
structure Patch where
  change : Change
  actor : Option ℕ
  env : ℕ → Env

def patch (id : ℕ) (w : World) (p : Patch) : World :=
  ((patchStatus id p.change.status p.actor).run Call.exec p.env w).2

/-- The profile and the flag of the record of a login. -/
def appearance (w : World) (l : Login) : Option (String × Bool) :=
  (w.account l).map fun a ↦ (a.profile, a.disabled)

/-- The last change suspends a subscription that is in isolation. -/
def suspendsIsolated : SubscriptionStatus → List Change → Bool
  | _, [] => false
  | s, [c] => s = .isolir && c = .suspend
  | _, c :: c' :: cs => suspendsIsolated c.status (c' :: cs)

/-! What the two ways make of a profile and a flag, given the two profile names. -/

def Change.behind (normalProfile isolirProfile : String) (s : SubscriptionStatus) :
    Change → String × Bool → String × Bool
  | .isolate, x => (isolirProfile, x.2)
  | .suspend, x => (x.1, true)
  | .restore, x => (orDefault normalProfile x.1, if s = .suspended then false else x.2)

def Change.pushed (normalProfile isolirProfile : String) :
    Change → String × Bool → String × Bool
  | .isolate, _ => (isolirProfile, false)
  | .suspend, x => (orDefault normalProfile x.1, true)
  | .restore, x => (orDefault normalProfile x.1, false)

def allBehind (normalProfile isolirProfile : String) :
    SubscriptionStatus → List Change → String × Bool → String × Bool
  | _, [], x => x
  | s, c :: cs, x =>
    allBehind normalProfile isolirProfile c.status cs (c.behind normalProfile isolirProfile s x)

def allPushed (normalProfile isolirProfile : String) : List Change → String × Bool → String × Bool
  | [], x => x
  | c :: cs, x => allPushed normalProfile isolirProfile cs (c.pushed normalProfile isolirProfile x)

section Appearances

variable {N I : String} {s : SubscriptionStatus} {x y : String × Bool}

/-- What is known of the two records on the way. Only the profile of a suspended
subscription may differ. -/
structure Alike (N I : String) (s : SubscriptionStatus) (x y : String × Bool) : Prop where
  status : s = .active ∨ s = .isolir ∨ s = .suspended
  flag : x.2 = y.2
  enabled : s ≠ .suspended → y.2 = false
  unnamed : N = "" → x.1 = y.1
  active : s = .active → N ≠ "" → x.1 = N
  isolir : s = .isolir → x.1 = I
  suspended : s = .suspended → y.2 = true

theorem Alike.next (h : Alike N I s x y) {c : Change} (hc : c.allowed s) :
    Alike N I c.status (c.behind N I s x) (c.pushed N I y) := by
  obtain ⟨hs, hflag, hopen, hunnamed, -, -, hsuspended⟩ := h
  cases c with
  | isolate =>
    have hactive : s = .active := by simpa [Change.allowed] using hc
    have hfalse : x.2 = false := hflag.trans (hopen (by simp [hactive]))
    refine ⟨.inr (.inl rfl), hfalse, fun _ ↦ rfl, fun _ ↦ rfl, ?_, fun _ ↦ rfl, ?_⟩ <;>
      simp [Change.status]
  | suspend =>
    refine ⟨.inr (.inr rfl), rfl, ?_, ?_, ?_, ?_, fun _ ↦ rfl⟩
    · simp [Change.status]
    · intro hN
      simp [Change.behind, Change.pushed, orDefault, hN, hunnamed hN]
    · simp [Change.status]
    · simp [Change.status]
  | restore =>
    refine ⟨.inl rfl, ?_, fun _ ↦ rfl, ?_, ?_, ?_, ?_⟩
    · by_cases hsusp : s = .suspended
      · simp [Change.behind, Change.pushed, hsusp]
      · simp [Change.behind, Change.pushed, hsusp, hflag, hopen hsusp]
    · intro hN
      simp [Change.behind, Change.pushed, orDefault, hN, hunnamed hN]
    · intro _ hN
      simp [Change.behind, orDefault, hN]
    · simp [Change.status]
    · simp [Change.status]

/-- The last change decides. -/
theorem Alike.last (h : Alike N I s x y) {c : Change} (hc : c.allowed s) :
    c.behind N I s x = c.pushed N I y ↔
      ¬(suspendsIsolated s [c] ∧ N ≠ "" ∧ N ≠ I) := by
  have hnext := h.next hc
  cases c with
  | isolate =>
    simp only [suspendsIsolated, reduceCtorEq, decide_false, Bool.and_false, Bool.false_eq_true,
      false_and, not_false_eq_true, iff_true]
    exact Prod.ext rfl hnext.flag
  | restore =>
    simp only [suspendsIsolated, reduceCtorEq, decide_false, Bool.and_false, Bool.false_eq_true,
      false_and, not_false_eq_true, iff_true]
    refine Prod.ext ?_ hnext.flag
    by_cases hN : N = ""
    · exact hnext.unnamed hN
    · simp [Change.behind, Change.pushed, orDefault, hN]
  | suspend =>
    have hprofile : Change.suspend.behind N I s x = Change.suspend.pushed N I y ↔
        x.1 = orDefault N y.1 := by
      simp [Change.behind, Change.pushed]
    rw [hprofile]
    by_cases hN : N = ""
    · simp [orDefault, hN, h.unnamed hN]
    · have hs : s = .active ∨ s = .isolir := by simpa [Change.allowed] using hc
      rcases hs with hs | hs
      · simp [suspendsIsolated, hs, orDefault, hN, h.active hs hN]
      · simp [suspendsIsolated, hs, orDefault, hN, h.isolir hs, eq_comm]

/-- Induction on the changes that are still to come. -/
theorem Alike.all (h : Alike N I s x y) {c : Change} {cs : List Change}
    (hcs : Allowed s (c :: cs)) :
    allBehind N I s (c :: cs) x = allPushed N I (c :: cs) y ↔
      ¬(suspendsIsolated s (c :: cs) ∧ N ≠ "" ∧ N ≠ I) := by
  induction cs generalizing s x y c with
  | nil => exact h.last hcs.1
  | cons c' cs ih => exact ih (h.next hcs.1) hcs.2

end Appearances

/-- What is known of a subscription between two changes. -/
structure Held (id : ℕ) (sub : Subscription) (a : Account) (w : World) : Prop where
  sane : w.Sane
  row : w.row id = some sub
  online : sub.deviceID ∈ w.connected
  account : w.account sub.login = some a

/-- The request a change leads to. -/
def Change.request (s : SubscriptionStatus) : Change → SyncStatus
  | .isolate => .pendingProfileChange
  | .suspend => .pendingDisable
  | .restore => if s = .suspended then .pendingEnable else .pendingProfileChange

section InBackground

variable {w : World} {id : ℕ} {sub : Subscription} {a : Account} {c : Change}

theorem Held.named (h : Held id sub a w) : sub.mikrotikUsername ≠ "" := by
  intro hname
  have hnone := account_of_no_name h.sane.routers hname
  rw [h.account] at hnone
  cases hnone

/-- What is in the database after the first half of a change. -/
theorem change_run (hrow : w.row id = some sub) (hc : c.allowed sub.status) {env : ℕ → Env}
    (henv : ∀ n, (env n).Quiet) :
    ∃ sub', ((c.prog id).run Call.exec env w).2.row id = some sub' ∧ sub'.plan = sub.plan ∧
      sub'.status = c.status ∧ sub'.syncStatus = c.request sub.status ∧
      ((c.prog id).run Call.exec env w).2.routers = w.routers ∧
      SameTerms w ((c.prog id).run Call.exec env w).2 := by
  have hrows {g : Subscription → Subscription} {u : World} (h : RowsBecome (only id g) w u) :
      u.row id = some (g sub) ∧ u.routers = w.routers ∧ SameTerms w u := by
    refine ⟨?_, h.routers, h.terms⟩
    rw [h.rows, hrow, Option.map_some, only, if_pos rfl]
  cases c with
  | isolate =>
    obtain ⟨hrow', hrest⟩ := hrows (run_of_quiet (isolir_rows [] id w) henv)
    have hactive : sub.status = .active := by simpa [Change.allowed] using hc
    simp only [List.not_mem_nil, if_false, demote, hactive, List.mem_singleton, if_true] at hrow'
    exact ⟨_, hrow', rfl, rfl, rfl, hrest⟩
  | suspend =>
    obtain ⟨hrow', hrest⟩ := hrows (run_of_quiet (hardSuspend_rows id w) henv)
    have hs : sub.status ∈ [.active, .isolir] := by simpa [Change.allowed] using hc
    simp only [demote, hs, if_true] at hrow'
    exact ⟨_, hrow', rfl, rfl, rfl, hrest⟩
  | restore =>
    have hrestore : (Change.restore.prog id).wp execCommands Env.Quiet
        (fun _ u ↦ ∃ now, RowsBecome (only id (restore now)) w u) w :=
      (wp_bind _ _ _).mpr (restoreSubscription_rows id w)
    obtain ⟨now, h⟩ := run_of_quiet hrestore henv
    obtain ⟨hrow', hrest⟩ := hrows h
    have hs : sub.status = .isolir ∨ sub.status = .suspended := by
      simpa [Change.allowed] using hc
    rcases hs with hs | hs <;> simp only [restore, hs] at hrow'
    · exact ⟨_, hrow', rfl, rfl, by simp [Change.request, Subscription.setSyncStatus, hs], hrest⟩
    · exact ⟨_, hrow', rfl, rfl, by simp [Change.request, Subscription.setSyncStatus, hs], hrest⟩

/-- The request of a change carries out `Change.behind`. -/
theorem delivered_behind {u : World} {sub' : Subscription} (h : Held id sub a w)
    (hc : c.allowed sub.status) (hplan : sub'.plan = sub.plan) (hstatus : sub'.status = c.status)
    (hrequest : sub'.syncStatus = c.request sub.status) (hrouters : u.routers = w.routers)
    (hterms : SameTerms w u) : ∃ a', u.delivered sub' = some a' ∧
      (a'.profile, a'.disabled) =
        c.behind (w.normalName sub) w.isolirName sub.status (a.profile, a.disabled) := by
  have hlogin := login_of_plan hplan
  have hdevice : sub'.deviceID ∈ u.connected := by
    rw [hterms.connected, deviceID_of_login hlogin]
    exact h.online
  have hname : sub'.mikrotikUsername ≠ "" := username_of_login hlogin ▸ h.named
  have haccount : u.account sub'.login = some a := by
    rw [hlogin, ← h.account]
    simp only [World.account, World.record, hrouters]
  have hnormal : u.normalName sub' = w.normalName sub := by
    rw [hterms.normalName, normalName_of_plan w hplan]
  simp only [World.delivered, hdevice, if_true, World.fulfil, hrequest, haccount]
  cases c with
  | isolate =>
    refine ⟨_, by simp only [Change.request, forRecord, hname, if_false]; rfl, ?_⟩
    have htarget : u.targetName sub' = w.isolirName := by
      simp [World.targetName, hstatus, Change.status, hterms.isolirName]
    simp [Account.withProfile, htarget, Change.behind, orDefault, isolirName_ne_empty]
  | suspend =>
    refine ⟨_, by simp only [Change.request, forRecord, hname, if_false]; rfl, ?_⟩
    simp [Change.behind]
  | restore =>
    have htarget : u.targetName sub' = w.normalName sub := by
      simp [World.targetName, hstatus, Change.status, hnormal]
    have hs : sub.status = .isolir ∨ sub.status = .suspended := by
      simpa [Change.allowed] using hc
    rcases hs with hs | hs
    · refine ⟨_, by simp [Change.request, hs, forRecord, hname]; rfl, ?_⟩
      simp [Account.withProfile, htarget, Change.behind, hs]
    · refine ⟨_, by simp [Change.request, hs, forRecord, hname]; rfl, ?_⟩
      simp [Account.withProfile, htarget, Change.behind, hs]

/-- One change through the database. -/
theorem held_background (h : Held id sub a w) {b : Background} (hb : b.Quiet)
    (hc : b.change.allowed sub.status) (hserved : Served id w b) :
    ∃ sub' a', Held id sub' a' (background id w b) ∧ sub'.plan = sub.plan ∧
      sub'.status = b.change.status ∧ SameTerms w (background id w b) ∧
      (a'.profile, a'.disabled) =
        b.change.behind (w.normalName sub) w.isolirName sub.status (a.profile, a.disabled) := by
  obtain ⟨sub₁, hrow₁, hplan, hstatus, hrequest, hrouters, hterms⟩ := change_run h.row hc hb.1
  have hsane₁ : ((b.change.prog id).run Call.exec b.env w).2.Sane := run_sane _ _ h.sane
  obtain ⟨a', ha', hbehind⟩ := delivered_behind h hc hplan hstatus hrequest hrouters hterms
  obtain ⟨-, -, rfl⟩ := row_iff.mp hrow₁
  have hprogress := outboxRuns_progress hb.2 hsane₁ hrow₁ b.runs
  obtain ⟨sub', hrow'⟩ := hprogress.row
  obtain ⟨hcore, haccount⟩ := hprogress.finished hrow' (hserved sub' hrow')
  obtain ⟨hsane', hterms'⟩ := outboxRuns_keeps hb.2 hsane₁ b.runs
  have hplan' : sub'.plan = sub₁.plan := by
    have hp := congrArg Subscription.plan hcore
    split_ifs at hp <;> exact hp
  have hstatus' : sub'.status = sub₁.status := by
    have hs := core_status hcore
    split_ifs at hs <;> exact hs
  have hlogin := login_of_plan (hplan'.trans hplan)
  have hall : SameTerms w (background sub₁.id w b) := hterms.trans hterms'
  refine ⟨sub', a', ⟨hsane', hrow', ?_, ?_⟩, hplan'.trans hplan, hstatus'.trans hstatus, hall,
    hbehind⟩
  · rw [hall.connected, deviceID_of_login hlogin]
    exact h.online
  · rw [login_of_plan hplan', ← ha']
    exact haccount

end InBackground

section Patched

variable {w : World} {id : ℕ} {sub : Subscription} {a : Account}

theorem resolveProfileForSub_wp {ok : Env → Prop} (sub : Subscription)
    (status : SubscriptionStatus) (w : World) : (resolveProfileForSub sub status).wp execCommands ok
      (fun r w' ↦ r = profileForStatus status (w.normalName sub) w.isolirName ∧ w' = w) w :=
  wp_normalProfile (wp_isolirProfile ⟨rfl, rfl⟩)

/-- `PatchStatus` when nothing fails and the device is online. -/
theorem patchStatus_wp (hw : w.Sane) (hrow : w.row id = some sub)
    (hdevice : sub.deviceID ∈ w.connected) (status : SubscriptionStatus) (actor : Option ℕ) :
    (patchStatus id status actor).wp execCommands Env.Quiet (fun _ w' ↦ ∃ sub',
      w'.row id = some sub' ∧ sub'.plan = sub.plan ∧ sub'.status = status ∧ SameTerms w w' ∧
      ∀ o, synchronized { sub with status }
        (profileForStatus status (w.normalName sub) w.isolirName).1
        (profileForStatus status (w.normalName sub) w.isolirName).2 (w.account sub.login) = some o →
          w'.account sub.login = o) w := by
  simp only [patchStatus, withSubscription, perform_bind]
  refine wp_getRow (fun hnone ↦ ?_) fun s hs ↦ ?_
  · rw [hrow] at hnone
    cases hnone
  obtain rfl := Option.some.inj (hrow.symm.trans hs)
  dsimp only
  refine wp_clock fun e _ ↦ wp_updateStatus hrow fun e' v _ hv ↦ ?_
  have hterms : SameTerms w v := by
    rw [hv.rest]
    exact ⟨rfl, rfl, rfl, rfl⟩
  refine (wp_bind _ _ _).mpr (wp_mono (resolveProfileForSub_wp _ _ v) ?_)
  intro r u hr
  obtain ⟨hr, rfl⟩ := hr
  have hr' : r = profileForStatus status (w.normalName sub) w.isolirName := by
    rw [hr, hterms.isolirName]
    exact congrArg (fun name ↦ profileForStatus status name w.isolirName) (hterms.normalName sub)
  obtain ⟨profile, disabled⟩ := r
  have hprofile := congrArg Prod.fst hr'
  have hdisabled := congrArg Prod.snd hr'
  refine (wp_bind _ _ _).mpr (wp_mono
    (trySyncStatus_warns (hv.routers ▸ hw.routers) (fun _ he ↦ quiet_honest he) ?_ _ _)
    fun text w' hwarns e'' _ ↦ ?_)
  · rw [hterms.connected]
    exact hdevice
  have haccount : u.account sub.login = w.account sub.login := by
    simp only [World.account, hv.record]
  replace hwarns : Warns Env.Quiet sub.login
    (synchronized { sub with status } profile disabled) u text w' := hwarns
  obtain ⟨hput, hgot⟩ : Puts sub.login (w'.record sub.login) u w' ∧
      ∀ o, synchronized { sub with status } profile disabled (w.account sub.login) = some o →
        w'.account sub.login = o := by
    cases hwarns with
    | done hf hput =>
      refine ⟨hput.here.symm ▸ hput, fun o ho ↦ ?_⟩
      have hf' : synchronized { sub with status } profile disabled (w.account sub.login) = _ :=
        haccount ▸ hf
      rw [ho] at hf'
      rw [World.account, hput.here]
      exact (Option.some.inj hf').symm
    | warned _ hput hr =>
      refine ⟨hput.here.symm ▸ hput, fun o ho ↦ ?_⟩
      have hnone : synchronized { sub with status } profile disabled (w.account sub.login) = none :=
        haccount ▸ hr.resolve_left quiet_not_faulty
      rw [ho] at hnone
      cases hnone
  have hrow' : w'.row id = u.row id := by
    rw [hput.rest]
    rfl
  refine ⟨_, hrow'.trans hv.here, rfl, rfl, ?_, ?_⟩
  · have hall := hterms.trans hput.sameTerms
    exact ⟨hall.pppProfiles, hall.hotspotProfiles, hall.settings, hall.connected⟩
  · rw [← hprofile, ← hdisabled]
    exact hgot

/-- The commands of `PatchStatus` carry out `Change.pushed`. -/
theorem synchronized_pushed (hname : sub.mikrotikUsername ≠ "") (N : String) {I : String}
    (hI : I ≠ "") (a : Account) (c : Change) :
    ∃ a', synchronized { sub with status := c.status } (profileForStatus c.status N I).1
        (profileForStatus c.status N I).2 (some a) = some (some a') ∧
      (a'.profile, a'.disabled) = c.pushed N I (a.profile, a.disabled) := by
  cases c <;> simp only [synchronized, Change.status, lookedUp, hname, if_false]
  · refine ⟨_, rfl, ?_⟩
    simp [Account.set, profileForStatus, Change.pushed, orDefault, hI]
  · exact ⟨_, rfl, rfl⟩
  · exact ⟨_, rfl, rfl⟩

/-- One change through the handler. -/
theorem held_patch (h : Held id sub a w) {p : Patch} (hp : ∀ n, (p.env n).Quiet) :
    ∃ sub' a', Held id sub' a' (patch id w p) ∧ sub'.plan = sub.plan ∧
      sub'.status = p.change.status ∧ SameTerms w (patch id w p) ∧
      (a'.profile, a'.disabled) =
        p.change.pushed (w.normalName sub) w.isolirName (a.profile, a.disabled) := by
  obtain ⟨sub', hrow', hplan, hstatus, hterms, haccount⟩ :=
    run_of_quiet (patchStatus_wp h.sane h.row h.online p.change.status p.actor) hp
  obtain ⟨a', hsync, hpushed⟩ :=
    synchronized_pushed h.named (w.normalName sub) (isolirName_ne_empty w) a p.change
  rw [h.account] at haccount
  have hterms' : SameTerms w (patch id w p) := hterms
  refine ⟨sub', a', ⟨run_sane _ _ h.sane, hrow', ?_, ?_⟩, hplan, hstatus, hterms', hpushed⟩
  · rw [hterms'.connected, deviceID_of_login (login_of_plan hplan)]
    exact h.online
  · rw [login_of_plan hplan]
    exact haccount _ hsync

end Patched

section Histories

variable {w : World} {id : ℕ} {sub : Subscription} {a : Account}

theorem held_backgrounds (h : Held id sub a w) {bs : List Background} (hbs : ∀ b ∈ bs, b.Quiet)
    (hallowed : Allowed sub.status (bs.map (·.change)))
    (hserved : Run.Guarded (background id) (Served id) w bs) :
    ∃ a', (bs.foldl (background id) w).account sub.login = some a' ∧
      (a'.profile, a'.disabled) = allBehind (w.normalName sub) w.isolirName sub.status
        (bs.map (·.change)) (a.profile, a.disabled) := by
  induction bs generalizing w sub a with
  | nil => exact ⟨a, h.account, rfl⟩
  | cons b bs ih =>
    obtain ⟨sub', a', h', hplan, hstatus, hterms, hstep⟩ :=
      held_background h (hbs b List.mem_cons_self) hallowed.1 hserved.1
    have hnormal : (background id w b).normalName sub' = w.normalName sub := by
      rw [hterms.normalName, normalName_of_plan w hplan]
    obtain ⟨a'', ha'', hrest⟩ := ih h' (fun b hb ↦ hbs b (List.mem_cons_of_mem _ hb))
      (hstatus.symm ▸ hallowed.2) hserved.2
    refine ⟨a'', login_of_plan hplan ▸ ha'', ?_⟩
    rw [hrest, hnormal, hterms.isolirName, hstatus, hstep]
    rfl

theorem held_patches (h : Held id sub a w) {ps : List Patch}
    (hps : ∀ p ∈ ps, ∀ n, (p.env n).Quiet) :
    ∃ a', (ps.foldl (patch id) w).account sub.login = some a' ∧
      (a'.profile, a'.disabled) = allPushed (w.normalName sub) w.isolirName
        (ps.map (·.change)) (a.profile, a.disabled) := by
  induction ps generalizing w sub a with
  | nil => exact ⟨a, h.account, rfl⟩
  | cons p ps ih =>
    obtain ⟨sub', a', h', hplan, -, hterms, hstep⟩ := held_patch h (hps p List.mem_cons_self)
    have hnormal : (patch id w p).normalName sub' = w.normalName sub := by
      rw [hterms.normalName, normalName_of_plan w hplan]
    obtain ⟨a'', ha'', hrest⟩ := ih h' fun p hp ↦ hps p (List.mem_cons_of_mem _ hp)
    refine ⟨a'', login_of_plan hplan ▸ ha'', ?_⟩
    rw [hrest, hnormal, hterms.isolirName, hstep]
    rfl

end Histories

/-- The jobs and `PatchStatus` leave the same profile and flag on the record of a
provisioned subscription, unless the last change suspends it while it is in isolation,
and its own profile has a name and is not the one for isolation. -/
theorem paths_agree_iff (w : World) (id : ℕ) (sub : Subscription) (hw : w.Sane)
    (hrow : w.row id = some sub) (hdevice : sub.deviceID ∈ w.connected) (hshape : InShape w sub)
    (bs : List Background) (ps : List Patch) (hsame : ps.map (·.change) = bs.map (·.change))
    (hallowed : Allowed sub.status (bs.map (·.change))) (hbs : ∀ b ∈ bs, b.Quiet)
    (hps : ∀ p ∈ ps, ∀ n, (p.env n).Quiet)
    (hserved : Run.Guarded (background id) (Served id) w bs) :
    appearance (bs.foldl (background id) w) sub.login =
        appearance (ps.foldl (patch id) w) sub.login ↔
      ¬(suspendsIsolated sub.status (bs.map (·.change)) ∧
        w.normalName sub ≠ "" ∧ w.normalName sub ≠ w.isolirName) := by
  obtain ⟨a, ha, hdemanded⟩ := (inShape_iff hw).mp hshape
  have hheld : Held id sub a w := ⟨hw, hrow, hdevice, ha⟩
  obtain ⟨a₁, ha₁, hbehind⟩ := held_backgrounds hheld hbs hallowed hserved
  obtain ⟨a₂, ha₂, hpushed⟩ := held_patches hheld hps
  rw [hsame] at hpushed
  have hiff : appearance (bs.foldl (background id) w) sub.login =
      appearance (ps.foldl (patch id) w) sub.login ↔
        (a₁.profile, a₁.disabled) = (a₂.profile, a₂.disabled) := by
    simp [appearance, ha₁, ha₂]
  rw [hiff, hbehind, hpushed]
  cases hcs : bs.map (·.change) with
  | nil => simp [allBehind, allPushed, suspendsIsolated]
  | cons c cs =>
    rw [hcs] at hallowed
    have hstatus : sub.status = .active ∨ sub.status = .isolir ∨ sub.status = .suspended := by
      have hc := hallowed.1
      cases c <;> simp [Change.allowed] at hc
      · exact .inl hc
      · exact hc.imp_right .inl
      · exact .inr hc
    refine Alike.all ⟨hstatus, rfl, ?_, fun _ ↦ rfl, ?_, ?_, ?_⟩ hallowed
    all_goals
      rw [hdemanded, demanded]
      rcases hstatus with hs | hs | hs <;> simp [profileForStatus, hs]

def Background.calm (c : Change) : Background := ⟨c, fun _ ↦ Env.calm 0, 1, fun _ _ ↦ Env.calm 0⟩

def Patch.calm (c : Change) : Patch := ⟨c, none, fun _ ↦ Env.calm 0⟩

/-- Isolated and restored. -/
theorem isolated_and_restored_alike :
    appearance ([.calm .isolate, .calm .restore].foldl (background 1)
        (requesting .synced provisionedRouter)) ⟨1, .pppoe, "budi"⟩ =
      appearance ([.calm .isolate, .calm .restore].foldl (patch 1)
        (requesting .synced provisionedRouter)) ⟨1, .pppoe, "budi"⟩ :=
  (paths_agree_iff _ 1 _
    (requesting_sane .synced (RouterCall.exec_wellFormed Router.blank_wellFormed _ _)) rfl
    (by decide) (by decide +kernel) [.calm .isolate, .calm .restore]
    [.calm .isolate, .calm .restore] rfl ⟨rfl, rfl, trivial⟩ (by
      intro b hb
      simp only [List.mem_cons, List.not_mem_nil, or_false] at hb
      rcases hb with rfl | rfl <;>
        exact ⟨fun _ ↦ Env.calm_quiet 0, fun _ _ ↦ Env.calm_quiet 0⟩) (by
      intro p hp
      simp only [List.mem_cons, List.not_mem_nil, or_false] at hp
      rcases hp with rfl | rfl <;> exact fun _ ↦ Env.calm_quiet 0) (by decide +kernel)).mpr
    (by decide)

/-- Isolated and suspended: the jobs leave the profile for isolation. -/
theorem isolated_and_suspended_differ :
    appearance ([.calm .isolate, .calm .suspend].foldl (background 1)
        (requesting .synced provisionedRouter)) ⟨1, .pppoe, "budi"⟩ ≠
      appearance ([.calm .isolate, .calm .suspend].foldl (patch 1)
        (requesting .synced provisionedRouter)) ⟨1, .pppoe, "budi"⟩ := by
  decide +kernel

end Rosmon.Sync
