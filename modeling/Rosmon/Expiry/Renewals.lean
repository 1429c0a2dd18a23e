import Rosmon.Expiry.Check
import Rosmon.Library.Pool
import Rosmon.Vouchers.Generate

namespace Rosmon.Expiry

open Go Library Store Workflows Program
open Vouchers (MikrotikDevice location parseExpiry VoucherSpec UserAddArgs generateVouchers)

def userSetExpiry (id expiry : String) : Workflows.Prog (Except Error Unit) :=
  if id = "" then return .error (.of .mikrotikInvalidArgument)
  else Program.perform (Command.set .user id [(.comment, expiry)])

def userResetUsage (id : String) : Workflows.Prog (Except Error Unit) :=
  if id = "" then return .error (.of .mikrotikInvalidArgument)
  else Program.perform (Command.set .user id [(.limitUptime, "0"), (.comment, "")])

/-- What `UserAdd` sends, of the fields that are read here. -/
def addPairs (a : UserAddArgs) : List (Field × String) :=
  (.name, a.name) :: [(.profile, a.profile), (.limitUptime, a.limitUptime),
    (.comment, a.comment)].filter fun p ↦ p.2 ≠ ""

/-- A request for vouchers at the router: only for `UserAdd` it sends a command. -/
def atRouter {α : Type} : Vouchers.Prog α → (ℕ → Vouchers.Surroundings) → Workflows.Prog α
  | .ret a, _ => return a
  | .call (.add args) k, around => do
    let id ← Program.perform (Command.add .user (addPairs args))
    atRouter (k id) fun n ↦ around (n + 1)
  | .call c k, around => atRouter (k (c.exec (around 0) []).1) fun n ↦ around (n + 1)

/-- What goes on at a router at the same time. -/
inductive Request
  | checkDevice (d : MikrotikDevice) (client : Except Error Unit) (now : ℤ)
      (getByName : String → Except Error String)
  | setExpiry (id value : String)
  | resetUsage (id : String)
  | delete (id : String)
  | generate (spec : VoucherSpec) (surroundings : ℕ → Vouchers.Surroundings)

section Requests

variable (quote : String → String) (zones : String → Option Zone) (loc : Zone)

def Request.prog : Request → Workflows.Prog Unit
  | .checkDevice d client now getByName =>
    (fun _ ↦ ()) <$> Expiry.checkDevice quote now getByName zones d client
  | .setExpiry id value => (fun _ ↦ ()) <$> userSetExpiry id value
  | .resetUsage id => (fun _ ↦ ()) <$> userResetUsage id
  | .delete id => (fun _ ↦ ()) <$> deleteUser quote id
  | .generate spec surroundings =>
    (fun _ ↦ ()) <$> atRouter (generateVouchers loc spec) surroundings

/-- The comment has a stamp that is not later than the time of the check. -/
def Request.Expired (comment : String) : Request → Prop
  | .checkDevice d _ now _ => ∃ expiry ∈ parseExpiry comment (location zones d), expiry ≤ now
  | _ => False

/-- The user whom a check removes or limits with a command. -/
def Request.target : Request → Command → Option String
  | .checkDevice .., .remove .user id | .checkDevice .., .set .user id _ => some id
  | _, _ => none

instance (comment : String) (request : Request) : Decidable (request.Expired zones comment) :=
  match request with
  | .checkDevice .. => inferInstanceAs (Decidable (∃ expiry ∈ parseExpiry comment _, expiry ≤ _))
  | .setExpiry .. | .resetUsage .. | .delete .. | .generate .. => inferInstanceAs (Decidable False)

end Requests

/-- The check is going to do something to the user. -/
def decides (loc : Zone) (now : ℤ) (getByName : String → Except Error String) (u : Sentence) :
    Bool :=
  removes loc now getByName u || limits loc now getByName u

/-- What is known of a request on its way: nothing, or of a check the ids of the users it is still
going to remove or to limit, as far as it goes by what it has `decided`. -/
inductive Mark
  | other
  | check (decided : Sentence → Bool) (pending : List String)

def Mark.pending : Mark → List String
  | .other => []
  | .check _ pending => pending

def Mark.decided : Mark → Option (Sentence → Bool)
  | .other => none
  | .check decided _ => some decided

def Request.mark (zones : String → Option Zone) : Request → Mark
  | .checkDevice d _ now getByName => .check (decides (location zones d) now getByName) []
  | _ => .other

/-- A check comes to a user when it looks it up or sets its limit, and is done with it when it
removes it or sets its limit. -/
def observer : Monitor Command Command.Reply Mark where
  allows m c := match m, c with
    | .other, _ => True
    | .check _ pending, .remove .user id => id ∈ pending
    | .check _ pending, .set .user id pairs => id ∈ pending ∧ pairs = [(.limitUptime, "1s")]
    | .check .., _ => True
  next m c reply := match m, c, reply with
    | .check decided _, .print .user none, .ok users =>
      .check decided ((users.filter decided).map Sentence.id)
    | .check decided pending, .print .user (some (.id, id)), _ =>
      .check decided (pending.dropWhile (· ≠ id))
    | .check decided pending, .remove .user id, _ | .check decided pending, .set .user id _, _ =>
      .check decided (pending.dropWhile (· ≠ id)).tail
    | m, _, _ => m

section Following

variable {α : Type} {quote : String → String} {decided : Sentence → Bool} {rest pending : List String}
  {id : String}

/-- The check still has all of these users before it. -/
def Ahead (decided : Sentence → Bool) (rest : List String) (m : Mark) : Prop :=
  ∃ pending, m = .check decided pending ∧ rest <:+ pending

theorem ahead_of_suffix (h : rest <:+ pending) : Ahead decided rest (.check decided pending) :=
  ⟨pending, rfl, h⟩

/-- A request that is no check may do anything. -/
theorem other_follows (p : Workflows.Prog α) : p.Follows observer (fun m _ ↦ m = .other) .other := by
  induction p with
  | ret a => rfl
  | call c k ih => exact ⟨trivial, fun r ↦ ih r⟩

theorem suffix_dropWhile (h : id :: rest <:+ pending) :
    id :: rest <:+ pending.dropWhile (· ≠ id) := by
  obtain ⟨pre, rfl⟩ := h
  induction pre with
  | nil => simp
  | cons a pre ih =>
    rw [List.cons_append, List.dropWhile_cons]
    split_ifs
    · exact ih
    · exact List.suffix_append (a :: pre) (id :: rest)

theorem suffix_tail (h : id :: rest <:+ pending) :
    rest <:+ (pending.dropWhile (· ≠ id)).tail := by
  obtain ⟨pre, hpre⟩ := suffix_dropWhile h
  rw [← hpre]
  cases pre with
  | nil => exact List.suffix_refl rest
  | cons a pre => exact (List.suffix_cons id rest).trans (List.suffix_append pre (id :: rest))

/-- Commands that do not concern users. -/
def offUsers : Command → Prop
  | .print m _ | .remove m _ | .set m _ _ | .add m _ => m ≠ .user

theorem offUsers_follows {p : Workflows.Prog α} (hp : p.Only offUsers) (m : Mark) :
    p.Follows observer (fun m' _ ↦ m' = m) m := by
  refine hp.follows (fun m' c hm hc ↦ ?_) rfl
  subst hm
  cases m' with
  | other => exact ⟨trivial, fun _ ↦ rfl⟩
  | check =>
    cases c with
    | print m query => cases m <;> first | exact absurd rfl hc | exact ⟨trivial, fun _ ↦ rfl⟩
    | remove m id => cases m <;> first | exact absurd rfl hc | exact ⟨trivial, fun _ ↦ rfl⟩
    | set m id pairs => cases m <;> first | exact absurd rfl hc | exact ⟨trivial, fun _ ↦ rfl⟩
    | add m pairs => cases m <;> first | exact absurd rfl hc | exact ⟨trivial, fun _ ↦ rfl⟩

theorem removeID_offUsers {m : Menu} (hm : m ≠ .user) : (removeID m id).Only offUsers := by
  unfold removeID
  split_ifs
  · trivial
  · exact ⟨hm, fun _ ↦ trivial⟩

theorem removeEach_offUsers {m : Menu} (hm : m ≠ .user) (pre : String) (l : List Sentence) :
    (removeEach quote m pre l).Only offUsers := by
  induction l with
  | nil => trivial
  | cons s l ih =>
    refine (removeID_offUsers hm).bind fun res ↦ ?_
    cases res with
    | ok => exact ih
    | error => trivial

theorem kick_offUsers (name : String) (l : List Sentence) : (kick name l).Only offUsers := by
  induction l with
  | nil => trivial
  | cons a l ih =>
    unfold kick
    split_ifs
    · exact (removeID_offUsers (by decide)).bind fun _ ↦ ih
    · exact ih

theorem cleanupByName_offUsers (name : String) : (cleanupByName quote name).Only offUsers := by
  unfold cleanupByName
  split_ifs with hname
  · trivial
  have hlookup (m : Menu) (hm : m ≠ .user) : (allBy m name .name).Only offUsers := by
    unfold allBy
    split_ifs
    exact ⟨hm, fun _ ↦ trivial⟩
  refine (hlookup .script (by decide)).bind fun scripts ↦ ?_
  cases scripts with
  | error => trivial
  | ok scripts =>
    refine (hlookup .scheduler (by decide)).bind fun schedulers ↦ ?_
    cases schedulers with
    | error => trivial
    | ok schedulers =>
      refine (removeEach_offUsers (by decide) _ _).bind fun res ↦ ?_
      cases res with
      | ok => exact removeEach_offUsers (by decide) _ _
      | error => trivial

theorem userRemove_follows (h : id :: rest <:+ pending) :
    (userRemove id).Follows observer (fun m _ ↦ Ahead decided rest m) (.check decided pending) := by
  unfold userRemove removeID
  split_ifs
  · exact ahead_of_suffix ((List.suffix_cons id rest).trans h)
  · exact ⟨h.subset List.mem_cons_self, fun _ ↦ ahead_of_suffix (suffix_tail h)⟩

theorem deleteUser_follows (h : id :: rest <:+ pending) : (deleteUser quote id).Follows observer
    (fun m _ ↦ Ahead decided rest m) (.check decided pending) := by
  have hrest {l : List String} (h : id :: rest <:+ l) : Ahead decided rest (.check decided l) :=
    ahead_of_suffix ((List.suffix_cons id rest).trans h)
  have hremove {l : List String} (h : id :: rest <:+ l) : (deleteUser.remove id).Follows observer
      (fun m _ ↦ Ahead decided rest m) (.check decided l) := by
    refine (userRemove_follows h).bind fun m res hm ↦ ?_
    cases res with
    | ok => exact hm
    | error err =>
      dsimp only
      split_ifs <;> exact hm
  have hfound := suffix_dropWhile h
  unfold deleteUser userByID byID
  split_ifs with hid
  · exact hrest h
  refine ⟨trivial, fun reply ↦ ?_⟩
  rcases reply with err | _ | ⟨user, _⟩
  · change Follows observer _ _ (if _ then _ else _)
    split_ifs
    · exact hremove hfound
    · exact hrest hfound
  · exact hremove hfound
  · refine (offUsers_follows (cleanupByName_offUsers user.name) _).bind fun m res hm ↦ ?_
    subst hm
    cases res with
    | ok => exact hremove hfound
    | error => exact hrest hfound

theorem executeExpiry_follows {u : Sentence} {mode : String} (h : u.id :: rest <:+ pending) :
    (executeExpiry quote u mode).Follows observer (fun m _ ↦ Ahead decided rest m)
      (.check decided pending) := by
  have hrest : Ahead decided rest (.check decided pending) :=
    ahead_of_suffix ((List.suffix_cons u.id rest).trans h)
  unfold executeExpiry
  split_ifs with hzero hrem hntf
  · exact hrest
  · exact deleteUser_follows h
  · by_cases hid : u.id = ""
    · rw [userSet, if_pos hid]
      exact hrest
    rw [userSet, if_neg hid]
    refine ⟨⟨h.subset List.mem_cons_self, if_neg (by decide)⟩, fun reply ↦ ?_⟩
    have hnext : Ahead decided rest (.check decided (pending.dropWhile (· ≠ u.id)).tail) :=
      ahead_of_suffix (suffix_tail h)
    cases reply with
    | error => exact hnext
    | ok =>
      have hactives : activeList.Only offUsers := by
        refine ⟨?_, fun _ ↦ trivial⟩
        intro h
        cases h
      refine (offUsers_follows hactives _).bind fun m actives hm ↦ ?_
      subst hm
      cases actives with
      | error => exact hnext
      | ok actives =>
        refine (offUsers_follows (kick_offUsers u.name actives) _).bind fun m _ hm ↦ ?_
        subst hm
        exact hnext
  · exact hrest

variable {loc : Zone} {now : ℤ} {getByName : String → Except Error String}

/-- The loop goes through the users that are decided on, one after the other. -/
theorem checkUsers_follows {users : List Sentence}
    (h : (users.filter (decides loc now getByName)).map Sentence.id <:+ pending) :
    (checkUsers quote loc now getByName users).Follows observer (fun _ _ ↦ True)
      (.check decided pending) := by
  induction users generalizing pending with
  | nil => trivial
  | cons u users ih =>
    rw [checkUsers_cons]
    cases hverdict : verdict loc now getByName u with
    | none =>
      have hdecides : ¬decides loc now getByName u = true := by
        simp [decides, removes, limits, hverdict]
      rw [List.filter_cons_of_neg hdecides] at h
      exact ih h
    | some mode =>
      dsimp only
      by_cases hmode : mode ∈ ["rem", "remc", "ntf", "ntfc"]
      · have hdecides : decides loc now getByName u = true := by
          simpa [decides, removes, limits, hverdict, or_assoc] using hmode
        rw [List.filter_cons_of_pos hdecides, List.map_cons] at h
        refine (executeExpiry_follows h).bind fun m res hm ↦ ?_
        obtain ⟨pending, rfl, hsuffix⟩ := hm
        cases res with
        | ok => exact ih hsuffix
        | error err => exact (ih hsuffix).bind fun _ _ _ ↦ trivial
      · have hdecides : ¬decides loc now getByName u = true := by
          simpa [decides, removes, limits, hverdict, and_assoc] using hmode
        rw [List.filter_cons_of_neg hdecides] at h
        have hnothing : executeExpiry quote u mode = .ret (.ok ()) := by
          simp only [List.mem_cons, List.not_mem_nil, or_false, not_or] at hmode
          simp [executeExpiry, hmode]
        rw [hnothing]
        exact ih h

theorem checkDevice_follows (zones : String → Option Zone) (d : MikrotikDevice)
    (client : Except Error Unit) :
    (checkDevice quote now getByName zones d client).Follows observer (fun _ _ ↦ True)
      (Request.mark zones (.checkDevice d client now getByName)) := by
  cases client with
  | error => trivial
  | ok =>
    refine ⟨trivial, fun reply ↦ ?_⟩
    cases reply with
    | error => trivial
    | ok users => exact (checkUsers_follows (List.suffix_refl _)).bind fun _ _ _ ↦ trivial

theorem Request.follows (zones : String → Option Zone) (request : Request) :
    (request.prog quote zones loc).Follows observer (fun _ _ ↦ True) (request.mark zones) := by
  cases request with
  | checkDevice d client now getByName =>
    exact (follows_map _ _ _).mpr (checkDevice_follows zones d client)
  | _ => exact (other_follows _).mono fun _ _ _ ↦ trivial

end Following

section Steps

variable {c : Command} {e : Workflows.Env} {r : Router} {s : Sentence}

/-- What a command can do. -/
theorem exec_cases (c : Command) (e : Workflows.Env) (r : Router) : (c.exec e r).2 = r ∨
    (∃ m id, c = .remove m id ∧ (c.exec e r).2 = r.drop m (·.id = id)) ∨
    (∃ m id pairs, c = .set m id pairs ∧ (c.exec e r).2 = r.set m id pairs) ∨
    ∃ m pairs s h, c = .add m pairs ∧ (c.exec e r).2 = r.add m s h := by
  cases c with
  | print m query =>
    left
    simp only [Command.exec]
    split <;> rfl
  | remove m id =>
    simp only [Command.exec]
    split
    · exact .inl rfl
    · split_ifs
      · exact .inr (.inl ⟨m, id, rfl, rfl⟩)
      · exact .inl rfl
  | set m id pairs =>
    simp only [Command.exec]
    split
    · exact .inl rfl
    · split_ifs
      · exact .inr (.inr (.inl ⟨m, id, pairs, rfl, rfl⟩))
      · exact .inl rfl
  | add m pairs =>
    simp only [Command.exec]
    split
    · exact .inl rfl
    · split_ifs with h
      · exact .inr (.inr (.inr ⟨m, pairs, _, h, rfl, rfl⟩))
      · exact .inl rfl

theorem given_exec (m : Menu) : r.given m ⊆ (c.exec e r).2.given m := by
  obtain h | ⟨n, id, -, h⟩ | ⟨n, id, pairs, -, h⟩ | ⟨n, pairs, s, hs, -, h⟩ := exec_cases c e r
  · rw [h]
    exact fun _ hid ↦ hid
  · rw [h]
    exact fun _ hid ↦ hid
  · rw [h]
    exact fun _ hid ↦ hid
  · rw [h]
    intro id hid
    simp only [Router.add]
    by_cases hm : m = n
    · subst hm
      rw [Function.update_self]
      exact List.mem_cons_of_mem _ hid
    · rwa [Function.update_of_ne hm]

/-- A record after a command is new, or it was there before, and only a command to set it has
changed it. -/
theorem record_exec {m : Menu} (hs : s ∈ (c.exec e r).2.sentences m) : s.id ∉ r.given m ∨
    ∃ s₀ ∈ r.sentences m, s₀.id = s.id ∧
      (s = s₀ ∨ ∃ pairs, c = .set m s.id pairs ∧ s = s₀.setAll pairs) := by
  obtain h | ⟨n, id, -, h⟩ | ⟨n, id, pairs, hc, h⟩ | ⟨n, pairs, t, ht, -, h⟩ := exec_cases c e r
  · rw [h] at hs
    exact .inr ⟨s, hs, rfl, .inl rfl⟩
  · rw [h, Router.mem_drop] at hs
    exact .inr ⟨s, hs.1, rfl, .inl rfl⟩
  · rw [h] at hs
    by_cases hm : m = n
    · subst hm
      rw [Router.set_self] at hs
      obtain ⟨s₀, hs₀, rfl⟩ := List.mem_map.mp hs
      right
      refine ⟨s₀, hs₀, ?_⟩
      split_ifs with hid
      · refine ⟨(Sentence.id_setAll s₀ pairs).symm, .inr ⟨pairs, ?_, rfl⟩⟩
        rw [Sentence.id_setAll, hid, hc]
      · exact ⟨rfl, .inl rfl⟩
    · rw [Router.set_of_ne _ _ _ hm] at hs
      exact .inr ⟨s, hs, rfl, .inl rfl⟩
  · rw [h] at hs
    by_cases hm : m = n
    · subst hm
      simp only [Router.add, Function.update_self] at hs
      obtain hs | hs := List.mem_append.mp hs
      · exact .inr ⟨s, hs, rfl, .inl rfl⟩
      · rw [List.mem_singleton.mp hs]
        exact .inl ht.2
    · simp only [Router.add, Function.update_of_ne hm] at hs
      exact .inr ⟨s, hs, rfl, .inl rfl⟩

/-- Only when it lists the users does a check get to know of others. -/
theorem next_pending {m : Mark} {reply : c.Reply} (hc : c ≠ .print .user none) :
    (observer.next m c reply).pending ⊆ m.pending := by
  simp only [observer]
  split
  · exact absurd rfl hc
  · exact List.dropWhile_subset _
  · exact fun _ h ↦ List.dropWhile_subset _ (List.mem_of_mem_tail h)
  · exact fun _ h ↦ List.dropWhile_subset _ (List.mem_of_mem_tail h)
  · exact fun _ h ↦ h

theorem next_decided (m : Mark) (c : Command) (reply : c.Reply) :
    (observer.next m c reply).decided = m.decided := by
  simp only [observer]
  split <;> rfl

end Steps

section Interleaved

variable {ι : Type} [DecidableEq ι] (quote : String → String) (zones : String → Option Zone)
  (loc : Zone) (r : Router) (requests : ι → Request)

/-- Any number of requests at one router, before their first command. -/
def requestsAt : Pool ι Command Command.Reply Unit Router Mark where
  state := r
  threads i := (requests i).prog quote zones loc
  marks i := (requests i).mark zones

/-- No check removes or limits a user whose comment has no expired stamp. -/
def Fair (r : Router) (_ : ι → Mark) (i : ι) (c : Command) : Prop :=
  ∀ id ∈ (requests i).target c, ∀ s ∈ r.sentences .user, s.id = id →
    (requests i).Expired zones s.comment

instance (r : Router) (marks : ι → Mark) (i : ι) (c : Command) :
    Decidable (Fair zones requests r marks i c) :=
  inferInstanceAs (Decidable (∀ id ∈ _, ∀ s ∈ _, _ → _))

/-- No request but a check gives a comment without an expired stamp to a user that some check has
decided on and is not done with. -/
def Patient (r : Router) (marks : ι → Mark) (i : ι) : Command → Prop
  | .set .user id pairs => marks i = .other → ∀ j, id ∈ (marks j).pending →
    ∀ s ∈ r.sentences .user, s.id = id → (requests j).Expired zones (s.setAll pairs).comment
  | _ => True

/-- The users that the checks are still going to remove or to limit have expired stamps. -/
def Aimed (r : Router) (marks : ι → Mark) : Prop :=
  ∀ j, (marks j).decided = ((requests j).mark zones).decided ∧ ∀ id ∈ (marks j).pending,
    id ∈ r.given .user ∧ ∀ s ∈ r.sentences .user, s.id = id → (requests j).Expired zones s.comment

variable {quote zones loc r requests}

omit [DecidableEq ι] in
/-- A check decides on users with expired stamps. -/
theorem expired_of_decided {i : ι} {decided : Sentence → Bool} {s : Sentence}
    (h : ((requests i).mark zones).decided = some decided) (hs : decided s = true) :
    (requests i).Expired zones s.comment := by
  cases hrequest : requests i with
  | checkDevice d client now getByName =>
    rw [hrequest] at h
    have hdecides : decides (location zones d) now getByName = decided := Option.some.inj h
    rw [← hdecides] at hs
    cases hverdict : verdict (location zones d) now getByName s with
    | none => simp [decides, removes, limits, hverdict] at hs
    | some mode => exact (verdict_eq_some_iff.mp hverdict).1
  | _ =>
    rw [hrequest] at h
    cases h

variable {marks : ι → Mark} {i : ι} {c : Command}

omit [DecidableEq ι] in
/-- What the checks had decided on before a command is still right after it. -/
theorem Aimed.kept (h : Aimed zones requests r marks) (ha : observer.allows (marks i) c)
    (hg : Patient zones requests r marks i c) (e : Workflows.Env) (j : ι) :
    ∀ id ∈ (marks j).pending, id ∈ (c.exec e r).2.given .user ∧
      ∀ s ∈ (c.exec e r).2.sentences .user, s.id = id → (requests j).Expired zones s.comment := by
  intro id hid
  obtain ⟨hgiven, hexpired⟩ := (h j).2 id hid
  refine ⟨given_exec _ hgiven, fun s hs hsid ↦ ?_⟩
  obtain hfresh | ⟨s₀, hs₀, hid₀, rfl | ⟨pairs, hc, rfl⟩⟩ := record_exec hs
  · exact absurd (hsid ▸ hgiven) hfresh
  · exact hexpired s hs₀ hsid
  · rw [Sentence.id_setAll] at hc hsid
    subst hc hsid
    cases hmark : marks i with
    | other => exact hg hmark j hid s₀ hs₀ rfl
    | check decided pending =>
      rw [hmark] at ha
      obtain ⟨-, rfl⟩ := ha
      exact hexpired s₀ hs₀ rfl

theorem Aimed.step (h : Aimed zones requests r marks) (ha : observer.allows (marks i) c)
    (hg : Patient zones requests r marks i c) (e : Workflows.Env) :
    Aimed zones requests (c.exec e r).2
      (Function.update marks i (observer.next (marks i) c (c.exec e r).1)) := by
  intro j
  by_cases hj : j = i
  swap
  · rw [Function.update_of_ne hj]
    exact ⟨(h j).1, h.kept ha hg e j⟩
  subst hj
  rw [Function.update_self]
  refine ⟨(next_decided ..).trans (h j).1, fun id hid ↦ ?_⟩
  by_cases hc : c = .print .user none
  swap
  · exact h.kept ha hg e j id (next_pending hc hid)
  subst hc
  cases hmark : marks j with
  | other =>
    rw [hmark] at hid
    cases hid
  | check decided pending =>
    cases hfault : e.fault with
    | some err =>
      refine h.kept ha hg e j id ?_
      rw [hmark] at hid ⊢
      simp only [Command.exec, hfault] at hid
      exact hid
    | none =>
      rw [hmark] at hid
      simp only [Command.exec, hfault] at hid ⊢
      obtain ⟨s, hs, rfl⟩ := List.mem_map.mp hid
      obtain ⟨hs, hdecided⟩ := List.mem_filter.mp hs
      have hmem : s ∈ r.sentences .user := List.mem_of_mem_filter hs
      refine ⟨r.known .user s hmem, fun t ht htid ↦ ?_⟩
      rw [r.eq_of_id .user ht hmem htid]
      exact expired_of_decided ((h j).1.symm.trans (by rw [hmark]; rfl)) hdecided

omit [DecidableEq ι] in
theorem Aimed.fair (h : Aimed zones requests r marks) (ha : observer.allows (marks i) c) :
    Fair zones requests r marks i c := by
  intro id hid
  have hmark := (h i).1
  cases hrequest : requests i with
  | checkDevice d client now getByName =>
    rw [hrequest] at hmark hid
    refine hrequest ▸ ((h i).2 id ?_).2
    generalize marks i = m at ha hmark ⊢
    cases m with
    | other => cases hmark
    | check decided pending =>
      unfold Request.target at hid
      split at hid
      · obtain rfl := Option.mem_some_iff.mp hid
        exact ha
      · obtain rfl := Option.mem_some_iff.mp hid
        exact ha.1
      · cases hid
  | _ =>
    rw [hrequest] at hid
    cases hid

omit [DecidableEq ι] in
theorem requestsAt_sound : (requestsAt quote zones loc r requests).Sound observer
    (fun _ _ _ ↦ True) (Aimed zones requests) := by
  refine ⟨fun j ↦ ⟨rfl, fun id hid ↦ ?_⟩, fun i ↦ (requests i).follows zones⟩
  have hnone : ((requests j).mark zones).pending = [] := by
    cases requests j <;> rfl
  exact absurd (hnone ▸ hid) List.not_mem_nil

/-- In every run in which nobody makes good a user that a check has decided on, no check is
overtaken. -/
theorem never_overtaken (schedule : List (ι × Workflows.Env))
    (h : (requestsAt quote zones loc r requests).Guarded Command.exec observer
      (Patient zones requests) schedule) :
    (requestsAt quote zones loc r requests).Guarded Command.exec observer (Fair zones requests)
      schedule :=
  Pool.Sound.guarded (fun _ ↦ True) (fun _ _ _ _ e hJ ha hg _ ↦ hJ.step ha hg e)
    (fun _ _ _ _ hJ ha ↦ hJ.fair ha) requestsAt_sound h fun _ _ ↦ trivial

/-- A check that removes, and a reset of the usage of the only user. -/
def renewing : Bool → Request
  | true => .checkDevice ⟨1, ""⟩ (.ok ()) (1700000000 * 1000000000) fun _ ↦ .ok "rem"
  | false => .resetUsage "*1"

def served : Workflows.Env := ⟨none, ""⟩

/-- The check comes first; the reset finds no user any more. -/
theorem never_overtaken_before : (requestsAt String.quote (fun _ ↦ none) .utc oneSubscriber
    renewing).Guarded Command.exec observer (Fair (fun _ ↦ none) renewing)
      [(true, served), (true, served), (true, served), (true, served), (true, served),
        (false, served)] := by
  refine never_overtaken _ ⟨trivial, trivial, trivial, trivial, trivial, ?_, trivial⟩
  -- No user is left.
  intro _ _ _ s hs
  exact absurd (List.ne_nil_of_mem hs) (by decide)

/-- The usage is reset after the check has listed the users. -/
theorem overtaken : ¬(requestsAt String.quote (fun _ ↦ none) .utc oneSubscriber
    renewing).Guarded Command.exec observer (Fair (fun _ ↦ none) renewing)
      [(true, served), (false, served), (true, served), (true, served), (true, served),
        (true, served)] := by
  decide

end Interleaved

end Rosmon.Expiry
