import Rosmon.Workflows.Router

namespace Rosmon.Workflows

open Library Store Program

/-- One step after the other, up to the first error. -/
def andThen (p q : Prog (Except Error Unit)) : Prog (Except Error Unit) := do
  match ← p with
  | .error err => return .error err
  | .ok () => q

section Definitions

-- What `%q` makes of a text.
variable (quote : String → String)

/-- The loop that removes the records found, up to the first that cannot be removed. -/
def removeEach (m : Menu) (pre : String) : List Sentence → Prog (Except Error Unit)
  | [] => return .ok ()
  | s :: rest => do
    match ← removeID m s.id with
    | .error err => return .error (err.wrap (pre ++ quote s.id ++ ": "))
    | .ok () => removeEach m pre rest

def cleanupByName (name : String) : Prog (Except Error Unit) :=
  if name = "" then return .ok ()
  else do
    match ← scriptByName name with
    | .error err => return .error (err.wrap "script lookup: ")
    | .ok scripts => do
      match ← schedulerByName name with
      | .error err => return .error (err.wrap "scheduler lookup: ")
      | .ok schedulers =>
        andThen (removeEach quote .script "script remove " scripts)
          (removeEach quote .scheduler "scheduler remove " schedulers)

def deleteUser (userID : String) : Prog (Except Error Unit) :=
  if userID = "" then return .error (.of .mikrotikInvalidArgument)
  else do
    match ← userByID userID with
    | .ok user => andThen (cleanupByName quote user.name) remove
    | .error err =>
      if err.is .mikrotikNotFound then remove
      else return .error (err.wrap "workflows.DeleteUser: lookup: ")
where
  remove : Prog (Except Error Unit) := do
    match ← userRemove userID with
    | .ok () => return .ok ()
    | .error err =>
      if err.is .mikrotikNotFound then return .ok ()
      else return .error (err.wrap "workflows.DeleteUser: remove user: ")

def deleteProfile (profileID profileName : String) : Prog (Except Error Unit) :=
  if profileID = "" then return .error (.of .mikrotikInvalidArgument)
  else if profileName = "" then remove []
  else do
    match ← schedulerByName profileName with
    | .error err => return .error (err.wrap "workflows.DeleteProfile: scheduler lookup: ")
    | .ok schedulers => remove schedulers
where
  remove (schedulers : List Sentence) : Prog (Except Error Unit) := do
    match ← profileRemove profileID with
    | .ok () => rest schedulers
    | .error err =>
      if err.is .mikrotikNotFound then rest schedulers
      else return .error (err.wrap "workflows.DeleteProfile: remove profile: ")
  rest (schedulers : List Sentence) : Prog (Except Error Unit) :=
    removeEach quote .scheduler "workflows.DeleteProfile: remove scheduler " schedulers

/-- The records of a menu that a lookup finds. -/
def cleanup (lookup : Prog (Except Error (List Sentence))) (m : Menu) (what : String) :
    Prog (Except Error Unit) := do
  match ← lookup with
  | .error err => return .error (err.wrap (what ++ " lookup: "))
  | .ok found => removeEach quote m (what ++ " remove ") found

def cascadeCleanupByMAC (mac : String) : Prog (Except Error Unit) :=
  if mac = "" then return .ok ()
  else
    andThen queues
      (andThen (cleanup quote (schedulerByName mac) .scheduler "scheduler")
        (andThen (cleanup quote (arpByMAC mac) .arp "arp")
          (cleanup quote (dhcpLeaseByMAC mac) .lease "dhcp")))
where
  -- A lookup that finds nothing is no error here.
  queues : Prog (Except Error Unit) := do
    match ← queueSimpleByName mac with
    | .error err =>
      if err.is .mikrotikNotFound then removeEach quote .queue "queue remove " []
      else return .error (err.wrap "queue lookup: ")
    | .ok queues => removeEach quote .queue "queue remove " queues

def deleteBinding (bindingID : String) : Prog (Except Error Unit) :=
  if bindingID = "" then return .error (.of .mikrotikInvalidArgument)
  else do
    match ← bindingByID bindingID with
    | .error err => return .error (err.wrap "workflows.DeleteBinding: lookup: ")
    | .ok b =>
      match ← bindingRemove bindingID with
      | .error err => return .error (err.wrap "workflows.DeleteBinding: remove binding: ")
      | .ok () => cascadeCleanupByMAC quote b.macAddress

end Definitions

/-- The record has the name, or the address, if that is one. -/
def Sentence.ownedBy (s : Sentence) (field : Field) (key : String) : Bool :=
  key ≠ "" && s.get field = key

/-- How a cascade ends: as `t` without an error, or with one, when it has done some of what `P`
allows; an error needs a cause. -/
def Ends (ok : Env → Prop) (P : Menu → Sentence → Prop) (r t : Router) :
    Except Error Unit → Router → Prop
  | .ok (), u => u = t
  | .error _, u => Faulty ok ∧ Lost P r u

section Rules

variable {quote : String → String} {ok : Env → Prop} {P P' : Menu → Sentence → Prop}
  {r s t : Router} {m : Menu} {p q : Prog (Except Error Unit)}

theorem Ends.mono {res : Except Error Unit} {u : Router} (h : Ends ok P s t res u)
    (hs : Lost P' r s) (hP : ∀ m, ∀ x ∈ s.sentences m, P m x → P' m x) : Ends ok P' r t res u := by
  cases res with
  | ok => exact h
  | error => exact ⟨h.1, hs.trans (h.2.mono hP)⟩

theorem wp_andThen {v : Router} (hp : p.wp Command.exec ok (Ends ok P r s) v)
    (hq : q.wp Command.exec ok (Ends ok P r t) s) :
    (andThen p q).wp Command.exec ok (Ends ok P r t) v := by
  rw [andThen, wp_bind]
  refine wp_mono hp fun res u hu ↦ ?_
  cases res with
  | ok =>
    obtain rfl : u = s := hu
    exact hq
  | error => exact hu

/-- All of the records are removed, or some of them. -/
theorem wp_removeEach {pre : String} {l : List Sentence} (hl : ∀ x ∈ l, x ∈ r.sentences m)
    (hnodup : (l.map Sentence.id).Nodup) :
    (removeEach quote m pre l).wp Command.exec ok
      (Ends ok (fun n x ↦ n = m ∧ x ∈ l) r (r.drop m (·.id ∈ l.map Sentence.id))) r := by
  induction l generalizing r with
  | nil => exact (Router.drop_none fun x _ ↦ decide_eq_false List.not_mem_nil).symm
  | cons s rest ih =>
    have hs := hl s List.mem_cons_self
    obtain ⟨hnot, hrest⟩ := List.nodup_cons.mp hnodup
    have hlost : Lost (fun n x ↦ n = m ∧ x ∈ s :: rest) r (r.drop m (·.id = s.id)) := by
      refine Lost.drop r fun x hx hid ↦ ⟨rfl, ?_⟩
      rw [r.eq_of_id m hx hs (of_decide_eq_true hid)]
      exact List.mem_cons_self
    refine wp_removeID (r.id_ne_empty m hs) (fun err herr ↦ ⟨herr, Lost.refl _ r⟩) (fun _ ↦ ?_)
      fun hnone ↦ absurd rfl (hnone s hs)
    refine wp_mono (ih (fun x hx ↦ ?_) hrest) fun res u hu ↦ ?_
    · rw [Router.drop_self, List.mem_filter]
      refine ⟨hl x (List.mem_cons_of_mem s hx), ?_⟩
      have hne : x.id ≠ s.id := fun heq ↦ hnot (heq ▸ List.mem_map_of_mem hx)
      simpa using hne
    · have hdrop : (r.drop m (·.id = s.id)).drop m (·.id ∈ rest.map Sentence.id) =
          r.drop m (·.id ∈ (s :: rest).map Sentence.id) := by
        rw [Router.drop_drop]
        refine Router.drop_congr fun x _ ↦ ?_
        simp [List.mem_cons, Bool.decide_or]
      rw [← hdrop]
      exact hu.mono hlost fun n x _ hx ↦ ⟨hx.1, List.mem_cons_of_mem s hx.2⟩

/-- The same for the records that a lookup has found. -/
theorem wp_removeFound {pre : String} (p : Sentence → Bool) :
    (removeEach quote m pre ((r.sentences m).filter p)).wp Command.exec ok
      (Ends ok (fun n x ↦ n = m ∧ p x = true) r (r.drop m p)) r := by
  have hnodup : (((r.sentences m).filter p).map Sentence.id).Nodup :=
    (r.unique m).sublist (List.filter_sublist.map _)
  refine wp_mono (wp_removeEach (fun x hx ↦ List.mem_of_mem_filter hx) hnodup) fun res u hu ↦ ?_
  have hdrop : r.drop m (·.id ∈ ((r.sentences m).filter p).map Sentence.id) = r.drop m p := by
    refine Router.drop_congr fun x hx ↦ ?_
    by_cases hp : p x = true
    · rw [hp]
      exact decide_eq_true (List.mem_map_of_mem (List.mem_filter.mpr ⟨hx, hp⟩))
    · rw [Bool.not_eq_true] at hp
      rw [hp]
      refine decide_eq_false fun hmem ↦ ?_
      obtain ⟨y, hy, hid⟩ := List.mem_map.mp hmem
      obtain ⟨hy, hpy⟩ := List.mem_filter.mp hy
      rw [r.eq_of_id m hy hx hid, hp] at hpy
      cases hpy
  rw [← hdrop]
  exact hu.mono (Lost.refl _ r) fun n x _ hx ↦ ⟨hx.1, (List.mem_filter.mp hx.2).2⟩

theorem wp_cleanup {field : Field} {key what : String} (hkey : key ≠ "") :
    (cleanup quote (allBy m key field) m what).wp Command.exec ok
      (Ends ok (fun n x ↦ n = m ∧ x.ownedBy field key = true) r (r.drop m (·.ownedBy field key)))
      r := by
  have howned : ∀ x : Sentence, x.ownedBy field key = decide (x.get field = key) := by
    intro x
    simp [Sentence.ownedBy, hkey]
  simp only [howned]
  exact wp_allBy hkey (fun err herr ↦ ⟨herr, Lost.refl _ r⟩) (wp_removeFound _)

end Rules

section Users

variable {quote : String → String} {ok : Env → Prop} {r : Router} {u : Sentence} {id : String}

/-- The router without a user, and without the scripts and the schedulers of the user's name. -/
def Router.withoutUser (r : Router) (u : Sentence) : Router :=
  ((r.drop .script (·.ownedBy .name u.name)).drop .scheduler (·.ownedBy .name u.name)).drop .user
    (·.id = u.id)

def Sentence.OwnedByUser (u : Sentence) (m : Menu) (s : Sentence) : Prop :=
  (m = .script ∨ m = .scheduler) ∧ s.ownedBy .name u.name = true

theorem wp_cleanupByName :
    (cleanupByName quote u.name).wp Command.exec ok (Ends ok u.OwnedByUser r
      ((r.drop .script (·.ownedBy .name u.name)).drop .scheduler (·.ownedBy .name u.name))) r := by
  unfold cleanupByName
  split_ifs with hname
  · have hnone : ∀ x : Sentence, x.ownedBy .name u.name = false := by
      intro x
      simp [Sentence.ownedBy, hname]
    rw [Router.drop_none fun x _ ↦ hnone x, Router.drop_none fun x _ ↦ hnone x]
    rfl
  have howned : ∀ x : Sentence, x.ownedBy .name u.name = decide (x.get .name = u.name) := by
    intro x
    simp [Sentence.ownedBy, hname]
  refine wp_allBy hname (fun err herr ↦ ⟨herr, Lost.refl _ r⟩) ?_
  refine wp_allBy hname (fun err herr ↦ ⟨herr, Lost.refl _ r⟩) ?_
  have hscripts : Lost u.OwnedByUser r (r.drop .script (·.get .name = u.name)) :=
    Lost.drop r fun x _ hx ↦ ⟨.inl rfl, (howned x).trans hx⟩
  simp only [howned]
  refine wp_andThen (wp_mono (wp_removeFound _) fun res t ht ↦ ht.mono (Lost.refl _ r) ?_) ?_
  · rintro m x - ⟨rfl, hx⟩
    exact ⟨.inl rfl, (howned x).trans hx⟩
  · rw [← Router.drop_of_ne (m := .script) (n := .scheduler) r (·.get .name = u.name) (by decide)]
    refine wp_mono (wp_removeFound _) fun res t ht ↦ ht.mono hscripts ?_
    rintro m x - ⟨rfl, hx⟩
    exact ⟨.inr rfl, (howned x).trans hx⟩

theorem is_of_fault (err : Fault) : err.1.is .mikrotikNotFound = false := err.2

theorem is_noSuchItem : Mikrotik.noSuchItem.is .mikrotikNotFound = false := by decide

/-- `DeleteUser` for a user that is there: the user is the last to go. -/
theorem wp_deleteUser (hu : u ∈ r.sentences .user) :
    (deleteUser quote u.id).wp Command.exec ok (Ends ok u.OwnedByUser r (r.withoutUser u)) r := by
  have hid := r.id_ne_empty .user hu
  rw [deleteUser, if_neg hid]
  refine wp_byID hid (fun err herr ↦ ?_) (fun s hs heq ↦ ?_) fun hnone ↦ absurd rfl (hnone u hu)
  · simp only [is_of_fault, Bool.false_eq_true, if_false]
    exact ⟨herr, Lost.refl _ r⟩
  obtain rfl := r.eq_of_id .user hs hu heq
  refine wp_andThen wp_cleanupByName ?_
  obtain ⟨t, ht⟩ : ∃ t, t = (r.drop .script (·.ownedBy .name s.name)).drop .scheduler
    (·.ownedBy .name s.name) := ⟨_, rfl⟩
  have hlost : Lost s.OwnedByUser r t := by
    rw [ht]
    exact (Lost.drop r fun x _ hx ↦ ⟨.inl rfl, hx⟩).trans (Lost.drop _ fun x _ hx ↦ ⟨.inr rfl, hx⟩)
  have hs' : s ∈ t.sentences .user := hlost.mem hs fun h ↦ by obtain ⟨h | h, -⟩ := h <;> cases h
  rw [← ht, Router.withoutUser, ← ht]
  refine wp_removeID hid (fun err herr ↦ ?_) (fun _ ↦ rfl) fun hnone ↦ absurd rfl (hnone s hs')
  simp only [is_of_fault, Bool.false_eq_true, if_false]
  exact ⟨herr, hlost⟩

/-- For a user that is not there, it fails and does nothing. -/
theorem wp_deleteUser_absent (hid : ∀ s ∈ r.sentences .user, s.id ≠ id) :
    (deleteUser quote id).wp Command.exec ok (fun res t ↦ t = r ∧ ∃ err, res = .error err) r := by
  unfold deleteUser
  split_ifs with hempty
  · exact ⟨rfl, _, rfl⟩
  have hremove : (deleteUser.remove id).wp Command.exec ok
      (fun res t ↦ t = r ∧ ∃ err, res = .error err) r := by
    refine wp_removeID hempty (fun err _ ↦ ?_) (fun ⟨s, hs, heq⟩ ↦ absurd heq (hid s hs)) fun _ ↦ ?_
    · simp only [is_of_fault, Bool.false_eq_true, if_false]
      exact ⟨rfl, _, rfl⟩
    · simp only [is_noSuchItem, Bool.false_eq_true, if_false]
      exact ⟨rfl, _, rfl⟩
  refine wp_byID hempty (fun err _ ↦ ?_) (fun s hs heq ↦ absurd heq (hid s hs)) fun _ ↦ hremove
  simp only [is_of_fault, Bool.false_eq_true, if_false]
  exact ⟨rfl, _, rfl⟩

end Users

section Profiles

variable {quote : String → String} {ok : Env → Prop} {r : Router} {p : Sentence} {id name : String}

def Router.withoutProfile (r : Router) (id name : String) : Router :=
  (r.drop .profile (·.id = id)).drop .scheduler (·.ownedBy .name name)

/-- The profile itself, or a scheduler of its name. -/
def ofProfile (id name : String) (m : Menu) (s : Sentence) : Prop :=
  m = .profile ∧ s.id = id ∨ m = .scheduler ∧ s.ownedBy .name name = true

theorem wp_deleteProfile (hp : p ∈ r.sentences .profile) :
    (deleteProfile quote p.id name).wp Command.exec ok
      (Ends ok (ofProfile p.id name) r (r.withoutProfile p.id name)) r := by
  have hid := r.id_ne_empty .profile hp
  have hlost : Lost (ofProfile p.id name) r (r.drop .profile (·.id = p.id)) :=
    Lost.drop r fun x _ hx ↦ .inl ⟨rfl, of_decide_eq_true hx⟩
  have hremove : ∀ found, found = (r.sentences .scheduler).filter (·.ownedBy .name name) →
      (deleteProfile.remove quote p.id found).wp Command.exec ok
        (Ends ok (ofProfile p.id name) r (r.withoutProfile p.id name)) r := by
    rintro _ rfl
    refine wp_removeID hid (fun err herr ↦ ?_) (fun _ ↦ ?_) fun hnone ↦ absurd rfl (hnone p hp)
    · simp only [is_of_fault, Bool.false_eq_true, if_false]
      exact ⟨herr, Lost.refl _ r⟩
    · rw [← Router.drop_of_ne (m := .profile) (n := .scheduler) r (·.id = p.id) (by decide)]
      refine wp_mono (wp_removeFound _) fun res t ht ↦ ht.mono hlost ?_
      rintro m x - hx
      exact .inr hx
  unfold deleteProfile
  rw [if_neg hid]
  split_ifs with hname
  · refine hremove [] (List.filter_eq_nil_iff.mpr fun x _ ↦ ?_).symm
    simp [Sentence.ownedBy, hname]
  · refine wp_allBy hname (fun err herr ↦ ⟨herr, Lost.refl _ r⟩) (hremove _ ?_)
    refine List.filter_congr fun x _ ↦ ?_
    simp [Sentence.ownedBy, hname]

theorem wp_deleteProfile_absent (hid : ∀ s ∈ r.sentences .profile, s.id ≠ id) :
    (deleteProfile quote id name).wp Command.exec ok (fun res t ↦ t = r ∧ ∃ err, res = .error err)
      r := by
  unfold deleteProfile
  split_ifs with hempty hname
  · exact ⟨rfl, _, rfl⟩
  all_goals
    have hremove : ∀ found, (deleteProfile.remove quote id found).wp Command.exec ok
        (fun res t ↦ t = r ∧ ∃ err, res = .error err) r := by
      intro found
      refine wp_removeID hempty (fun err _ ↦ ?_) (fun ⟨s, hs, heq⟩ ↦ absurd heq (hid s hs)) fun _ ↦ ?_
      · simp only [is_of_fault, Bool.false_eq_true, if_false]
        exact ⟨rfl, _, rfl⟩
      · simp only [is_noSuchItem, Bool.false_eq_true, if_false]
        exact ⟨rfl, _, rfl⟩
  · exact hremove []
  · exact wp_allBy hname (fun err _ ↦ ⟨rfl, _, rfl⟩) (hremove _)

end Profiles

section Bindings

variable {quote : String → String} {ok : Env → Prop} {r : Router} {b : Sentence} {id : String}

/-- What goes with a MAC address: the menu, and the field that the address is in. -/
def byMAC : List (Menu × Field) :=
  [(.queue, .name), (.scheduler, .name), (.arp, .macAddress), (.lease, .macAddress)]

def Router.withoutMAC (r : Router) (mac : String) : Router :=
  byMAC.foldl (fun r e ↦ r.drop e.1 (·.ownedBy e.2 mac)) r

def ofMAC (mac : String) (m : Menu) (s : Sentence) : Prop :=
  ∃ field, (m, field) ∈ byMAC ∧ s.ownedBy field mac = true

def ofBinding (b : Sentence) (m : Menu) (s : Sentence) : Prop :=
  m = .binding ∧ s.id = b.id ∨ ofMAC b.macAddress m s

theorem lost_drop_mac {mac : String} {m : Menu} {field : Field} {s : Router}
    (hmem : (m, field) ∈ byMAC) (hs : Lost (ofMAC mac) r s) :
    Lost (ofMAC mac) r (s.drop m (·.ownedBy field mac)) :=
  hs.trans (Lost.drop s fun _ _ hx ↦ ⟨field, hmem, hx⟩)

theorem wp_cascadeCleanupByMAC {mac : String} : (cascadeCleanupByMAC quote mac).wp Command.exec ok
    (Ends ok (ofMAC mac) r (r.withoutMAC mac)) r := by
  unfold cascadeCleanupByMAC
  split_ifs with hmac
  · have hnone : ∀ (field : Field) (x : Sentence), x.ownedBy field mac = false := by
      intro field x
      simp [Sentence.ownedBy, hmac]
    simp only [Router.withoutMAC, byMAC, List.foldl_cons, List.foldl_nil,
      Router.drop_none fun x _ ↦ hnone _ x]
    rfl
  have hstep : ∀ {m : Menu} {field : Field} {what : String} {s : Router}, (m, field) ∈ byMAC →
      Lost (ofMAC mac) r s → (cleanup quote (allBy m mac field) m what).wp Command.exec ok
        (Ends ok (ofMAC mac) r (s.drop m (·.ownedBy field mac))) s := by
    intro m field what s hmem hs
    refine wp_mono (wp_cleanup hmac) fun res t ht ↦ ht.mono hs ?_
    rintro n x - ⟨rfl, hx⟩
    exact ⟨field, hmem, hx⟩
  have hqueue : (Menu.queue, Field.name) ∈ byMAC := by decide
  have hscheduler : (Menu.scheduler, Field.name) ∈ byMAC := by decide
  have harp : (Menu.arp, Field.macAddress) ∈ byMAC := by decide
  have hlease : (Menu.lease, Field.macAddress) ∈ byMAC := by decide
  have hlost := lost_drop_mac hqueue (Lost.refl (ofMAC mac) r)
  have hlost' := lost_drop_mac hscheduler hlost
  have hlost'' := lost_drop_mac harp hlost'
  have hqueues : (cascadeCleanupByMAC.queues quote mac).wp Command.exec ok
      (Ends ok (ofMAC mac) r (r.drop .queue (·.ownedBy .name mac))) r := by
    have howned : ∀ x : Sentence, x.ownedBy .name mac = decide (x.get .name = mac) := by
      intro x
      simp [Sentence.ownedBy, hmac]
    simp only [howned]
    refine wp_allBy hmac (fun err herr ↦ ?_) ?_
    · simp only [is_of_fault, Bool.false_eq_true, if_false]
      exact ⟨herr, Lost.refl _ r⟩
    · refine wp_mono (wp_removeFound _) fun res t ht ↦ ht.mono (Lost.refl _ r) ?_
      rintro n x - ⟨rfl, hx⟩
      exact ⟨.name, hqueue, (howned x).trans hx⟩
  exact wp_andThen hqueues (wp_andThen (hstep hscheduler hlost) (wp_andThen (hstep harp hlost')
    (hstep hlease hlost'')))

def Router.withoutBinding (r : Router) (b : Sentence) : Router :=
  (r.drop .binding (·.id = b.id)).withoutMAC b.macAddress

theorem wp_deleteBinding (hb : b ∈ r.sentences .binding) :
    (deleteBinding quote b.id).wp Command.exec ok (Ends ok (ofBinding b) r (r.withoutBinding b))
      r := by
  have hid := r.id_ne_empty .binding hb
  rw [deleteBinding, if_neg hid]
  refine wp_byID hid (fun err herr ↦ ⟨herr, Lost.refl _ r⟩) (fun s hs heq ↦ ?_)
    fun hnone ↦ absurd rfl (hnone b hb)
  obtain rfl := r.eq_of_id .binding hs hb heq
  refine wp_removeID hid (fun err herr ↦ ⟨herr, Lost.refl _ r⟩) (fun _ ↦ ?_)
    fun hnone ↦ absurd rfl (hnone s hb)
  refine wp_mono wp_cascadeCleanupByMAC fun res t ht ↦ ht.mono ?_ fun m x _ hx ↦ .inr hx
  exact Lost.drop r fun x _ hx ↦ .inl ⟨rfl, of_decide_eq_true hx⟩

theorem wp_deleteBinding_absent (hid : ∀ s ∈ r.sentences .binding, s.id ≠ id) :
    (deleteBinding quote id).wp Command.exec ok (fun res t ↦ t = r ∧ ∃ err, res = .error err) r := by
  unfold deleteBinding
  split_ifs with hempty
  · exact ⟨rfl, _, rfl⟩
  · exact wp_byID hempty (fun err _ ↦ ⟨rfl, _, rfl⟩) (fun s hs heq ↦ absurd heq (hid s hs))
      fun _ ↦ ⟨rfl, _, rfl⟩

end Bindings

end Rosmon.Workflows
