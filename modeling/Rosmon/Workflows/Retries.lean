import Rosmon.Library.Stopping
import Rosmon.Workflows.Cascades

namespace Rosmon.Workflows

open Library Store Program

/-- A call of one of the workflows that delete a record together with what depends on it. -/
inductive Cascade
  | user (id : String)
  | profile (id name : String)
  | binding (id : String)

namespace Cascade

variable (quote : String → String)

def run : Cascade → Prog (Except Error Unit)
  | .user id => deleteUser quote id
  | .profile id name => deleteProfile quote id name
  | .binding id => deleteBinding quote id

def menu : Cascade → Menu
  | .user _ => .user
  | .profile .. => .profile
  | .binding _ => .binding

def id : Cascade → String
  | .user id | .profile id _ | .binding id => id

/-- What depends on the record: the menus, the fields that tell it, and the field of the record
that they go by. -/
def dependents : Cascade → List (Menu × Field)
  | .user _ => [(.script, .name), (.scheduler, .name)]
  | .profile .. => [(.scheduler, .name)]
  | .binding _ => byMAC

def key : Cascade → Field
  | .user _ | .profile .. => .name
  | .binding _ => .macAddress

/-- The command that deletes the record itself. -/
def removal (c : Cascade) : Command := .remove c.menu c.id

def Present (c : Cascade) (r : Router) : Prop := ∃ s ∈ r.sentences c.menu, s.id = c.id

/-- Neither the record nor what depended on it is left. -/
structure Gone (c : Cascade) (r t : Router) : Prop where
  record : ¬c.Present t
  dependents : ∀ s ∈ r.sentences c.menu, s.id = c.id → ∀ d ∈ c.dependents, ∀ x ∈ t.sentences d.1,
    x.ownedBy d.2 (s.get c.key) = false

/-- All commands work. -/
def quiet : ℕ → Env := fun _ ↦ ⟨none, ""⟩

/-- Only the `n`-th one fails. -/
def failAt (n : ℕ) (err : Fault) : ℕ → Env := Function.update quiet n ⟨some err, ""⟩

/-- What is to happen when the call is repeated after one in which a command has failed. -/
def Retried (c : Cascade) (r : Router) (n : ℕ) (err : Fault) : Prop :=
  let first := (c.run quote).run Command.exec (failAt n err) r
  let again := (c.run quote).run Command.exec quiet first.2
  again.1 = .ok () ∧ c.Gone r again.2

/-- The commands of a call in which none fails. -/
def commands (c : Cascade) (r : Router) : List Command := (c.run quote).calls Command.exec quiet r

/-- The name that is passed is that of the profile, or the profile's own names no scheduler. -/
def Named (c : Cascade) (r : Router) : Prop := match c with
  | .profile id name => ∀ s ∈ r.sentences .profile, s.id = id → s.name = name ∨
      ∀ x ∈ r.sentences .scheduler, x.ownedBy .name s.name = false
  | _ => True

end Cascade

section Stopping

/-- An error that is not taken for the answer that there is no such record. -/
def Refused {α : Type} : Except Error α → Prop
  | .ok _ => False
  | .error err => err.is .mikrotikNotFound = false

def Command.Refuses : (c : Command) → c.Reply → Prop
  | .print .., res => Refused res
  | .remove .., res => Refused res
  | .set .., res => Refused res
  | .add .., res => Refused res

/-- A command that neither adds records nor changes them. -/
def Command.Deletes : Command → Prop
  | .print .. | .remove .. => True
  | .set .. | .add .. => False

theorem exec_fault (err : Fault) (c : Command) (r : Router) :
    c.Refuses (c.exec ⟨some err, ""⟩ r).1 ∧ (c.exec ⟨some err, ""⟩ r).2 = r := by
  cases c <;> exact ⟨err.2, rfl⟩

/-- It prints and removes, and the first command that is refused is the last. -/
structure Tame {α : Type} (p : Prog (Except Error α)) : Prop where
  stops : p.Stops Command.Refuses Refused
  only : p.Only Command.Deletes

variable {quote : String → String} {m : Menu} {id name pre what : String} {field : Field}
  {l : List Sentence} {p q : Prog (Except Error Unit)}

theorem tame_ret {α : Type} {res : Except Error α} : Tame (.ret res) := ⟨trivial, trivial⟩

/-- An error is passed on, as it is or in another. -/
theorem Tame.bind {α β : Type} {p : Prog (Except Error α)}
    {f : Except Error α → Prog (Except Error β)} (hp : Tame p) (hok : ∀ a, Tame (f (.ok a)))
    (herr : ∀ err, Tame (f (.error err))) (hf : ∀ err : Error, err.is .mikrotikNotFound = false →
      ∃ err', f (.error err) = .ret (.error err') ∧ err'.is .mikrotikNotFound = false) :
    Tame (p >>= f) := by
  have hall : ∀ res, Tame (f res) := fun res ↦ by
    cases res with
    | ok a => exact hok a
    | error err => exact herr err
  refine ⟨hp.stops.bind (fun res hres ↦ ?_) fun res ↦ (hall res).stops,
    hp.only.bind fun res ↦ (hall res).only⟩
  cases res with
  | ok => cases hres
  | error err =>
    obtain ⟨err', hret, herr'⟩ := hf err hres
    exact ⟨_, hret, herr'⟩

theorem tame_print {query : Option (Field × String)} : Tame (print m query) :=
  ⟨stops_perform (Command.print m query), trivial, fun _ ↦ trivial⟩

theorem tame_byID : Tame (byID m id) := by
  unfold byID
  split_ifs
  · exact tame_ret
  · refine tame_print.bind (fun rows ↦ ?_) (fun _ ↦ tame_ret) fun err herr ↦ ⟨err, rfl, herr⟩
    cases rows <;> exact tame_ret

theorem tame_allBy : Tame (allBy m name field) := by
  unfold allBy
  split_ifs
  · exact tame_ret
  · exact tame_print

theorem tame_removeID : Tame (removeID m id) := by
  unfold removeID
  split_ifs
  · exact tame_ret
  · exact ⟨stops_perform (Command.remove m id), trivial, fun _ ↦ trivial⟩

theorem tame_andThen (hp : Tame p) (hq : Tame q) : Tame (andThen p q) :=
  hp.bind (fun _ ↦ hq) (fun _ ↦ tame_ret) fun err herr ↦ ⟨err, rfl, herr⟩

theorem tame_removeEach : Tame (removeEach quote m pre l) := by
  induction l with
  | nil => exact tame_ret
  | cons s rest ih =>
    exact tame_removeID.bind (fun _ ↦ ih) (fun _ ↦ tame_ret) fun err herr ↦ ⟨_, rfl, herr⟩

theorem tame_cleanupByName : Tame (cleanupByName quote name) := by
  unfold cleanupByName
  split_ifs
  · exact tame_ret
  refine tame_allBy.bind (fun scripts ↦ ?_) (fun _ ↦ tame_ret) fun err herr ↦ ⟨_, rfl, herr⟩
  refine tame_allBy.bind (fun schedulers ↦ ?_) (fun _ ↦ tame_ret) fun err herr ↦ ⟨_, rfl, herr⟩
  exact tame_andThen tame_removeEach tame_removeEach

theorem tame_deleteUser : Tame (deleteUser quote id) := by
  have hremove : Tame (deleteUser.remove id) := by
    refine tame_removeID.bind (fun _ ↦ tame_ret) (fun err ↦ ?_) fun err herr ↦ ?_
    · dsimp only
      split_ifs <;> exact tame_ret
    · simp only [herr, Bool.false_eq_true, if_false]
      exact ⟨_, rfl, herr⟩
  unfold deleteUser
  split_ifs
  · exact tame_ret
  refine tame_byID.bind (fun u ↦ tame_andThen tame_cleanupByName hremove) (fun err ↦ ?_)
    fun err herr ↦ ?_
  · dsimp only
    split_ifs
    · exact hremove
    · exact tame_ret
  · simp only [herr, Bool.false_eq_true, if_false]
    exact ⟨_, rfl, herr⟩

theorem tame_deleteProfile : Tame (deleteProfile quote id name) := by
  have hremove : ∀ l, Tame (deleteProfile.remove quote id l) := by
    intro l
    refine tame_removeID.bind (fun _ ↦ tame_removeEach) (fun err ↦ ?_) fun err herr ↦ ?_
    · dsimp only
      split_ifs
      · exact tame_removeEach
      · exact tame_ret
    · simp only [herr, Bool.false_eq_true, if_false]
      exact ⟨_, rfl, herr⟩
  unfold deleteProfile
  split_ifs
  · exact tame_ret
  · exact hremove []
  · exact tame_allBy.bind hremove (fun _ ↦ tame_ret) fun err herr ↦ ⟨_, rfl, herr⟩

theorem tame_cleanup {lookup : Prog (Except Error (List Sentence))} (h : Tame lookup) :
    Tame (cleanup quote lookup m what) :=
  h.bind (fun _ ↦ tame_removeEach) (fun _ ↦ tame_ret) fun _ herr ↦ ⟨_, rfl, herr⟩

theorem tame_deleteBinding : Tame (deleteBinding quote id) := by
  have hqueues : ∀ mac, Tame (cascadeCleanupByMAC.queues quote mac) := by
    intro mac
    refine tame_allBy.bind (fun _ ↦ tame_removeEach) (fun err ↦ ?_) fun err herr ↦ ?_
    · dsimp only
      split_ifs
      · exact tame_removeEach
      · exact tame_ret
    · simp only [herr, Bool.false_eq_true, if_false]
      exact ⟨_, rfl, herr⟩
  have hcascade : ∀ mac, Tame (cascadeCleanupByMAC quote mac) := by
    intro mac
    unfold cascadeCleanupByMAC
    split_ifs
    · exact tame_ret
    · exact tame_andThen (hqueues mac) (tame_andThen (tame_cleanup tame_allBy)
        (tame_andThen (tame_cleanup tame_allBy) (tame_cleanup tame_allBy)))
  unfold deleteBinding
  split_ifs
  · exact tame_ret
  refine tame_byID.bind (fun b ↦ ?_) (fun _ ↦ tame_ret) fun err herr ↦ ⟨_, rfl, herr⟩
  exact tame_removeID.bind (fun _ ↦ hcascade b.macAddress) (fun _ ↦ tame_ret)
    fun _ herr ↦ ⟨_, rfl, herr⟩

variable (quote) in
theorem Cascade.tame (c : Cascade) : Tame (c.run quote) := by
  cases c with
  | user => exact tame_deleteUser
  | profile => exact tame_deleteProfile
  | binding => exact tame_deleteBinding

end Stopping

namespace Cascade

variable {quote : String → String} {c : Cascade} {r t : Router} {s : Sentence} {n : ℕ} {err : Fault}
  {ok : Env → Prop} {d : Command} {e : Env}

/-- What is left when the record and what depends on it are deleted. -/
def after (c : Cascade) (s : Sentence) (r : Router) : Router := match c with
  | .user _ => r.withoutUser s
  | .profile id name => r.withoutProfile id name
  | .binding _ => r.withoutBinding s

/-- The records that may be deleted before an error. -/
def touches (c : Cascade) (s : Sentence) : Menu → Sentence → Prop := match c with
  | .user _ => s.OwnedByUser
  | .profile id name => ofProfile id name
  | .binding _ => ofBinding s

variable (quote ok) in
theorem wp_run (hs : s ∈ r.sentences c.menu) (hid : s.id = c.id) : (c.run quote).wp Command.exec ok
    (Ends ok (c.touches s) r (c.after s r)) r := by
  cases c with
  | user id =>
    obtain rfl : s.id = id := hid
    exact wp_deleteUser hs
  | profile id name =>
    obtain rfl : s.id = id := hid
    exact wp_deleteProfile hs
  | binding id =>
    obtain rfl : s.id = id := hid
    exact wp_deleteBinding hs

variable (quote ok) in
theorem wp_absent (h : ¬c.Present r) : (c.run quote).wp Command.exec ok
    (fun res t ↦ t = r ∧ ∃ err, res = .error err) r := by
  have hnone : ∀ s ∈ r.sentences c.menu, s.id ≠ c.id := fun s hs hid ↦ h ⟨s, hs, hid⟩
  cases c with
  | user id => exact wp_deleteUser_absent hnone
  | profile id name => exact wp_deleteProfile_absent hnone
  | binding id => exact wp_deleteBinding_absent hnone

section Presence

/-- What a command that deletes can do to the records of a menu. -/
theorem exec_deletes (hd : d.Deletes) (m : Menu) : (d.exec e r).2.sentences m = r.sentences m ∨
    ∃ id, d = .remove m id ∧ (d.exec e r).2.sentences m = (r.sentences m).filter (·.id ≠ id) := by
  cases d with
  | print m' query =>
    left
    cases hf : e.fault <;> simp [Command.exec, hf]
  | remove m' id =>
    cases hf : e.fault with
    | some err =>
      left
      simp [Command.exec, hf]
    | none =>
      simp only [Command.exec, hf]
      split_ifs with hany
      · by_cases hm : m = m'
        · subst hm
          exact .inr ⟨id, rfl, (Router.drop_self ..).trans
            (List.filter_congr fun s _ ↦ (decide_not).symm)⟩
        · exact .inl (Router.drop_of_ne _ _ hm)
      · exact .inl rfl
  | set => cases hd
  | add => cases hd

theorem present_exec (hd : d.Deletes) (hne : d ≠ c.removal) (h : c.Present r) :
    c.Present (d.exec e r).2 := by
  obtain ⟨s, hs, hid⟩ := h
  obtain hsame | ⟨id, rfl, hfilter⟩ := exec_deletes (e := e) (r := r) hd c.menu
  · exact ⟨s, hsame ▸ hs, hid⟩
  · refine ⟨s, ?_, hid⟩
    rw [hfilter, List.mem_filter]
    refine ⟨hs, decide_eq_true fun heq ↦ hne ?_⟩
    rw [removal, ← hid, heq]

theorem absent_exec (hd : d.Deletes) (h : ¬c.Present r) : ¬c.Present (d.exec e r).2 := by
  rintro ⟨s, hs, hid⟩
  refine h ⟨s, ?_, hid⟩
  obtain hsame | ⟨id, rfl, hfilter⟩ := exec_deletes (e := e) (r := r) hd c.menu
  · rwa [hsame] at hs
  · rw [hfilter] at hs
    exact List.mem_of_mem_filter hs

theorem absent_removal (he : e.fault = none) : ¬c.Present (c.removal.exec e r).2 := by
  rintro ⟨s, hs, hid⟩
  simp only [removal, Command.exec, he] at hs
  split_ifs at hs with hany
  · rw [Router.drop_self, List.mem_filter] at hs
    simp [hid] at hs
  · exact hany (List.any_eq_true.mpr ⟨s, hs, decide_eq_true hid⟩)

/-- Up to its own removal the record stays. -/
theorem present_before : c.Present ((c.run quote).before Command.exec n quiet r) ↔
    c.Present r ∧ c.removal ∉ (c.commands quote r).take n := by
  have hdeletes : ∀ d ∈ c.commands quote r, d.Deletes :=
    fun d hd ↦ (tame quote c).only.makes r quiet d hd
  have habsent_exec : ∀ d ∈ c.commands quote r, ∀ e t, ¬c.Present t →
      ¬c.Present (d.exec e t).2 := fun d hd _ _ ↦ absent_exec (hdeletes d hd)
  constructor
  · intro h
    refine ⟨?_, fun hremoved ↦ ?_⟩
    · by_contra habsent
      exact before_keeps (I := fun t ↦ ¬c.Present t)
        (fun d hd ↦ habsent_exec d (List.mem_of_mem_take hd)) habsent h
    · exact before_reaches (fun e ↦ e.fault = none) (I := fun t ↦ ¬c.Present t) (fun _ ↦ rfl)
        hremoved (fun e t he ↦ absent_removal he) habsent_exec h
  · rintro ⟨hpresent, hkept⟩
    exact before_keeps (I := c.Present)
      (fun d hd e t ↦ present_exec (hdeletes d (List.mem_of_mem_take hd)) (ne_of_mem_of_not_mem hd hkept))
      hpresent

end Presence

section Retrying

variable (quote err) in
/-- A command that fails is the last of its call, which has not come to its end. -/
theorem first_call (hn : n < (c.commands quote r).length) :
    (∃ err', ((c.run quote).run Command.exec (failAt n err) r).1 = .error err') ∧
      ((c.run quote).run Command.exec (failAt n err) r).2 =
        (c.run quote).before Command.exec n quiet r := by
  obtain ⟨hrefused, hbefore⟩ := (tame quote c).stops.run (exec_fault err) hn
  refine ⟨?_, hbefore⟩
  change Refused ((c.run quote).run Command.exec (failAt n err) r).1 at hrefused
  cases hres : ((c.run quote).run Command.exec (failAt n err) r).1 with
  | ok =>
    rw [hres] at hrefused
    cases hrefused
  | error err' => exact ⟨err', rfl⟩

theorem lost_before (hn : n < (c.commands quote r).length) (hs : s ∈ r.sentences c.menu)
    (hid : s.id = c.id) : Lost (c.touches s) r ((c.run quote).before Command.exec n quiet r) := by
  obtain ⟨⟨err', hres⟩, hbefore⟩ :=
    first_call quote ⟨Mikrotik.noSuchItem, is_noSuchItem⟩ hn
  have hends := run_of_wp (wp_run quote (fun _ ↦ True) hs hid)
    (failAt n ⟨Mikrotik.noSuchItem, is_noSuchItem⟩) fun _ ↦ trivial
  rw [hres, hbefore] at hends
  exact hends.2

/-- A call in which no command fails. -/
theorem quiet_call (hs : s ∈ t.sentences c.menu) (hid : s.id = c.id) :
    (c.run quote).run Command.exec quiet t = (.ok (), c.after s t) := by
  have hends := run_of_wp (wp_run quote (fun e ↦ e.fault = none) hs hid) quiet
    fun _ ↦ rfl
  generalize (c.run quote).run Command.exec quiet t = out at hends
  obtain ⟨res, u⟩ := out
  cases res with
  | ok => exact Prod.ext rfl hends
  | error err =>
    obtain ⟨⟨e, he, hfault⟩, -⟩ := hends
    exact absurd he hfault

theorem quiet_absent (h : ¬c.Present t) : ((c.run quote).run Command.exec quiet t).1 ≠ .ok () := by
  obtain ⟨-, err, hres⟩ := run_of_wp (wp_absent quote (fun e ↦ e.fault = none) h)
    quiet fun _ ↦ rfl
  rw [hres]
  exact nofun

/-- What the dependents go by. -/
def keyOf (c : Cascade) (s : Sentence) : String := match c with
  | .user _ => s.name
  | .profile _ name => name
  | .binding _ => s.macAddress

theorem mem_withoutMAC {mac : String} {x : Sentence} {m : Menu} :
    x ∈ (t.withoutMAC mac).sentences m ↔
      x ∈ t.sentences m ∧ ∀ d ∈ byMAC, d.1 = m → x.ownedBy d.2 mac = false := by
  unfold Router.withoutMAC
  induction byMAC generalizing t with
  | nil => simp
  | cons d l ih =>
    rw [List.foldl_cons, ih, Router.mem_drop, List.forall_mem_cons, and_assoc]
    refine and_congr_right fun _ ↦ and_congr_left fun _ ↦ ?_
    rw [not_and, Bool.not_eq_true]
    exact ⟨fun h hm ↦ h hm.symm, fun h hm ↦ h hm.symm⟩

theorem mem_after {x : Sentence} {m : Menu} (hid : s.id = c.id) :
    x ∈ (c.after s t).sentences m ↔ x ∈ t.sentences m ∧ ¬(m = c.menu ∧ x.id = c.id) ∧
      ∀ d ∈ c.dependents, d.1 = m → x.ownedBy d.2 (c.keyOf s) = false := by
  cases c with
  | user id =>
    obtain rfl : s.id = id := hid
    simp only [after, Router.withoutUser, Router.mem_drop, dependents, keyOf, menu, Cascade.id,
      List.forall_mem_cons, decide_eq_true_iff, List.not_mem_nil, false_imp_iff, implies_true,
      and_true, not_and, Bool.not_eq_true, eq_comm (a := m), and_assoc]
    tauto
  | profile id name =>
    simp only [after, Router.withoutProfile, Router.mem_drop, dependents, keyOf, menu, Cascade.id,
      List.forall_mem_cons, decide_eq_true_iff, List.not_mem_nil, false_imp_iff, implies_true,
      and_true, not_and, Bool.not_eq_true, eq_comm (a := m), and_assoc]
  | binding id =>
    obtain rfl : s.id = id := hid
    simp only [after, Router.withoutBinding, mem_withoutMAC, Router.mem_drop, decide_eq_true_iff,
      and_assoc]
    rfl

/-- What is left then is none of the record's. -/
theorem gone_after (hs : s ∈ r.sentences c.menu) (hid : s.id = c.id)
    (ht : ∀ m, ∀ x ∈ t.sentences m, x ∈ r.sentences m) (hnamed : c.Named r) :
    c.Gone r (c.after s t) := by
  refine ⟨fun ⟨x, hx, hxid⟩ ↦ ((mem_after hid).mp hx).2.1 ⟨rfl, hxid⟩, fun s' hs' hid' d hd x hx ↦ ?_⟩
  obtain rfl := r.eq_of_id c.menu hs hs' (hid.trans hid'.symm)
  obtain ⟨hxt, -, howned⟩ := (mem_after hid).mp hx
  cases c with
  | user id => exact howned d hd rfl
  | profile id name =>
    obtain rfl := List.mem_singleton.mp hd
    obtain rfl | hnone := hnamed s hs hid
    · exact howned _ hd rfl
    · exact hnone x (ht .scheduler x hxt)
  | binding id => exact howned d hd rfl

/-- Otherwise, a scheduler of the profile's own name is left. -/
theorem named_of_gone (hs : s ∈ r.sentences c.menu) (hid : s.id = c.id)
    (hlost : Lost (c.touches s) r t) (hgone : c.Gone r (c.after s t)) : c.Named r := by
  cases c with
  | user | binding => trivial
  | profile id name =>
    intro s' hs' hid'
    obtain rfl := r.eq_of_id .profile hs hs' (hid.trans hid'.symm)
    by_contra! hnot
    obtain ⟨hne, x, hx, howned⟩ := hnot
    rw [ne_eq, Bool.not_eq_false] at howned
    have hname : x.ownedBy .name name = false := by
      simp only [Sentence.ownedBy, Bool.and_eq_true, decide_eq_true_iff] at howned
      simp only [Sentence.ownedBy, howned.2, decide_eq_false hne, Bool.and_false]
    have htouched : ¬(Cascade.profile id name).touches s .scheduler x := by
      rintro (⟨h, -⟩ | ⟨-, h⟩)
      · cases h
      · rw [hname] at h
        cases h
    have hleft : x ∈ ((Cascade.profile id name).after s t).sentences .scheduler := by
      refine (mem_after hid).mpr ⟨hlost.mem hx htouched, ?_, fun d hd _ ↦ ?_⟩
      · rintro ⟨h, -⟩
        cases h
      · rw [List.mem_singleton.mp hd]
        exact hname
    have hfalse := hgone.dependents s hs hid _ List.mem_cons_self x hleft
    exact Bool.false_ne_true (hfalse.symm.trans howned)

/-- A router with one binding and one queue of its MAC address. -/
def oneBinding : Router where
  sentences
    | .binding => [{ Sentence.blank "*1" with macAddress := "AA:BB:CC:00:11:22" }]
    | .queue => [{ Sentence.blank "*7" with name := "AA:BB:CC:00:11:22" }]
    | _ => []
  given
    | .binding => ["*1"]
    | .queue => ["*7"]
    | _ => []
  unique m := by cases m <;> decide
  known m := by cases m <;> decide
  named m := by cases m <;> decide

def timeout : Fault := ⟨.new "i/o timeout", by decide⟩

end Retrying

end Cascade

end Rosmon.Workflows
