import Rosmon.Mikrotik.Router
import Rosmon.Library.Program

namespace Rosmon.Workflows

open Library Store Program

/-- The menus of a router that the workflows print and change. -/
inductive Menu
  | user | profile | binding | active | script | scheduler | queue | arp | lease
  deriving DecidableEq

inductive Field
  | id | name | user | macAddress | profile | comment | limitUptime
  deriving DecidableEq

/-- A record as it is printed; a field that it does not have is empty. -/
structure Sentence where
  id : String
  name : String
  user : String
  macAddress : String
  profile : String
  comment : String
  limitUptime : String
  deriving DecidableEq

namespace Sentence

def blank (id : String) : Sentence := ⟨id, "", "", "", "", "", ""⟩

def get (s : Sentence) : Field → String
  | .id => s.id
  | .name => s.name
  | .user => s.user
  | .macAddress => s.macAddress
  | .profile => s.profile
  | .comment => s.comment
  | .limitUptime => s.limitUptime

/-- The id of a record cannot be set. -/
def set (s : Sentence) (p : Field × String) : Sentence := match p.1 with
  | .id => s
  | .name => { s with name := p.2 }
  | .user => { s with user := p.2 }
  | .macAddress => { s with macAddress := p.2 }
  | .profile => { s with profile := p.2 }
  | .comment => { s with comment := p.2 }
  | .limitUptime => { s with limitUptime := p.2 }

def setAll (s : Sentence) (pairs : List (Field × String)) : Sentence := pairs.foldl set s

@[simp] theorem id_set (s : Sentence) (p : Field × String) : (s.set p).id = s.id := by
  unfold set
  split <;> rfl

@[simp] theorem id_setAll (s : Sentence) (pairs : List (Field × String)) :
    (s.setAll pairs).id = s.id := by
  induction pairs generalizing s with
  | nil => rfl
  | cons p pairs ih => rw [setAll, List.foldl_cons, ← setAll, ih, id_set]

end Sentence

/-- The menus of a router. No two records of a menu have the same id, and an id that has been given
to a record is not given again. -/
structure Router where
  sentences : Menu → List Sentence
  given : Menu → List String
  unique : ∀ m, ((sentences m).map Sentence.id).Nodup
  known : ∀ m, ∀ s ∈ sentences m, s.id ∈ given m
  named : ∀ m, "" ∉ given m

namespace Router

variable (r : Router) (m : Menu)

theorem eq_of_id {s t : Sentence} (hs : s ∈ r.sentences m) (ht : t ∈ r.sentences m)
    (h : s.id = t.id) : s = t :=
  List.inj_on_of_nodup_map (r.unique m) hs ht h

theorem id_ne_empty {s : Sentence} (hs : s ∈ r.sentences m) : s.id ≠ "" :=
  fun h ↦ r.named m (h ▸ r.known m s hs)

/-- The records of a menu that satisfy `p` are removed. -/
def drop (p : Sentence → Bool) : Router where
  sentences := Function.update r.sentences m ((r.sentences m).filter (!p ·))
  given := r.given
  unique n := by
    by_cases h : n = m
    · subst h
      rw [Function.update_self]
      exact (r.unique n).sublist (List.filter_sublist.map _)
    · rw [Function.update_of_ne h]
      exact r.unique n
  known n s hs := by
    by_cases h : n = m
    · subst h
      rw [Function.update_self] at hs
      exact r.known n s (List.mem_of_mem_filter hs)
    · rw [Function.update_of_ne h] at hs
      exact r.known n s hs
  named := r.named

/-- Those with an id are set. -/
def set (id : String) (pairs : List (Field × String)) : Router where
  sentences := Function.update r.sentences m
    ((r.sentences m).map fun s ↦ if s.id = id then s.setAll pairs else s)
  given := r.given
  unique n := by
    by_cases h : n = m
    · subst h
      have hids : Sentence.id ∘ (fun s : Sentence ↦ if s.id = id then s.setAll pairs else s) =
          Sentence.id := by
        funext s
        simp only [Function.comp_apply]
        split_ifs <;> simp
      rw [Function.update_self, List.map_map, hids]
      exact r.unique n
    · rw [Function.update_of_ne h]
      exact r.unique n
  known n s hs := by
    by_cases h : n = m
    · subst h
      rw [Function.update_self] at hs
      obtain ⟨t, ht, rfl⟩ := List.mem_map.mp hs
      have hid : (if t.id = id then t.setAll pairs else t).id = t.id := by
        split_ifs <;> simp
      rw [hid]
      exact r.known n t ht
    · rw [Function.update_of_ne h] at hs
      exact r.known n s hs
  named := r.named

/-- A new record, with an id that the router chooses. -/
def add (s : Sentence) (h : s.id ≠ "" ∧ s.id ∉ r.given m) : Router where
  sentences := Function.update r.sentences m (r.sentences m ++ [s])
  given := Function.update r.given m (s.id :: r.given m)
  unique n := by
    by_cases hn : n = m
    · subst hn
      rw [Function.update_self, List.map_append, List.nodup_append]
      refine ⟨r.unique n, List.nodup_singleton _, fun a ha b hb ↦ ?_⟩
      obtain ⟨t, ht, rfl⟩ := List.mem_map.mp ha
      rw [List.map_singleton, List.mem_singleton] at hb
      rw [hb]
      exact fun heq ↦ h.2 (heq ▸ r.known n t ht)
    · rw [Function.update_of_ne hn]
      exact r.unique n
  known n t ht := by
    by_cases hn : n = m
    · subst hn
      rw [Function.update_self] at ht ⊢
      obtain ht | ht := List.mem_append.mp ht
      · exact List.mem_cons_of_mem _ (r.known n t ht)
      · rw [List.mem_singleton.mp ht]
        exact List.mem_cons_self
    · rw [Function.update_of_ne hn] at ht ⊢
      exact r.known n t ht
  named n := by
    by_cases hn : n = m
    · subst hn
      rw [Function.update_self, List.mem_cons, not_or]
      exact ⟨fun heq ↦ h.1 heq.symm, r.named n⟩
    · rw [Function.update_of_ne hn]
      exact r.named n

end Router

/-- The commands: `Print`, with or without a `Where`, `Remove`, `Set` and `Add`. -/
inductive Command
  | print (m : Menu) (query : Option (Field × String))
  | remove (m : Menu) (id : String)
  | set (m : Menu) (id : String) (pairs : List (Field × String))
  | add (m : Menu) (pairs : List (Field × String))

abbrev Command.Reply : Command → Type
  | .print .. => Except Error (List Sentence)
  | .remove .. | .set .. => Except Error Unit
  | .add .. => Except Error String

/-- A failure of the connection or of the router; no such error is taken for the answer that there
is no such record. -/
abbrev Fault := {err : Error // err.is .mikrotikNotFound = false}

/-- What happens to a command: it fails and has no effect, or it is carried out. A new record gets
the id `newID`. -/
structure Env where
  fault : Option Fault
  newID : String

def Sentence.matches (s : Sentence) : Option (Field × String) → Bool
  | none => true
  | some (field, value) => s.get field = value

/-- RouterOS refuses an unknown id. -/
def Command.exec : (c : Command) → Env → Router → c.Reply × Router
  | .print m query, e, r => match e.fault with
    | some err => (.error err, r)
    | none => (.ok ((r.sentences m).filter (·.matches query)), r)
  | .remove m id, e, r => match e.fault with
    | some err => (.error err, r)
    | none => if (r.sentences m).any (·.id = id) then (.ok (), r.drop m (·.id = id))
      else (.error Mikrotik.noSuchItem, r)
  | .set m id pairs, e, r => match e.fault with
    | some err => (.error err, r)
    | none => if (r.sentences m).any (·.id = id) then (.ok (), r.set m id pairs)
      else (.error Mikrotik.noSuchItem, r)
  | .add m pairs, e, r => match e.fault with
    | some err => (.error err, r)
    | none =>
      let s := (Sentence.blank e.newID).setAll pairs
      if h : s.id ≠ "" ∧ s.id ∉ r.given m then (.ok s.id, r.add m s h)
      else (.error (.new "failure"), r)

abbrev Prog := Program Command Command.Reply

def print (m : Menu) (query : Option (Field × String)) : Prog (Except Error (List Sentence)) :=
  Program.perform (Command.print m query)

section Clients

variable (m : Menu) (id name : String)

/-- A record by its id. -/
def byID : Prog (Except Error Sentence) :=
  if id = "" then return .error (.of .mikrotikInvalidArgument)
  else do
    match ← print m (some (.id, id)) with
    | .error err => return .error err
    | .ok [] => return .error (.of .mikrotikNotFound)
    | .ok (s :: _) => return .ok s

/-- All records with a name or a MAC address. -/
def allBy (field : Field) : Prog (Except Error (List Sentence)) :=
  if name = "" then return .error (.of .mikrotikInvalidArgument)
  else print m (some (field, name))

def removeID : Prog (Except Error Unit) :=
  if id = "" then return .error (.of .mikrotikInvalidArgument)
  else Program.perform (Command.remove m id)

def userByID := byID .user

def userRemove := removeID .user

def profileRemove := removeID .profile

def bindingByID := byID .binding

def bindingRemove := removeID .binding

def scriptByName (name : String) := allBy .script name .name

def scriptRemove := removeID .script

def schedulerByName (name : String) := allBy .scheduler name .name

def schedulerRemove := removeID .scheduler

def queueSimpleByName (name : String) := allBy .queue name .name

def queueSimpleRemove := removeID .queue

def arpByMAC (mac : String) := allBy .arp mac .macAddress

def arpRemove := removeID .arp

def dhcpLeaseByMAC (mac : String) := allBy .lease mac .macAddress

def dhcpLeaseRemove := removeID .lease

end Clients

section Rules

variable {α : Type} {ok : Env → Prop} {Q : α → Router → Prop} {r : Router} {m : Menu} {id : String}

/-- Some command may fail. -/
def Faulty (ok : Env → Prop) : Prop := ∃ e, ok e ∧ e.fault ≠ none

theorem faulty_of {e : Env} {err : Fault} (he : ok e) (hf : e.fault = some err) : Faulty ok :=
  ⟨e, he, hf ▸ Option.some_ne_none err⟩

theorem wp_print {query : Option (Field × String)} {k : Except Error (List Sentence) → Prog α}
    (hfault : ∀ err : Fault, Faulty ok → (k (.error err)).wp Command.exec ok Q r)
    (hdone : (k (.ok ((r.sentences m).filter (·.matches query)))).wp Command.exec ok Q r) :
    (Program.call (.print m query) k).wp Command.exec ok Q r := by
  intro e he
  cases hf : e.fault with
  | none => simpa [Command.exec, hf] using hdone
  | some err => simpa [Command.exec, hf] using hfault err (faulty_of he hf)

theorem wp_remove {k : Except Error Unit → Prog α}
    (hfault : ∀ err : Fault, Faulty ok → (k (.error err)).wp Command.exec ok Q r)
    (hdone : (∃ s ∈ r.sentences m, s.id = id) →
      (k (.ok ())).wp Command.exec ok Q (r.drop m (·.id = id)))
    (hnone : (∀ s ∈ r.sentences m, s.id ≠ id) →
      (k (.error Mikrotik.noSuchItem)).wp Command.exec ok Q r) :
    (Program.call (.remove m id) k).wp Command.exec ok Q r := by
  intro e he
  cases hf : e.fault with
  | some err => simpa [Command.exec, hf] using hfault err (faulty_of he hf)
  | none =>
    by_cases hany : (r.sentences m).any (·.id = id) = true
    · simp only [Command.exec, hf, hany, if_true]
      exact hdone (by simpa using hany)
    · simp only [Command.exec, hf, hany]
      exact hnone (by simpa using hany)

theorem wp_set {pairs : List (Field × String)} {k : Except Error Unit → Prog α}
    (hfault : ∀ err : Fault, Faulty ok → (k (.error err)).wp Command.exec ok Q r)
    (hdone : (∃ s ∈ r.sentences m, s.id = id) →
      (k (.ok ())).wp Command.exec ok Q (r.set m id pairs))
    (hnone : (∀ s ∈ r.sentences m, s.id ≠ id) →
      (k (.error Mikrotik.noSuchItem)).wp Command.exec ok Q r) :
    (Program.call (.set m id pairs) k).wp Command.exec ok Q r := by
  intro e he
  cases hf : e.fault with
  | some err => simpa [Command.exec, hf] using hfault err (faulty_of he hf)
  | none =>
    by_cases hany : (r.sentences m).any (·.id = id) = true
    · simp only [Command.exec, hf, hany, if_true]
      exact hdone (by simpa using hany)
    · simp only [Command.exec, hf, hany]
      exact hnone (by simpa using hany)

theorem wp_byID {k : Except Error Sentence → Prog α} (hid : id ≠ "")
    (hfault : ∀ err : Fault, Faulty ok → (k (.error err)).wp Command.exec ok Q r)
    (hsome : ∀ s ∈ r.sentences m, s.id = id → (k (.ok s)).wp Command.exec ok Q r)
    (hnone : (∀ s ∈ r.sentences m, s.id ≠ id) →
      (k (.error (.of .mikrotikNotFound))).wp Command.exec ok Q r) :
    (byID m id >>= k).wp Command.exec ok Q r := by
  rw [byID, if_neg hid, print, perform_bind, call_bind]
  refine wp_print (fun err herr ↦ hfault err herr) ?_
  cases hrows : (r.sentences m).filter (·.matches (some (.id, id))) with
  | nil =>
    refine hnone fun s hs heq ↦ ?_
    have hmem : s ∈ (r.sentences m).filter (·.matches (some (.id, id))) :=
      List.mem_filter.mpr ⟨hs, decide_eq_true heq⟩
    rw [hrows] at hmem
    cases hmem
  | cons s rest =>
    have hs : s ∈ (r.sentences m).filter (·.matches (some (.id, id))) := by
      rw [hrows]
      exact List.mem_cons_self
    obtain ⟨hmem, hmatch⟩ := List.mem_filter.mp hs
    exact hsome s hmem (of_decide_eq_true hmatch)

theorem wp_allBy {name : String} {field : Field} {k : Except Error (List Sentence) → Prog α}
    (hname : name ≠ "")
    (hfault : ∀ err : Fault, Faulty ok → (k (.error err)).wp Command.exec ok Q r)
    (hdone : (k (.ok ((r.sentences m).filter (·.get field = name)))).wp Command.exec ok Q r) :
    (allBy m name field >>= k).wp Command.exec ok Q r := by
  rw [allBy, if_neg hname]
  exact wp_print hfault hdone

theorem wp_removeID {k : Except Error Unit → Prog α} (hid : id ≠ "")
    (hfault : ∀ err : Fault, Faulty ok → (k (.error err)).wp Command.exec ok Q r)
    (hdone : (∃ s ∈ r.sentences m, s.id = id) →
      (k (.ok ())).wp Command.exec ok Q (r.drop m (·.id = id)))
    (hnone : (∀ s ∈ r.sentences m, s.id ≠ id) →
      (k (.error Mikrotik.noSuchItem)).wp Command.exec ok Q r) :
    (removeID m id >>= k).wp Command.exec ok Q r := by
  rw [removeID, if_neg hid]
  exact wp_remove hfault hdone hnone

end Rules

section Losses

variable {r s t : Router} {P P' : Menu → Sentence → Prop} {m n : Menu} {p q : Sentence → Bool}

@[simp] theorem Router.drop_self (r : Router) (m : Menu) (p : Sentence → Bool) :
    (r.drop m p).sentences m = (r.sentences m).filter (!p ·) := Function.update_self ..

theorem Router.drop_of_ne (r : Router) (p : Sentence → Bool) (h : n ≠ m) :
    (r.drop m p).sentences n = r.sentences n := Function.update_of_ne h ..

theorem Router.set_self (r : Router) (m : Menu) (id : String) (pairs : List (Field × String)) :
    (r.set m id pairs).sentences m =
      (r.sentences m).map (fun s ↦ if s.id = id then s.setAll pairs else s) :=
  Function.update_self ..

theorem Router.set_of_ne (r : Router) (id : String) (pairs : List (Field × String)) (h : n ≠ m) :
    (r.set m id pairs).sentences n = r.sentences n := Function.update_of_ne h ..

theorem Router.mem_drop {x : Sentence} :
    x ∈ (r.drop m p).sentences n ↔ x ∈ r.sentences n ∧ ¬(n = m ∧ p x = true) := by
  by_cases hn : n = m
  · subst hn
    simp [List.mem_filter]
  · simp [Router.drop_of_ne r p hn, hn]

theorem Router.ext {r t : Router} (h : r.sentences = t.sentences) (hgiven : r.given = t.given) :
    r = t := by
  cases r
  cases t
  simp_all only

theorem Router.drop_congr (h : ∀ s ∈ r.sentences m, p s = q s) : r.drop m p = r.drop m q := by
  refine Router.ext ?_ rfl
  have hfilter : (r.sentences m).filter (!p ·) = (r.sentences m).filter (!q ·) :=
    List.filter_congr fun s hs ↦ by rw [h s hs]
  exact congrArg (Function.update r.sentences m) hfilter

theorem Router.drop_none (h : ∀ s ∈ r.sentences m, p s = false) : r.drop m p = r := by
  refine Router.ext ?_ rfl
  have hfilter : (r.sentences m).filter (!p ·) = r.sentences m :=
    List.filter_eq_self.mpr fun s hs ↦ by simp [h s hs]
  change Function.update r.sentences m ((r.sentences m).filter (!p ·)) = r.sentences
  rw [hfilter, Function.update_eq_self]

theorem Router.drop_drop (r : Router) (m : Menu) (p q : Sentence → Bool) :
    (r.drop m p).drop m q = r.drop m (fun s ↦ p s || q s) := by
  refine Router.ext ?_ rfl
  change Function.update (r.drop m p).sentences m (((r.drop m p).sentences m).filter (!q ·)) =
    Function.update r.sentences m ((r.sentences m).filter fun s ↦ !(p s || q s))
  rw [Router.drop_self, List.filter_filter]
  simp only [Router.drop, Function.update_idem]
  refine congrArg (Function.update r.sentences m) (List.filter_congr fun s _ ↦ ?_)
  rw [Bool.not_or, Bool.and_comm]

/-- A router that has lost records, of those that satisfy `P`, and nothing else. -/
structure Lost (P : Menu → Sentence → Prop) (r t : Router) : Prop where
  given : t.given = r.given
  kept : ∀ m, ∃ keep : Sentence → Bool, t.sentences m = (r.sentences m).filter keep ∧
    ∀ s ∈ r.sentences m, ¬P m s → keep s = true

namespace Lost

theorem refl (P : Menu → Sentence → Prop) (r : Router) : Lost P r r :=
  ⟨rfl, fun _ ↦ ⟨fun _ ↦ true, (List.filter_eq_self.mpr fun _ _ ↦ rfl).symm, fun _ _ _ ↦ rfl⟩⟩

theorem trans (h : Lost P r s) (h' : Lost P s t) : Lost P r t := by
  refine ⟨h'.given.trans h.given, fun m ↦ ?_⟩
  obtain ⟨keep, hkeep, hP⟩ := h.kept m
  obtain ⟨keep', hkeep', hP'⟩ := h'.kept m
  refine ⟨fun x ↦ keep' x && keep x, ?_, fun x hx hnot ↦ ?_⟩
  · rw [hkeep', hkeep, List.filter_filter]
  · have hfirst := hP x hx hnot
    have hsecond := hP' x (hkeep ▸ List.mem_filter.mpr ⟨hx, hfirst⟩) hnot
    simp only [hfirst, hsecond, Bool.and_self]

theorem mono (h : Lost P r t) (hP : ∀ m, ∀ s ∈ r.sentences m, P m s → P' m s) : Lost P' r t := by
  refine ⟨h.given, fun m ↦ ?_⟩
  obtain ⟨keep, hkeep, hkept⟩ := h.kept m
  exact ⟨keep, hkeep, fun s hs hnot ↦ hkept s hs fun h ↦ hnot (hP m s hs h)⟩

theorem drop (r : Router) (h : ∀ s ∈ r.sentences m, p s = true → P m s) :
    Lost P r (r.drop m p) := by
  refine ⟨rfl, fun n ↦ ?_⟩
  by_cases hn : n = m
  · subst hn
    refine ⟨(!p ·), Router.drop_self .., fun s hs hnot ↦ ?_⟩
    simpa using mt (h s hs) hnot
  · refine ⟨fun _ ↦ true, ?_, fun _ _ _ ↦ rfl⟩
    rw [Router.drop_of_ne _ _ hn, List.filter_eq_self.mpr fun _ _ ↦ rfl]

theorem mem_of_mem (h : Lost P r t) {x : Sentence} (hx : x ∈ t.sentences m) :
    x ∈ r.sentences m := by
  obtain ⟨keep, hkeep, -⟩ := h.kept m
  rw [hkeep] at hx
  exact List.mem_of_mem_filter hx

theorem mem (h : Lost P r t) {x : Sentence} (hx : x ∈ r.sentences m) (hP : ¬P m x) :
    x ∈ t.sentences m := by
  obtain ⟨keep, hkeep, hkept⟩ := h.kept m
  rw [hkeep]
  exact List.mem_filter.mpr ⟨hx, hkept x hx hP⟩

theorem same (h : Lost P r t) (hP : ∀ x ∈ r.sentences m, ¬P m x) :
    t.sentences m = r.sentences m := by
  obtain ⟨keep, hkeep, hkept⟩ := h.kept m
  rw [hkeep]
  exact List.filter_eq_self.mpr fun x hx ↦ hkept x hx (hP x hx)

end Lost

end Losses

end Rosmon.Workflows
