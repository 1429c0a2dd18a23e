import Rosmon.Go.Map
import Rosmon.Library.Changes

namespace Rosmon.Inactive

open Go Library

/-- A row as the router library delivers it; a key that it lacks reads as the empty text. -/
structure Sentence where
  get : String → String

def Sentence.ofWords (words : List (String × String)) : Sentence :=
  ⟨fun key ↦ (words.lookup key).getD ""⟩

structure PPPSecret where
  id : String
  name : String
  password : String
  service : String
  profile : String
  localAddr : String
  remoteAddr : String
  callerID : String
  routes : String
  ipv6Routes : String
  remoteIPv6Prefix : String
  limitBytesIn : ℤ
  limitBytesOut : ℤ
  lastLoggedOut : String
  lastCallerID : String
  lastDisconnectReason : String
  disabled : Bool
  comment : String
  deriving DecidableEq, Inhabited

structure HotspotUser where
  id : String
  name : String
  password : String
  profile : String
  server : String
  disabled : Bool
  comment : String
  macAddress : String
  address : String
  email : String
  routes : String
  limitUptime : String
  limitBytesTotal : ℤ
  limitBytesIn : ℤ
  limitBytesOut : ℤ
  bytesIn : ℤ
  bytesOut : ℤ
  uptime : String
  deriving DecidableEq, Inhabited

/-- `SecretEvent` and `UserEvent`. -/
structure RowEvent (ρ : Type) where
  row : ρ
  dead : Bool

inductive Action
  | added
  | removed
  | changed
  deriving DecidableEq

structure Event (π : Type) where
  row : π
  action : Action
  deriving DecidableEq

/-- The fields of `PPPInactiveEvent` besides the action. -/
structure PPPInactive where
  name : String
  profile : String
  callerID : String
  lastCallerID : String
  lastLoggedOut : String
  lastDisconnectReason : String
  address : String
  deriving DecidableEq

abbrev PPPInactiveEvent := Event PPPInactive

abbrev HotspotInactiveEvent := Event HotspotUser

/-- `ε` is what a kind of stream keeps of the sessions besides their names. -/
structure InactiveState (ρ ε : Type) where
  configured : Map ρ
  configuredIDs : Map String
  activeIDs : Map String
  activeCounts : Map ℕ
  kept : ε
  inactive : Map ρ

/-- What the two kinds of stream differ in: the columns of their rows, what they keep of a
session, and the row that they make up for an event. -/
structure Feed (ρ ε π : Type) where
  id : ρ → String
  name : ρ → String
  disabled : ρ → Bool
  userKey : String
  start : ε
  note : Sentence → String → ε → ε
  build : ε → ρ → π
  title : π → String
  plain : π → π
  title_build : ∀ kept r, title (build kept r) = name r
  build_note : ∀ row n kept r, name r ≠ n → build (note row n kept) r = build kept r
  plain_build : ∀ kept kept' r, plain (build kept r) = plain (build kept' r)

def buildPPPInactiveEvent (lastAddress : Map String) (sec : PPPSecret) : PPPInactive where
  name := sec.name
  profile := sec.profile
  callerID := sec.callerID
  lastCallerID := sec.lastCallerID
  lastLoggedOut := sec.lastLoggedOut
  lastDisconnectReason := sec.lastDisconnectReason
  address := lastAddress.text sec.name

/-- The address of a named session, if it has one, is the last one seen for the name. -/
def noteAddress (row : Sentence) (name : String) (lastAddress : Map String) : Map String :=
  if row.get "address" ≠ "" then lastAddress.insert name (row.get "address") else lastAddress

def pppFeed : Feed PPPSecret (Map String) PPPInactive where
  id := PPPSecret.id
  name := PPPSecret.name
  disabled := PPPSecret.disabled
  userKey := "name"
  start := ∅
  note := noteAddress
  build := buildPPPInactiveEvent
  title := PPPInactive.name
  plain row := { row with address := "" }
  title_build _ _ := rfl
  build_note row n kept r h := by
    unfold noteAddress
    split
    · simp only [buildPPPInactiveEvent, Map.text, Map.get_insert, if_neg h]
    · rfl
  plain_build _ _ _ := rfl

def hotspotFeed : Feed HotspotUser Unit HotspotUser where
  id := HotspotUser.id
  name := HotspotUser.name
  disabled := HotspotUser.disabled
  userKey := "user"
  start := ()
  note _ _ kept := kept
  build _ user := user
  title := HotspotUser.name
  plain := id
  title_build _ _ := rfl
  build_note _ _ _ _ _ := rfl
  plain_build _ _ _ := rfl

abbrev PPPInactiveState := InactiveState PPPSecret (Map String)

abbrev HotspotInactiveState := InactiveState HotspotUser Unit

variable {ρ ε π : Type}

def newInactiveState (F : Feed ρ ε π) : InactiveState ρ ε := ⟨∅, ∅, ∅, ∅, F.start, ∅⟩

namespace InactiveState

def decrementActiveLocked (name : String) (s : InactiveState ρ ε) : InactiveState ρ ε :=
  if s.activeCounts.number name ≤ 1 then
    { s with activeCounts := s.activeCounts.erase name }
  else
    { s with activeCounts := s.activeCounts.insert name (s.activeCounts.number name - 1) }

def setActiveLocked (id name : String) (s : InactiveState ρ ε) : InactiveState ρ ε :=
  if id = "" then
    if s.activeCounts.number name = 0 then
      { s with activeCounts := s.activeCounts.insert name 1 }
    else s
  else
    let old := s.activeIDs.text id
    if old = name then s
    else
      let s := if old ≠ "" then s.decrementActiveLocked old else s
      { s with
        activeIDs := s.activeIDs.insert id name
        activeCounts := s.activeCounts.insert name (s.activeCounts.number name + 1) }

def removeActiveLocked (id name : String) (s : InactiveState ρ ε) : InactiveState ρ ε :=
  let s := if id ≠ "" then { s with activeIDs := s.activeIDs.erase id } else s
  if name ≠ "" then s.decrementActiveLocked name else s

variable (F : Feed ρ ε π)

/-- What `onSecret` and `onUser` do to the maps before they reconcile. -/
def onSecretLocked (e : RowEvent ρ) (s : InactiveState ρ ε) : InactiveState ρ ε :=
  if e.dead then
    let name := if F.name e.row = "" then s.configuredIDs.text (F.id e.row) else F.name e.row
    { s with
      configured := if name ≠ "" then s.configured.erase name else s.configured
      configuredIDs :=
        if F.id e.row ≠ "" then s.configuredIDs.erase (F.id e.row) else s.configuredIDs }
  else if F.name e.row ≠ "" then
    let s :=
      if F.id e.row ≠ "" then
        let old := s.configuredIDs.text (F.id e.row)
        { s with
          configured :=
            if old ≠ "" ∧ old ≠ F.name e.row then s.configured.erase old else s.configured
          configuredIDs := s.configuredIDs.insert (F.id e.row) (F.name e.row) }
      else s
    { s with
      configured :=
        if F.disabled e.row then s.configured.erase (F.name e.row)
        else s.configured.insert (F.name e.row) e.row }
  else s

/-- What `onActive` does to the maps before it reconciles. -/
def onActiveLocked (row : Sentence) (s : InactiveState ρ ε) : InactiveState ρ ε :=
  let id := row.get ".id"
  let name := row.get F.userKey
  if row.get ".dead" = "true" then
    s.removeActiveLocked id (if name = "" then s.activeIDs.text id else name)
  else if name ≠ "" then
    let s := s.setActiveLocked id name
    { s with kept := F.note row name s.kept }
  else s

/-- The enabled rows that no session uses. -/
def next (s : InactiveState ρ ε) : Map ρ :=
  s.configured.filter fun name _ ↦ s.activeCounts.number name = 0

variable [DecidableEq ρ]

/-- The event for a name that was inactive. -/
def leave (s : InactiveState ρ ε) (e : Sigma fun _ : String ↦ ρ) : Option (Event π) :=
  match s.next.get e.1 with
  | none => some ⟨F.build s.kept e.2, .removed⟩
  | some cur => if cur ≠ e.2 then some ⟨F.build s.kept cur, .changed⟩ else none

/-- The event for a name that is inactive now. -/
def enter (s : InactiveState ρ ε) (e : Sigma fun _ : String ↦ ρ) : Option (Event π) :=
  match s.inactive.get e.1 with
  | none => some ⟨F.build s.kept e.2, .added⟩
  | some _ => none

def reconcileLocked (order order' : RangeOrder ρ) (s : InactiveState ρ ε) :
    InactiveState ρ ε × List (Event π) :=
  ({ s with inactive := s.next },
    (order.visit s.inactive.entries).filterMap (s.leave F) ++
      (order'.visit s.next.entries).filterMap (s.enter F))

end InactiveState

/-- What one of the two underlying streams delivers. -/
inductive Arrival (ρ : Type)
  | secret (e : RowEvent ρ)
  | active (row : Sentence)

namespace InactiveState

variable (F : Feed ρ ε π)

def locked (a : Arrival ρ) (s : InactiveState ρ ε) : InactiveState ρ ε :=
  match a with
  | .secret e => s.onSecretLocked F e
  | .active row => s.onActiveLocked F row

/-- The critical section of a callback: the state it leaves and the events it will emit. -/
def callback [DecidableEq ρ] (a : Arrival ρ) (order order' : RangeOrder ρ)
    (s : InactiveState ρ ε) : InactiveState ρ ε × List (Event π) :=
  (s.locked F a).reconcileLocked F order order'

end InactiveState

/-- What an event tells a client, of which `look` says how much of a row it keeps. -/
def Event.change {γ : Type} (F : Feed ρ ε π) (look : π → γ) (e : Event π) : Change String γ where
  key := F.title e.row
  value := if e.action = .removed then none else some (look e.row)

/-- The rows that a client shows after it has applied the events to an empty table. -/
def shown {γ : Type} (F : Feed ρ ε π) (look : π → γ) (events : List (Event π)) :
    String → Option γ :=
  Change.replay (fun _ ↦ none) (events.map (Event.change F look))

namespace InactiveState

variable {F : Feed ρ ε π} {s : InactiveState ρ ε}

/-- What a client should show. -/
def view {γ : Type} (F : Feed ρ ε π) (look : π → γ) (s : InactiveState ρ ε) : String → Option γ :=
  fun n ↦ (s.inactive.get n).map fun r ↦ look (F.build s.kept r)

/-- The rows of a map are stored under their names. -/
def Keyed (F : Feed ρ ε π) (m : Map ρ) : Prop := ∀ n r, m.get n = some r → F.name r = n

theorem Keyed.empty : Keyed F ∅ := by
  intro n r h
  cases h

theorem Keyed.erase {m : Map ρ} (h : Keyed F m) (n : String) : Keyed F (m.erase n) := by
  intro k r hk
  rw [Map.get_erase] at hk
  split_ifs at hk
  exact h k r hk

theorem Keyed.erase_if {m : Map ρ} (h : Keyed F m) {p : Prop} {_ : Decidable p} {n : String} :
    Keyed F (if p then m.erase n else m) := by
  split
  · exact h.erase n
  · exact h

theorem Keyed.insert {m : Map ρ} (h : Keyed F m) (r : ρ) : Keyed F (m.insert (F.name r) r) := by
  intro k r' hk
  rw [Map.get_insert] at hk
  split_ifs at hk with hname
  · cases hk
    exact hname.symm
  · exact h k r' hk

theorem get_next (s : InactiveState ρ ε) (n : String) :
    s.next.get n = if s.activeCounts.number n = 0 then s.configured.get n else none := by
  unfold next
  rw [Map.get_filter]
  cases s.configured.get n <;> simp [Option.filter]

theorem Keyed.next (h : Keyed F s.configured) : Keyed F s.next := by
  intro n r hn
  rw [get_next] at hn
  split_ifs at hn
  exact h n r hn

theorem decrementActiveLocked_number (name n : String) :
    (s.decrementActiveLocked name).activeCounts.number n =
      if n = name then s.activeCounts.number name - 1 else s.activeCounts.number n := by
  unfold decrementActiveLocked
  split
  · rw [Map.number_erase]
    split_ifs <;> omega
  · rw [Map.number_insert]

@[simp] theorem decrementActiveLocked_activeIDs (name : String) :
    (s.decrementActiveLocked name).activeIDs = s.activeIDs := by
  unfold decrementActiveLocked
  split <;> rfl

@[simp] theorem decrementActiveLocked_kept (name : String) :
    (s.decrementActiveLocked name).kept = s.kept := by
  unfold decrementActiveLocked
  split <;> rfl

theorem setActiveLocked_kept (id name : String) :
    (s.setActiveLocked id name).kept = s.kept := by
  unfold setActiveLocked
  dsimp only
  split_ifs <;> simp

theorem removeActiveLocked_kept (id name : String) :
    (s.removeActiveLocked id name).kept = s.kept := by
  unfold removeActiveLocked
  dsimp only
  split_ifs <;> simp

theorem onActiveLocked_kept (F : Feed ρ ε π) (row : Sentence) : (s.onActiveLocked F row).kept =
    if row.get ".dead" ≠ "true" ∧ row.get F.userKey ≠ "" then
      F.note row (row.get F.userKey) s.kept
    else s.kept := by
  have hset := setActiveLocked_kept (s := s) (row.get ".id") (row.get F.userKey)
  unfold onActiveLocked
  dsimp only
  by_cases hdead : row.get ".dead" = "true"
  · simp only [hdead, removeActiveLocked_kept, ne_eq, not_true_eq_false, false_and, if_true,
      if_false]
  · by_cases hempty : row.get F.userKey = ""
    · simp only [hdead, hempty, ne_eq, not_true_eq_false, and_false, if_false]
    · simp only [hdead, hempty, hset, ne_eq, not_false_eq_true, and_self, if_true, if_false]

/-- The parts of the state that the sessions have no say in. -/
structure SameRows (s t : InactiveState ρ ε) : Prop where
  configured : t.configured = s.configured
  configuredIDs : t.configuredIDs = s.configuredIDs
  inactive : t.inactive = s.inactive

theorem decrementActiveLocked_rows (name : String) :
    s.SameRows (s.decrementActiveLocked name) := by
  unfold decrementActiveLocked
  split <;> exact ⟨rfl, rfl, rfl⟩

theorem SameRows.trans {t u : InactiveState ρ ε} (h : s.SameRows t) (h' : t.SameRows u) :
    s.SameRows u :=
  ⟨h'.configured.trans h.configured, h'.configuredIDs.trans h.configuredIDs,
    h'.inactive.trans h.inactive⟩

theorem setActiveLocked_rows (id name : String) : s.SameRows (s.setActiveLocked id name) := by
  have hold : s.SameRows (if s.activeIDs.text id ≠ "" then
      s.decrementActiveLocked (s.activeIDs.text id) else s) := by
    split
    · exact decrementActiveLocked_rows _
    · exact ⟨rfl, rfl, rfl⟩
  unfold setActiveLocked
  split
  · split <;> exact ⟨rfl, rfl, rfl⟩
  · dsimp only
    split
    · exact ⟨rfl, rfl, rfl⟩
    · exact hold.trans ⟨rfl, rfl, rfl⟩

theorem removeActiveLocked_rows (id name : String) :
    s.SameRows (s.removeActiveLocked id name) := by
  have hid : s.SameRows
      (if id ≠ "" then { s with activeIDs := s.activeIDs.erase id } else s) := by
    split <;> exact ⟨rfl, rfl, rfl⟩
  unfold removeActiveLocked
  dsimp only
  split
  · exact hid.trans (decrementActiveLocked_rows name)
  · exact hid

theorem onActiveLocked_rows (row : Sentence) : s.SameRows (s.onActiveLocked F row) := by
  unfold onActiveLocked
  dsimp only
  split
  · exact removeActiveLocked_rows _ _
  · split
    · have h := s.setActiveLocked_rows (row.get ".id") (row.get F.userKey)
      exact ⟨h.configured, h.configuredIDs, h.inactive⟩
    · exact ⟨rfl, rfl, rfl⟩

/-- The parts of the state that the configuration has no say in. -/
structure SameSessions (s t : InactiveState ρ ε) : Prop where
  activeIDs : t.activeIDs = s.activeIDs
  activeCounts : t.activeCounts = s.activeCounts
  kept : t.kept = s.kept
  inactive : t.inactive = s.inactive

theorem onSecretLocked_sessions (e : RowEvent ρ) : s.SameSessions (s.onSecretLocked F e) := by
  constructor <;> unfold onSecretLocked <;> split_ifs <;> rfl

theorem onSecretLocked_keyed (e : RowEvent ρ) (h : Keyed F s.configured) :
    Keyed F (s.onSecretLocked F e).configured := by
  unfold onSecretLocked
  split
  · exact h.erase_if
  · split
    · dsimp only
      split_ifs
      · exact (h.erase _).erase _
      · exact h.erase _
      · exact h.erase _
      · exact (h.erase _).insert _
      · exact h.insert _
      · exact h.insert _
    · exact h

theorem locked_inactive (a : Arrival ρ) : (s.locked F a).inactive = s.inactive := by
  cases a with
  | secret e => exact (onSecretLocked_sessions e).inactive
  | active row => exact (onActiveLocked_rows row).inactive

theorem locked_keyed (a : Arrival ρ) (h : Keyed F s.configured) :
    Keyed F (s.locked F a).configured := by
  cases a with
  | secret e => exact onSecretLocked_keyed e h
  | active row =>
    have hrows : (s.onActiveLocked F row).configured = s.configured :=
      (onActiveLocked_rows row).configured
    show Keyed F (s.onActiveLocked F row).configured
    rw [hrows]
    exact h

section Reconcile

variable [DecidableEq ρ] {γ : Type} (look : π → γ) (order order' : RangeOrder ρ)

/-- Each event tells what the client should show under its name. -/
theorem reconcileLocked_tells (hconf : Keyed F s.configured) (hin : Keyed F s.inactive) :
    ∀ c ∈ (s.reconcileLocked F order order').2.map (Event.change F look),
      c.value = (s.reconcileLocked F order order').1.view F look c.key := by
  intro c hc
  obtain ⟨e, he, rfl⟩ := List.mem_map.mp hc
  have hview : ∀ n, (s.reconcileLocked F order order').1.view F look n =
      (s.next.get n).map fun r ↦ look (F.build s.kept r) := fun _ ↦ rfl
  rw [hview]
  rcases List.mem_append.mp he with hleft | hin'
  · obtain ⟨⟨n, prev⟩, hmem, hprev⟩ := List.mem_filterMap.mp hleft
    have hprevName : F.name prev = n :=
      hin n prev (Map.mem_entries.mp ((order.perm _).mem_iff.mp hmem))
    unfold leave at hprev
    split at hprev
    next hnone =>
      cases hprev
      simp only [Event.change, F.title_build, hprevName, hnone, if_pos, Option.map_none]
    next cur hcur =>
      split_ifs at hprev
      cases hprev
      have hcurName : F.name cur = n := hconf.next n cur hcur
      simp [Event.change, F.title_build, hcurName, hcur]
  · obtain ⟨⟨n, cur⟩, hmem, hcur⟩ := List.mem_filterMap.mp hin'
    have hlookup : s.next.get n = some cur :=
      Map.mem_entries.mp ((order'.perm _).mem_iff.mp hmem)
    have hcurName : F.name cur = n := hconf.next n cur hlookup
    unfold enter at hcur
    split at hcur
    next =>
      cases hcur
      simp [Event.change, F.title_build, hcurName, hlookup]
    next => cases hcur

/-- A name that no event mentions is as inactive as it was, with the same row. -/
theorem reconcileLocked_silent (hconf : Keyed F s.configured) (hin : Keyed F s.inactive)
    {n : String} (h : ∀ c ∈ (s.reconcileLocked F order order').2.map (Event.change F look),
      c.key ≠ n) : s.next.get n = s.inactive.get n := by
  have hno : ∀ e ∈ (s.reconcileLocked F order order').2, F.title e.row ≠ n :=
    fun e he ↦ h _ (List.mem_map_of_mem he)
  cases hprev : s.inactive.get n with
  | none =>
    cases hcur : s.next.get n with
    | none => rfl
    | some cur =>
      have hmem : (⟨n, cur⟩ : Sigma fun _ : String ↦ ρ) ∈ order'.visit s.next.entries :=
        (order'.perm _).mem_iff.mpr (Map.mem_entries.mpr hcur)
      have hevent : (⟨F.build s.kept cur, .added⟩ : Event π) ∈
          (s.reconcileLocked F order order').2 :=
        List.mem_append_right _ (List.mem_filterMap.mpr ⟨_, hmem, by simp only [enter, hprev]⟩)
      exact absurd ((F.title_build _ _).trans (hconf.next n cur hcur)) (hno _ hevent)
  | some prev =>
    have hmem : (⟨n, prev⟩ : Sigma fun _ : String ↦ ρ) ∈ order.visit s.inactive.entries :=
      (order.perm _).mem_iff.mpr (Map.mem_entries.mpr hprev)
    cases hcur : s.next.get n with
    | none =>
      have hevent : (⟨F.build s.kept prev, .removed⟩ : Event π) ∈
          (s.reconcileLocked F order order').2 :=
        List.mem_append_left _ (List.mem_filterMap.mpr ⟨_, hmem, by simp only [leave, hcur]⟩)
      exact absurd ((F.title_build _ _).trans (hin n prev hprev)) (hno _ hevent)
    | some cur =>
      by_cases hsame : cur = prev
      · rw [hsame]
      · have hevent : (⟨F.build s.kept cur, .changed⟩ : Event π) ∈
            (s.reconcileLocked F order order').2 :=
          List.mem_append_left _ (List.mem_filterMap.mpr
            ⟨_, hmem, by simp only [leave, hcur, ne_eq, hsame, not_false_eq_true, if_true]⟩)
        exact absurd ((F.title_build _ _).trans (hconf.next n cur hcur)) (hno _ hevent)

/-- The events take a client from what was inactive to what is, if the rows that stay
inactive look as before. -/
theorem reconcileLocked_replay (hconf : Keyed F s.configured) (hin : Keyed F s.inactive)
    {m : String → Option γ}
    (hm : ∀ n, s.next.get n = s.inactive.get n →
      m n = (s.next.get n).map fun r ↦ look (F.build s.kept r)) :
    Change.replay m ((s.reconcileLocked F order order').2.map (Event.change F look)) =
      (s.reconcileLocked F order order').1.view F look :=
  Change.replay_eq (reconcileLocked_tells look order order' hconf hin) fun n hn ↦
    hm n (reconcileLocked_silent look order order' hconf hin hn)

end Reconcile

end InactiveState

end Rosmon.Inactive
