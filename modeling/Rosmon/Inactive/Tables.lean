import Rosmon.Inactive.State
import Rosmon.Library.Run

namespace Rosmon.Inactive

open Go Library

variable {ρ ε π : Type}

/-- The two tables of the router behind a stream: the rows by their ids, and who is logged
in under each session id. -/
structure Tables (ρ : Type) where
  secrets : Map ρ
  sessions : Map String

namespace Tables

variable (F : Feed ρ ε π)

/-- A dead row goes; a live one is as the event shows it. A live row that gives no name
says nothing. -/
def take (a : Arrival ρ) (t : Tables ρ) : Tables ρ :=
  match a with
  | .secret e =>
    if e.dead then { t with secrets := t.secrets.erase (F.id e.row) }
    else if F.name e.row = "" then t
    else { t with secrets := t.secrets.insert (F.id e.row) e.row }
  | .active row =>
    if row.get ".dead" = "true" then { t with sessions := t.sessions.erase (row.get ".id") }
    else if row.get F.userKey = "" then t
    else { t with sessions := t.sessions.insert (row.get ".id") (row.get F.userKey) }

/-- The row has an id; a name that it gives is its own if it is dead, and no other row's if
it is live. -/
def FitsSecret (t : Tables ρ) (e : RowEvent ρ) : Prop :=
  F.id e.row ≠ "" ∧ (F.name e.row = "" ∨
    if e.dead then (t.secrets.get (F.id e.row)).map F.name = some (F.name e.row)
    else ∀ other ∈ t.secrets.entries, F.name other.2 = F.name e.row → other.1 = F.id e.row)

/-- The session has an id; if it is dead, a name that it gives is its own. -/
def FitsActive (t : Tables ρ) (row : Sentence) : Prop :=
  row.get ".id" ≠ "" ∧ (row.get ".dead" = "true" → row.get F.userKey = "" ∨
    t.sessions.get (row.get ".id") = some (row.get F.userKey))

/-- The events that two router tables can give rise to. -/
def Fits (t : Tables ρ) : Arrival ρ → Prop
  | .secret e => t.FitsSecret F e
  | .active row => t.FitsActive F row

instance (t : Tables ρ) (e : RowEvent ρ) : Decidable (t.FitsSecret F e) :=
  inferInstanceAs (Decidable (_ ∧ _))

instance (t : Tables ρ) (row : Sentence) : Decidable (t.FitsActive F row) :=
  inferInstanceAs (Decidable (_ ∧ _))

instance (t : Tables ρ) (a : Arrival ρ) : Decidable (t.Fits F a) :=
  match a with
  | .secret e => inferInstanceAs (Decidable (t.FitsSecret F e))
  | .active row => inferInstanceAs (Decidable (t.FitsActive F row))

/-- The enabled names that nobody is logged in under, with their rows. -/
def Idle (t : Tables ρ) (n : String) (r : ρ) : Prop :=
  (∃ id, t.secrets.get id = some r) ∧ F.name r = n ∧ F.disabled r = false ∧
    ∀ id, t.sessions.get id ≠ some n

end Tables

/-- The maps of the stream say of the tables what they are there to say. -/
structure Mirrors (F : Feed ρ ε π) (t : Tables ρ) (s : InactiveState ρ ε) : Prop where
  ids : ∀ id, s.configuredIDs.get id = (t.secrets.get id).map F.name
  configured : ∀ n r, s.configured.get n = some r ↔
    F.name r = n ∧ F.disabled r = false ∧ ∃ id, t.secrets.get id = some r
  named : ∀ id r, t.secrets.get id = some r → F.name r ≠ ""
  distinct : ∀ id id' r r', t.secrets.get id = some r → t.secrets.get id' = some r' →
    F.name r = F.name r' → id = id'
  sessions : ∀ id, s.activeIDs.get id = t.sessions.get id
  used : ∀ id n, t.sessions.get id = some n → n ≠ ""
  counts : ∀ n, s.activeCounts.number n = t.sessions.holders n

namespace Mirrors

variable {F : Feed ρ ε π} {t : Tables ρ} {s : InactiveState ρ ε}

theorem keyed (h : Mirrors F t s) : InactiveState.Keyed F s.configured :=
  fun n r hr ↦ ((h.configured n r).mp hr).1

/-- The name that the stream has under an id is the one that the tables have there. -/
theorem text_ids (h : Mirrors F t s) (id : String) :
    s.configuredIDs.text id = ((t.secrets.get id).map F.name).getD "" := by
  unfold Map.text
  rw [h.ids]

theorem text_sessions (h : Mirrors F t s) (id : String) :
    s.activeIDs.text id = t.sessions.text id := by
  unfold Map.text
  rw [h.sessions]

/-- A row that goes, known to the stream by its id. -/
theorem dead_secret (h : Mirrors F t s) {id : String} {r : ρ} (hr : t.secrets.get id = some r) :
    Mirrors F { t with secrets := t.secrets.erase id }
      { s with
        configured := s.configured.erase (F.name r)
        configuredIDs := s.configuredIDs.erase id } := by
  have hget : ∀ id' r', Map.get (t.secrets.erase id) id' = some r' →
      id' ≠ id ∧ t.secrets.get id' = some r' := by
    intro id' r' hr'
    rw [Map.get_erase] at hr'
    split_ifs at hr' with heq
    exact ⟨heq, hr'⟩
  constructor
  · intro id'
    rw [Map.get_erase, Map.get_erase]
    split_ifs with heq
    · rfl
    · exact h.ids id'
  · intro n r'
    rw [Map.get_erase]
    constructor
    · intro hr'
      split_ifs at hr' with hn
      obtain ⟨hname, henabled, id', hid'⟩ := (h.configured n r').mp hr'
      have hne : id' ≠ id := by
        intro heq
        rw [heq, hr] at hid'
        cases hid'
        exact hn hname.symm
      exact ⟨hname, henabled, id', by rw [Map.get_erase, if_neg hne]; exact hid'⟩
    · intro hr'
      obtain ⟨hname, henabled, id', hid'⟩ := hr'
      obtain ⟨hne, hrow⟩ := hget id' r' hid'
      have hn : n ≠ F.name r := by
        intro heq
        exact hne (h.distinct id' id r' r hrow hr (hname.trans heq))
      rw [if_neg hn]
      exact (h.configured n r').mpr ⟨hname, henabled, id', hrow⟩
  · intro id' r' hr'
    exact h.named id' r' (hget id' r' hr').2
  · intro id₁ id₂ r₁ r₂ h₁ h₂
    exact h.distinct id₁ id₂ r₁ r₂ (hget id₁ r₁ h₁).2 (hget id₂ r₂ h₂).2
  · exact h.sessions
  · exact h.used
  · exact h.counts

/-- An id that the tables do not have can go without a trace. -/
theorem unknown_secret (h : Mirrors F t s) {id : String} (hr : t.secrets.get id = none) :
    Mirrors F { t with secrets := t.secrets.erase id }
      { s with configuredIDs := s.configuredIDs.erase id } := by
  have hid : s.configuredIDs.get id = none := by rw [h.ids, hr, Option.map_none]
  rw [Map.erase_of_none hr, Map.erase_of_none hid]
  exact h

/-- A row that is there after the event, under a name that no other row has. -/
theorem live_secret (h : Mirrors F t s) {e : RowEvent ρ} (hname : F.name e.row ≠ "")
    (hunique : ∀ id r, t.secrets.get id = some r → F.name r = F.name e.row → id = F.id e.row)
    {configured : Map ρ} (hconfigured : ∀ n, configured.get n =
      if n = F.name e.row then if F.disabled e.row then none else some e.row
      else if (t.secrets.get (F.id e.row)).map F.name = some n then none
      else s.configured.get n) :
    Mirrors F { t with secrets := t.secrets.insert (F.id e.row) e.row }
      { s with
        configured := configured
        configuredIDs := s.configuredIDs.insert (F.id e.row) (F.name e.row) } := by
  have hget : ∀ id r, Map.get (t.secrets.insert (F.id e.row) e.row) id = some r ↔
      id = F.id e.row ∧ e.row = r ∨ id ≠ F.id e.row ∧ t.secrets.get id = some r := by
    intro id r
    rw [Map.get_insert]
    split_ifs with heq
    · simp [heq]
    · simp [heq]
  constructor
  · intro id
    rw [Map.get_insert, Map.get_insert]
    split_ifs
    · rfl
    · exact h.ids id
  · intro n r
    rw [hconfigured]
    constructor
    · intro hr
      split_ifs at hr with hn hdisabled hold
      · cases hr
        exact ⟨hn.symm, by simpa using hdisabled, F.id e.row, (hget _ _).mpr (.inl ⟨rfl, rfl⟩)⟩
      · obtain ⟨hrname, henabled, id, hid⟩ := (h.configured n r).mp hr
        have hne : id ≠ F.id e.row := by
          intro heq
          rw [heq] at hid
          rw [hid, Option.map_some, hrname] at hold
          exact hold rfl
        exact ⟨hrname, henabled, id, (hget _ _).mpr (.inr ⟨hne, hid⟩)⟩
    · intro hr
      obtain ⟨hrname, henabled, id, hid⟩ := hr
      rcases (hget id r).mp hid with ⟨heq, hrow⟩ | ⟨hne, hrow⟩
      · subst hrow
        rw [if_pos hrname.symm, henabled]
        rfl
      · have hn : n ≠ F.name e.row := by
          intro heq
          exact hne (hunique id r hrow (hrname.trans heq))
        have hold : (t.secrets.get (F.id e.row)).map F.name ≠ some n := by
          intro hold
          obtain ⟨r', hr', hr'name⟩ := Option.map_eq_some_iff.mp hold
          exact hne (h.distinct id _ r r' hrow hr' (hrname.trans hr'name.symm))
        rw [if_neg hn, if_neg hold]
        exact (h.configured n r).mpr ⟨hrname, henabled, id, hrow⟩
  · intro id r hr
    rcases (hget id r).mp hr with ⟨-, hrow⟩ | ⟨-, hrow⟩
    · exact hrow ▸ hname
    · exact h.named id r hrow
  · intro id₁ id₂ r₁ r₂ h₁ h₂ hnames
    rcases (hget id₁ r₁).mp h₁ with ⟨heq₁, hrow₁⟩ | ⟨hne₁, hrow₁⟩ <;>
      rcases (hget id₂ r₂).mp h₂ with ⟨heq₂, hrow₂⟩ | ⟨hne₂, hrow₂⟩
    · rw [heq₁, heq₂]
    · exact absurd (hunique id₂ r₂ hrow₂ (by rw [← hnames, hrow₁])) hne₂
    · exact absurd (hunique id₁ r₁ hrow₁ (by rw [hnames, hrow₂])) hne₁
    · exact h.distinct id₁ id₂ r₁ r₂ hrow₁ hrow₂ hnames
  · exact h.sessions
  · exact h.used
  · exact h.counts

theorem onSecretLocked (h : Mirrors F t s) {e : RowEvent ρ} (hfits : t.FitsSecret F e) :
    Mirrors F (t.take F (.secret e)) (s.onSecretLocked F e) := by
  obtain ⟨hid, hname⟩ := hfits
  unfold Tables.take InactiveState.onSecretLocked
  dsimp only
  by_cases hdead : e.dead
  · rw [if_pos hdead, if_pos hdead, if_pos hid]
    rw [if_pos hdead] at hname
    cases hr : t.secrets.get (F.id e.row) with
    | none =>
      have hempty : F.name e.row = "" := by
        rcases hname with hempty | hsome
        · exact hempty
        · rw [hr] at hsome
          cases hsome
      have htext : s.configuredIDs.text (F.id e.row) = "" := by rw [h.text_ids, hr]; rfl
      rw [if_pos hempty, htext, if_neg (by simp)]
      exact h.unknown_secret hr
    | some r =>
      have htext : s.configuredIDs.text (F.id e.row) = F.name r := by rw [h.text_ids, hr]; rfl
      have hown : (if F.name e.row = "" then s.configuredIDs.text (F.id e.row)
          else F.name e.row) = F.name r := by
        rcases hname with hempty | hsome
        · rw [if_pos hempty, htext]
        · have heq : F.name r = F.name e.row := by
            rw [hr] at hsome
            exact Option.some.inj hsome
          rw [htext, heq, ite_self]
      rw [hown, if_pos (h.named _ _ hr)]
      exact h.dead_secret hr
  · rw [if_neg hdead, if_neg hdead]
    by_cases hempty : F.name e.row = ""
    · rw [if_pos hempty, if_neg (by simp [hempty])]
      exact h
    · rw [if_neg hempty, if_pos hempty, if_pos hid]
      have hunique : ∀ id r, t.secrets.get id = some r → F.name r = F.name e.row →
          id = F.id e.row := by
        intro id r hr hsame
        have hothers := hname.resolve_left hempty
        rw [if_neg hdead] at hothers
        exact hothers ⟨id, r⟩ (Map.mem_entries.mpr hr) hsame
      apply h.live_secret hempty hunique
      intro n
      have hset : ∀ m : Map ρ, Map.get (if F.disabled e.row then m.erase (F.name e.row)
          else m.insert (F.name e.row) e.row) n = if n = F.name e.row then
            if F.disabled e.row then none else some e.row else m.get n := by
        intro m
        split
        · exact Map.get_erase _ _ _
        · exact Map.get_insert _ _ _ _
      rw [hset, h.text_ids]
      by_cases hn : n = F.name e.row
      · rw [if_pos hn, if_pos hn]
      · rw [if_neg hn, if_neg hn]
        cases hr : t.secrets.get (F.id e.row) with
        | none => simp
        | some r =>
          have hold := h.named _ _ hr
          by_cases hsame : F.name r = F.name e.row
          · simp [hsame, Ne.symm hn]
          · simp [hsame, hold, Map.get_erase, eq_comm]

section Sessions

variable {id name : String}

/-- A session that ends takes one from the count of its name. -/
theorem counts_erase (h : Mirrors F t s) (hname : t.sessions.get id = some name) (n : String) :
    (s.decrementActiveLocked name).activeCounts.number n =
      Map.holders (t.sessions.erase id) n := by
  have hcount := h.counts n
  have herase := Map.holders_erase hname n
  rw [InactiveState.decrementActiveLocked_number]
  split_ifs with heq
  · subst heq
    rw [if_pos rfl] at herase
    omega
  · rw [if_neg (Ne.symm heq)] at herase
    omega

theorem removeActiveLocked (h : Mirrors F t s) (hid : id ≠ "")
    (hname : t.sessions.get id = some name) :
    (∀ k, (s.removeActiveLocked id name).activeIDs.get k =
        Map.get (t.sessions.erase id) k) ∧
      ∀ n, (s.removeActiveLocked id name).activeCounts.number n =
        Map.holders (t.sessions.erase id) n := by
  have hused := h.used id name hname
  unfold InactiveState.removeActiveLocked
  rw [if_pos hid, if_pos hused]
  constructor
  · intro k
    rw [InactiveState.decrementActiveLocked_activeIDs, Map.get_erase, Map.get_erase, h.sessions]
  · intro n
    have hcounts := h.counts_erase hname n
    rw [InactiveState.decrementActiveLocked_number] at hcounts ⊢
    exact hcounts

theorem setActiveLocked (h : Mirrors F t s) (hid : id ≠ "") (hname : name ≠ "") :
    (∀ k, (s.setActiveLocked id name).activeIDs.get k =
        Map.get (t.sessions.insert id name) k) ∧
      ∀ n, (s.setActiveLocked id name).activeCounts.number n =
        Map.holders (t.sessions.insert id name) n := by
  unfold InactiveState.setActiveLocked
  rw [if_neg hid, h.text_sessions]
  by_cases hsame : t.sessions.text id = name
  · -- the session is known under this name
    have hget : t.sessions.get id = some name := by
      cases hold : t.sessions.get id with
      | none =>
        rw [Map.text, hold] at hsame
        exact absurd hsame.symm hname
      | some old =>
        rw [Map.text, hold] at hsame
        exact congrArg some hsame
    have hagree : ∀ k, Map.get (t.sessions.insert id name) k = t.sessions.get k := by
      intro k
      rw [Map.get_insert]
      split_ifs with heq
      · rw [heq, hget]
      · rfl
    rw [if_pos hsame]
    constructor
    · intro k
      rw [hagree, h.sessions]
    · intro n
      rw [Map.holders_congr hagree, h.counts]
  · rw [if_neg hsame]
    have hleft : ∀ n, (if t.sessions.text id ≠ "" then
        s.decrementActiveLocked (t.sessions.text id) else s).activeCounts.number n =
          Map.holders (t.sessions.erase id) n := by
      intro n
      cases hold : t.sessions.get id with
      | none =>
        rw [Map.text, hold, if_neg (by simp), Map.erase_of_none hold, h.counts]
      | some old =>
        rw [Map.text, hold, Option.getD_some, if_pos (h.used id old hold)]
        exact h.counts_erase hold n
    have hids : (if t.sessions.text id ≠ "" then
        s.decrementActiveLocked (t.sessions.text id) else s).activeIDs = s.activeIDs := by
      split
      · exact InactiveState.decrementActiveLocked_activeIDs _
      · rfl
    constructor
    · intro k
      dsimp only
      rw [hids, Map.get_insert, Map.get_insert, h.sessions]
    · intro n
      dsimp only
      rw [Map.number_insert, Map.holders_insert, hleft, hleft]
      split_ifs with heq heq' heq'
      · rw [heq]
      · exact absurd heq.symm heq'
      · exact absurd heq'.symm heq
      · rfl

/-- What a change of the sessions has to keep up. -/
theorem with_sessions (h : Mirrors F t s) {s' : InactiveState ρ ε} {sessions : Map String}
    (hrows : s.SameRows s') (hused : ∀ id n, sessions.get id = some n → n ≠ "")
    (hsessions : (∀ id, s'.activeIDs.get id = sessions.get id) ∧
      ∀ n, s'.activeCounts.number n = sessions.holders n) :
    Mirrors F { t with sessions := sessions } s' where
  ids id := by rw [hrows.configuredIDs, h.ids]
  configured n r := by rw [hrows.configured, h.configured]
  named := h.named
  distinct := h.distinct
  sessions := hsessions.1
  used := hused
  counts := hsessions.2

end Sessions

theorem onActiveLocked (h : Mirrors F t s) {row : Sentence} (hfits : t.FitsActive F row) :
    Mirrors F (t.take F (.active row)) (s.onActiveLocked F row) := by
  obtain ⟨hid, hname⟩ := hfits
  have hrows := InactiveState.onActiveLocked_rows row (F := F) (s := s)
  unfold Tables.take
  unfold InactiveState.onActiveLocked at hrows ⊢
  dsimp only at hrows ⊢
  by_cases hdead : row.get ".dead" = "true"
  · rw [if_pos hdead] at hrows ⊢
    rw [if_pos hdead]
    have hused : ∀ id n, Map.get (t.sessions.erase (row.get ".id")) id = some n → n ≠ "" := by
      intro id n hn
      rw [Map.get_erase] at hn
      split_ifs at hn
      exact h.used id n hn
    apply h.with_sessions hrows hused
    rw [h.text_sessions]
    cases hold : t.sessions.get (row.get ".id") with
    | none =>
      have hempty : row.get F.userKey = "" := by
        rcases hname hdead with hempty | hsome
        · exact hempty
        · rw [hold] at hsome
          cases hsome
      have hids : s.activeIDs.get (row.get ".id") = none := by rw [h.sessions, hold]
      rw [if_pos hempty, Map.text, hold, Option.getD_none, Map.erase_of_none hold,
        InactiveState.removeActiveLocked, if_pos hid, if_neg (by simp), Map.erase_of_none hids]
      exact ⟨h.sessions, h.counts⟩
    | some old =>
      have hown : (if row.get F.userKey = "" then t.sessions.text (row.get ".id")
          else row.get F.userKey) = old := by
        rw [Map.text, hold, Option.getD_some]
        rcases hname hdead with hempty | hsome
        · rw [if_pos hempty]
        · rw [hold] at hsome
          rw [← Option.some.inj hsome, ite_self]
      rw [hown]
      exact h.removeActiveLocked hid hold
  · rw [if_neg hdead] at hrows ⊢
    rw [if_neg hdead]
    by_cases hempty : row.get F.userKey = ""
    · rw [if_pos hempty, if_neg (by simp [hempty])]
      exact h
    · rw [if_pos hempty] at hrows ⊢
      rw [if_neg hempty]
      have hused : ∀ id n, Map.get (t.sessions.insert (row.get ".id") (row.get F.userKey)) id =
          some n → n ≠ "" := by
        intro id n hn
        rw [Map.get_insert] at hn
        split_ifs at hn
        · exact Option.some.inj hn ▸ hempty
        · exact h.used id n hn
      exact h.with_sessions hrows hused (h.setActiveLocked hid hempty)

theorem locked (h : Mirrors F t s) {a : Arrival ρ} (hfits : t.Fits F a) :
    Mirrors F (t.take F a) (s.locked F a) := by
  cases a with
  | secret e => exact h.onSecretLocked hfits
  | active row => exact h.onActiveLocked hfits

theorem reconcileLocked [DecidableEq ρ] (h : Mirrors F t s) (order order' : RangeOrder ρ) :
    Mirrors F t (s.reconcileLocked F order order').1 :=
  ⟨h.ids, h.configured, h.named, h.distinct, h.sessions, h.used, h.counts⟩

/-- A name without a session is told of with what was kept of it before. -/
theorem build_locked (h : Mirrors F t s) {a : Arrival ρ} (hfits : t.Fits F a) {n : String} {r : ρ}
    (hr : (s.locked F a).next.get n = some r) :
    F.build (s.locked F a).kept r = F.build s.kept r := by
  have hafter := h.locked hfits
  have hname : F.name r = n := hafter.keyed.next n r hr
  cases a with
  | secret e =>
    have hkept : (s.locked F (.secret e)).kept = s.kept :=
      (InactiveState.onSecretLocked_sessions e).kept
    rw [hkept]
  | active row =>
    have hzero : Map.holders (t.take F (.active row)).sessions n = 0 := by
      rw [InactiveState.get_next] at hr
      split_ifs at hr with hcount
      rw [← hafter.counts n]
      exact hcount
    simp only [InactiveState.locked, InactiveState.onActiveLocked_kept]
    split_ifs with hlive
    · have htake : (t.take F (.active row)).sessions =
          t.sessions.insert (row.get ".id") (row.get F.userKey) := by
        simp only [Tables.take, if_neg hlive.1, if_neg hlive.2]
      have hne : F.name r ≠ row.get F.userKey := by
        intro heq
        apply Map.holders_eq_zero.mp hzero (row.get ".id")
        rw [htake, Map.get_insert, if_pos rfl, ← heq, hname]
      exact F.build_note _ _ _ _ hne
    · rfl

theorem next_iff (h : Mirrors F t s) (n : String) (r : ρ) :
    s.next.get n = some r ↔ t.Idle F n r := by
  rw [InactiveState.get_next, h.counts]
  split_ifs with hzero
  · rw [h.configured]
    have hnone := Map.holders_eq_zero.mp hzero
    constructor
    · intro hr
      exact ⟨hr.2.2, hr.1, hr.2.1, hnone⟩
    · intro hr
      exact ⟨hr.2.1, hr.2.2.1, hr.1⟩
  · constructor
    · intro hr
      cases hr
    · intro hr
      exact absurd (Map.holders_eq_zero.mpr hr.2.2.2) hzero

end Mirrors

/-- The router's tables, the state of the stream, and all that it has told its client. -/
structure Scene (ρ ε π : Type) where
  tables : Tables ρ
  state : InactiveState ρ ε
  emitted : List (Event π)

namespace Scene

variable (F : Feed ρ ε π)

def start : Scene ρ ε π := ⟨⟨∅, ∅⟩, newInactiveState F, []⟩

/-- A change of the tables, its event, and the callback that takes it. -/
def step [DecidableEq ρ] (sc : Scene ρ ε π) (a : Arrival ρ × RangeOrder ρ × RangeOrder ρ) :
    Scene ρ ε π where
  tables := sc.tables.take F a.1
  state := (sc.state.callback F a.1 a.2.1 a.2.2).1
  emitted := sc.emitted ++ (sc.state.callback F a.1 a.2.1 a.2.2).2

def fits (sc : Scene ρ ε π) (a : Arrival ρ × RangeOrder ρ × RangeOrder ρ) : Prop :=
  sc.tables.Fits F a.1

instance (sc : Scene ρ ε π) (a : Arrival ρ × RangeOrder ρ × RangeOrder ρ) :
    Decidable (sc.fits F a) :=
  inferInstanceAs (Decidable (sc.tables.Fits F a.1))

/-- The inactive names are the enabled ones without a session, the counts are right, and a
client shows the inactive names with their current rows. -/
structure Tracks (sc : Scene ρ ε π) : Prop where
  inactive : ∀ n r, sc.state.inactive.get n = some r ↔ sc.tables.Idle F n r
  sessions : ∀ id, sc.state.activeIDs.get id = sc.tables.sessions.get id
  counts : ∀ n, sc.state.activeCounts.number n = sc.tables.sessions.holders n
  shown : ∀ n, shown F id sc.emitted n =
    (sc.state.inactive.get n).map fun r ↦ F.build sc.state.kept r

variable {F}

structure Inv (F : Feed ρ ε π) (sc : Scene ρ ε π) : Prop where
  mirrors : Mirrors F sc.tables sc.state
  inactive : sc.state.inactive = sc.state.next
  shown : shown F id sc.emitted = sc.state.view F id

theorem Inv.tracks {sc : Scene ρ ε π} (h : sc.Inv F) : sc.Tracks F where
  inactive n r := by
    rw [h.inactive]
    exact h.mirrors.next_iff n r
  sessions := h.mirrors.sessions
  counts := h.mirrors.counts
  shown n := by
    rw [h.shown]
    rfl

theorem Inv.start : (start F).Inv F where
  mirrors := by
    constructor
    · intro id
      rfl
    · intro n r
      simp [Scene.start, newInactiveState]
    · intro id r h
      cases h
    · intro id id' r r' h
      cases h
    · intro id
      rfl
    · intro id n h
      cases h
    · intro n
      rfl
  inactive := rfl
  shown := rfl

variable [DecidableEq ρ]

theorem Inv.step {sc : Scene ρ ε π} (h : sc.Inv F)
    {a : Arrival ρ × RangeOrder ρ × RangeOrder ρ} (hfits : sc.fits F a) :
    (sc.step F a).Inv F where
  mirrors := (h.mirrors.locked hfits).reconcileLocked a.2.1 a.2.2
  inactive := rfl
  shown := by
    have hconf := (h.mirrors.locked hfits).keyed
    have hin : InactiveState.Keyed F (sc.state.locked F a.1).inactive := by
      rw [InactiveState.locked_inactive, h.inactive]
      exact h.mirrors.keyed.next
    have hemitted : Inactive.shown F id (sc.step F a).emitted =
        Change.replay (Inactive.shown F id sc.emitted)
          ((sc.state.callback F a.1 a.2.1 a.2.2).2.map (Event.change F id)) := by
      unfold Inactive.shown Scene.step
      rw [List.map_append, Change.replay_append]
    rw [hemitted, h.shown]
    apply InactiveState.reconcileLocked_replay id a.2.1 a.2.2 hconf hin
    intro n hsame
    rw [InactiveState.locked_inactive] at hsame
    rw [hsame]
    unfold InactiveState.view
    cases hr : sc.state.inactive.get n with
    | none => rfl
    | some r =>
      have hbuild := h.mirrors.build_locked hfits (hsame.trans hr)
      exact congrArg some hbuild.symm

/-- After each event that the tables give rise to. -/
theorem tracks {arrivals : List (Arrival ρ × RangeOrder ρ × RangeOrder ρ)}
    (h : Run.Guarded (step F) (fits F) (start F) arrivals) :
    ∀ sc ∈ Run.states (step F) (start F) arrivals, sc.Tracks F := by
  intro sc hsc
  have hstep : ∀ sc a, Inv F sc → fits F sc a → Inv F (Scene.step F sc a) :=
    fun _ _ hsc hfits ↦ hsc.step hfits
  exact (Run.invariant hstep .start h sc hsc).tracks

end Scene

theorem streams_track_tables :
    (∀ arrivals, Run.Guarded (Scene.step pppFeed) (Scene.fits pppFeed) (Scene.start pppFeed)
        arrivals →
      ∀ sc ∈ Run.states (Scene.step pppFeed) (Scene.start pppFeed) arrivals,
        sc.Tracks pppFeed) ∧
    ∀ arrivals, Run.Guarded (Scene.step hotspotFeed) (Scene.fits hotspotFeed)
        (Scene.start hotspotFeed) arrivals →
      ∀ sc ∈ Run.states (Scene.step hotspotFeed) (Scene.start hotspotFeed) arrivals,
        sc.Tracks hotspotFeed :=
  ⟨fun _ h ↦ Scene.tracks h, fun _ h ↦ Scene.tracks h⟩

section Witness

def inOrder {ρ : Type} (a : Arrival ρ) : Arrival ρ × RangeOrder ρ × RangeOrder ρ :=
  (a, .asStored ρ, .asStored ρ)

/-- Two sessions of one secret, which is renamed, disabled and removed; one session follows
the new name, the other ends. -/
def renamedSecret : List (Arrival PPPSecret × RangeOrder PPPSecret × RangeOrder PPPSecret) :=
  let secret (name : String) : PPPSecret := { (default : PPPSecret) with id := "*1", name := name }
  [.secret ⟨secret "budi", false⟩,
    .active (.ofWords [(".id", "*A"), ("name", "budi"), ("address", "10.0.0.2")]),
    .active (.ofWords [(".id", "*B"), ("name", "budi")]),
    .secret ⟨secret "siti", false⟩,
    .active (.ofWords [(".id", "*A"), ("name", "siti")]),
    .active (.ofWords [(".id", "*B"), (".dead", "true")]),
    .active (.ofWords [(".id", "*A"), ("name", "siti"), (".dead", "true")]),
    .secret ⟨{ secret "siti" with disabled := true }, false⟩,
    .secret ⟨secret "siti", false⟩,
    .secret ⟨secret "", true⟩].map inOrder

def oneLogin : List (Arrival HotspotUser × RangeOrder HotspotUser × RangeOrder HotspotUser) :=
  [.secret ⟨{ (default : HotspotUser) with id := "*1", name := "budi" }, false⟩,
    .active (.ofWords [(".id", "*A"), ("user", "budi")]),
    .active (.ofWords [(".id", "*A"), (".dead", "true")])].map inOrder

theorem two_streams_track :
    (Run.Guarded (Scene.step pppFeed) (Scene.fits pppFeed) (Scene.start pppFeed) renamedSecret ∧
      (renamedSecret.foldl (Scene.step pppFeed) (Scene.start pppFeed)).Tracks pppFeed) ∧
    Run.Guarded (Scene.step hotspotFeed) (Scene.fits hotspotFeed) (Scene.start hotspotFeed)
        oneLogin ∧
      (oneLogin.foldl (Scene.step hotspotFeed) (Scene.start hotspotFeed)).Tracks hotspotFeed := by
  have hppp : Run.Guarded (Scene.step pppFeed) (Scene.fits pppFeed) (Scene.start pppFeed)
      renamedSecret := by decide +kernel
  have hhotspot : Run.Guarded (Scene.step hotspotFeed) (Scene.fits hotspotFeed)
      (Scene.start hotspotFeed) oneLogin := by decide +kernel
  exact ⟨⟨hppp, streams_track_tables.1 _ hppp _ (Run.foldl_mem_states _ _)⟩,
    hhotspot, streams_track_tables.2 _ hhotspot _ (Run.foldl_mem_states _ _)⟩

end Witness

end Rosmon.Inactive
