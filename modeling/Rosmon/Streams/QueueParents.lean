import Rosmon.Go.Map
import Rosmon.Library.Run
import Mathlib.Data.List.Induction

namespace Rosmon.Streams

open Go Library

/-- A report on one queue, without its counters. -/
structure QueueStatsEvent where
  id : String
  name : String
  parent : String
  dynamic : Bool
  deriving DecidableEq

/-- The queue has a parent, and this is its name. -/
def QueueStatsEvent.IsChildOf (e : QueueStatsEvent) (name : String) : Prop :=
  e.parent ≠ "" ∧ e.parent ≠ "none" ∧ e.parent = name

instance (e : QueueStatsEvent) (name : String) : Decidable (e.IsChildOf name) :=
  inferInstanceAs (Decidable (_ ∧ _ ∧ _))

structure QueueSnap where
  byName : Map QueueStatsEvent

namespace QueueSnap

def update (q : QueueSnap) (e : QueueStatsEvent) : QueueSnap := ⟨q.byName.insert e.name e⟩

def isParent (q : QueueSnap) (name : String) : Bool :=
  q.byName.entries.any fun entry ↦ decide (entry.2.IsChildOf name)

theorem isParent_iff {q : QueueSnap} {name : String} : q.isParent name = true ↔
    ∃ n e, q.byName.get n = some e ∧ e.IsChildOf name := by
  rw [isParent, List.any_eq_true]
  constructor
  · rintro ⟨⟨n, e⟩, hmem, he⟩
    exact ⟨n, e, Map.mem_entries.mp hmem, of_decide_eq_true he⟩
  · rintro ⟨n, e, hget, he⟩
    exact ⟨⟨n, e⟩, Map.mem_entries.mpr hget, decide_eq_true he⟩

end QueueSnap

/-- The snapshots by topic, which the producers and the filters share. -/
abbrev QueueSnaps := Map QueueSnap

namespace QueueSnaps

/-- `LoadOrStore`: a topic without a snapshot gets an empty one. -/
def getQueueSnap (r : QueueSnaps) (topic : String) : QueueSnap × QueueSnaps :=
  match Map.get r topic with
  | some q => (q, r)
  | none => (⟨∅⟩, r.insert topic ⟨∅⟩)

def deleteQueueSnap (r : QueueSnaps) (topic : String) : QueueSnaps := r.erase topic

/-- What the producer does with a report, for the snapshot. -/
def produce (r : QueueSnaps) (topic : String) (e : QueueStatsEvent) : QueueSnaps :=
  (r.getQueueSnap topic).2.insert topic ((r.getQueueSnap topic).1.update e)

variable (r : QueueSnaps) (topic : String) (n : String)

theorem getQueueSnap_fst : (r.getQueueSnap topic).1 = (Map.get r topic).getD ⟨∅⟩ := by
  unfold getQueueSnap
  cases Map.get r topic <;> rfl

/-- Looking a snapshot up shows none of the others another one. -/
theorem get_getQueueSnap_snd : ((r.getQueueSnap topic).2.getQueueSnap n).1 =
    (r.getQueueSnap n).1 := by
  rw [getQueueSnap_fst, getQueueSnap_fst]
  cases h : Map.get r topic with
  | some q => simp only [getQueueSnap, h]
  | none =>
    simp only [getQueueSnap, h, Map.get_insert]
    split_ifs with heq
    · subst heq
      simp [h]
    · rfl

theorem get_produce (e : QueueStatsEvent) : ((r.produce topic e).getQueueSnap n).1 =
    if n = topic then (r.getQueueSnap topic).1.update e else (r.getQueueSnap n).1 := by
  unfold produce
  rw [getQueueSnap_fst, Map.get_insert]
  split_ifs with heq
  · rfl
  · rw [← getQueueSnap_fst, get_getQueueSnap_snd]

theorem get_deleteQueueSnap : ((r.deleteQueueSnap topic).getQueueSnap n).1 =
    if n = topic then ⟨∅⟩ else (r.getQueueSnap n).1 := by
  rw [getQueueSnap_fst, getQueueSnap_fst, deleteQueueSnap, Map.get_erase]
  split_ifs <;> rfl

end QueueSnaps

/-- The filter of a view; none keeps everything. An event that is not about a queue has no
data here. -/
def queueKeep (view topic : String) : Option (QueueSnaps → Option QueueStatsEvent → Bool) :=
  if view = "parent" then
    some fun r data ↦ data.any fun q ↦ (r.getQueueSnap topic).1.isParent q.name
  else if view = "dynamic" then some fun _ data ↦ data.any fun q ↦ q.dynamic
  else if view = "static" then some fun _ data ↦ data.any fun q ↦ !q.dynamic
  else none

/-- The queues of a router. No two have one name. -/
structure QueueTable where
  queues : List QueueStatsEvent
  distinct : (queues.map QueueStatsEvent.name).Nodup

namespace QueueTable

/-- Some queue of the table has this parent. -/
def HasParent (t : QueueTable) (name : String) : Prop := ∃ q ∈ t.queues, q.IsChildOf name

instance (t : QueueTable) (name : String) : Decidable (t.HasParent name) :=
  inferInstanceAs (Decidable (∃ q ∈ t.queues, q.IsChildOf name))

theorem eq_of_name {t : QueueTable} {q q' : QueueStatsEvent} (h : q ∈ t.queues)
    (h' : q' ∈ t.queues) (hn : q.name = q'.name) : q = q' :=
  List.inj_on_of_nodup_map t.distinct h h' hn

end QueueTable

/-- What happens around the snapshots, the router of one topic included. -/
inductive QueueAct
  | becomes (table : QueueTable)
  | reports (topic : String) (e : QueueStatsEvent)
  | looksUp (topic : String)
  | stops (topic : String)

structure QueueState where
  table : QueueTable
  snaps : QueueSnaps

namespace QueueState

def step (s : QueueState) : QueueAct → QueueState
  | .becomes table => { s with table := table }
  | .reports topic e => { s with snaps := s.snaps.produce topic e }
  | .looksUp topic => { s with snaps := (s.snaps.getQueueSnap topic).2 }
  | .stops topic => { s with snaps := s.snaps.deleteQueueSnap topic }

/-- A report of the topic shows a queue as it is. -/
def Describes (topic : String) (s : QueueState) : QueueAct → Prop
  | .reports topic' e => topic' = topic → e ∈ s.table.queues
  | _ => True

instance (topic : String) (s : QueueState) (a : QueueAct) : Decidable (s.Describes topic a) := by
  cases a <;> unfold Describes <;> infer_instance

/-- The snapshot names the parents that the router has now, and the view of the parents
keeps the queues that are parents now. -/
def ShowsParents (topic : String) (s : QueueState) : Prop :=
  (∀ name, (s.snaps.getQueueSnap topic).1.isParent name = true ↔ s.table.HasParent name) ∧
    ∀ q ∈ s.table.queues, ∀ keep, queueKeep "parent" topic = some keep →
      (keep s.snaps (some q) = true ↔ s.table.HasParent q.name)

end QueueState

/-- The reports of a topic since its stream began, and those since the router last changed. -/
structure Reported where
  all : List QueueStatsEvent
  again : List QueueStatsEvent

namespace Reported

def step (topic : String) (h : Reported) : QueueAct → Reported
  | .becomes _ => { h with again := [] }
  | .reports topic' e => if topic' = topic then ⟨h.all ++ [e], h.again ++ [e]⟩ else h
  | .looksUp _ => h
  | .stops topic' => if topic' = topic then ⟨[], []⟩ else h

def run (topic : String) (acts : List QueueAct) : Reported := acts.foldl (step topic) ⟨[], []⟩

/-- The last report under a name. -/
def last (h : Reported) (name : String) : Option QueueStatsEvent :=
  h.all.reverse.find? fun e ↦ e.name = name

/-- Every queue of the table has been reported since the router last changed. -/
def Covers (h : Reported) (t : QueueTable) : Prop := ∀ q ∈ t.queues, q ∈ h.again

instance (h : Reported) (t : QueueTable) : Decidable (h.Covers t) :=
  inferInstanceAs (Decidable (∀ q ∈ t.queues, q ∈ h.again))

/-- A name that no queue has any more was last reported without a parent, or with one that
some queue still has. -/
def NoStaleParent (h : Reported) (t : QueueTable) : Prop :=
  ∀ name, name ∉ t.queues.map QueueStatsEvent.name → ∀ e, h.last name = some e →
    ∀ parent, e.IsChildOf parent → t.HasParent parent

theorem last_snoc (l l' : List QueueStatsEvent) (e : QueueStatsEvent) (name : String) :
    last ⟨l ++ [e], l'⟩ name = if name = e.name then some e else last ⟨l, l'⟩ name := by
  unfold last
  rw [List.reverse_append, List.reverse_singleton, List.singleton_append, List.find?_cons]
  by_cases h : name = e.name
  · simp [h]
  · simp [h, Ne.symm h]

/-- A name reported since the last change was last reported then. -/
theorem last_mem_again (earlier : List QueueStatsEvent) {again : List QueueStatsEvent}
    {q : QueueStatsEvent} (hq : q ∈ again) : ∃ e ∈ again, e.name = q.name ∧
      last ⟨earlier ++ again, again⟩ q.name = some e := by
  unfold last
  rw [List.reverse_append, List.find?_append]
  have hsome : (again.reverse.find? fun e ↦ e.name = q.name).isSome := by
    rw [List.find?_isSome]
    exact ⟨q, List.mem_reverse.mpr hq, by simp⟩
  obtain ⟨e, he⟩ := Option.isSome_iff_exists.mp hsome
  have hmem := List.mem_reverse.mp (List.mem_of_find?_eq_some he)
  have hname := List.find?_some he
  exact ⟨e, hmem, by simpa using hname, by rw [he, Option.some_or]⟩

end Reported

open QueueState (Describes)

variable {topic : String} {t : QueueTable} {acts : List QueueAct}

/-- The snapshot holds the last report under every name. -/
theorem get_snapshot (s : QueueState) (h : Reported)
    (hs : ∀ name, (s.snaps.getQueueSnap topic).1.byName.get name = h.last name) (a : QueueAct)
    (name : String) :
    ((s.step a).snaps.getQueueSnap topic).1.byName.get name = (h.step topic a).last name := by
  cases a with
  | becomes table => exact hs name
  | looksUp topic' =>
    change ((s.snaps.getQueueSnap topic').2.getQueueSnap topic).1.byName.get name = _
    rw [QueueSnaps.get_getQueueSnap_snd, hs]
    rfl
  | reports topic' e =>
    change ((s.snaps.produce topic' e).getQueueSnap topic).1.byName.get name = _
    rw [QueueSnaps.get_produce, Reported.step]
    by_cases htopic : topic' = topic
    · subst htopic
      rw [if_pos rfl, if_pos rfl, Reported.last_snoc, QueueSnap.update, Map.get_insert, hs]
      rfl
    · rw [if_neg (Ne.symm htopic), if_neg htopic, hs]
  | stops topic' =>
    change ((s.snaps.deleteQueueSnap topic').getQueueSnap topic).1.byName.get name = _
    rw [QueueSnaps.get_deleteQueueSnap, Reported.step]
    by_cases htopic : topic' = topic
    · rw [if_pos htopic.symm, if_pos htopic]
      rfl
    · rw [if_neg (Ne.symm htopic), if_neg htopic, hs]

/-- The reports since the last change close the whole history and are about queues of the
table. -/
def Recent (s : QueueState) (h : Reported) : Prop :=
  h.again <:+ h.all ∧ ∀ e ∈ h.again, e ∈ s.table.queues

theorem Recent.step {s : QueueState} {h : Reported} (hr : Recent s h) {a : QueueAct}
    (ha : s.Describes topic a) : Recent (s.step a) (h.step topic a) := by
  obtain ⟨hsuffix, hmem⟩ := hr
  cases a with
  | becomes table => exact ⟨List.nil_suffix, fun e he ↦ absurd he List.not_mem_nil⟩
  | looksUp topic' => exact ⟨hsuffix, hmem⟩
  | reports topic' e =>
    rw [Reported.step]
    split_ifs with htopic
    · refine ⟨(List.suffix_append_self_iff).mpr hsuffix, ?_⟩
      intro e' he'
      rcases List.mem_append.mp he' with he' | he'
      · exact hmem e' he'
      · obtain rfl := List.mem_singleton.mp he'
        exact ha htopic
    · exact ⟨hsuffix, hmem⟩
  | stops topic' =>
    rw [Reported.step]
    split_ifs with htopic
    · exact ⟨List.nil_suffix, fun e he ↦ absurd he List.not_mem_nil⟩
    · exact ⟨hsuffix, hmem⟩

/-- Where the stream begins: no snapshot yet. -/
def QueueState.start (t : QueueTable) : QueueState := ⟨t, ∅⟩

theorem get_snapshot_run (acts : List QueueAct) (name : String) :
    ((acts.foldl QueueState.step (.start t)).snaps.getQueueSnap topic).1.byName.get name =
      (Reported.run topic acts).last name := by
  induction acts using List.reverseRecOn generalizing name with
  | nil => rfl
  | append_singleton acts a ih =>
    rw [Reported.run, List.foldl_append, List.foldl_append]
    exact get_snapshot _ _ ih a name

theorem recent_run (h : Run.Guarded QueueState.step (Describes topic) (.start t) acts) :
    Recent (acts.foldl QueueState.step (.start t)) (Reported.run topic acts) := by
  induction acts using List.reverseRecOn with
  | nil => exact ⟨List.suffix_refl _, fun e he ↦ absurd he List.not_mem_nil⟩
  | append_singleton acts a ih =>
    rw [Run.guarded_append] at h
    rw [Reported.run, List.foldl_append, List.foldl_append]
    exact (ih h.1).step h.2.1

/-- A queue that has been reported again stands in the snapshot as it is. -/
theorem last_of_covers {s : QueueState} {h : Reported} (hr : Recent s h)
    (hcovers : h.Covers s.table) {q : QueueStatsEvent} (hq : q ∈ s.table.queues) :
    h.last q.name = some q := by
  obtain ⟨⟨before, hall⟩, hmem⟩ := hr
  obtain ⟨e, he, hname, hlast⟩ := Reported.last_mem_again before (hcovers q hq)
  have heq : e = q := QueueTable.eq_of_name (hmem e he) hq hname
  rw [hall, heq] at hlast
  exact hlast

/-- Once every queue has been reported again, the parents shown are the parents of the
moment exactly if no name that has gone left another parent behind. -/
theorem showsParents_iff
    (hrun : Run.Guarded QueueState.step (Describes topic) (.start t) acts)
    (hagain : (Reported.run topic acts).Covers (acts.foldl QueueState.step (.start t)).table) :
    (acts.foldl QueueState.step (.start t)).ShowsParents topic ↔
      (Reported.run topic acts).NoStaleParent
        (acts.foldl QueueState.step (.start t)).table := by
  have hget := fun name : String ↦ @get_snapshot_run topic t acts name
  have hlast : ∀ q ∈ (acts.foldl QueueState.step (.start t)).table.queues,
      (Reported.run topic acts).last q.name = some q :=
    fun _ hq ↦ last_of_covers (recent_run hrun) hagain hq
  generalize acts.foldl QueueState.step (.start t) = s at hget hlast ⊢
  generalize Reported.run topic acts = h at hget hlast ⊢
  constructor
  · intro hshows name _ e he parent hchild
    apply (hshows.1 parent).mp
    exact QueueSnap.isParent_iff.mpr ⟨name, e, (hget name).trans he, hchild⟩
  · intro hstale
    have hparent : ∀ name, (s.snaps.getQueueSnap topic).1.isParent name = true ↔
        s.table.HasParent name := by
      intro name
      rw [QueueSnap.isParent_iff]
      constructor
      · rintro ⟨n, e, he, hchild⟩
        rw [hget] at he
        by_cases hn : n ∈ s.table.queues.map QueueStatsEvent.name
        · obtain ⟨q, hq, rfl⟩ := List.mem_map.mp hn
          rw [hlast q hq] at he
          obtain rfl := Option.some.inj he
          exact ⟨q, hq, hchild⟩
        · exact hstale n hn e he name hchild
      · rintro ⟨q, hq, hchild⟩
        exact ⟨q.name, q, (hget q.name).trans (hlast q hq), hchild⟩
    refine ⟨hparent, ?_⟩
    intro q _ keep hkeep
    obtain rfl := Option.some.inj hkeep
    exact hparent q.name

/-- A child whose parent is then moved under another queue. -/
theorem showsParents_moved :
    let office : QueueStatsEvent := ⟨"*1", "office", "none", false⟩
    let guests : QueueStatsEvent := ⟨"*2", "guests", "none", false⟩
    let wifi : QueueStatsEvent := ⟨"*3", "wifi", "office", true⟩
    let before : QueueTable := ⟨[office, guests, wifi], by decide⟩
    let after : QueueTable := ⟨[office, guests, { wifi with parent := "guests" }], by decide⟩
    let acts : List QueueAct := [.reports "1:queue-stats:1s" office,
      .reports "1:queue-stats:1s" wifi, .becomes after, .looksUp "1:queue-stats:1s",
      .reports "1:queue-stats:1s" office, .reports "1:queue-stats:1s" guests,
      .reports "1:queue-stats:1s" { wifi with parent := "guests" }]
    (acts.foldl QueueState.step (.start before)).ShowsParents "1:queue-stats:1s" ↔
      (Reported.run "1:queue-stats:1s" acts).NoStaleParent
        (acts.foldl QueueState.step (.start before)).table :=
  showsParents_iff (by decide) (by decide)

/-- The only child of a queue is removed; the queue stays a parent in the snapshot. -/
theorem removed_child_keeps_parent :
    let office : QueueStatsEvent := ⟨"*1", "office", "none", false⟩
    let wifi : QueueStatsEvent := ⟨"*3", "wifi", "office", true⟩
    let acts : List QueueAct := [.reports "1:queue-stats:1s" office,
      .reports "1:queue-stats:1s" wifi, .becomes ⟨[office], by decide⟩,
      .reports "1:queue-stats:1s" office]
    let start : QueueState := .start ⟨[office, wifi], by decide⟩
    Run.Guarded QueueState.step (Describes "1:queue-stats:1s") start acts ∧
      (Reported.run "1:queue-stats:1s" acts).Covers (acts.foldl QueueState.step start).table ∧
      ¬ (acts.foldl QueueState.step start).ShowsParents "1:queue-stats:1s" := by
  refine ⟨by decide, by decide, ?_⟩
  intro h
  exact absurd ((h.1 "office").mp (by decide)) (by decide)

end Rosmon.Streams
