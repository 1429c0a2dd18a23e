import Mathlib.Algebra.BigOperators.Group.Finset.Basic
import Mathlib.Algebra.Order.BigOperators.Group.Finset
import Rosmon.Library.Sequences
import Rosmon.Sse.Broker

namespace Rosmon.Sse

open Library

variable {δ : Type}

/-- A call of `Publish`, with the channels of its snapshot and those it has not come to yet, and
the calls that had returned when it took the snapshot. -/
structure Flight (δ : Type) where
  event : Event δ
  snapshot : List ℕ
  pending : List ℕ
  returned : List ℕ

/-- The call with only these channels to come. -/
def Flight.next (f : Flight δ) (pending : List ℕ) : Flight δ := { f with pending }

/-- A broker with all calls of `Publish`, in the order of their snapshots. Of each subscriber there
is what it has received, and the calls whose event has gone into its channel or was dropped. -/
structure Traffic (δ : Type) where
  world : World δ
  flights : List (Flight δ)
  taken : ℕ → List (Event δ)
  entered : ℕ → List ℕ
  lost : ℕ → List ℕ

/-- A step of the broker, or the next step of a call of `Publish`. -/
inductive Act (δ : Type)
  | op (o : Op δ)
  | send (call : ℕ)

namespace Traffic

def new (topic : String) : Traffic δ :=
  ⟨World.new topic, [], fun _ ↦ [], fun _ ↦ [], fun _ ↦ []⟩

/-- The calls that have come to the end of their snapshot. -/
def returned (t : Traffic δ) : List ℕ :=
  (List.range t.flights.length).filter fun k ↦ (t.flights[k]?).any (·.pending.isEmpty)

/-- `Publish` up to the release of the lock. -/
def begin (order : Go.RangeOrder ℕ) (e : Event δ) (t : Traffic δ) : Traffic δ :=
  let snap := (order.visit t.world.broker.subs.entries).map fun entry ↦ entry.2
  { t with flights := t.flights ++ [⟨e, snap, snap, t.returned⟩] }

def receive (n : ℕ) (t : Traffic δ) : Traffic δ :=
  match t.world.subscribers[n]? with
  | none => t
  | some s =>
    { t with
      world := t.world.receive n
      taken := Function.update t.taken n (t.taken n ++ s.channel.take 1) }

/-- The event goes into the channel, or is dropped. -/
def put (k : ℕ) (e : Event δ) (n : ℕ) (t : Traffic δ) : Traffic δ :=
  match t.world.subscribers[n]? with
  | none => t
  | some s =>
    if s.channel.length < slots then
      { t with
        world := t.world.send e n
        entered := Function.update t.entered n (t.entered n ++ [k]) }
    else
      { t with
        world := t.world.send e n
        lost := Function.update t.lost n (t.lost n ++ [k]) }

/-- The next channel of a call. -/
def send (k : ℕ) (t : Traffic δ) : Traffic δ :=
  match t.flights[k]? with
  | none => t
  | some f => match f.pending with
    | [] => t
    | n :: pending => { t with flights := t.flights.set k (f.next pending) }.put k f.event n

def step (t : Traffic δ) : Act δ → Traffic δ
  | .op (.publish order e) => t.begin order e
  | .op (.receive n) => t.receive n
  | .op o => { t with world := t.world.step o }
  | .send k => t.send k

end Traffic

/-- The channels of a snapshot are those of different subscribers, and a call goes through them
in their order. -/
structure Flight.Fair (count : ℕ) (f : Flight δ) : Prop where
  nodup : f.snapshot.Nodup
  suffix : f.pending <:+ f.snapshot
  bound : ∀ n ∈ f.snapshot, n < count

/-- The subscribers that the map names. -/
def World.Owned (w : World δ) : Prop :=
  ∀ clientID n, w.broker.subs.get clientID = some n →
    ∃ s, w.subscribers[n]? = some s ∧ s.clientID = clientID

namespace Traffic

/-- What is in a channel, and has been in it, are the events of the calls that have put them
there, and every channel a call has come to has either got its event or lost it. -/
structure Accounted (t : Traffic δ) : Prop where
  owned : t.world.Owned
  fair : ∀ f ∈ t.flights, f.Fair t.world.subscribers.length
  content : ∀ n s, t.world.subscribers[n]? = some s →
    (t.taken n ++ s.channel).map some = (t.entered n).map fun k ↦ (t.flights[k]?).map (·.event)
  blank : ∀ n, t.world.subscribers.length ≤ n → t.taken n = []
  once : ∀ n, (t.entered n ++ t.lost n).Nodup
  outcome : ∀ n k, k ∈ t.entered n ++ t.lost n ↔
    ∃ f, t.flights[k]? = some f ∧ n ∈ f.snapshot ∧ n ∉ f.pending
  earlier : ∀ (k : ℕ) (f : Flight δ), t.flights[k]? = some f → ∀ j ∈ f.returned, j < k
  returned : ∀ f ∈ t.flights, ∀ j ∈ f.returned, ∃ g, t.flights[j]? = some g ∧ g.pending = []
  order : ∀ n, (t.entered n).Pairwise fun j k ↦ ∀ f, t.flights[j]? = some f → k ∉ f.returned
  dropped : t.world.broker.dropped =
    (∑ n ∈ Finset.range t.world.subscribers.length, (t.lost n).length) % 2 ^ 64

theorem Accounted.new (topic : String) : (new topic : Traffic δ).Accounted where
  owned clientID n h := by simp [Traffic.new, World.new, newBroker] at h
  fair f hf := by simp [Traffic.new] at hf
  content n s h := by simp [Traffic.new, World.new] at h
  blank n h := rfl
  once n := List.nodup_nil
  outcome n k := by simp [Traffic.new]
  earlier k f hf := by simp [Traffic.new] at hf
  returned f hf := by simp [Traffic.new] at hf
  order n := .nil
  dropped := by simp [Traffic.new, World.new, newBroker]

variable {t : Traffic δ}

theorem Accounted.entered_lt (h : t.Accounted) {n k : ℕ} (hk : k ∈ t.entered n) :
    k < t.flights.length := by
  obtain ⟨f, hf, -⟩ := (h.outcome n k).mp (List.mem_append_left _ hk)
  exact (List.getElem?_eq_some_iff.mp hf).1

theorem Accounted.absent (h : t.Accounted) {n : ℕ} (hn : t.world.subscribers.length ≤ n) :
    t.entered n = [] ∧ t.lost n = [] := by
  have hnone : t.entered n ++ t.lost n = [] := by
    apply List.eq_nil_iff_forall_not_mem.mpr
    intro k hk
    obtain ⟨f, hf, hmem, -⟩ := (h.outcome n k).mp hk
    exact ((h.fair f (List.mem_of_getElem? hf)).bound n hmem).not_ge hn
  exact List.append_eq_nil_iff.mp hnone

section Publish

/-- The channels that the map names are those of different subscribers. -/
theorem snapshot_nodup {w : World δ} (h : w.Owned) (order : Go.RangeOrder ℕ) :
    ((order.visit w.broker.subs.entries).map fun entry ↦ entry.2).Nodup := by
  have hperm := (order.perm w.broker.subs.entries).map fun entry ↦ entry.2
  rw [hperm.nodup_iff]
  have hkeys : (w.broker.subs.entries.map fun entry ↦ entry.1).Nodup := w.broker.subs.nodupKeys
  refine (List.nodup_map_iff_inj_on (List.Nodup.of_map _ hkeys)).mpr ?_
  intro entry hentry entry' hentry' heq
  obtain ⟨s, hs, hid⟩ := h entry.1 entry.2 (Go.Map.mem_entries.mp hentry)
  obtain ⟨s', hs', hid'⟩ := h entry'.1 entry'.2 (Go.Map.mem_entries.mp hentry')
  rw [heq] at hs
  obtain rfl := Option.some.inj (hs.symm.trans hs')
  refine Sigma.ext (hid.symm.trans hid') ?_
  exact heq_of_eq heq

theorem Accounted.begin (h : t.Accounted) (order : Go.RangeOrder ℕ) (e : Event δ) :
    (t.begin order e).Accounted := by
  have hold : ∀ k, k < t.flights.length → (t.begin order e).flights[k]? = t.flights[k]? :=
    fun k hk ↦ List.getElem?_append_left hk
  have hlast : ∀ k f, (t.begin order e).flights[k]? = some f → t.flights[k]? = some f ∨
      k = t.flights.length ∧ f.pending = f.snapshot := by
    intro k f hf
    by_cases hk : k < t.flights.length
    · exact .inl (hold k hk ▸ hf)
    · simp only [Traffic.begin, List.getElem?_append_right (not_lt.mp hk),
        List.getElem?_singleton] at hf
      split at hf
      · obtain rfl := Option.some.inj hf
        exact .inr ⟨by omega, rfl⟩
      · cases hf
  refine
    { owned := h.owned
      fair := fun f hf ↦ ?_
      content := fun n s hs ↦ ?_
      blank := h.blank
      once := h.once
      outcome := fun n k ↦ ?_
      earlier := fun k f hf j hj ↦ ?_
      returned := fun f hf j hj ↦ ?_
      order := fun n ↦ ?_
      dropped := h.dropped }
  · rcases List.mem_append.mp hf with hf | hf
    · exact h.fair f hf
    · obtain rfl := List.mem_singleton.mp hf
      refine ⟨snapshot_nodup h.owned order, List.suffix_refl _, fun n hn ↦ ?_⟩
      obtain ⟨entry, hentry, rfl⟩ := List.mem_map.mp hn
      have hmem := (order.perm _).mem_iff.mp hentry
      obtain ⟨s, hs, -⟩ := h.owned entry.1 entry.2 (Go.Map.mem_entries.mp hmem)
      exact (List.getElem?_eq_some_iff.mp hs).1
  · refine (h.content n s hs).trans (List.map_congr_left fun k hk ↦ ?_)
    rw [hold k (h.entered_lt hk)]
  · refine (h.outcome n k).trans ⟨?_, ?_⟩
    · rintro ⟨f, hf, hrest⟩
      exact ⟨f, (hold k (List.getElem?_eq_some_iff.mp hf).1).trans hf, hrest⟩
    · rintro ⟨f, hf, hmem, hnot⟩
      rcases hlast k f hf with hf | ⟨-, hall⟩
      · exact ⟨f, hf, hmem, hnot⟩
      · exact absurd (hall ▸ hmem) hnot
  · by_cases hk : k < t.flights.length
    · exact h.earlier k f (hold k hk ▸ hf) j hj
    · simp only [Traffic.begin, List.getElem?_append_right (not_lt.mp hk),
        List.getElem?_singleton] at hf
      split at hf
      · obtain rfl := Option.some.inj hf
        have hlt := List.mem_range.mp (List.mem_filter.mp hj).1
        exact hlt.trans_le (not_lt.mp hk)
      · cases hf
  · have hback : ∃ g, t.flights[j]? = some g ∧ g.pending = [] := by
      rcases List.mem_append.mp hf with hf | hf
      · exact h.returned f hf j hj
      · obtain rfl := List.mem_singleton.mp hf
        have hdone := (List.mem_filter.mp hj).2
        cases hg : t.flights[j]? with
        | none => simp [hg] at hdone
        | some g => exact ⟨g, rfl, by simpa [hg] using hdone⟩
    obtain ⟨g, hg, hempty⟩ := hback
    exact ⟨g, (hold j (List.getElem?_eq_some_iff.mp hg).1).trans hg, hempty⟩
  · refine (h.order n).imp_of_mem fun {j k} hj _ hjk f hf ↦ ?_
    exact hjk f (hold j (h.entered_lt hj) ▸ hf)

end Publish

section Send

variable {k n : ℕ} {f : Flight δ} {pending : List ℕ}

theorem getElem?_next (hf : t.flights[k]? = some f) (j : ℕ) :
    (t.flights.set k (f.next pending))[j]? =
      if j = k then some (f.next pending) else t.flights[j]? := by
  have hk := (List.getElem?_eq_some_iff.mp hf).1
  by_cases hj : j = k
  · rw [hj, if_pos rfl, List.getElem?_set_self hk]
  · rw [if_neg hj, List.getElem?_set_ne (Ne.symm hj)]

/-- What a call looks like before, if it is known how it looks after. -/
theorem flight_next (hf : t.flights[k]? = some f) {j : ℕ} {g : Flight δ}
    (hg : (t.flights.set k (f.next pending))[j]? = some g) :
    ∃ g', t.flights[j]? = some g' ∧ g.event = g'.event ∧ g.snapshot = g'.snapshot ∧
      g.returned = g'.returned ∧ g.pending = if j = k then pending else g'.pending := by
  rw [getElem?_next hf] at hg
  split at hg
  next hj =>
    obtain rfl := Option.some.inj hg
    exact ⟨f, hj ▸ hf, rfl, rfl, rfl, by rw [if_pos hj]; rfl⟩
  next hj => exact ⟨g, hg, rfl, rfl, rfl, (if_neg hj).symm⟩

theorem event_next (hf : t.flights[k]? = some f) (j : ℕ) :
    ((t.flights.set k (f.next pending))[j]?).map (·.event) = (t.flights[j]?).map (·.event) := by
  rw [getElem?_next hf]
  split
  next hj => rw [hj, hf]; rfl
  next => rfl

variable (h : t.Accounted) (hf : t.flights[k]? = some f) (hnext : f.pending = n :: pending)

include h hf hnext

theorem Accounted.fair_next : ∀ g ∈ t.flights.set k (f.next pending),
    g.Fair t.world.subscribers.length := by
  intro g hg
  rcases List.mem_or_eq_of_mem_set hg with hg | rfl
  · exact h.fair g hg
  · have hfair := h.fair f (List.mem_of_getElem? hf)
    have htail : pending <:+ f.pending := hnext ▸ List.suffix_cons n pending
    exact ⟨hfair.nodup, htail.trans hfair.suffix, hfair.bound⟩

/-- The channel that is tried is none of those that are left. -/
theorem Accounted.tried : n ∈ f.snapshot ∧ n ∉ pending := by
  have hfair := h.fair f (List.mem_of_getElem? hf)
  have hmem : n ∈ f.pending := hnext ▸ List.mem_cons_self
  have hnodup : (n :: pending).Nodup := hnext ▸ hfair.nodup.sublist hfair.suffix.sublist
  exact ⟨hfair.suffix.mem hmem, (List.nodup_cons.mp hnodup).1⟩

/-- Of the channel that is tried the call has not been the fate yet. -/
theorem Accounted.unsettled : k ∉ t.entered n ++ t.lost n := by
  intro hk
  obtain ⟨g, hg, -, hnot⟩ := (h.outcome n k).mp hk
  obtain rfl := Option.some.inj (hf.symm.trans hg)
  exact hnot (hnext ▸ List.mem_cons_self)

/-- The other calls, and the other channels of this one, stand as before. -/
theorem Accounted.outcome_next (m j : ℕ) :
    (∃ g, (t.flights.set k (f.next pending))[j]? = some g ∧ m ∈ g.snapshot ∧ m ∉ g.pending) ↔
      j ∈ t.entered m ++ t.lost m ∨ j = k ∧ m = n := by
  rw [h.outcome m j, getElem?_next hf]
  by_cases hj : j = k
  · subst hj
    simp only [if_true, Option.some.injEq, exists_eq_left', hf, true_and, Flight.next, hnext,
      List.mem_cons, not_or]
    by_cases hm : m = n
    · subst hm
      exact iff_of_true (h.tried hf hnext) (.inr rfl)
    · simp [hm]
  · simp [hj]

omit hnext in
theorem Accounted.earlier_next : ∀ (j : ℕ) (g : Flight δ), (t.flights.set k (f.next pending))[j]? = some g →
    ∀ i ∈ g.returned, i < j := by
  intro j g hg i hi
  obtain ⟨g', hg', -, -, hreturned, -⟩ := flight_next hf hg
  exact h.earlier j g' hg' i (hreturned ▸ hi)

theorem Accounted.returned_next : ∀ g ∈ t.flights.set k (f.next pending), ∀ j ∈ g.returned,
    ∃ g', (t.flights.set k (f.next pending))[j]? = some g' ∧ g'.pending = [] := by
  intro g hg j hj
  have hback : ∃ g', t.flights[j]? = some g' ∧ g'.pending = [] := by
    rcases List.mem_or_eq_of_mem_set hg with hg | rfl
    · exact h.returned g hg j hj
    · exact h.returned f (List.mem_of_getElem? hf) j hj
  obtain ⟨g', hg', hempty⟩ := hback
  have hne : j ≠ k := by
    rintro rfl
    obtain rfl := Option.some.inj (hf.symm.trans hg')
    simp [hnext] at hempty
  exact ⟨g', by rw [getElem?_next hf, if_neg hne, hg'], hempty⟩

/-- No call that began before has seen this one return. -/
theorem Accounted.unreturned {j : ℕ} {g : Flight δ} (hg : t.flights[j]? = some g) :
    k ∉ g.returned := by
  intro hk
  obtain ⟨g', hg', hempty⟩ := h.returned g (List.mem_of_getElem? hg) k hk
  obtain rfl := Option.some.inj (hf.symm.trans hg')
  simp [hnext] at hempty

variable {s : Subscriber δ} (hs : t.world.subscribers[n]? = some s)

omit h hf hnext in
theorem mem_update_append {calls : ℕ → List ℕ} (m j : ℕ) :
    j ∈ Function.update calls n (calls n ++ [k]) m ↔ j ∈ calls m ∨ j = k ∧ m = n := by
  by_cases hm : m = n
  · rw [hm, Function.update_self, List.mem_append, List.mem_singleton, and_iff_left rfl]
  · rw [Function.update_of_ne hm, or_iff_left fun hboth ↦ hm hboth.2]

include hs

theorem Accounted.deliver : Accounted
    { t with
      world := { t.world with
        subscribers := t.world.subscribers.set n { s with channel := s.channel ++ [f.event] } }
      flights := t.flights.set k (f.next pending)
      entered := Function.update t.entered n (t.entered n ++ [k]) } := by
  have hn := (List.getElem?_eq_some_iff.mp hs).1
  have hlength : (t.world.subscribers.set n
      { s with channel := s.channel ++ [f.event] }).length = t.world.subscribers.length :=
    List.length_set
  refine
    { owned := fun clientID m hget ↦ ?_
      fair := fun g hg ↦ ?_
      content := fun m s' hs' ↦ ?_
      blank := fun m hm ↦ h.blank m (hlength ▸ hm)
      once := fun m ↦ ?_
      outcome := fun m j ↦ ?_
      earlier := h.earlier_next hf
      returned := h.returned_next hf hnext
      order := fun m ↦ ?_
      dropped := ?_ }
  · obtain ⟨s', hs', hid⟩ := h.owned clientID m hget
    by_cases hm : m = n
    · subst hm
      obtain rfl := Option.some.inj (hs.symm.trans hs')
      exact ⟨_, List.getElem?_set_self hn, hid⟩
    · exact ⟨s', (List.getElem?_set_ne (Ne.symm hm)).trans hs', hid⟩
  · dsimp only
    rw [hlength]
    exact h.fair_next hf hnext g hg
  · dsimp only at hs' ⊢
    by_cases hm : m = n
    · subst hm
      rw [List.getElem?_set_self hn] at hs'
      obtain rfl := Option.some.inj hs'
      have hlast : ((t.flights.set k (f.next pending))[k]?).map (·.event) = some f.event := by
        rw [event_next hf, hf]
        rfl
      change (t.taken m ++ (s.channel ++ [f.event])).map some = _
      rw [Function.update_self, ← List.append_assoc, List.map_append, h.content m s hs,
        List.map_append, List.map_singleton, List.map_singleton, hlast]
      simp only [event_next hf]
    · rw [List.getElem?_set_ne (Ne.symm hm)] at hs'
      rw [Function.update_of_ne hm, h.content m s' hs']
      simp only [event_next hf]
  · dsimp only
    by_cases hm : m = n
    · subst hm
      rw [Function.update_self, List.append_assoc, List.singleton_append,
        List.perm_middle.nodup_iff]
      exact List.nodup_cons.mpr ⟨h.unsettled hf hnext, h.once m⟩
    · rw [Function.update_of_ne hm]
      exact h.once m
  · rw [h.outcome_next hf hnext]
    dsimp only
    rw [List.mem_append, List.mem_append, mem_update_append]
    tauto
  · have hsame : ∀ {j : ℕ} {g : Flight δ}, (t.flights.set k (f.next pending))[j]? = some g →
        ∃ g', t.flights[j]? = some g' ∧ g.returned = g'.returned := by
      intro j g hg
      obtain ⟨g', hg', -, -, hreturned, -⟩ := flight_next hf hg
      exact ⟨g', hg', hreturned⟩
    have hold : (t.entered m).Pairwise fun j i ↦
        ∀ g, (t.flights.set k (f.next pending))[j]? = some g → i ∉ g.returned := by
      refine (h.order m).imp fun {j i} hji g hg ↦ ?_
      obtain ⟨g', hg', hreturned⟩ := hsame hg
      exact hreturned ▸ hji g' hg'
    dsimp only
    by_cases hm : m = n
    · subst hm
      rw [Function.update_self]
      refine List.pairwise_append.mpr ⟨hold, List.pairwise_singleton _ _, fun j _ i hi g hg ↦ ?_⟩
      obtain rfl := List.mem_singleton.mp hi
      obtain ⟨g', hg', hreturned⟩ := hsame hg
      exact hreturned ▸ h.unreturned hf hnext hg'
    · rw [Function.update_of_ne hm]
      exact hold
  · dsimp only
    rw [hlength]
    exact h.dropped

theorem Accounted.drop : Accounted
    { t with
      world := { t.world with
        broker := { t.world.broker with dropped := (t.world.broker.dropped + 1) % 2 ^ 64 } }
      flights := t.flights.set k (f.next pending)
      lost := Function.update t.lost n (t.lost n ++ [k]) } := by
  have hn := (List.getElem?_eq_some_iff.mp hs).1
  refine
    { owned := h.owned
      fair := h.fair_next hf hnext
      content := fun m s' hs' ↦ ?_
      blank := h.blank
      once := fun m ↦ ?_
      outcome := fun m j ↦ ?_
      earlier := h.earlier_next hf
      returned := h.returned_next hf hnext
      order := fun m ↦ ?_
      dropped := ?_ }
  · refine (h.content m s' hs').trans ?_
    simp only [event_next hf]
  · dsimp only
    by_cases hm : m = n
    · subst hm
      rw [Function.update_self, ← List.append_assoc, List.nodup_append_comm]
      exact List.nodup_cons.mpr ⟨h.unsettled hf hnext, h.once m⟩
    · rw [Function.update_of_ne hm]
      exact h.once m
  · rw [h.outcome_next hf hnext]
    dsimp only
    rw [List.mem_append, List.mem_append, mem_update_append]
    tauto
  · refine (h.order m).imp fun {j i} hji g hg ↦ ?_
    obtain ⟨g', hg', -, -, hreturned, -⟩ := flight_next hf hg
    exact hreturned ▸ hji g' hg'
  · have hsum : (∑ m ∈ Finset.range t.world.subscribers.length,
        (Function.update t.lost n (t.lost n ++ [k]) m).length) =
        (∑ m ∈ Finset.range t.world.subscribers.length, (t.lost m).length) + 1 := by
      have hmem : n ∈ Finset.range t.world.subscribers.length := Finset.mem_range.mpr hn
      rw [← Finset.add_sum_erase _ _ hmem, ← Finset.add_sum_erase _ (fun m ↦ (t.lost m).length) hmem,
        Function.update_self, List.length_append, List.length_singleton]
      have hrest : ∀ m ∈ (Finset.range t.world.subscribers.length).erase n,
          (Function.update t.lost n (t.lost n ++ [k]) m).length = (t.lost m).length := by
        intro m hm
        rw [Function.update_of_ne (Finset.ne_of_mem_erase hm)]
      rw [Finset.sum_congr rfl hrest]
      omega
    dsimp only
    rw [hsum, h.dropped]
    omega

end Send

theorem Accounted.send (h : t.Accounted) (k : ℕ) : (t.send k).Accounted := by
  unfold Traffic.send
  split
  · exact h
  next f hf =>
    split
    · exact h
    next n pending hnext =>
      have hn := (h.fair f (List.mem_of_getElem? hf)).bound n (h.tried hf hnext).1
      obtain ⟨s, hs⟩ : ∃ s, t.world.subscribers[n]? = some s := ⟨_, List.getElem?_eq_getElem hn⟩
      simp only [put, hs, World.send]
      split
      · exact h.deliver hf hnext hs
      · exact h.drop hf hnext hs

theorem Accounted.receive (h : t.Accounted) (n : ℕ) : (t.receive n).Accounted := by
  unfold Traffic.receive
  split
  · exact h
  next s hs =>
    have hn := (List.getElem?_eq_some_iff.mp hs).1
    have hlength : (t.world.receive n).subscribers.length = t.world.subscribers.length :=
      List.length_modify _ _ _
    have hsubscriber (m : ℕ) : (t.world.receive n).subscribers[m]? =
        (t.world.subscribers[m]?).map fun s ↦ if n = m then { s with channel := s.channel.tail }
          else s := by
      rw [World.receive, List.getElem?_modify]
      split <;> simp_all
    refine
      { owned := fun clientID m hget ↦ ?_
        fair := fun f hf ↦ hlength ▸ h.fair f hf
        content := fun m s' hs' ↦ ?_
        blank := fun m hm ↦ ?_
        once := h.once
        outcome := h.outcome
        earlier := h.earlier
        returned := h.returned
        order := h.order
        dropped := ?_ }
    · obtain ⟨s', hs', hid⟩ := h.owned clientID m hget
      refine ⟨_, by rw [hsubscriber, hs']; rfl, ?_⟩
      split <;> exact hid
    · dsimp only at hs' ⊢
      rw [hsubscriber] at hs'
      by_cases hm : n = m
      · subst hm
        rw [hs, Option.map_some, if_pos rfl] at hs'
        obtain rfl := Option.some.inj hs'
        have htake : s.channel.take 1 ++ s.channel.tail = s.channel := by
          rw [← List.drop_one]
          exact List.take_append_drop 1 s.channel
        rw [Function.update_self, List.append_assoc, htake]
        exact h.content n s hs
      · obtain ⟨s₀, hs₀, rfl⟩ := Option.map_eq_some_iff.mp hs'
        rw [if_neg hm, Function.update_of_ne (Ne.symm hm)]
        exact h.content m s₀ hs₀
    · have hne : m ≠ n := by
        rintro rfl
        exact absurd (hlength ▸ hm) hn.not_ge
      dsimp only
      rw [Function.update_of_ne hne]
      exact h.blank m (hlength ▸ hm)
    · dsimp only
      rw [hlength]
      exact h.dropped

/-- A step that leaves the channels as they are, but for new ones. -/
theorem Accounted.of_world (h : t.Accounted) {w : World δ} (howned : w.Owned)
    (hle : t.world.subscribers.length ≤ w.subscribers.length)
    (hsubs : ∀ n s, w.subscribers[n]? = some s →
      (∃ s₀, t.world.subscribers[n]? = some s₀ ∧ s.channel = s₀.channel) ∨
        t.world.subscribers.length ≤ n ∧ s.channel = [])
    (hdropped : w.broker.dropped = t.world.broker.dropped) : Accounted { t with world := w } where
  owned := howned
  fair f hf :=
    have hfair := h.fair f hf
    ⟨hfair.nodup, hfair.suffix, fun n hn ↦ (hfair.bound n hn).trans_le hle⟩
  content n s hs := by
    rcases hsubs n s hs with ⟨s₀, hs₀, hchannel⟩ | ⟨hnew, hchannel⟩
    · dsimp only
      rw [hchannel]
      exact h.content n s₀ hs₀
    · have hempty := h.absent hnew
      simp [hchannel, h.blank n hnew, hempty.1]
  blank n hn := h.blank n (hle.trans hn)
  once := h.once
  outcome := h.outcome
  earlier := h.earlier
  returned := h.returned
  order := h.order
  dropped := by
    have hsum : (∑ n ∈ Finset.range w.subscribers.length, (t.lost n).length) =
        ∑ n ∈ Finset.range t.world.subscribers.length, (t.lost n).length := by
      refine (Finset.sum_subset (Finset.range_mono hle) fun n _ hn ↦ ?_).symm
      have hempty := h.absent (not_lt.mp (mt Finset.mem_range.mpr hn))
      rw [hempty.2, List.length_nil]
    dsimp only
    rw [hsum, hdropped]
    exact h.dropped

theorem Accounted.register (h : t.Accounted) (clientID : String) {w : World δ}
    (hw : w.broker.subs = t.world.broker.subs ∧ w.subscribers = t.world.subscribers ∧
      w.broker.dropped = t.world.broker.dropped) :
    Accounted { t with world := w.register clientID } := by
  obtain ⟨hsubs, hsubscribers, hdropped⟩ := hw
  refine h.of_world (fun id n hget ↦ ?_) ?_ (fun n s hs ↦ ?_) hdropped
  · simp only [World.register, Go.Map.get_insert, hsubs, hsubscribers] at hget ⊢
    split at hget
    next hid =>
      obtain rfl := Option.some.inj hget
      exact ⟨_, List.getElem?_concat_length, hid.symm⟩
    next =>
      obtain ⟨s, hs, hid⟩ := h.owned id n hget
      exact ⟨s, (List.getElem?_append_left (List.getElem?_eq_some_iff.mp hs).1).trans hs, hid⟩
  · simp [World.register, hsubscribers]
  · simp only [World.register, hsubscribers] at hs
    by_cases hn : n < t.world.subscribers.length
    · rw [List.getElem?_append_left hn] at hs
      exact .inl ⟨s, hs, rfl⟩
    · rw [List.getElem?_append_right (not_lt.mp hn), List.getElem?_singleton] at hs
      split at hs
      · obtain rfl := Option.some.inj hs
        exact .inr ⟨not_lt.mp hn, rfl⟩
      · cases hs

theorem Accounted.subscribe (h : t.Accounted) (clientID : String) (err : Option String) :
    Accounted { t with world := (t.world.subscribe clientID err).2 } := by
  unfold World.subscribe
  split
  · exact h.register clientID ⟨rfl, rfl, rfl⟩
  · cases err with
    | none => exact h.register clientID ⟨rfl, rfl, rfl⟩
    | some err => exact h.of_world h.owned le_rfl (fun n s hs ↦ .inl ⟨s, hs, rfl⟩) rfl

theorem Accounted.unsubscribe (h : t.Accounted) (clientID : String) :
    Accounted { t with world := t.world.unsubscribe clientID } := by
  have howned : World.Owned { t.world with
      broker := { t.world.broker with subs := t.world.broker.subs.erase clientID } } := by
    intro id n hget
    simp only [Go.Map.get_erase] at hget
    split at hget
    · cases hget
    · exact h.owned id n hget
  unfold World.unsubscribe
  dsimp only
  split <;> exact h.of_world howned le_rfl (fun n s hs ↦ .inl ⟨s, hs, rfl⟩) rfl

theorem Accounted.leave (h : t.Accounted) (n : ℕ) :
    Accounted { t with world := t.world.leave n } := by
  unfold World.leave
  split
  · exact h
  next s hs =>
    have hn := (List.getElem?_eq_some_iff.mp hs).1
    have hleft : Accounted { t with
        world := { t.world with
          subscribers := t.world.subscribers.set n { s with left := true } } } := by
      refine h.of_world (fun id m hget ↦ ?_) (by simp) (fun m s' hs' ↦ ?_) rfl
      · obtain ⟨s', hs', hid⟩ := h.owned id m hget
        by_cases hm : m = n
        · subst hm
          obtain rfl := Option.some.inj (hs.symm.trans hs')
          exact ⟨_, List.getElem?_set_self hn, hid⟩
        · exact ⟨s', (List.getElem?_set_ne (Ne.symm hm)).trans hs', hid⟩
      · dsimp only at hs'
        by_cases hm : m = n
        · subst hm
          rw [List.getElem?_set_self hn] at hs'
          obtain rfl := Option.some.inj hs'
          exact .inl ⟨s, hs, rfl⟩
        · exact .inl ⟨s', (List.getElem?_set_ne (Ne.symm hm)).symm.trans hs', rfl⟩
    exact hleft.unsubscribe s.clientID

theorem Accounted.step (h : t.Accounted) (a : Act δ) : (t.step a).Accounted := by
  cases a with
  | send k => exact h.send k
  | op o =>
    cases o with
    | subscribe clientID err => exact h.subscribe clientID err
    | leave n => exact h.leave n
    | unsubscribe clientID => exact h.unsubscribe clientID
    | publish order e => exact h.begin order e
    | receive n => exact h.receive n

theorem accounted (topic : String) (acts : List (Act δ)) :
    (acts.foldl step (new topic)).Accounted :=
  Run.always (fun _ a h ↦ h.step a) (Accounted.new topic) _ (Run.foldl_mem_states _ acts)

/-- Of each event a subscriber of its snapshot has either got one copy or lost it, once the call
has come to it; nothing else is received, and every loss has been counted. -/
theorem each_event_once (topic : String) (acts : List (Act δ)) :
    let t := acts.foldl step (new topic)
    (∀ n s, t.world.subscribers[n]? = some s →
      (t.taken n ++ s.channel).map some =
        (t.entered n).map fun k ↦ (t.flights[k]?).map (·.event)) ∧
    (∀ n, (t.entered n ++ t.lost n).Nodup) ∧
    (∀ n k f, t.flights[k]? = some f →
      (k ∈ t.entered n ++ t.lost n ↔ n ∈ f.snapshot ∧ n ∉ f.pending)) ∧
    t.world.broker.dropped =
      (∑ n ∈ Finset.range t.world.subscribers.length, (t.lost n).length) % 2 ^ 64 := by
  intro t
  have h := accounted topic acts
  refine ⟨h.content, h.once, fun n k f hf ↦ (h.outcome n k).trans ⟨?_, ?_⟩, h.dropped⟩
  · rintro ⟨g, hg, hrest⟩
    obtain rfl := Option.some.inj (hf.symm.trans hg)
    exact hrest
  · intro hrest
    exact ⟨f, hf, hrest⟩

/-- A subscriber gets the event of a call that had returned before the event of a call that
began after. -/
theorem delivered_in_order (topic : String) (acts : List (Act δ)) {n j k : ℕ} {f : Flight δ}
    (hj : j ∈ (acts.foldl step (new topic)).entered n)
    (hk : k ∈ (acts.foldl step (new topic)).entered n)
    (hf : (acts.foldl step (new topic)).flights[k]? = some f) (hreturned : j ∈ f.returned) :
    [j, k].Sublist ((acts.foldl step (new topic)).entered n) := by
  have h := accounted topic acts
  have hlt := h.earlier k f hf j hreturned
  refine pair_sublist (h.order n) hj hk hlt.ne fun hnot ↦ ?_
  exact hnot f hf hreturned

/-- Two events for one subscriber, one after the other. -/
def twoEvents : List (Act ℕ) :=
  [.op (.subscribe "a" none), .op (.publish (.asStored ℕ) ⟨"log", 1, ""⟩), .send 0,
    .op (.publish (.asStored ℕ) ⟨"log", 2, ""⟩), .send 1]

theorem second_after_first :
    [0, 1].Sublist ((twoEvents.foldl step (new "1:log:all")).entered 0) := by
  have hflight : (twoEvents.foldl step (new "1:log:all")).flights[1]? =
      some ⟨⟨"log", 2, ""⟩, [0], [], [0]⟩ := rfl
  exact delivered_in_order "1:log:all" twoEvents (by decide) (by decide) hflight (by decide)

/-- Every call of `Publish` began when all before it had returned. -/
def Serial (t : Traffic δ) : Prop :=
  ∀ (k : ℕ) (f : Flight δ), t.flights[k]? = some f → ∀ j < k, j ∈ f.returned

/-- Where the backend publishes one event after the other, a subscriber gets some of the events
in the order in which they were published. -/
theorem received_sublist (topic : String) (acts : List (Act δ))
    (hserial : (acts.foldl step (new topic)).Serial) {n : ℕ} {s : Subscriber δ}
    (hs : (acts.foldl step (new topic)).world.subscribers[n]? = some s) :
    ((acts.foldl step (new topic)).taken n ++ s.channel).Sublist
      ((acts.foldl step (new topic)).flights.map (·.event)) := by
  have h := accounted topic acts
  have hnodup : ((acts.foldl step (new topic)).entered n).Nodup :=
    (h.once n).sublist (List.sublist_append_left _ _)
  have hboth := (h.order n).and hnodup
  have hsorted : ((acts.foldl step (new topic)).entered n).Pairwise (· < ·) := by
    refine hboth.imp_of_mem fun {j k} hj hk hjk ↦ ?_
    obtain ⟨f, hf⟩ : ∃ f, (acts.foldl step (new topic)).flights[j]? = some f :=
      ⟨_, List.getElem?_eq_getElem (h.entered_lt hj)⟩
    by_contra hle
    have hlt : k < j := (not_lt.mp hle).lt_of_ne hjk.2.symm
    exact hjk.1 f hf (hserial j f hf k hlt)
  refine sublist_of_places hsorted ((h.content n s hs).trans (List.map_congr_left fun k _ ↦ ?_))
  rw [List.getElem?_map]

end Traffic

end Rosmon.Sse
