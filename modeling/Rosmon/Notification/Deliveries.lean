import Rosmon.Library.Pool
import Rosmon.Notification.Traces

namespace Rosmon.Notification

open Go Library Store Program

section Programs

variable (s : Service)

/-- What a `Notify` is called with. -/
structure Notice where
  customerID : Option ℕ
  phone : String
  slug : String
  vars : Map String

/-- In the background, where an error is only logged. -/
def notifyAsync (n : Notice) : Prog Unit := do
  let _ ← notify s n.customerID n.phone n.slug n.vars
  return ()

def notifRetryBatch : ℤ := 50

/-- The first runs of the job, which follow each other. -/
def notifRetry : ℕ → Prog Unit
  | 0 => return ()
  | runs + 1 => do
    let _ ← retryPending notifRetryBatch
    notifRetry runs

end Programs

section Hands

/-- What has been seen of a program: whether it is the job, the rows that it has taken up and not
yet recorded an attempt for, whether the sender has taken the message of the first of them, the
rows whose message the sender has taken, and whether the record of one of these has failed. -/
structure Hand where
  job : Bool
  held : List NotificationLog
  taken : Bool
  delivered : List ℕ
  lost : Bool

def Hand.start (job : Bool) : Hand := ⟨job, [], false, [], false⟩

/-- The sender has taken the message of the first row. -/
def Hand.send (h : Hand) : Hand :=
  { h with taken := true, delivered := (h.held.take 1).map (·.id) ++ h.delivered }

/-- The attempt for the first row has been recorded. -/
def Hand.drop (h : Hand) : Hand := { h with held := h.held.tail, taken := false }

/-- Rows are taken up by a program of their kind, the message that is sent is that of the first
row, and the record that follows is that of what the sender has answered. -/
def courier : Monitor Call Call.Reply Hand where
  allows h
    | .create _ => h.job = false ∧ h.held = [] ∧ h.taken = false
    | .listPendingRetry .. => h.job = true ∧ h.taken = false
    | .send phone body => h.taken = false ∧
      ∃ l rest, h.held = l :: rest ∧ l.recipientPhone = phone ∧ l.messageBody = body
    | .markSent id .. => h.taken = true ∧ ∃ l rest, h.held = l :: rest ∧ l.id = id
    | .markFailed id .. => h.taken = false ∧ ∃ l rest, h.held = l :: rest ∧ l.id = id
    | .template _ | .setting _ | .done | .now => True
  next h
    | .create l, .ok id => if l.status = .pending then { h with held := [{ l with id := id }] } else h
    | .listPendingRetry .., .ok rows => { h with held := rows }
    | .send .., .ok _ => h.send
    | .markSent .., .ok _ => h.drop
    | .markSent .., .error _ => { h.drop with lost := true }
    | .markFailed .., _ => h.drop
    | _, _ => h

end Hands

section Follows

variable (s : Service) {h : Hand}

theorem retryEach_follows (rows : List NotificationLog) (sent : ℕ) (hjob : h.job = true)
    (htaken : h.taken = false) (hheld : h.held = rows) :
    (retryEach rows sent).Follows courier (fun h _ ↦ h.job = true ∧ h.taken = false) h := by
  induction rows generalizing sent h with
  | nil => exact ⟨hjob, htaken⟩
  | cons l rest ih =>
    refine ⟨trivial, fun ended ↦ ?_⟩
    cases ended with
    | some err => exact ⟨hjob, htaken⟩
    | none =>
      refine ⟨⟨htaken, l, rest, hheld, rfl, rfl⟩, fun r ↦ ⟨trivial, fun now ↦ ?_⟩⟩
      cases r with
      | error err =>
        refine ⟨⟨htaken, l, rest, hheld, rfl⟩, fun marked ↦ ?_⟩
        exact ih sent hjob rfl (congrArg List.tail hheld)
      | ok resp =>
        refine ⟨⟨rfl, l, rest, hheld, rfl⟩, fun marked ↦ ?_⟩
        cases marked with
        | error err => exact ih (sent + 1) hjob rfl (congrArg List.tail hheld)
        | ok done => exact ih (sent + 1) hjob rfl (congrArg List.tail hheld)

theorem notifRetry_follows (runs : ℕ) (hjob : h.job = true) (htaken : h.taken = false) :
    (notifRetry runs).Follows courier (fun _ _ ↦ True) h := by
  induction runs generalizing h with
  | zero => trivial
  | succ runs ih =>
    have first : (retryPending notifRetryBatch).Follows courier
        (fun h _ ↦ h.job = true ∧ h.taken = false) h := by
      refine ⟨trivial, fun now ↦ ⟨⟨hjob, htaken⟩, fun r ↦ ?_⟩⟩
      cases r with
      | error err => exact ⟨hjob, htaken⟩
      | ok rows => exact retryEach_follows rows 0 hjob htaken rfl
    exact first.bind fun h _ kept ↦ ih kept.1 kept.2

theorem notify_follows (n : Notice) :
    (notifyAsync s n).Follows courier (fun _ _ ↦ True) (Hand.start false) := by
  have asked : (notify s n.customerID n.phone n.slug n.vars).Follows courier (fun _ _ ↦ True)
      (Hand.start false) := by
    have rendered : (render s n.slug n.vars).Follows courier (fun h _ ↦ h = Hand.start false)
        (Hand.start false) := by
      refine ⟨trivial, fun r ↦ ?_⟩
      cases r <;> rfl
    have switched : enabled.Follows courier (fun h _ ↦ h = Hand.start false)
        (Hand.start false) := ⟨trivial, fun _ ↦ rfl⟩
    unfold notify
    split
    · trivial
    refine rendered.bind fun h r hh ↦ ?_
    subst hh
    cases r with
    | error err => trivial
    | ok body =>
      refine switched.bind fun h on hh ↦ ?_
      subst hh
      split
      · refine ⟨⟨rfl, rfl, rfl⟩, fun written ↦ ?_⟩
        cases written with
        | error err => trivial
        | ok id =>
          refine ⟨⟨rfl, _, [], rfl, rfl, rfl⟩, fun r ↦ ⟨trivial, fun now ↦ ?_⟩⟩
          cases r with
          | error err => exact ⟨⟨rfl, _, [], rfl, rfl⟩, fun _ ↦ trivial⟩
          | ok resp => exact ⟨⟨rfl, _, [], rfl, rfl⟩, fun _ ↦ trivial⟩
      · exact ⟨⟨rfl, rfl, rfl⟩, fun _ ↦ trivial⟩
  exact asked.bind fun _ _ _ ↦ trivial

end Follows

section Invariant

variable {κ : Type}

/-- What a row is before an attempt is recorded. -/
def Hand.status (h : Hand) : LogStatus := if h.job then .failed else .pending

/-- The sender has taken the message of a row, and that is not recorded yet. -/
def Hand.Takes (h : Hand) (id : ℕ) : Prop :=
  h.taken = true ∧ ∃ l rest, h.held = l :: rest ∧ l.id = id

/-- A message that was taken is not taken up again: its row says that it was sent, or is about to,
or is left as it was written. -/
def Recorded (m : Option κ → Hand) (i : Option κ) (id : ℕ) (status : LogStatus) : Prop :=
  status = .sent ∨ (m i).Takes id ∨ status = .pending ∧ ∀ j, ∀ l ∈ (m j).held, l.id ≠ id

/-- No row is in two hands, and no message has been taken twice. -/
structure Deliveries (t : LogTable) (m : Option κ → Hand) : Prop where
  job : ∀ i, (m i).job = i.isNone
  nodup : ∀ i, ((m i).held.map (·.id)).Nodup
  alone : ∀ i j, ∀ l ∈ (m i).held, ∀ l' ∈ (m j).held, l.id = l'.id → i = j
  stored : ∀ i, ∀ l ∈ (m i).held, ∃ r ∈ t, r.id = l.id ∧ r.status = (m i).status
  once : ∀ i, (m i).delivered.Nodup
  apart : ∀ i j, ∀ id ∈ (m i).delivered, id ∈ (m j).delivered → i = j
  recorded : ∀ i, ∀ id ∈ (m i).delivered, ∃ r ∈ t, r.id = id ∧ Recorded m i id r.status

variable {t u : LogTable} {m : Option κ → Hand} {i j : Option κ} {l : NotificationLog}
  {rest : List NotificationLog}

theorem Hand.status_ne_sent (h : Hand) : h.status ≠ .sent := by
  unfold status
  split <;> decide

theorem Deliveries.start (t : LogTable) :
    Deliveries t fun i : Option κ ↦ Hand.start i.isNone where
  job i := rfl
  nodup i := .nil
  alone i j l hl := by simp [Hand.start] at hl
  stored i l hl := by simp [Hand.start] at hl
  once i := .nil
  apart i j id hid := by simp [Hand.start] at hid
  recorded i id hid := by simp [Hand.start] at hid

/-- The message of a row that is held has been taken only if that is not recorded yet. -/
theorem Deliveries.taker (d : Deliveries t m) (hl : l ∈ (m i).held)
    (hid : l.id ∈ (m j).delivered) : j = i ∧ (m i).Takes l.id := by
  obtain ⟨r, hr, hkey, hstatus⟩ := d.recorded j l.id hid
  obtain ⟨q, hq, hkey', hstatus'⟩ := d.stored i l hl
  obtain rfl : r = q := Table.eq_of_key hr hq (hkey.trans hkey'.symm)
  rcases hstatus with hsent | htakes | ⟨-, hfree⟩
  · exact absurd (hstatus'.symm.trans hsent) (m i).status_ne_sent
  · have hhead := htakes
    obtain ⟨-, l', rest, hheld, heq⟩ := hhead
    have hl' : l' ∈ (m j).held := by simp [hheld]
    have hij := d.alone i j l hl l' hl' heq.symm
    exact ⟨hij.symm, hij ▸ htakes⟩
  · exact absurd rfl (hfree i l hl)

theorem Deliveries.undelivered (d : Deliveries t m) (hl : l ∈ (m i).held)
    (htaken : (m i).taken = false) (j : Option κ) : l.id ∉ (m j).delivered := by
  intro hid
  have htakes := (d.taker hl hid).2.1
  rw [htaken] at htakes
  cases htakes

theorem Deliveries.grow (d : Deliveries t m) (h : ∀ r ∈ t, r ∈ u) : Deliveries u m where
  job := d.job
  nodup := d.nodup
  alone := d.alone
  stored i l hl := by
    obtain ⟨r, hr, hrow⟩ := d.stored i l hl
    exact ⟨r, h r hr, hrow⟩
  once := d.once
  apart := d.apart
  recorded i id hid := by
    obtain ⟨r, hr, hrow⟩ := d.recorded i id hid
    exact ⟨r, h r hr, hrow⟩

variable [DecidableEq κ]

theorem at_update (P : Option κ → Hand → Prop) {h : Hand} (hi : P i h) (hm : ∀ j, P j (m j))
    (j : Option κ) : P j (Function.update m i h j) := by
  by_cases hj : j = i
  · subst hj
    simpa using hi
  · simpa [hj] using hm j

theorem mem_held_update {h : Hand} :
    l ∈ (Function.update m i h j).held ↔ j = i ∧ l ∈ h.held ∨ j ≠ i ∧ l ∈ (m j).held := by
  by_cases hj : j = i
  · subst hj
    simp
  · simp [hj]

theorem mem_delivered_update {h : Hand} {id : ℕ} : id ∈ (Function.update m i h j).delivered ↔
    j = i ∧ id ∈ h.delivered ∨ j ≠ i ∧ id ∈ (m j).delivered := by
  by_cases hj : j = i
  · subst hj
    simp
  · simp [hj]

/-- Rows that no one else holds and whose messages have not been taken are taken up. -/
theorem Deliveries.take (d : Deliveries t m) {rows : List NotificationLog}
    (htaken : (m i).taken = false) (hnodup : (rows.map (·.id)).Nodup)
    (hrows : ∀ l ∈ rows, ∃ r ∈ t, r.id = l.id ∧ r.status = (m i).status)
    (hfree : ∀ l ∈ rows, ∀ j ≠ i, ∀ l' ∈ (m j).held, l.id ≠ l'.id)
    (hnew : ∀ l ∈ rows, ∀ j, l.id ∉ (m j).delivered) :
    Deliveries t (Function.update m i { m i with held := rows }) where
  job := at_update (fun j h ↦ h.job = j.isNone) (d.job i) d.job
  nodup := at_update (fun _ h ↦ (h.held.map (·.id)).Nodup) hnodup d.nodup
  alone j k l hl l' hl' heq := by
    rw [mem_held_update] at hl hl'
    rcases hl with ⟨rfl, hl⟩ | ⟨hj, hl⟩ <;> rcases hl' with ⟨rfl, hl'⟩ | ⟨hk, hl'⟩
    · rfl
    · exact absurd heq (hfree l hl k hk l' hl')
    · exact absurd heq.symm (hfree l' hl' j hj l hl)
    · exact d.alone j k l hl l' hl' heq
  stored := at_update (fun _ h ↦ ∀ l ∈ h.held, ∃ r ∈ t, r.id = l.id ∧ r.status = h.status) hrows
    d.stored
  once := at_update (fun _ h ↦ h.delivered.Nodup) (d.once i) d.once
  apart j k id hid hid' := by
    rw [mem_delivered_update] at hid hid'
    rcases hid with ⟨rfl, hid⟩ | ⟨-, hid⟩ <;> rcases hid' with ⟨rfl, hid'⟩ | ⟨-, hid'⟩ <;>
      exact d.apart _ _ id hid hid'
  recorded j id hid := by
    have before : id ∈ (m j).delivered := by
      rcases mem_delivered_update.mp hid with ⟨rfl, hid⟩ | ⟨-, hid⟩ <;> exact hid
    obtain ⟨r, hr, hkey, hstatus⟩ := d.recorded j id before
    refine ⟨r, hr, hkey, ?_⟩
    rcases hstatus with hsent | htakes | ⟨hpending, hunheld⟩
    · exact .inl hsent
    · have hj : j ≠ i := by
        rintro rfl
        simp [Hand.Takes, htaken] at htakes
      exact .inr (.inl (by simpa [hj] using htakes))
    · refine .inr (.inr ⟨hpending, fun k l hl ↦ ?_⟩)
      rcases mem_held_update.mp hl with ⟨rfl, hl⟩ | ⟨-, hl⟩
      · rintro rfl
        exact hnew l hl j before
      · exact hunheld k l hl

/-- The sender takes the message of the first row. -/
theorem Deliveries.send (d : Deliveries t m) (hheld : (m i).held = l :: rest)
    (htaken : (m i).taken = false) : Deliveries t (Function.update m i (m i).send) := by
  have hl : l ∈ (m i).held := by simp [hheld]
  have hnew := d.undelivered hl htaken
  have hsend : (m i).send.delivered = l.id :: (m i).delivered := by simp [Hand.send, hheld]
  have sameHeld (k : Option κ) {l' : NotificationLog}
      (h : l' ∈ (Function.update m i (m i).send k).held) : l' ∈ (m k).held := by
    rcases mem_held_update.mp h with ⟨rfl, h⟩ | ⟨-, h⟩ <;> exact h
  have delivered (k : Option κ) {id : ℕ}
      (h : id ∈ (Function.update m i (m i).send k).delivered) :
      k = i ∧ id = l.id ∨ id ∈ (m k).delivered := by
    rcases mem_delivered_update.mp h with ⟨rfl, h⟩ | ⟨-, h⟩
    · rw [hsend] at h
      exact (List.mem_cons.mp h).imp_left fun h ↦ ⟨rfl, h⟩
    · exact .inr h
  exact
    { job := at_update (fun j h ↦ h.job = j.isNone) (d.job i) d.job
      nodup := at_update (fun _ h ↦ (h.held.map (·.id)).Nodup) (by exact d.nodup i) d.nodup
      alone := fun j k l hl l' hl' ↦ d.alone j k l (sameHeld j hl) l' (sameHeld k hl')
      stored := at_update (fun _ h ↦ ∀ l ∈ h.held, ∃ r ∈ t, r.id = l.id ∧ r.status = h.status)
        (by exact d.stored i) d.stored
      once := at_update (fun _ h ↦ h.delivered.Nodup)
        (hsend ▸ List.nodup_cons.mpr ⟨hnew i, d.once i⟩) d.once
      apart := by
        intro j k id hid hid'
        rcases delivered j hid with ⟨hj, rfl⟩ | old <;>
          rcases delivered k hid' with ⟨hk, heq⟩ | old'
        · exact hj.trans hk.symm
        · exact absurd old' (hnew k)
        · exact absurd (heq ▸ old) (hnew j)
        · exact d.apart j k id old old'
      recorded := by
        intro j id hid
        rcases delivered j hid with ⟨rfl, rfl⟩ | hid
        · obtain ⟨r, hr, hkey, -⟩ := d.stored j l hl
          refine ⟨r, hr, hkey, .inr (.inl ?_)⟩
          rw [Function.update_self]
          exact ⟨rfl, l, rest, hheld, rfl⟩
        obtain ⟨r, hr, hkey, hstatus⟩ := d.recorded j id hid
        refine ⟨r, hr, hkey, ?_⟩
        rcases hstatus with hsent | htakes | ⟨hpending, hunheld⟩
        · exact .inl hsent
        · have hj : j ≠ i := by
            rintro rfl
            simp [Hand.Takes, htaken] at htakes
          exact .inr (.inl (by simpa [hj] using htakes))
        · exact .inr (.inr ⟨hpending, fun k l' hl' ↦ hunheld k l' (sameHeld k hl')⟩) }

/-- The attempt for the first row is recorded, or the record has failed; a message that was taken
is of a row that says so or is left as it was written. -/
theorem Deliveries.drop (d : Deliveries t m) (hheld : (m i).held = l :: rest) (lost : Bool)
    (hother : ∀ r ∈ t, r.id ≠ l.id → r ∈ u)
    (hrow : ∃ r ∈ u, r.id = l.id ∧
      (l.id ∈ (m i).delivered → r.status = .sent ∨ r.status = .pending)) :
    Deliveries u (Function.update m i { (m i).drop with lost := lost }) := by
  have hl : l ∈ (m i).held := by simp [hheld]
  have hnodup := d.nodup i
  rw [hheld, List.map_cons, List.nodup_cons] at hnodup
  have hdrop : (m i).drop.held = rest := by simp [Hand.drop, hheld]
  have sameHeld (k : Option κ) {l' : NotificationLog}
      (h : l' ∈ (Function.update m i { (m i).drop with lost := lost } k).held) :
      l' ∈ (m k).held ∧ l'.id ≠ l.id := by
    rcases mem_held_update.mp h with ⟨rfl, h⟩ | ⟨hk, h⟩
    · have hrest : l' ∈ rest := by simpa [hdrop] using h
      refine ⟨by simp [hheld, hrest], fun heq ↦ hnodup.1 ?_⟩
      exact heq ▸ List.mem_map_of_mem hrest
    · exact ⟨h, fun heq ↦ hk (d.alone k i l' h l hl heq)⟩
  have sameDelivered (k : Option κ) :
      (Function.update m i { (m i).drop with lost := lost } k).delivered = (m k).delivered := by
    by_cases hk : k = i
    · subst hk
      simp [Hand.drop]
    · simp [hk]
  have sameStatus (k : Option κ) :
      (Function.update m i { (m i).drop with lost := lost } k).status = (m k).status := by
    by_cases hk : k = i
    · subst hk
      simp [Hand.drop, Hand.status]
    · simp [hk]
  exact
    { job := at_update (fun j h ↦ h.job = j.isNone) (d.job i) d.job
      nodup := at_update (fun _ h ↦ (h.held.map (·.id)).Nodup) (by simpa [hdrop] using hnodup.2)
        d.nodup
      alone := fun j k l hl l' hl' ↦ d.alone j k l (sameHeld j hl).1 l' (sameHeld k hl').1
      stored := by
        intro j l' hl'
        obtain ⟨hheld', hne⟩ := sameHeld j hl'
        obtain ⟨r, hr, hkey, hstatus⟩ := d.stored j l' hheld'
        exact ⟨r, hother r hr (hkey ▸ hne), hkey, hstatus.trans (sameStatus j).symm⟩
      once := fun j ↦ sameDelivered j ▸ d.once j
      apart := by
        intro j k id hid hid'
        rw [sameDelivered] at hid hid'
        exact d.apart j k id hid hid'
      recorded := by
        intro j id hid
        rw [sameDelivered] at hid
        obtain ⟨r, hr, hkey, hstatus⟩ := d.recorded j id hid
        by_cases hid' : id = l.id
        · subst hid'
          obtain ⟨rfl, -⟩ := d.taker hl hid
          obtain ⟨q, hq, hkey', hstatus'⟩ := hrow
          refine ⟨q, hq, hkey', ?_⟩
          rcases hstatus' hid with hsent | hpending
          · exact .inl hsent
          · exact .inr (.inr ⟨hpending, fun k l' hl' ↦ (sameHeld k hl').2⟩)
        refine ⟨r, hother r hr (hkey ▸ hid'), hkey, ?_⟩
        rcases hstatus with hsent | htakes | ⟨hpending, hunheld⟩
        · exact .inl hsent
        · have hj : j ≠ i := by
            rintro rfl
            obtain ⟨-, l', rest', hheld', heq⟩ := htakes
            rw [hheld] at hheld'
            exact hid' (heq.symm.trans (congrArg (·.id) (List.cons.inj hheld').1).symm)
          exact .inr (.inl (by simpa [hj] using htakes))
        · exact .inr (.inr ⟨hpending, fun k l' hl' ↦ hunheld k l' (sameHeld k hl').1⟩) }

/-- No row is listed twice. -/
theorem nodup_listed (order : Arrangement NotificationLog) (now : Time) (limit : ℤ)
    (t : LogTable) : ((t.listPendingRetry order now limit).map NotificationLog.id).Nodup := by
  have hkeys : (t.rows.map NotificationLog.id).Nodup := List.pairwise_map.mpr (t.sorted.imp Nat.ne_of_lt)
  have hdue := hkeys.sublist ((List.filter_sublist (p := LogTable.due now)).map NotificationLog.id)
  have hperm := (List.mergeSort_perm (order.order (t.rows.filter (LogTable.due now)))
    LogTable.retriedBefore).trans (order.perm _)
  have hsorted := (hperm.map NotificationLog.id).nodup_iff.mpr hdue
  exact hsorted.sublist ((List.take_sublist _ _).map NotificationLog.id)

theorem Deliveries.list (d : Deliveries t m) (hjob : (m i).job = true)
    (htaken : (m i).taken = false) (order : Arrangement NotificationLog) (now : Time) (limit : ℤ) :
    Deliveries t (Function.update m i
      { m i with held := t.listPendingRetry order now limit }) := by
  have hstatus : (m i).status = .failed := if_pos hjob
  have hpending {j : Option κ} (hj : j ≠ i) : (m j).status = .pending := by
    refine if_neg fun hjob' ↦ hj ?_
    rw [d.job] at hjob hjob'
    rw [Option.isNone_iff_eq_none.mp hjob, Option.isNone_iff_eq_none.mp hjob']
  apply d.take htaken (nodup_listed order now limit t)
  · intro l hl
    obtain ⟨hmem, hfailed⟩ := failed_of_listed hl
    exact ⟨l, hmem, rfl, hfailed.trans hstatus.symm⟩
  · intro l hl j hj l' hl' heq
    obtain ⟨hmem, hfailed⟩ := failed_of_listed hl
    obtain ⟨r, hr, hkey, hrow⟩ := d.stored j l' hl'
    obtain rfl : l = r := Table.eq_of_key hmem hr (heq.trans hkey.symm)
    rw [hpending hj, hfailed] at hrow
    cases hrow
  · intro l hl j hid
    obtain ⟨hmem, hfailed⟩ := failed_of_listed hl
    obtain ⟨r, hr, hkey, hrow⟩ := d.recorded j l.id hid
    obtain rfl : r = l := Table.eq_of_key hr hmem hkey
    rcases hrow with hsent | ⟨htakes, l', rest, hheld, heq⟩ | ⟨hpending, -⟩
    · rw [hfailed] at hsent
      cases hsent
    · have hj : j ≠ i := by
        rintro rfl
        rw [htaken] at htakes
        cases htakes
      obtain ⟨q, hq, hkey', hrow⟩ := d.stored j l' (by simp [hheld])
      obtain rfl : q = r := Table.eq_of_key hq hr (hkey'.trans heq)
      rw [hpending hj, hfailed] at hrow
      cases hrow
    · rw [hfailed] at hpending
      cases hpending

theorem Deliveries.create (d : Deliveries t m) (hjob : (m i).job = false)
    (htaken : (m i).taken = false) {new : NotificationLog} (hnew : new.status = .pending)
    (hl : l.id = t.next) :
    Deliveries (t.insert new) (Function.update m i { m i with held := [l] }) := by
  have fresh {r : NotificationLog} (hr : r ∈ t) : r.id ≠ l.id := hl ▸ (t.fresh r hr).ne
  have grown : Deliveries (t.insert new) m := d.grow fun r hr ↦ Table.mem_insert.mpr (.inl hr)
  apply grown.take htaken
  · simp
  · intro l' hl'
    obtain rfl := List.mem_singleton.mp hl'
    have hmem : { new with id := t.next } ∈ t.insert new := Table.mem_insert.mpr (.inr rfl)
    exact ⟨_, hmem, hl.symm, hnew.trans (if_neg (by simp [hjob])).symm⟩
  · intro l' hl' j hj q hq heq
    obtain rfl := List.mem_singleton.mp hl'
    obtain ⟨r, hr, hkey, -⟩ := d.stored j q hq
    exact fresh hr (hkey.trans heq.symm)
  · intro l' hl' j hid
    obtain rfl := List.mem_singleton.mp hl'
    obtain ⟨r, hr, hkey, -⟩ := d.recorded j _ hid
    exact fresh hr hkey

/-- What is seen of a call that succeeds or fails keeps it so, if the job loses no record. -/
theorem Deliveries.step (d : Deliveries t m) {c : Call} (hc : courier.allows (m i) c) (e : Env)
    (hlost : i = none → (courier.next (m i) c (c.exec e t).1).lost = false) :
    Deliveries (c.exec e t).2 (Function.update m i (courier.next (m i) c (c.exec e t).1)) := by
  have idle (h : courier.next (m i) c (c.exec e t).1 = m i) (hsame : (c.exec e t).2 = t) :
      Deliveries (c.exec e t).2
        (Function.update m i (courier.next (m i) c (c.exec e t).1)) := by
    rw [h, hsame, Function.update_eq_self]
    exact d
  cases c with
  | template slug => exact idle rfl rfl
  | setting key => exact idle rfl rfl
  | done => exact idle rfl rfl
  | now => exact idle rfl rfl
  | send phone body =>
    obtain ⟨htaken, l, rest, hheld, -⟩ := hc
    cases houtcome : e.outcome with
    | error err => exact idle (by simp [courier, houtcome]) rfl
    | ok resp => simpa [courier, houtcome] using d.send hheld htaken
  | create l =>
    obtain ⟨hjob, -, htaken⟩ := hc
    cases hctx : e.ctxErr with
    | some err =>
      rw [exec_create_ended l hctx] at idle ⊢
      exact idle rfl rfl
    | none =>
      rw [exec_create l hctx]
      by_cases hpending : l.status = .pending
      · have hnext : courier.next (m i) (.create l) (.ok t.next) =
            { m i with held := [{ l with id := t.next }] } := if_pos hpending
        rw [hnext]
        exact d.create hjob htaken hpending rfl
      · have hnext : courier.next (m i) (.create l) (.ok t.next) = m i := if_neg hpending
        rw [hnext, Function.update_eq_self]
        exact d.grow fun r hr ↦ Table.mem_insert.mpr (.inl hr)
  | listPendingRetry before limit =>
    obtain ⟨hjob, htaken⟩ := hc
    cases hctx : e.ctxErr with
    | some err =>
      have hexec : (Call.listPendingRetry before limit).exec e t = (.error err, t) := by
        simp only [Call.exec, alive, hctx]
      rw [hexec] at idle ⊢
      exact idle rfl rfl
    | none =>
      simp only [Call.exec, alive, hctx]
      exact d.list hjob htaken e.order before limit
  | markSent id resp sentAt =>
    obtain ⟨htaken, l, rest, hheld, rfl⟩ := hc
    obtain ⟨r, hr, hkey, hstatus⟩ := d.stored i l (by simp [hheld])
    cases hctx : e.ctxErr with
    | some err =>
      have hexec : (Call.markSent l.id resp sentAt).exec e t = (.error err, t) := by
        simp only [Call.exec, alive, hctx]
      rw [hexec] at hlost ⊢
      -- Only a `Notify` may lose the record, and its row stays pending.
      have hpending : (m i).status = .pending := by
        refine if_neg fun hjob ↦ ?_
        rw [d.job] at hjob
        exact Bool.noConfusion (hlost (Option.isNone_iff_eq_none.mp hjob))
      exact d.drop hheld true (fun q hq _ ↦ hq)
        ⟨r, hr, hkey, fun _ ↦ .inr (hstatus.trans hpending)⟩
    | none =>
      have hget : t.get l.id = some r := Table.get_eq_some.mpr ⟨hr, hkey⟩
      simp only [Call.exec, alive, hctx, LogTable.mark, hget, Option.isSome_some, if_true]
      apply d.drop hheld (m i).lost
      · exact fun q hq hne ↦ Table.mem_update_of_not hq (by simpa using hne)
      · exact ⟨_, Table.mem_update_of hr (by simpa using hkey), hkey, fun _ ↦ .inl rfl⟩
  | markFailed id resp next =>
    obtain ⟨htaken, l, rest, hheld, rfl⟩ := hc
    have hl : l ∈ (m i).held := by simp [hheld]
    have hnew := d.undelivered hl htaken i
    obtain ⟨r, hr, hkey, -⟩ := d.stored i l hl
    have hnext : courier.next (m i) (.markFailed l.id resp next)
        ((Call.markFailed l.id resp next).exec e t).1 = { (m i).drop with lost := (m i).lost } := by
      rfl
    rw [hnext]
    cases hctx : e.ctxErr with
    | some err =>
      simp only [Call.exec, alive, hctx]
      exact d.drop hheld _ (fun q hq _ ↦ hq) ⟨r, hr, hkey, fun hid ↦ absurd hid hnew⟩
    | none =>
      simp only [Call.exec, alive, hctx, LogTable.mark]
      apply d.drop hheld
      · exact fun q hq hne ↦ Table.mem_update_of_not hq (by simpa using hne)
      · exact ⟨_, Table.mem_update_of hr (by simpa using hkey), hkey, fun hid ↦ absurd hid hnew⟩

end Invariant

section Runs

variable {κ : Type} [DecidableEq κ] (s : Service) (requests : κ → Notice) (runs : ℕ)

/-- The job, and the notifications that are under way beside it. -/
def notifications (t : LogTable) : Pool (Option κ) Call Call.Reply Unit LogTable Hand where
  state := t
  threads i := i.elim (notifRetry runs) fun k ↦ notifyAsync s (requests k)
  marks i := Hand.start i.isNone

theorem lost_of_next {h : Hand} {c : Call} {r : c.Reply}
    (hlost : (courier.next h c r).lost = false) : h.lost = false := by
  cases c with
  | template | setting => cases r <;> exact hlost
  | done | now | markFailed => exact hlost
  | send => cases r <;> exact hlost
  | create l =>
    cases r with
    | error err => exact hlost
    | ok id =>
      dsimp only [courier] at hlost
      split at hlost <;> exact hlost
  | markSent =>
    cases r with
    | error err => cases hlost
    | ok done => exact hlost
  | listPendingRetry => cases r <;> exact hlost

theorem notifications_sound (t : LogTable) (schedule : List (Option κ × Env)) :
    ((notifications s requests runs t).run Call.exec courier schedule).Sound courier
      (fun _ _ _ ↦ True) fun t m ↦ (m none).lost = false → Deliveries t m := by
  refine Pool.Sound.run_all ?_ ⟨fun _ ↦ .start t, fun i ↦ ?_⟩ schedule
  · intro t m i c e hinv hc hlost
    have hbefore : (m none).lost = false := by
      by_cases hi : i = none
      · subst hi
        rw [Function.update_self] at hlost
        exact lost_of_next hlost
      · rwa [Function.update_of_ne (Ne.symm hi)] at hlost
    apply (hinv hbefore).step hc e
    rintro rfl
    rwa [Function.update_self] at hlost
  · cases i with
    | none => exact notifRetry_follows runs rfl rfl
    | some k => exact notify_follows s (requests k)

/-- No message is taken by the sender twice, whoever hands it over, and once that is recorded its
row is not one to be sent again. -/
structure AtMostOnce (p : Pool (Option κ) Call Call.Reply Unit LogTable Hand) : Prop where
  once : ∀ i, (p.marks i).delivered.Nodup
  apart : ∀ i j, ∀ id ∈ (p.marks i).delivered, id ∈ (p.marks j).delivered → i = j
  settled : ∀ i, ∀ id ∈ (p.marks i).delivered, (p.marks i).Takes id ∨
    ∀ l ∈ p.state, l.id = id → l.status ≠ .failed

/-- That is so unless the job has lost the record of a message that it has sent. -/
theorem sent_at_most_once (t : LogTable) (schedule : List (Option κ × Env))
    (h : (((notifications s requests runs t).run Call.exec courier schedule).marks none).lost =
      false) :
    AtMostOnce ((notifications s requests runs t).run Call.exec courier schedule) := by
  have d := (notifications_sound s requests runs t schedule).inv h
  refine ⟨d.once, d.apart, fun i id hid ↦ ?_⟩
  obtain ⟨r, hr, hkey, hsent | htakes | ⟨hpending, -⟩⟩ := d.recorded i id hid
  · right
    intro l hl hid' hfailed
    obtain rfl : l = r := Table.eq_of_key hl hr (hid'.trans hkey.symm)
    rw [hsent] at hfailed
    cases hfailed
  · exact .inl htakes
  · right
    intro l hl hid' hfailed
    obtain rfl : l = r := Table.eq_of_key hl hr (hid'.trans hkey.symm)
    rw [hpending] at hfailed
    cases hfailed

def moment (outcome : Except Error String) (now : Time) : Env :=
  ⟨none, .ok "true", .ok, outcome, now, .keep _⟩

/-- A notification fails, and the job sends it ten minutes later. -/
def failsFirst : List (Option Unit × Env) :=
  List.replicate 6 (some (), moment (.error (.new "timeout")) 0) ++
    List.replicate 6 (none, moment (.ok "id-1") retryBackoff)

theorem retried_once :
    (((notifications plain (fun _ ↦ ⟨some 1, "628111", "invoice", ∅⟩) 1 .empty).run Call.exec
        courier failsFirst).marks none).delivered = [1] ∧
      AtMostOnce ((notifications plain (fun _ ↦ ⟨some 1, "628111", "invoice", ∅⟩) 1 .empty).run
        Call.exec courier failsFirst) :=
  ⟨by decide +kernel, sent_at_most_once plain _ 1 .empty failsFirst (by decide +kernel)⟩

end Runs

end Rosmon.Notification
