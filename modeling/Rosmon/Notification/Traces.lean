import Mathlib.Tactic.MkIffOfInductiveProp
import Rosmon.Library.Run
import Rosmon.Notification.Service

namespace Rosmon.Notification

open Go Library Store Program

section Traces

variable {α β : Type} {c : Call} {k : c.Reply → Prog α} {env : ℕ → Env} {t : LogTable}

def Call.isSend : Call → Bool
  | .send .. => true
  | _ => false

/-- The rows whose attempt a call records. -/
def Call.marked : Call → Option ℕ
  | .markSent id .. | .markFailed id .. => some id
  | _ => none

/-- The switch is on whenever a message is handed to the sender. -/
def Respected (p : Prog α) (env : ℕ → Env) (t : LogTable) : Prop :=
  ∀ n, ∀ c ∈ (p.calls Call.exec env t)[n]?, c.isSend → (env n).on

/-- The rows whose send the program attempts: each attempt is followed by its record. -/
def attempted (p : Prog α) (env : ℕ → Env) (t : LogTable) : List ℕ :=
  (p.calls Call.exec env t).filterMap Call.marked

@[simp] theorem respected_ret (a : α) (env : ℕ → Env) (t : LogTable) :
    Respected (.ret a : Prog α) env t := by
  intro n c hc
  simp [calls] at hc

@[simp] theorem respected_call : Respected (.call c k) env t ↔ (c.isSend → (env 0).on) ∧
    Respected (k (c.exec (env 0) t).1) (fun n ↦ env (n + 1)) (c.exec (env 0) t).2 := by
  constructor
  · intro h
    exact ⟨fun hc ↦ h 0 c rfl hc, fun n d hd ↦ h (n + 1) d hd⟩
  · rintro ⟨hfirst, hrest⟩ n d hd
    cases n with
    | zero =>
      obtain rfl : c = d := Option.some.inj hd
      exact hfirst
    | succ n => exact hrest n d hd

@[simp] theorem attempted_ret (a : α) (env : ℕ → Env) (t : LogTable) :
    attempted (.ret a : Prog α) env t = [] := rfl

@[simp] theorem attempted_call : attempted (.call c k) env t = c.marked.toList ++
    attempted (k (c.exec (env 0) t).1) (fun n ↦ env (n + 1)) (c.exec (env 0) t).2 := by
  unfold attempted
  rw [calls, List.filterMap_cons]
  cases c.marked <;> rfl

end Traces

section Requests

inductive Request
  | notify (customerID : Option ℕ) (phone slug : String) (vars : Map String)
  | retryPending (limit : ℤ)

/-- A request, with what the outside offers to it. -/
structure Step where
  request : Request
  env : ℕ → Env

variable (s : Service)

abbrev Request.Result : Request → Type
  | .notify .. => Except Error Unit
  | .retryPending _ => ℕ × Option Error

def program : (r : Request) → Prog r.Result
  | .notify customerID phone slug vars => notify s customerID phone slug vars
  | .retryPending limit => retryPending limit

def after (t : LogTable) (step : Step) : LogTable :=
  ((program s step.request).run Call.exec step.env t).2

/-- A row is written for whoever has a phone. -/
def Request.rows : Request → ℕ
  | .notify _ phone _ _ => if phone = "" then 0 else 1
  | .retryPending _ => 0

/-- What is promised of one request. -/
@[mk_iff] structure Kept (t : LogTable) (step : Step) : Prop where
  respected : Respected (program s step.request) step.env t
  traced : (after s t step).rows.length = t.rows.length + step.request.rows
  settled : ∀ l ∈ after s t step, l.id ∈ attempted (program s step.request) step.env t →
    l.status ≠ .pending

/-- The switch stays on while rows that are due are sent. -/
def StaysOn : List NotificationLog → (ℕ → Env) → Prop
  | [], _ => True
  | _ :: rest, env => (env 0).ctxErr = none → (env 1).on ∧ StaysOn rest fun n ↦ env (n + 4)

/-- The context lives, the template renders, and a switch that is on stays on. -/
def Undisturbed (t : LogTable) : Step → Prop
  | ⟨.notify _ phone slug vars, env⟩ => phone ≠ "" →
    (∃ body text, (env 0).template slug = .ok body ∧ s.execute slug body vars = .ok text) ∧
      (env 2).ctxErr = none ∧ ((env 1).on → (env 3).on ∧ (env 5).ctxErr = none)
  | ⟨.retryPending limit, env⟩ => (env 1).ctxErr = none →
    StaysOn (t.listPendingRetry (env 1).order (env 0).now limit) fun n ↦ env (n + 2)

variable {s} {customerID : Option ℕ} {phone slug body text : String} {vars : Map String}
variable {t : LogTable} {env : ℕ → Env}

end Requests

section Calls

variable {e : Env} {t : LogTable} {c : Call} {id : ℕ}

@[simp] theorem exec_template (slug : String) :
    (Call.template slug).exec e t = (e.template slug, t) := rfl

@[simp] theorem exec_setting (key : String) : (Call.setting key).exec e t = (e.setting, t) := rfl

@[simp] theorem exec_done : Call.done.exec e t = (e.ctxErr, t) := rfl

@[simp] theorem exec_now : Call.now.exec e t = (e.now, t) := rfl

@[simp] theorem exec_send (phone body : String) :
    (Call.send phone body).exec e t = (e.outcome, t) := rfl

theorem exec_create (l : NotificationLog) (he : e.ctxErr = none) :
    (Call.create l).exec e t = (.ok t.next, t.insert { l with createdAt := e.now }) := by
  simp only [Call.exec, alive, he]

theorem exec_create_ended (l : NotificationLog) {err : Error} (he : e.ctxErr = some err) :
    (Call.create l).exec e t = (.error err, t) := by
  simp only [Call.exec, alive, he]

theorem length_insert (l : NotificationLog) (t : LogTable) :
    (t.insert l).rows.length = t.rows.length + 1 :=
  List.length_append

/-- An attempt is recorded in its row, unless the context has ended. -/
theorem exec_marked (hc : c.marked = some id) (e : Env) (t : LogTable) :
    ∃ (f : NotificationLog → NotificationLog) (_ : KeepsKey f), (∀ q, (f q).status ≠ .pending) ∧
      (c.exec e t).2 = if e.ctxErr = none then t.update (·.id == id) f else t := by
  cases c with
  | markSent n resp sentAt =>
    obtain rfl := Option.some.inj hc
    refine ⟨.markSent resp sentAt, inferInstance, fun q ↦ LogStatus.noConfusion, ?_⟩
    cases he : e.ctxErr <;> simp [Call.exec, alive, he, LogTable.mark]
  | markFailed n resp next =>
    obtain rfl := Option.some.inj hc
    refine ⟨.markFailed resp next, inferInstance, fun q ↦ LogStatus.noConfusion, ?_⟩
    cases he : e.ctxErr <;> simp [Call.exec, alive, he, LogTable.mark]
  | template | setting | done | now | send | create | listPendingRetry => cases hc

theorem length_exec_marked (hc : c.marked = some id) (e : Env) (t : LogTable) :
    (c.exec e t).2.rows.length = t.rows.length := by
  obtain ⟨f, hf, -, h⟩ := exec_marked hc e t
  rw [h]
  split
  · exact List.length_map _
  · rfl

/-- A row that is pending has been so, and is not the one whose attempt has been recorded. -/
theorem pending_exec_marked (hc : c.marked = some id) {l : NotificationLog}
    (hl : l ∈ (c.exec e t).2) (hpending : l.status = .pending) :
    l ∈ t ∧ (e.ctxErr = none → l.id ≠ id) := by
  obtain ⟨f, hf, hstatus, h⟩ := exec_marked hc e t
  rw [h] at hl
  split_ifs at hl with he
  · obtain ⟨q, hq, rfl⟩ := Table.mem_update.mp hl
    by_cases hid : q.id = id
    · rw [if_pos (by simpa using hid)] at hpending
      exact absurd hpending (hstatus q)
    · rw [if_neg (by simpa using hid)] at hpending ⊢
      exact ⟨hq, fun _ ↦ hid⟩
  · exact ⟨hl, fun h ↦ absurd h he⟩

/-- The row of an attempt is left pending just if the context has ended. -/
theorem settled_iff (hc : c.marked = some id) {l : NotificationLog} (hl : l ∈ t) (hid : l.id = id)
    (hpending : l.status = .pending) :
    (∀ q ∈ (c.exec e t).2, q.id = id → q.status ≠ .pending) ↔ e.ctxErr = none := by
  constructor
  · intro h
    by_contra he
    obtain ⟨f, hf, -, hexec⟩ := exec_marked hc e t
    rw [if_neg he] at hexec
    exact h l (by rwa [hexec]) hid hpending
  · exact fun he q hq hqid hqpending ↦ (pending_exec_marked hc hq hqpending).2 he hqid

/-- The trace of an attempt: its row is one more, and not left pending. -/
theorem attempt_iff (hc : c.marked = some t.next) {l : NotificationLog}
    (hl : l.status = .pending) :
    ((c.exec e (t.insert l)).2.rows.length = t.rows.length + 1 ∧
      ∀ q ∈ (c.exec e (t.insert l)).2, q.id = t.next → ¬q.status = .pending) ↔
        e.ctxErr = none := by
  rw [length_exec_marked hc, length_insert, and_iff_right rfl]
  exact settled_iff hc (Table.mem_insert.mpr (.inr rfl)) rfl hl

end Calls

section Notify

variable {s : Service} {customerID : Option ℕ} {phone slug body text : String} {vars : Map String}
variable {t : LogTable} {env : ℕ → Env}

theorem notify_kept_iff : Kept s t ⟨.notify customerID phone slug vars, env⟩ ↔
    Undisturbed s t ⟨.notify customerID phone slug vars, env⟩ := by
  rw [kept_iff]
  unfold Undisturbed after program notify render enabled
  by_cases hphone : phone = ""
  · simp [hphone, Request.rows]
  cases htemplate : (env 0).template slug with
  | error err => simp [hphone, Request.rows, htemplate]
  | ok body =>
    cases htext : s.execute slug body vars with
    | error err => simp [hphone, Request.rows, htemplate, htext]
    | ok text =>
      have hon : readsOn (env 1).setting = (env 1).on := rfl
      cases hctx : (env 2).ctxErr with
      | some err =>
        cases hswitch : (env 1).on <;> rw [hswitch] at hon <;>
          simp [hphone, Request.rows, htemplate, htext, hon, hctx, exec_create_ended _ hctx]
      | none =>
        cases hswitch : (env 1).on with
        | false =>
          rw [hswitch] at hon
          simp [hphone, Request.rows, htemplate, htext, hon, hctx, hswitch,
            exec_create _ hctx, length_insert, Call.marked, Call.isSend]
        | true =>
          rw [hswitch] at hon
          cases houtcome : (env 3).outcome with
          | error err =>
            simpa [hphone, Request.rows, htemplate, htext, hon, hctx, hswitch, exec_create _ hctx,
              Call.marked, Call.isSend, houtcome] using fun _ ↦ attempt_iff (by rfl) rfl
          | ok resp =>
            simpa [hphone, Request.rows, htemplate, htext, hon, hctx, hswitch, exec_create _ hctx,
              Call.marked, Call.isSend, houtcome] using fun _ ↦ attempt_iff (by rfl) rfl

end Notify

section Retry

variable {s : Service} {limit : ℤ} {t : LogTable} {env : ℕ → Env}

theorem retryEach_respected_iff (rows : List NotificationLog) (sent : ℕ) (env : ℕ → Env)
    (t : LogTable) : Respected (retryEach rows sent) env t ↔ StaysOn rows env := by
  induction rows generalizing sent env t with
  | nil => exact iff_of_true (respected_ret _ _ _) trivial
  | cons l rest ih =>
    unfold retryEach StaysOn
    cases hctx : (env 0).ctxErr with
    | some err => simp [hctx, Call.isSend]
    | none => cases houtcome : (env 1).outcome <;> simp [hctx, houtcome, Call.isSend, ih]

/-- No row is added, and none becomes pending. -/
theorem retryEach_run (rows : List NotificationLog) (sent : ℕ) (env : ℕ → Env) (t : LogTable) :
    ((retryEach rows sent).run Call.exec env t).2.rows.length = t.rows.length ∧
      ∀ l ∈ ((retryEach rows sent).run Call.exec env t).2, l.status = .pending → l ∈ t := by
  induction rows generalizing sent env t with
  | nil => exact ⟨rfl, fun l hl _ ↦ hl⟩
  | cons l rest ih =>
    have hmark : ∀ (c : Call) (e : Env) (env : ℕ → Env) (sent : ℕ), c.marked = some l.id →
        ((retryEach rest sent).run Call.exec env (c.exec e t).2).2.rows.length = t.rows.length ∧
          ∀ q ∈ ((retryEach rest sent).run Call.exec env (c.exec e t).2).2,
            q.status = .pending → q ∈ t := by
      intro c e env sent hc
      obtain ⟨hlength, hpending⟩ := ih sent env (c.exec e t).2
      exact ⟨hlength.trans (length_exec_marked hc e t),
        fun q hq hqpending ↦ (pending_exec_marked hc (hpending q hq hqpending) hqpending).1⟩
    unfold retryEach
    cases hctx : (env 0).ctxErr with
    | some err => simpa [hctx] using fun q hq _ ↦ hq
    | none =>
      cases houtcome : (env 1).outcome with
      | error err => simpa [hctx, houtcome] using hmark (.markFailed ..) _ _ _ rfl
      | ok resp => simpa [hctx, houtcome] using hmark (.markSent ..) _ _ _ rfl

theorem retryEach_attempted (rows : List NotificationLog) (sent : ℕ) (env : ℕ → Env)
    (t : LogTable) : ∀ id ∈ attempted (retryEach rows sent) env t, ∃ l ∈ rows, l.id = id := by
  induction rows generalizing sent env t with
  | nil => exact fun id hid ↦ absurd hid List.not_mem_nil
  | cons l rest ih =>
    have hrest : ∀ (sent : ℕ) (env : ℕ → Env) (t : LogTable),
        ∀ id ∈ attempted (retryEach rest sent) env t, l.id = id ∨ ∃ q ∈ rest, q.id = id :=
      fun sent env t id hid ↦ .inr (ih sent env t id hid)
    unfold retryEach
    cases hctx : (env 0).ctxErr with
    | some err => simp [hctx, Call.marked]
    | none =>
      cases houtcome : (env 1).outcome with
      | error err => simpa [hctx, houtcome, Call.marked] using hrest _ _ _
      | ok resp => simpa [hctx, houtcome, Call.marked] using hrest _ _ _

theorem failed_of_listed {order : Arrangement NotificationLog} {now : Time} {l : NotificationLog}
    (hl : l ∈ t.listPendingRetry order now limit) : l ∈ t ∧ l.status = .failed := by
  have hdue := (order.mem_order).mp (List.mem_mergeSort.mp (List.mem_of_mem_take hl))
  obtain ⟨ht, hdue⟩ := List.mem_filter.mp hdue
  rw [LogTable.due, Bool.and_eq_true, decide_eq_true_iff] at hdue
  exact ⟨ht, hdue.1⟩

theorem retry_kept_iff : Kept s t ⟨.retryPending limit, env⟩ ↔
    Undisturbed s t ⟨.retryPending limit, env⟩ := by
  rw [kept_iff]
  unfold Undisturbed after program retryPending
  cases hctx : (env 1).ctxErr with
  | some err => simp [hctx, Call.exec, alive, Call.isSend, Call.marked, Request.rows]
  | none =>
    have hexec : ∀ now : Time, (Call.listPendingRetry now limit).exec (env 1) t =
        (.ok (t.listPendingRetry (env 1).order now limit), t) := fun now ↦ by
      simp only [Call.exec, alive, hctx]
    obtain ⟨hlength, hpending⟩ := retryEach_run
      (t.listPendingRetry (env 1).order (env 0).now limit) 0 (fun n ↦ env (n + 2)) t
    have hsettled : ∀ l ∈ ((retryEach (t.listPendingRetry (env 1).order (env 0).now limit) 0).run
          Call.exec (fun n ↦ env (n + 2)) t).2,
        l.id ∈ attempted (retryEach (t.listPendingRetry (env 1).order (env 0).now limit) 0)
          (fun n ↦ env (n + 2)) t → l.status ≠ .pending := by
      intro l hl hid hstatus
      obtain ⟨q, hq, hqid⟩ := retryEach_attempted _ _ _ _ l.id hid
      obtain ⟨hqt, hfailed⟩ := failed_of_listed hq
      rw [Table.eq_of_key hqt (hpending l hl hstatus) hqid, hstatus] at hfailed
      exact LogStatus.noConfusion hfailed
    simp only [perform_bind, respected_call, run_call, attempted_call, exec_now, hexec]
    have hrespected := retryEach_respected_iff (t.listPendingRetry (env 1).order (env 0).now limit)
      0 (fun n ↦ env (n + 2)) t
    constructor
    · exact fun h _ ↦ hrespected.mp h.1.2.2
    · exact fun h ↦ ⟨⟨Bool.noConfusion, Bool.noConfusion, hrespected.mpr (h hctx)⟩,
        hlength, hsettled⟩

end Retry

section Runs

variable (s : Service)

theorem kept_step_iff (t : LogTable) (step : Step) : Kept s t step ↔ Undisturbed s t step := by
  obtain ⟨request, env⟩ := step
  cases request with
  | notify customerID phone slug vars => exact notify_kept_iff
  | retryPending limit => exact retry_kept_iff

/-- The switch is respected and each attempt leaves its trace, in a run in which no request is
disturbed, and in no other. -/
theorem notifications_kept_iff (t : LogTable) (steps : List Step) :
    Run.Guarded (after s) (Kept s) t steps ↔ Run.Guarded (after s) (Undisturbed s) t steps :=
  ⟨Run.guarded_mono fun t step ↦ (kept_step_iff s t step).mp,
    Run.guarded_mono fun t step ↦ (kept_step_iff s t step).mpr⟩

def plain : Service := ⟨"whatsmeow", fun _ body _ ↦ .ok body⟩

/-- The switch is off. -/
def switchedOff : Env := ⟨none, .ok "false", .ok, .ok "id-1", 0, .keep _⟩

/-- A message that has failed and may be sent again. -/
def oneFailed : LogTable :=
  Table.empty.insert ⟨0, some 1, "invoice", "628111", "tagihan", .failed, "whatsmeow", "timeout", 1,
    none, none, 0⟩

/-- A message is sent again although the switch is off. -/
theorem retry_ignores_switch :
    ¬Run.Guarded (after plain) (Kept plain) oneFailed [⟨.retryPending 50, fun _ ↦ switchedOff⟩] := by
  intro h
  have hsend : Call.send "628111" "tagihan" ∈ ((program plain (.retryPending 50)).calls Call.exec
      (fun _ ↦ switchedOff) oneFailed)[3]? := by
    decide +kernel
  exact absurd (h.1.respected 3 _ hsend rfl) (by decide)

end Runs

end Rosmon.Notification
