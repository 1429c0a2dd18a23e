import Rosmon.Go.Calendar
import Rosmon.Go.Map
import Rosmon.Library.Program
import Rosmon.Store.Stores

namespace Rosmon.Notification

open Go Library Store Program

section Logs

inductive LogStatus
  | pending
  | sent
  | failed
  | skipped
  deriving DecidableEq

structure NotificationLog where
  id : ℕ
  customerID : Option ℕ
  templateSlug : String
  recipientPhone : String
  messageBody : String
  status : LogStatus
  provider : String
  providerResponse : String
  retryCount : ℕ
  sentAt : Option Time
  nextRetryAt : Option Time
  createdAt : Time
  deriving DecidableEq

instance : Row NotificationLog where
  key := NotificationLog.id
  withKey n l := { l with id := n }
  key_withKey _ _ := rfl

def NotificationLog.markSent (resp : String) (sentAt : Time) (l : NotificationLog) :
    NotificationLog :=
  { l with status := .sent, providerResponse := resp, sentAt := some sentAt, nextRetryAt := none }

def NotificationLog.markFailed (resp : String) (nextRetry : Time) (l : NotificationLog) :
    NotificationLog :=
  { l with
    status := .failed
    providerResponse := resp
    nextRetryAt := some nextRetry
    retryCount := l.retryCount + 1 }

instance (resp : String) (sentAt : Time) : KeepsKey (NotificationLog.markSent resp sentAt) :=
  ⟨fun _ ↦ rfl⟩

instance (resp : String) (next : Time) : KeepsKey (NotificationLog.markFailed resp next) :=
  ⟨fun _ ↦ rfl⟩

abbrev LogTable := Table NotificationLog

def notificationLogNotFound : Error := .new "store: notification log not found"

namespace LogTable

/-- An update of the row of the key. -/
def mark (id : ℕ) (f : NotificationLog → NotificationLog) [KeepsKey f] (t : LogTable) :
    Except Error Unit × LogTable :=
  (if (t.get id).isSome then .ok () else .error notificationLogNotFound, t.update (·.id == id) f)

/-- Rows that failed and whose time to be tried again has come. -/
def due (now : Time) (l : NotificationLog) : Bool :=
  l.status = .failed && l.nextRetryAt.all (· ≤ now)

/-- `next_retry_at ASC`: a row without a time is the last. -/
def retriedBefore (a b : NotificationLog) : Bool :=
  match a.nextRetryAt, b.nextRetryAt with
  | some x, some y => x ≤ y
  | _, none => true
  | none, some _ => false

def listPendingRetry (order : Arrangement NotificationLog) (now : Time) (limit : ℤ) (t : LogTable) :
    List NotificationLog :=
  ((order.order (t.rows.filter (due now))).mergeSort retriedBefore).take
    (if limit ≤ 0 then 50 else limit.toNat)

end LogTable

end Logs

section Calls

/-- What the outside contributes to a call: why the context has ended, if it has, the value of
the switch, the templates, what becomes of a message, the time, the order of rows. -/
structure Env where
  ctxErr : Option Error
  setting : Except Error String
  template : String → Except Error String
  outcome : Except Error String
  now : Time
  order : Arrangement NotificationLog

/-- The switch is off if it cannot be read. -/
def readsOn : Except Error String → Bool
  | .ok v => v = "true" || v = "1"
  | .error _ => false

def Env.on (e : Env) : Bool := readsOn e.setting

inductive Call
  | template (slug : String)
  | setting (key : String)
  | done
  | now
  | send (phone body : String)
  | create (l : NotificationLog)
  | markSent (id : ℕ) (resp : String) (sentAt : Time)
  | markFailed (id : ℕ) (resp : String) (nextRetry : Time)
  | listPendingRetry (before : Time) (limit : ℤ)
  deriving DecidableEq

abbrev Call.Reply : Call → Type
  | .template _ | .setting _ | .send .. => Except Error String
  | .done => Option Error
  | .now => Time
  | .create _ => Except Error ℕ
  | .markSent .. | .markFailed .. => Except Error Unit
  | .listPendingRetry .. => Except Error (List NotificationLog)

abbrev Prog (α : Type) := Program Call Call.Reply α

abbrev perform (c : Call) : Prog c.Reply := Program.perform c

/-- A call to the log store fails when the context has ended. -/
def alive {α : Type} (e : Env) (t : LogTable) (r : Except Error α × LogTable) :
    Except Error α × LogTable :=
  match e.ctxErr with
  | some err => (.error err, t)
  | none => r

def Call.exec : (c : Call) → Env → LogTable → c.Reply × LogTable
  | .template slug, e, t => (e.template slug, t)
  | .setting _, e, t => (e.setting, t)
  | .done, e, t => (e.ctxErr, t)
  | .now, e, t => (e.now, t)
  | .send .., e, t => (e.outcome, t)
  | .create l, e, t => alive e t (.ok t.next, t.insert { l with createdAt := e.now })
  | .markSent id resp sentAt, e, t => alive e t (t.mark id (.markSent resp sentAt))
  | .markFailed id resp next, e, t => alive e t (t.mark id (.markFailed resp next))
  | .listPendingRetry before limit, e, t =>
    alive e t (.ok (t.listPendingRetry e.order before limit), t)

end Calls

section Service

/-- The name of the sender, and what `text/template` makes of the body of a template. -/
structure Service where
  provider : String
  execute : (slug body : String) → Map String → Except Error String

variable (s : Service)

/-- Ten minutes. -/
def retryBackoff : ℤ := 10 * 60 * 1000000000

def enabled : Prog Bool := do
  return readsOn (← perform (.setting "notification.wa_enabled"))

def render (slug : String) (vars : Map String) : Prog (Except Error String) := do
  match ← perform (.template slug) with
  | .error err => return .error err
  | .ok body => return s.execute slug body vars

/-- The row that `Notify` writes. -/
def newLog (customerID : Option ℕ) (phone slug body : String) (status : LogStatus) :
    NotificationLog :=
  ⟨0, customerID, slug, phone, body, status, s.provider, "", 0, none, none, 0⟩

/-- Errors of the updates are only logged. -/
def notify (customerID : Option ℕ) (phone slug : String) (vars : Map String) :
    Prog (Except Error Unit) := do
  if phone = "" then return .error (.new s!"notification: empty recipient phone for {slug}")
  match ← render s slug vars with
  | .error err => return .error err
  | .ok body =>
    if ← enabled then
      match ← perform (.create (newLog s customerID phone slug body .pending)) with
      | .error err => return .error (.wrap "notification: write log: " err)
      | .ok id =>
        let r ← perform (.send phone body)
        let now ← perform .now
        match r with
        | .error err =>
          let _ ← perform (.markFailed id err.text (now + retryBackoff))
          return .error err
        | .ok resp =>
          let _ ← perform (.markSent id resp now)
          return .ok ()
    else
      let _ ← perform (.create (newLog s customerID phone slug body .skipped))
      return .ok ()

/-- The messages that have been sent, and why the loop has ended early. -/
def retryEach : List NotificationLog → ℕ → Prog (ℕ × Option Error)
  | [], sent => return (sent, none)
  | l :: rest, sent => do
    match ← perform .done with
    | some err => return (sent, some err)
    | none =>
      let r ← perform (.send l.recipientPhone l.messageBody)
      let now ← perform .now
      match r with
      | .error err =>
        let _ ← perform (.markFailed l.id err.text (now + retryBackoff))
        retryEach rest sent
      | .ok resp =>
        let _ ← perform (.markSent l.id resp now)
        retryEach rest (sent + 1)

def retryPending (limit : ℤ) : Prog (ℕ × Option Error) := do
  let now ← perform .now
  match ← perform (.listPendingRetry now limit) with
  | .error err => return (0, some err)
  | .ok pending => retryEach pending 0

end Service

end Rosmon.Notification
