import Rosmon.Go.Text

namespace Rosmon.Store

open Go

/-- The error values the code compares with `errors.Is`. -/
inductive Sentinel
  | paymentNotFound
  | invoiceNotFound
  | subscriptionNotFound
  | subscriptionUsernameTaken
  | registrationNotFound
  | customerNotFound
  | customerPhoneTaken
  | settingNotFound
  | pppProfileNotFound
  | hotspotProfileNotFound
  | deviceNotConnected
  | mikrotikNotFound
  | mikrotikInvalidArgument
  | mikrotikAmbiguous
  | deadlineExceeded
  | canceled
  deriving DecidableEq

def Sentinel.text : Sentinel → String
  | .paymentNotFound => "store: payment not found"
  | .invoiceNotFound => "store: invoice not found"
  | .subscriptionNotFound => "store: subscription not found"
  | .subscriptionUsernameTaken => "store: mikrotik_username already used on this device"
  | .registrationNotFound => "store: registration not found"
  | .customerNotFound => "store: customer not found"
  | .customerPhoneTaken => "store: customer phone already registered"
  | .settingNotFound => "store: setting not found"
  | .pppProfileNotFound => "store: ppp profile not found"
  | .hotspotProfileNotFound => "store: hotspot profile not found"
  | .deviceNotConnected => "devmgr: device not connected"
  | .mikrotikNotFound => "mikrotik: resource not found"
  | .mikrotikInvalidArgument => "mikrotik: invalid argument"
  | .mikrotikAmbiguous => "mikrotik: result is ambiguous (multiple rows)"
  | .deadlineExceeded => "context deadline exceeded"
  | .canceled => "context canceled"

/-- A Go error: its text and the sentinels found along its `Unwrap` chain. -/
structure Error where
  text : String
  chain : List Sentinel
  deriving DecidableEq

namespace Error

def of (s : Sentinel) : Error := ⟨s.text, [s]⟩

/-- `fmt.Errorf` without `%w`. -/
def new (text : String) : Error := ⟨text, []⟩

/-- `fmt.Errorf("...%w", err)`. -/
def wrap (pre : String) (e : Error) : Error := ⟨pre ++ e.text, e.chain⟩

/-- `errors.Is`. -/
def is (e : Error) (s : Sentinel) : Bool := e.chain.contains s

/-- What PostgreSQL reports for a duplicate key. -/
def duplicateKey (constraint : String) : Error :=
  new ("ERROR: duplicate key value violates unique constraint \"" ++ constraint ++
    "\" (SQLSTATE 23505)")

/-- `store.IsUniqueViolation`. -/
def isUniqueViolation (e : Error) : Bool :=
  contains e.text "23505" || contains e.text "duplicate key" || contains e.text "UNIQUE constraint"

end Error

end Rosmon.Store
