import Rosmon.Store.Model

namespace Rosmon.Mikrotik

open Store

/-- A row of `/ppp/secret` or `/ip/hotspot/user`. -/
structure Record where
  id : String
  name : String
  password : String
  /-- The `service` of a PPP secret, the `server` of a hotspot user. -/
  scope : String
  profile : String
  disabled : Bool
  deriving DecidableEq

/-- The two tables of one router the service writes, and the counter of `.id`s. -/
structure Router where
  secrets : List Record
  users : List Record
  nextID : ℕ
  deriving DecidableEq

def Router.blank : Router := ⟨[], [], 1⟩

/-- Arguments of `SecretAdd` and `UserAdd`; an empty text is not sent. -/
structure AddArgs where
  name : String
  password : String
  scope : String
  profile : String
  disabled : Bool
  deriving DecidableEq

inductive RouterCall
  | byName (name : String)
  | add (args : AddArgs)
  | setProfile (id profile : String)
  | set (id password profile : String) (disabled : Option Bool)
  | setDisabled (id : String) (disabled : Bool)
  | remove (id : String)

abbrev RouterCall.Result : RouterCall → Type
  | .byName _ => Record
  | .add _ => String
  | .setProfile .. | .set .. | .setDisabled .. | .remove _ => Unit

def Router.records (r : Router) : ServiceType → List Record
  | .pppoe => r.secrets
  | .hotspot => r.users

def Router.setRecords (r : Router) (service : ServiceType) (records : List Record) : Router :=
  match service with
  | .pppoe => { r with secrets := records }
  | .hotspot => { r with users := records }

@[simp] theorem Router.records_setRecords (r : Router) (service : ServiceType)
    (l : List Record) : (r.setRecords service l).records service = l := by cases service <;> rfl

def orDefault (s dflt : String) : String := if s = "" then dflt else s

def noSuchItem : Error := .new "no such item"

def alreadyExists (service : ServiceType) : Error := match service with
  | .pppoe => .new "failure: secret with the same name already exists"
  | .hotspot => .new "failure: already have user with this name for this server"

/-- Change the record under an id. The clients refuse an empty id, RouterOS an
unknown one. -/
def Router.change (r : Router) (service : ServiceType) (id : String)
    (f : List Record → List Record) : Except Error Unit × Router :=
  if id = "" then (.error (.of .mikrotikInvalidArgument), r)
  else if (r.records service).any (·.id = id) then
    (.ok (), r.setRecords service (f (r.records service)))
  else (.error noSuchItem, r)

/-- `SecretByName`, `SecretAdd`, `SecretSet` (of the profile alone, or of all that
is sent), `SecretSetDisabled`, `SecretRemove` and their hotspot twins, on the
router's own tables. -/
def RouterCall.exec (service : ServiceType) :
    (c : RouterCall) → Router → Except Error c.Result × Router
  | .byName name, r =>
    if name = "" then (.error (.of .mikrotikInvalidArgument), r)
    else match (r.records service).find? (·.name = name) with
      | some row => (.ok row, r)
      | none => (.error (.of .mikrotikNotFound), r)
  | .add args, r =>
    if args.name = "" then (.error (.of .mikrotikInvalidArgument), r)
    else if (r.records service).any (·.name = args.name) then (.error (alreadyExists service), r)
    else
      let id := "*" ++ toString r.nextID
      let row : Record :=
        { id
          name := args.name
          password := args.password
          scope := orDefault args.scope (match service with | .pppoe => "any" | .hotspot => "all")
          profile := orDefault args.profile "default"
          disabled := args.disabled }
      (.ok id, { r.setRecords service (r.records service ++ [row]) with nextID := r.nextID + 1 })
  | .setProfile id profile, r =>
    r.change service id (List.map fun row ↦
      if row.id = id then { row with profile := orDefault profile row.profile } else row)
  | .set id password profile disabled, r =>
    r.change service id (List.map fun row ↦
      if row.id = id then
        { row with
          password := orDefault password row.password
          profile := orDefault profile row.profile
          disabled := disabled.getD row.disabled }
      else row)
  | .setDisabled id disabled, r =>
    r.change service id (List.map fun row ↦ if row.id = id then { row with disabled } else row)
  | .remove id, r => r.change service id (List.filter fun row ↦ row.id ≠ id)

end Rosmon.Mikrotik
