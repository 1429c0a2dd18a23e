import Rosmon.Handler.Handlers
import Rosmon.Profiles.Store

namespace Rosmon.Profiles

open Go Library Store Program Handler

section Router

/-- A profile on the router. RouterOS numbers it; a setting that is not set reads as an empty
text, or as `none`. -/
structure Item where
  id : ℕ
  settings : String → String

instance : Row Item where
  key := Item.id
  withKey n i := { i with id := n }
  key_withKey _ _ := rfl

def Item.name (i : Item) : String := i.settings "name"

/-- The names on one menu are unique. -/
instance : Index Item where
  same a b := a.name = b.name
  symm _ _ := Eq.symm
  withKey_key _ := rfl

instance : DecidableRel (Index.same (ρ := Item)) :=
  fun a b ↦ inferInstanceAs (Decidable (a.name = b.name))

abbrev ItemTable := UniqueTable Item

/-- `/ip/hotspot/user/profile` and `/ppp/profile`. -/
inductive Menu
  | hotspot
  | ppp
  deriving DecidableEq

abbrev Router := Menu → ItemTable

/-- The settings that are sent take the place of the old ones, in their order. -/
def Item.assign (pairs : List (String × String)) (i : Item) : Item :=
  { i with settings := pairs.foldl (fun s pair ↦ Function.update s pair.1 pair.2) i.settings }

inductive RouterCall
  | print
  | byName (name : String)
  | add (pairs : List (String × String))
  | set (id : ℕ) (pairs : List (String × String))
  | unset (id : ℕ) (setting : String)

abbrev RouterCall.Result : RouterCall → Type
  | .print => List Item
  | .byName _ => Item
  | .add _ | .set .. | .unset .. => Unit

def alreadyExists : Error := .new "failure: profile with the same name already exists"

/-- `set` and `unset` on one item. -/
def change (items : ItemTable) (id : ℕ) (pairs : List (String × String)) :
    Except Error Unit × ItemTable :=
  match items.rows.get id with
  | none => (.error (.new "no such item"), items)
  | some i =>
    if h : items.Clashes (i.assign pairs) then (.error alreadyExists, items)
    else (.ok (), items.put (i.assign pairs) h)

def Item.blank : Item := ⟨0, fun _ ↦ ""⟩

/-- The clients refuse an empty name. -/
def RouterCall.exec : (c : RouterCall) → ItemTable → Except Error c.Result × ItemTable
  | .print, items => (.ok items.rows.rows, items)
  | .byName name, items =>
    if name = "" then (.error (.of .mikrotikInvalidArgument), items)
    else (found .mikrotikNotFound (items.rows.find (·.name = name)), items)
  | .add pairs, items =>
    let i := Item.blank.assign pairs
    if i.name = "" then (.error (.of .mikrotikInvalidArgument), items)
    else if h : items.Clashes (Row.withKey items.rows.next i) then (.error alreadyExists, items)
    else (.ok (), items.add i h)
  | .set id pairs, items => change items id pairs
  | .unset id setting, items => change items id [(setting, "")]

end Router

section Calls

/-- The profiles of all devices and the router of one of them, if it is connected. -/
structure World where
  hotspot : ProfileTable HotspotColumns
  ppp : ProfileTable PPPColumns
  online : Bool
  router : Router

/-- What the outside contributes to a call: the error it fails with, the time, the order of the
rows of a list. -/
structure Env where
  fault : Option Error
  now : Time
  order : Arrangement HotspotProfile

def Env.calm (now : Time) : Env := ⟨none, now, .keep _⟩

inductive StoreCall (κ : Type)
  | get (id : ℕ)
  | getByName (deviceID : ℕ) (name : String)
  | create (p : ProfileRow κ)
  | update (p : ProfileRow κ)
  | upsert (p : ProfileRow κ)

abbrev StoreCall.Result {κ : Type} : StoreCall κ → Type
  | .get _ | .getByName .. | .create _ | .update _ => ProfileRow κ
  | .upsert _ => Bool

def StoreCall.exec {κ : Type} [Columns κ] (now : Time) :
    (c : StoreCall κ) → ProfileTable κ → Except Error c.Result × ProfileTable κ
  | .get id, t => (ProfileTable.get id t, t)
  | .getByName deviceID name, t => (ProfileTable.getByName deviceID name t, t)
  | .create p, t => ProfileTable.create now p t
  | .update p, t => ProfileTable.save now p t
  | .upsert p, t => ProfileTable.upsert now p t

inductive Call
  | hotspot (c : StoreCall HotspotColumns)
  | ppp (c : StoreCall PPPColumns)
  | listByDevice (deviceID : ℕ) (role : String)
  | online
  | router (menu : Menu) (c : RouterCall)

abbrev Call.Reply : Call → Type
  | .hotspot c => Except Error c.Result
  | .ppp c => Except Error c.Result
  | .listByDevice .. => Except Error (List HotspotProfile)
  | .online => Bool
  | .router _ c => Except Error c.Result

abbrev Prog (α : Type) := Program Call Call.Reply α

abbrev perform (c : Call) : Prog c.Reply := Program.perform c

/-- A call that fails leaves no trace. -/
def orFault {α σ : Type} (e : Env) (s : σ) (r : Except Error α × σ) : Except Error α × σ :=
  match e.fault with
  | some err => (.error err, s)
  | none => r

def Call.exec : (c : Call) → Env → World → c.Reply × World
  | .hotspot c, e, w =>
    let r := orFault e w.hotspot (c.exec e.now w.hotspot)
    (r.1, { w with hotspot := r.2 })
  | .ppp c, e, w =>
    let r := orFault e w.ppp (c.exec e.now w.ppp)
    (r.1, { w with ppp := r.2 })
  | .listByDevice deviceID role, e, w =>
    (orFault e () (.ok (e.order.order (w.hotspot.rows.rows.filter fun r ↦
      r.live && decide (r.deviceID = deviceID) && (role = "" || r.columns.role = role))), ()) |>.1, w)
  | .online, _, w => (w.online, w)
  | .router menu c, e, w =>
    let r := orFault e (w.router menu) (c.exec (w.router menu))
    (r.1, { w with router := Function.update w.router menu r.2 })

end Calls

end Rosmon.Profiles
