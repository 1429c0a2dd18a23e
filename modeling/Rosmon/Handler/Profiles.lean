import Rosmon.Handler.Handlers

namespace Rosmon.Handler

open Library Store

/-- What the server reads of the body of a profile creation. -/
structure ProfileCreateRequest where
  name : String
  priceMonthly : ℤ
  deriving DecidableEq

def ProfileCreateRequest.valid (req : ProfileCreateRequest) : Bool :=
  1 ≤ req.name.length && req.name.length ≤ 100 && 0 ≤ req.priceMonthly

/-- The key of the unique index on profiles, which covers live rows. -/
def sameName (a b : Profile) : Bool := a.deviceID = b.deviceID && a.name = b.name

def replaceProfile (p r : Profile) : Profile := { p with id := r.id }

instance (p : Profile) : KeepsKey (replaceProfile p) := ⟨fun _ ↦ rfl⟩

/-- `Create` of either profile store: the row of a deleted profile is used again. -/
def insertProfile (p : Profile) (t : Table Profile) : Except Error Profile × Table Profile :=
  match t.find (sameName p) with
  | some existing =>
    if existing.deletedAt = none ∨
        (t.find fun r ↦ r.deletedAt = none && sameName p r).isSome then
      (.error (.duplicateKey "idx_dev_name"), t)
    else
      (.ok { p with id := existing.id, deletedAt := none },
        t.update (·.id == existing.id) (replaceProfile { p with deletedAt := none }))
  | none => (.ok { p with id := t.next }, t.insert p)

def newProfile (deviceID : ℕ) (req : ProfileCreateRequest) : Profile where
  id := 0
  deviceID
  name := req.name
  priceMonthly := req.priceMonthly
  deletedAt := none

/-- `Store.Create` of the profiles of a service. -/
def storeProfile (service : ServiceType) (p : Profile) (e : Env) (w : World) :
    Except Error Profile × World :=
  match service with
  | .pppoe =>
    let r := insertProfile p w.pppProfiles
    orFault e w (r.1, { w with pppProfiles := r.2 })
  | .hotspot =>
    let r := insertProfile p w.hotspotProfiles
    orFault e w (r.1, { w with hotspotProfiles := r.2 })

/-- `PPPProfiles.Create` and `HotspotProfiles.Create`, up to what they do on the router. -/
def createProfile (service : ServiceType) (deviceID : ℕ) (req : ProfileCreateRequest) (e : Env)
    (w : World) : Response Profile × World :=
  if ¬req.valid then (.failure 400 "VALIDATION" "request validation failed", w)
  else
    let r := storeProfile service (newProfile deviceID req) e w
    let answer := match r.1 with
      | .ok p => .success 201 p
      | .error err =>
        if err.isUniqueViolation then
          .failure 409 "CONFLICT" "profile name already exists on this device"
        else writeErr err
    (answer, r.2)

end Rosmon.Handler
