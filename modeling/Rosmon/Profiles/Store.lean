import Rosmon.Go.Calendar
import Rosmon.Library.UniqueTable
import Rosmon.Store.Stores

namespace Rosmon.Profiles

open Go Library Store

/-- `time.Time{}`. -/
def zeroTime : Time := date 1 1 1

/-- What `Create` of gorm writes to a column with a default: the zero value gives way to it. -/
def orDefault {α : Type} [DecidableEq α] (zero dflt v : α) : α := if v = zero then dflt else v

theorem orDefault_eq_iff {α : Type} [DecidableEq α] {zero dflt v : α} :
    orDefault zero dflt v = v ↔ v ≠ zero ∨ dflt = zero := by
  unfold orDefault
  split_ifs with h
  · simp [h]
  · simp [h]

section Rows

/-- The columns that one kind of profile has of its own: what `Create` stores of them, and what
`Upsert` preserves of those of a live row. -/
class Columns (κ : Type) where
  index : String
  notFound : Sentinel
  created : κ → κ
  preserved : (existing sent : κ) → κ

structure ProfileRow (κ : Type) where
  id : ℕ
  deviceID : ℕ
  name : String
  columns : κ
  createdAt : Time
  updatedAt : Time
  deletedAt : Option Time
  deriving DecidableEq

variable {κ : Type}

instance : Row (ProfileRow κ) where
  key := ProfileRow.id
  withKey n r := { r with id := n }
  key_withKey _ _ := rfl

namespace ProfileRow

def live (r : ProfileRow κ) : Bool := r.deletedAt = none

def named (deviceID : ℕ) (name : String) (r : ProfileRow κ) : Bool :=
  r.deviceID = deviceID && r.name = name

/-- `updated_at` is set by each write. -/
def stamp (now : Time) (p : ProfileRow κ) : ProfileRow κ := { p with updatedAt := now }

theorem named_iff {deviceID : ℕ} {name : String} {r : ProfileRow κ} :
    r.named deviceID name ↔ r.deviceID = deviceID ∧ r.name = name := by
  simp [named]

end ProfileRow

structure HotspotColumns where
  role : String
  rateLimit : String
  addressPool : String
  sharedUsers : ℤ
  statusAutorefresh : String
  parentQueue : String
  priceMonthly : ℤ
  expiryMode : String
  validity : String
  price : ℤ
  sellPrice : ℤ
  lockMAC : Bool
  description : String
  active : Bool
  isPublic : Bool
  deriving DecidableEq

structure PPPColumns where
  rateLimit : String
  localAddress : String
  remoteAddress : String
  sessionTimeout : String
  idleTimeout : String
  parentQueue : String
  priceMonthly : ℤ
  description : String
  active : Bool
  isPublic : Bool
  deriving DecidableEq

abbrev HotspotProfile := ProfileRow HotspotColumns

abbrev PPPProfile := ProfileRow PPPColumns

/-- The other columns have no default, or a zero one. -/
instance : Columns HotspotColumns where
  index := "idx_hp_dev_name"
  notFound := .hotspotProfileNotFound
  created c :=
    { c with
      role := orDefault "" "permanent" c.role
      sharedUsers := orDefault 0 1 c.sharedUsers
      expiryMode := orDefault "" "0" c.expiryMode
      active := orDefault false true c.active }
  preserved existing sent :=
    { sent with
      role := existing.role
      priceMonthly := existing.priceMonthly
      expiryMode := existing.expiryMode
      validity := existing.validity
      price := existing.price
      sellPrice := existing.sellPrice
      lockMAC := existing.lockMAC
      description := existing.description
      isPublic := existing.isPublic }

instance : Columns PPPColumns where
  index := "idx_pp_dev_name"
  notFound := .pppProfileNotFound
  created c := { c with active := orDefault false true c.active }
  preserved existing sent :=
    { sent with
      priceMonthly := existing.priceMonthly
      description := existing.description
      isPublic := existing.isPublic }

end Rows

section Tables

variable {κ : Type}

/-- The unique index of the profiles covers the live rows. -/
instance : Index (ProfileRow κ) where
  same r q := r.live ∧ q.live ∧ q.named r.deviceID r.name
  symm r q h := by
    obtain ⟨hdevice, hname⟩ := ProfileRow.named_iff.mp h.2.2
    exact ⟨h.2.1, h.1, ProfileRow.named_iff.mpr ⟨hdevice.symm, hname.symm⟩⟩
  withKey_key _ := rfl

instance : DecidableRel (Index.same (ρ := ProfileRow κ)) :=
  fun _ _ ↦ inferInstanceAs (Decidable (_ ∧ _ ∧ _))

abbrev ProfileTable (κ : Type) := UniqueTable (ProfileRow κ)

namespace ProfileTable

open UniqueTable

section Statements

variable [Columns κ] (now : Time)

/-- `Save` of a row that exists: all its columns are written. -/
def save (p : ProfileRow κ) (t : ProfileTable κ) : Except Error (ProfileRow κ) × ProfileTable κ :=
  if h : t.Clashes (p.stamp now) then (.error (.duplicateKey (Columns.index κ)), t)
  else (.ok (p.stamp now), t.put (p.stamp now) h)

/-- What `Create` of gorm stores under the next key. -/
def inserted (p : ProfileRow κ) : ProfileRow κ :=
  { p with
    columns := Columns.created p.columns
    createdAt := orDefault zeroTime now p.createdAt
    updatedAt := orDefault zeroTime now p.updatedAt }

def insert (p : ProfileRow κ) (t : ProfileTable κ) : Except Error (ProfileRow κ) × ProfileTable κ :=
  if h : t.Clashes (Row.withKey t.rows.next (inserted now p)) then
    (.error (.duplicateKey (Columns.index κ)), t)
  else (.ok (Row.withKey t.rows.next (inserted now p)), t.add (inserted now p) h)

def get (id : ℕ) (t : ProfileTable κ) : Except Error (ProfileRow κ) :=
  found (Columns.notFound κ) (t.rows.find fun r ↦ r.live && r.id == id)

def getByName (deviceID : ℕ) (name : String) (t : ProfileTable κ) : Except Error (ProfileRow κ) :=
  found (Columns.notFound κ) (t.rows.find fun r ↦ r.live && r.named deviceID name)

/-- `Create` of either store: a deleted row of the name is used again. -/
def create (p : ProfileRow κ) (t : ProfileTable κ) : Except Error (ProfileRow κ) × ProfileTable κ :=
  match t.rows.find (ProfileRow.named p.deviceID p.name) with
  | some existing =>
    if existing.live then t.insert now p
    else t.save now { p with id := existing.id, deletedAt := none }
  | none => t.insert now p

/-- What `Upsert` saves over an existing row. -/
def merged (existing p : ProfileRow κ) : ProfileRow κ :=
  { p with
    id := existing.id
    columns :=
      if existing.live then Columns.preserved existing.columns p.columns else p.columns
    createdAt := existing.createdAt
    deletedAt := none }

/-- `Upsert` of either store, which tells whether there was no live row. -/
def upsert (p : ProfileRow κ) (t : ProfileTable κ) : Except Error Bool × ProfileTable κ :=
  match t.rows.find (ProfileRow.named p.deviceID p.name) with
  | some existing =>
    let r := t.save now (merged existing p)
    (r.1.map fun _ ↦ !existing.live, r.2)
  | none =>
    let r := t.insert now p
    (r.1.map fun _ ↦ true, r.2)

variable {now} {p q r : ProfileRow κ} {t t' : ProfileTable κ} {err : Error}

/-- A statement that fails leaves the table as it is. -/
theorem save_cases (now : Time) (p : ProfileRow κ) (t : ProfileTable κ) :
    (∃ err, t.save now p = (.error err, t)) ∨
      ∃ h : ¬t.Clashes (p.stamp now),
        t.save now p = (.ok (p.stamp now), t.put (p.stamp now) h) := by
  by_cases h : t.Clashes (p.stamp now)
  · exact .inl ⟨_, dif_pos h⟩
  · exact .inr ⟨h, dif_neg h⟩

/-- `Save` in the place of a live row of the name. -/
theorem save_of_live (now : Time) (hr : r ∈ t.rows) (hlive : r.live) (hid : p.id = r.id)
    (hnamed : r.named p.deviceID p.name) : ∃ h : ¬t.Clashes (p.stamp now),
      t.save now p = (.ok (p.stamp now), t.put (p.stamp now) h) :=
  have h : ¬t.Clashes (p.stamp now) := by
    refine not_clashes hr hid fun q hq ↦ ⟨hlive, hq.2.1, ?_⟩
    obtain ⟨hdevice, hname⟩ := ProfileRow.named_iff.mp hnamed
    rw [hdevice, hname]
    exact hq.2.2
  ⟨h, dif_neg h⟩

/-- Rows of other keys stay as they are. -/
theorem get_save_of_ne {id : ℕ} (hid : id ≠ p.id) : (t.save now p).2.rows.get id = t.rows.get id := by
  obtain ⟨err, h⟩ | ⟨hclash, h⟩ := save_cases now p t
  · rw [h]
  · rw [h]
    exact get_put_of_ne hclash hid

theorem getByName_eq (hr : r ∈ t.rows) (hlive : r.live) :
    t.getByName r.deviceID r.name = .ok r := by
  unfold getByName
  cases hfind : t.rows.find fun q ↦ q.live && q.named r.deviceID r.name with
  | none =>
    have hnot := Table.find_eq_none.mp hfind r hr
    simp [hlive, ProfileRow.named] at hnot
  | some q =>
    have hq := Table.find_sat hfind
    rw [Bool.and_eq_true] at hq
    rw [t.unique r hr q (Table.mem_of_find hfind) ⟨hlive, hq.1, hq.2⟩, found_some]

end Statements

end ProfileTable

end Tables

end Rosmon.Profiles
