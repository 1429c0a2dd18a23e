import Rosmon.Profiles.Store

namespace Rosmon.Profiles

open Library Store UniqueTable

variable {κ : Type}

/-- The rows of a name, deleted or not, in the order of their keys. -/
def bearing (t : ProfileTable κ) (deviceID : ℕ) (name : String) : List (ProfileRow κ) :=
  t.rows.rows.filter (ProfileRow.named deviceID name)

/-- A live row of the name comes after a deleted one. -/
def Obstructed (t : ProfileTable κ) (deviceID : ℕ) (name : String) : Prop :=
  ∃ existing ∈ (bearing t deviceID name).head?, ¬existing.live ∧
    ∃ q ∈ bearing t deviceID name, q.live

instance (t : ProfileTable κ) (deviceID : ℕ) (name : String) :
    Decidable (Obstructed t deviceID name) :=
  inferInstanceAs (Decidable (∃ existing ∈ _, _))

section Bearing

variable {t : ProfileTable κ} {p r : ProfileRow κ} {deviceID : ℕ} {name : String}

theorem mem_bearing : r ∈ bearing t deviceID name ↔ r ∈ t.rows ∧ r.named deviceID name :=
  List.mem_filter

theorem find_named : t.rows.find (ProfileRow.named deviceID name) =
    (bearing t deviceID name).head? :=
  (List.head?_filter ..).symm

/-- Writing a row whose old version bears the name if and only if the new one does. -/
theorem bearing_put (h : ¬t.Clashes p)
    (hnamed : ∀ r ∈ t.rows, r.id = p.id → r.named deviceID name = p.named deviceID name) :
    bearing (t.put p h) deviceID name =
      (bearing t deviceID name).map fun r ↦ if r.id = p.id then p else r :=
  filter_put h hnamed

/-- Writing a row of another name. -/
theorem bearing_put_of_not (h : ¬t.Clashes p)
    (hnamed : ∀ r ∈ t.rows, r.id = p.id → ¬r.named deviceID name)
    (hp : ¬p.named deviceID name) : bearing (t.put p h) deviceID name = bearing t deviceID name := by
  rw [bearing_put h fun r hr hid ↦ Bool.eq_iff_iff.mpr (iff_of_false (hnamed r hr hid) hp)]
  refine (List.map_congr_left fun r hr ↦ if_neg fun hid ↦ ?_).trans (List.map_id _)
  obtain ⟨hr, hbears⟩ := mem_bearing.mp hr
  exact hnamed r hr hid hbears

theorem bearing_add (h : ¬t.Clashes (Row.withKey t.rows.next p)) :
    bearing (t.add p h) deviceID name = bearing t deviceID name ++
      if p.named deviceID name then [Row.withKey t.rows.next p] else [] := by
  change (t.rows.rows ++ [Row.withKey t.rows.next p]).filter _ = _
  rw [List.filter_append, List.filter_singleton]
  change _ ++ (bif p.named deviceID name then _ else _) = _
  cases p.named deviceID name <;> rfl

/-- A live row is the first one of its name, unless it comes after a deleted one. -/
theorem head_bearing (hr : r ∈ t.rows) (hlive : r.live) (h : ¬Obstructed t r.deviceID r.name) :
    (bearing t r.deviceID r.name).head? = some r := by
  have hmem : r ∈ bearing t r.deviceID r.name :=
    mem_bearing.mpr ⟨hr, ProfileRow.named_iff.mpr ⟨rfl, rfl⟩⟩
  cases hhead : (bearing t r.deviceID r.name).head? with
  | none => exact absurd (List.head?_eq_none_iff.mp hhead ▸ hmem) List.not_mem_nil
  | some q =>
    obtain ⟨hq, hnamed⟩ := mem_bearing.mp (List.mem_of_head? hhead)
    by_cases hqlive : q.live
    · rw [t.unique r hr q hq ⟨hlive, hqlive, hnamed⟩]
    · exact absurd ⟨q, hhead, hqlive, r, hmem, hlive⟩ h

end Bearing

section Upserts

variable [Columns κ] {t : ProfileTable κ} {p r : ProfileRow κ} {now : Time}

/-- The first row of the name may be written unless a live row comes after a deleted one. -/
theorem clashes_merged_iff {existing : ProfileRow κ}
    (hfirst : (bearing t p.deviceID p.name).head? = some existing) :
    t.Clashes ((ProfileTable.merged existing p).stamp now) ↔
      Obstructed t p.deviceID p.name := by
  obtain ⟨hexisting, hnamed⟩ := mem_bearing.mp (List.mem_of_head? hfirst)
  constructor
  · rintro ⟨q, hq, ⟨-, hqlive, hqnamed⟩, hne⟩
    refine ⟨existing, hfirst, fun hlive ↦ hne ?_, q, mem_bearing.mpr ⟨hq, hqnamed⟩, hqlive⟩
    obtain ⟨hdevice, hname⟩ := ProfileRow.named_iff.mp hnamed
    have hsame : q = existing := by
      refine t.unique existing hexisting q hq ⟨hlive, hqlive, ?_⟩
      rw [hdevice, hname]
      exact hqnamed
    exact hsame ▸ rfl
  · rintro ⟨first, hfirst', hdeleted, q, hq, hqlive⟩
    obtain rfl : existing = first := Option.some.inj (hfirst.symm.trans hfirst')
    obtain ⟨hq, hqnamed⟩ := mem_bearing.mp hq
    refine ⟨q, hq, ⟨rfl, hqlive, hqnamed⟩, fun hkey ↦ hdeleted ?_⟩
    rwa [← Table.eq_of_key hq hexisting hkey]

/-- `Upsert` fails if a live row comes after a deleted one. Else it writes the first row of the
name, or a new one where there is none. -/
theorem upsert_cases (now : Time) (p : ProfileRow κ) (t : ProfileTable κ) :
    (Obstructed t p.deviceID p.name ∧ ∃ err, t.upsert now p = (.error err, t)) ∨
    (∃ existing, (bearing t p.deviceID p.name).head? = some existing ∧
      ¬Obstructed t p.deviceID p.name ∧
      ∃ h : ¬t.Clashes ((ProfileTable.merged existing p).stamp now),
        t.upsert now p = (.ok !existing.live,
          t.put ((ProfileTable.merged existing p).stamp now) h)) ∨
    (bearing t p.deviceID p.name = [] ∧ ∃ h : ¬t.Clashes (Row.withKey t.rows.next (ProfileTable.inserted now p)),
        t.upsert now p = (.ok true, t.add (ProfileTable.inserted now p) h)) := by
  unfold ProfileTable.upsert
  rw [find_named]
  cases hfirst : (bearing t p.deviceID p.name).head? with
  | some existing =>
    dsimp only
    by_cases hclash : t.Clashes ((ProfileTable.merged existing p).stamp now)
    · refine .inl ⟨(clashes_merged_iff hfirst).mp hclash,
        .duplicateKey (Columns.index κ), ?_⟩
      rw [ProfileTable.save, dif_pos hclash]
      rfl
    · refine .inr (.inl ⟨existing, rfl, fun hobstructed ↦ ?_, hclash, ?_⟩)
      · exact hclash ((clashes_merged_iff hfirst).mpr hobstructed)
      · rw [ProfileTable.save, dif_neg hclash]
        rfl
  | none =>
    have hempty := List.head?_eq_none_iff.mp hfirst
    have hfree : ¬t.Clashes (Row.withKey t.rows.next (ProfileTable.inserted now p)) := by
      rintro ⟨q, hq, ⟨-, -, hnamed⟩, -⟩
      have hmem := mem_bearing.mpr ⟨hq, hnamed⟩
      exact List.not_mem_nil (hempty ▸ hmem)
    refine .inr (.inr ⟨hempty, hfree, ?_⟩)
    dsimp only
    rw [ProfileTable.insert, dif_neg hfree]
    rfl

variable {deviceID : ℕ} {name : String}

/-- The rows of other names stay as they are. -/
theorem bearing_upsert (hname : ¬p.named deviceID name) (t : ProfileTable κ) :
    bearing (t.upsert now p).2 deviceID name = bearing t deviceID name := by
  obtain ⟨-, err, h⟩ | ⟨existing, hfirst, -, hfree, h⟩ | ⟨-, hfree, h⟩ := upsert_cases now p t
  · rw [h]
  · rw [h]
    obtain ⟨hexisting, hnamed⟩ := mem_bearing.mp (List.mem_of_head? hfirst)
    refine bearing_put_of_not hfree (fun r hr hid hbears ↦ hname ?_) hname
    obtain rfl : r = existing := Table.eq_of_key hr hexisting hid
    obtain ⟨hdevice, hsame⟩ := ProfileRow.named_iff.mp hnamed
    rw [ProfileRow.named_iff] at hbears ⊢
    exact ⟨hdevice ▸ hbears.1, hsame ▸ hbears.2⟩
  · rw [h]
    refine (bearing_add hfree).trans ?_
    rw [if_neg (show ¬(ProfileTable.inserted now p).named deviceID name from hname),
      List.append_nil]

theorem obstructed_upsert (hname : ¬p.named deviceID name) (t : ProfileTable κ) :
    Obstructed (t.upsert now p).2 deviceID name ↔ Obstructed t deviceID name := by
  unfold Obstructed
  rw [bearing_upsert hname]

theorem upsert_obstructed (h : Obstructed t p.deviceID p.name) (now : Time) :
    ∃ err, t.upsert now p = (.error err, t) := by
  obtain ⟨-, hfails⟩ | ⟨-, -, hfree, -⟩ | ⟨hempty, -⟩ := upsert_cases now p t
  · exact hfails
  · exact absurd h hfree
  · obtain ⟨first, hfirst, -⟩ := h
    rw [hempty] at hfirst
    cases hfirst

/-- Once it has been done, it can be done again. -/
theorem not_obstructed_upsert (now : Time) (hlive : p.live) (h : ¬Obstructed t p.deviceID p.name) :
    (∃ created, (t.upsert now p).1 = .ok created) ∧
      ¬Obstructed (t.upsert now p).2 p.deviceID p.name := by
  obtain ⟨hob, -⟩ | ⟨existing, hfirst, -, hfree, hdone⟩ | ⟨hempty, hfree, hdone⟩ :=
    upsert_cases now p t
  · exact absurd hob h
  · rw [hdone]
    obtain ⟨hexisting, hnamed⟩ := mem_bearing.mp (List.mem_of_head? hfirst)
    have hhead : (bearing (t.put ((ProfileTable.merged existing p).stamp now) hfree) p.deviceID
        p.name).head? = some ((ProfileTable.merged existing p).stamp now) := by
      rw [bearing_put hfree fun r hr hid ↦ ?_, List.head?_map, hfirst]
      · exact congrArg some (if_pos rfl)
      · rw [Table.eq_of_key hr hexisting hid]
        exact hnamed.trans (ProfileRow.named_iff.mpr ⟨rfl, rfl⟩).symm
    refine ⟨⟨_, rfl⟩, ?_⟩
    rintro ⟨first, hfirst, hdeleted, -⟩
    obtain rfl := Option.some.inj (hhead.symm.trans hfirst)
    exact hdeleted rfl
  · rw [hdone]
    refine ⟨⟨_, rfl⟩, ?_⟩
    rintro ⟨first, hhead, hdeleted, -⟩
    rw [bearing_add hfree, hempty, List.nil_append] at hhead
    split at hhead
    · obtain rfl := Option.some.inj hhead
      exact hdeleted hlive
    · cases hhead

/-- A row of another name stays. -/
theorem get_upsert (hr : t.rows.get r.id = some r) (hname : ¬r.named p.deviceID p.name) :
    (t.upsert now p).2.rows.get r.id = some r := by
  obtain ⟨-, err, h⟩ | ⟨existing, hfirst, -, hfree, h⟩ | ⟨-, hfree, h⟩ := upsert_cases now p t
  · rw [h]
    exact hr
  · rw [h]
    obtain ⟨hexisting, hnamed⟩ := mem_bearing.mp (List.mem_of_head? hfirst)
    refine (get_put_of_ne hfree fun hid ↦ hname ?_).trans hr
    rwa [Table.eq_of_key (Table.get_eq_some.mp hr).1 hexisting hid]
  · rw [h]
    have hold := (Table.get_eq_some.mp hr).1
    exact Table.get_eq_some.mpr ⟨(mem_add hfree).mpr (.inl hold), rfl⟩

theorem upsert_live (now : Time) (hfirst : (bearing t p.deviceID p.name).head? = some r) (hlive : r.live) :
    ∃ h : ¬t.Clashes ((ProfileTable.merged r p).stamp now),
      t.upsert now p = (.ok false, t.put ((ProfileTable.merged r p).stamp now) h) := by
  obtain ⟨⟨q, hq, hdeleted, -⟩, -⟩ | ⟨q, hq, -, h, hdone⟩ | ⟨hempty, -⟩ := upsert_cases now p t
  · obtain rfl := Option.some.inj (hfirst.symm.trans hq)
    exact absurd hlive hdeleted
  · obtain rfl := Option.some.inj (hfirst.symm.trans hq)
    refine ⟨h, ?_⟩
    rw [hdone, hlive]
    rfl
  · rw [hempty] at hfirst
    cases hfirst

end Upserts

end Rosmon.Profiles
