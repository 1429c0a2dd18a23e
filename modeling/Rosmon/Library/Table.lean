import Mathlib.Data.List.Basic
import Mathlib.Data.List.Nodup

namespace Rosmon.Library

/-- Rows with a numeric primary key. -/
class Row (ρ : Type) where
  key : ρ → ℕ
  withKey : ℕ → ρ → ρ
  key_withKey : ∀ n r, key (withKey n r) = n

open Row

/-- Rewriting a row by `f` leaves its key alone. -/
class KeepsKey {ρ : Type} [Row ρ] (f : ρ → ρ) : Prop where
  key_eq : ∀ r, key (f r) = key r

/-- A table in primary-key order. Keys are handed out by a counter, so a key is
never used twice. -/
structure Table (ρ : Type) [Row ρ] where
  rows : List ρ
  next : ℕ
  sorted : rows.Pairwise (key · < key ·)
  fresh : ∀ r ∈ rows, key r < next

namespace Table

variable {ρ : Type} [Row ρ]

instance : Membership ρ (Table ρ) := ⟨fun t r ↦ r ∈ t.rows⟩

theorem mem_iff {t : Table ρ} {r : ρ} : r ∈ t ↔ r ∈ t.rows := Iff.rfl

instance [DecidableEq ρ] (t : Table ρ) (r : ρ) : Decidable (r ∈ t) :=
  inferInstanceAs (Decidable (r ∈ t.rows))

instance (t : Table ρ) (P : ρ → Prop) [DecidablePred P] : Decidable (∀ r ∈ t, P r) :=
  inferInstanceAs (Decidable (∀ r ∈ t.rows, P r))

instance (t : Table ρ) (P : ρ → Prop) [DecidablePred P] : Decidable (∃ r ∈ t, P r) :=
  inferInstanceAs (Decidable (∃ r ∈ t.rows, P r))

@[ext] theorem ext {t u : Table ρ} (hr : t.rows = u.rows) (hn : t.next = u.next) : t = u := by
  cases t
  cases u
  simp_all

def empty : Table ρ := ⟨[], 1, .nil, by simp⟩

theorem not_mem_empty (r : ρ) : r ∉ (empty : Table ρ) := List.not_mem_nil

/-- Two rows with one key are one row. -/
theorem eq_of_key {t : Table ρ} {r q : ρ} (hr : r ∈ t) (hq : q ∈ t) (h : key r = key q) :
    r = q := by
  have hn : (t.rows.map key).Nodup := List.pairwise_map.mpr (t.sorted.imp Nat.ne_of_lt)
  exact List.inj_on_of_nodup_map hn hr hq h

/-- The first row in key order that satisfies `p`. -/
def find (t : Table ρ) (p : ρ → Bool) : Option ρ := t.rows.find? p

def get (t : Table ρ) (n : ℕ) : Option ρ := t.find (key · == n)

theorem mem_of_find {t : Table ρ} {p : ρ → Bool} {r : ρ} (h : t.find p = some r) : r ∈ t :=
  List.mem_of_find?_eq_some h

theorem find_sat {t : Table ρ} {p : ρ → Bool} {r : ρ} (h : t.find p = some r) : p r = true :=
  List.find?_some h

theorem find_eq_none {t : Table ρ} {p : ρ → Bool} :
    t.find p = none ↔ ∀ r ∈ t, p r = false := by
  simp [find, mem_iff]

theorem get_eq_some {t : Table ρ} {n : ℕ} {r : ρ} : t.get n = some r ↔ r ∈ t ∧ key r = n := by
  constructor
  · exact fun h ↦ ⟨mem_of_find h, by simpa using find_sat h⟩
  · rintro ⟨hr, rfl⟩
    cases h : t.get (key r) with
    | none => simpa using find_eq_none.mp h r hr
    | some q => exact congrArg some (eq_of_key (mem_of_find h) hr (by simpa using find_sat h))

/-- A new row under the next key. -/
def insert (t : Table ρ) (r : ρ) : Table ρ where
  rows := t.rows ++ [withKey t.next r]
  next := t.next + 1
  sorted := List.pairwise_append.mpr ⟨t.sorted, List.pairwise_singleton _ _, by
    simpa [key_withKey] using t.fresh⟩
  fresh q hq := by
    rcases List.mem_append.mp hq with hq | hq
    · exact Nat.lt_succ_of_lt (t.fresh q hq)
    · rw [List.mem_singleton.mp hq, key_withKey]
      exact Nat.lt_succ_self _

theorem mem_insert {t : Table ρ} {r q : ρ} : q ∈ t.insert r ↔ q ∈ t ∨ q = withKey t.next r := by
  simp [mem_iff, insert]

theorem get_insert_self (t : Table ρ) (r : ρ) :
    (t.insert r).get t.next = some (withKey t.next r) :=
  get_eq_some.mpr ⟨mem_insert.mpr (.inr rfl), key_withKey _ _⟩

theorem get_insert_of_ne (t : Table ρ) (r : ρ) {n : ℕ} (h : n ≠ t.next) :
    (t.insert r).get n = t.get n := by
  have hnew : ([withKey t.next r].find? fun q ↦ key q == n) = none := by
    simp [key_withKey, Ne.symm h]
  simp only [get, find, insert, List.find?_append, hnew, Option.or_none]

/-- Rewrite the rows that satisfy `p`, keeping their keys. -/
def update (t : Table ρ) (p : ρ → Bool) (f : ρ → ρ) [KeepsKey f] : Table ρ where
  rows := t.rows.map (fun r ↦ if p r then f r else r)
  next := t.next
  sorted := by
    refine List.pairwise_map.mpr (t.sorted.imp fun {a b} hab ↦ ?_)
    split <;> split <;> simpa only [KeepsKey.key_eq] using hab
  fresh q hq := by
    obtain ⟨r, hr, rfl⟩ := List.mem_map.mp hq
    split
    · simpa only [KeepsKey.key_eq] using t.fresh r hr
    · exact t.fresh r hr

variable {p : ρ → Bool} {f : ρ → ρ} [KeepsKey f]

@[simp] theorem update_next (t : Table ρ) : (t.update p f).next = t.next := rfl

theorem mem_update {t : Table ρ} {q : ρ} :
    q ∈ t.update p f ↔ ∃ r ∈ t, (if p r then f r else r) = q :=
  List.mem_map

theorem mem_update_of_not {t : Table ρ} {r : ρ} (hr : r ∈ t) (hp : p r = false) :
    r ∈ t.update p f :=
  mem_update.mpr ⟨r, hr, by simp [hp]⟩

theorem mem_update_of {t : Table ρ} {r : ρ} (hr : r ∈ t) (hp : p r = true) :
    f r ∈ t.update p f :=
  mem_update.mpr ⟨r, hr, by simp [hp]⟩

/-- Rewriting one row of the table. -/
theorem mem_update_row {t : Table ρ} {r q : ρ} (hr : r ∈ t)
    (hp : ∀ q, p q = (key q == key r)) :
    q ∈ t.update p f ↔ q = f r ∨ q ∈ t ∧ key q ≠ key r := by
  rw [mem_update]
  constructor
  · rintro ⟨a, ha, rfl⟩
    by_cases h : key a = key r
    · exact .inl (by simp [hp, eq_of_key ha hr h])
    · exact .inr (by simp [hp, h, ha])
  · rw [← mem_update]
    rintro (rfl | ⟨hq, h⟩)
    · exact mem_update_of hr (by simp [hp])
    · exact mem_update_of_not hq (by simp [hp, h])

/-- Rows are looked up among the updated ones as among the old ones, if the update
does not change what they are looked up by. -/
theorem find_update (t : Table ρ) {q : ρ → Bool} (hq : ∀ r, q (f r) = q r) :
    (t.update p f).find q = (t.find q).map (fun r ↦ if p r then f r else r) := by
  have hcomp : (q ∘ fun r ↦ if p r then f r else r) = q := by
    funext r
    by_cases hr : p r <;> simp [hr, hq]
  simp only [find, update, List.find?_map, hcomp]

theorem get_update (t : Table ρ) (n : ℕ) :
    (t.update p f).get n = (t.get n).map (fun r ↦ if p r then f r else r) :=
  find_update t fun r ↦ by rw [KeepsKey.key_eq r]

/-- What an update does not select before and after is left as it is. -/
theorem filter_update {t : Table ρ} {q : ρ → Bool}
    (hq : ∀ r ∈ t, p r = true → q r = false ∧ q (f r) = false) :
    (t.update p f).rows.filter q = t.rows.filter q := by
  change (t.rows.map fun r ↦ if p r then f r else r).filter q = _
  have hrows (rows : List ρ) (h : ∀ r ∈ rows, p r = true → q r = false ∧ q (f r) = false) :
      (rows.map fun r ↦ if p r then f r else r).filter q = rows.filter q := by
    induction rows with
    | nil => rfl
    | cons r rows ih =>
      rw [List.map_cons, List.filter_cons, List.filter_cons,
        ih fun r' hr' ↦ h r' (List.mem_cons_of_mem _ hr')]
      by_cases hp : p r = true
      · obtain ⟨hbefore, hafter⟩ := h r List.mem_cons_self hp
        simp [hp, hbefore, hafter]
      · simp [hp]
  exact hrows t.rows hq

/-- Two tables with the same rows of one kind have the same rows of any part of it. -/
theorem filter_owned {t u : Table ρ} {own q : ρ → Bool}
    (h : t.rows.filter own = u.rows.filter own) (hq : ∀ r, q r = true → own r = true) :
    t.rows.filter q = u.rows.filter q := by
  have hpart (rows : List ρ) : (rows.filter own).filter q = rows.filter q := by
    rw [List.filter_filter]
    refine List.filter_congr fun r _ ↦ ?_
    cases hr : q r with
    | false => rfl
    | true => exact hq r hr
  rw [← hpart t.rows, h, hpart]

theorem filter_insert {t : Table ρ} {r : ρ} {q : ρ → Bool} (hq : q (withKey t.next r) = false) :
    (t.insert r).rows.filter q = t.rows.filter q := by
  simp [insert, List.filter_append, hq]

/-- A condition that names the key picks out a row. -/
theorem find_eq_some_of_key {t : Table ρ} {q : ρ → Bool} {n : ℕ}
    (hq : ∀ r, q r = true → key r = n) {r : ρ} : t.find q = some r ↔ r ∈ t ∧ q r = true := by
  constructor
  · exact fun h ↦ ⟨mem_of_find h, find_sat h⟩
  · intro h
    cases hfind : t.find q with
    | none => simp [find_eq_none.mp hfind r h.1] at h
    | some r' =>
      have hkey := (hq r' (find_sat hfind)).trans (hq r h.2).symm
      exact congrArg some (eq_of_key (mem_of_find hfind) h.1 hkey)

/-- Two tables with the same rows of one kind: a row that is looked up by its key is of this kind
and the same in both, or it is of this kind in neither. -/
theorem find_owned {t u : Table ρ} {own : ρ → Prop} [DecidablePred own] {q : ρ → Bool}
    (h : t.rows.filter (own ·) = u.rows.filter (own ·)) {n : ℕ} (hq : ∀ r, q r = true → key r = n) :
    (∃ r, t.find q = some r ∧ u.find q = some r ∧ own r) ∨
      (∀ r, t.find q = some r → ¬own r) ∧ ∀ r, u.find q = some r → ¬own r := by
  have hmem (r : ρ) (hr : own r) : r ∈ t ↔ r ∈ u := by
    have hfilter : r ∈ t.rows.filter (own ·) ↔ r ∈ u.rows.filter (own ·) := by rw [h]
    simpa [List.mem_filter, hr, mem_iff] using hfilter
  by_cases hown : ∃ r, t.find q = some r ∧ own r
  · obtain ⟨r, hr, hr'⟩ := hown
    obtain ⟨hrt, hrq⟩ := (find_eq_some_of_key hq).mp hr
    exact .inl ⟨r, hr, (find_eq_some_of_key hq).mpr ⟨(hmem r hr').mp hrt, hrq⟩, hr'⟩
  · refine .inr ⟨fun r hr hr' ↦ hown ⟨r, hr, hr'⟩, fun r hr hr' ↦ hown ⟨r, ?_, hr'⟩⟩
    obtain ⟨hru, hrq⟩ := (find_eq_some_of_key hq).mp hr
    exact (find_eq_some_of_key hq).mpr ⟨(hmem r hr').mpr hru, hrq⟩

theorem update_of_none {t : Table ρ} (h : ∀ r ∈ t, p r = false) : t.update p f = t := by
  refine ext ?_ rfl
  exact (List.map_congr_left (fun r hr ↦ by simp [h r hr])).trans (List.map_id' t.rows)

theorem update_congr {q : ρ → Bool} {g : ρ → ρ} [KeepsKey g] {t : Table ρ}
    (h : ∀ r ∈ t, (if p r then f r else r) = if q r then g r else r) :
    t.update p f = t.update q g :=
  ext (List.map_congr_left h) rfl

/-- Two updates in a row, each row followed through both of them. -/
theorem update_update {q s : ρ → Bool} {g h : ρ → ρ} [KeepsKey g] [KeepsKey h] {t : Table ρ}
    (hrow : ∀ r ∈ t, (if q (if p r then f r else r) then g (if p r then f r else r)
      else if p r then f r else r) = if s r then h r else r) :
    (t.update p f).update q g = t.update s h := by
  refine ext ?_ rfl
  simp only [update, List.map_map]
  exact List.map_congr_left hrow

/-- Rewriting the row just inserted is inserting the rewritten row. -/
theorem update_insert_self {t : Table ρ} {r : ρ} (hp : ∀ q, p q = (key q == t.next))
    (hc : f (withKey t.next r) = withKey t.next (f r)) :
    (t.insert r).update p f = t.insert (f r) := by
  have hold : t.rows.map (fun q ↦ if p q then f q else q) = t.rows := by
    refine (List.map_congr_left fun q hq ↦ ?_).trans (List.map_id' t.rows)
    simp [hp, Nat.ne_of_lt (t.fresh q hq)]
  have hnew : p (withKey t.next r) = true := by simp [hp, key_withKey]
  refine ext ?_ rfl
  simp only [update, insert, List.map_append, hold, List.map_cons, List.map_nil, hnew, if_true, hc]

end Table

end Rosmon.Library
