import Rosmon.Library.Table

namespace Rosmon.Library

open Row

/-- A unique index on the rows of a table: which of them may not stand beside each other. -/
class Index (ρ : Type) [Row ρ] where
  same : ρ → ρ → Prop
  symm : ∀ r q, same r q → same q r
  withKey_key : ∀ r : ρ, withKey (key r) r = r

/-- A table on which the index holds. -/
structure UniqueTable (ρ : Type) [Row ρ] [Index ρ] where
  rows : Table ρ
  unique : ∀ r ∈ rows, ∀ q ∈ rows, Index.same r q → q = r

namespace UniqueTable

variable {ρ : Type} [Row ρ] [Index ρ]

def empty : UniqueTable ρ := ⟨.empty, fun r hr ↦ absurd hr (Table.not_mem_empty r)⟩

/-- The index does not let the row in. -/
def Clashes (t : UniqueTable ρ) (p : ρ) : Prop := ∃ q ∈ t.rows, Index.same p q ∧ key q ≠ key p

instance [DecidableRel (Index.same (ρ := ρ))] (t : UniqueTable ρ) (p : ρ) :
    Decidable (t.Clashes p) :=
  inferInstanceAs (Decidable (∃ q ∈ t.rows, _))

variable {t : UniqueTable ρ} {p r : ρ}

/-- The index holds on rows that are `p` and others from the table. -/
theorem unique_beside (h : ¬t.Clashes p) {rows : Table ρ}
    (hrows : ∀ r ∈ rows, r = p ∨ r ∈ t.rows ∧ key r ≠ key p) :
    ∀ r ∈ rows, ∀ q ∈ rows, Index.same r q → q = r := by
  intro r hr q hq hsame
  obtain rfl | ⟨hr, hrp⟩ := hrows r hr
  · obtain rfl | ⟨hq, hqp⟩ := hrows q hq
    · rfl
    · exact absurd ⟨q, hq, hsame, hqp⟩ h
  · obtain rfl | ⟨hq, -⟩ := hrows q hq
    · exact absurd ⟨r, hr, Index.symm _ _ hsame, hrp⟩ h
    · exact t.unique r hr q hq hsame

/-- All columns of a row are written, and its key is kept. -/
def overwrite (p r : ρ) : ρ := withKey (key r) p

instance (p : ρ) : KeepsKey (overwrite p) := ⟨fun r ↦ key_withKey (key r) p⟩

theorem overwrite_eq (h : key r = key p) : overwrite p r = p := by
  rw [overwrite, h, Index.withKey_key]

/-- The row with the key of `p` becomes `p`. -/
def put (t : UniqueTable ρ) (p : ρ) (h : ¬t.Clashes p) : UniqueTable ρ where
  rows := t.rows.update (key · == key p) (overwrite p)
  unique := by
    refine unique_beside h fun r hr ↦ ?_
    obtain ⟨q, hq, rfl⟩ := Table.mem_update.mp hr
    by_cases hkey : key q = key p
    · rw [if_pos (beq_iff_eq.mpr hkey)]
      exact .inl (overwrite_eq hkey)
    · rw [if_neg (by simpa using hkey)]
      exact .inr ⟨hq, hkey⟩

/-- A new row under the next key. -/
def add (t : UniqueTable ρ) (p : ρ) (h : ¬t.Clashes (withKey t.rows.next p)) : UniqueTable ρ where
  rows := t.rows.insert p
  unique := by
    refine unique_beside h fun r hr ↦ ?_
    obtain hr | rfl := Table.mem_insert.mp hr
    · exact .inr ⟨hr, by rw [key_withKey]; exact Nat.ne_of_lt (t.rows.fresh r hr)⟩
    · exact .inl rfl

theorem get_put (h : ¬t.Clashes p) (n : ℕ) :
    (t.put p h).rows.get n = (t.rows.get n).map fun r ↦ if key r = key p then p else r := by
  change (t.rows.update (key · == key p) (overwrite p)).get n = _
  rw [Table.get_update]
  refine congrArg (fun f ↦ Option.map f (t.rows.get n)) (funext fun r ↦ ?_)
  simp only [beq_iff_eq]
  split_ifs with hkey
  · exact overwrite_eq hkey
  · rfl

theorem get_put_of_ne (h : ¬t.Clashes p) {n : ℕ} (hn : n ≠ key p) :
    (t.put p h).rows.get n = t.rows.get n := by
  rw [get_put]
  cases hget : t.rows.get n with
  | none => rfl
  | some r => exact congrArg some (if_neg ((Table.get_eq_some.mp hget).2 ▸ hn))

theorem get_put_self (h : ¬t.Clashes p) (hr : t.rows.get (key p) = some r) :
    (t.put p h).rows.get (key p) = some p := by
  rw [get_put, hr]
  exact congrArg some (if_pos (Table.get_eq_some.mp hr).2)

theorem mem_put (h : ¬t.Clashes p) :
    r ∈ (t.put p h).rows ↔ (r = p ∧ ∃ q ∈ t.rows, key q = key p) ∨ r ∈ t.rows ∧ key r ≠ key p := by
  change r ∈ t.rows.update (key · == key p) (overwrite p) ↔ _
  rw [Table.mem_update]
  constructor
  · rintro ⟨q, hq, rfl⟩
    by_cases hkey : key q = key p
    · rw [if_pos (beq_iff_eq.mpr hkey)]
      exact .inl ⟨overwrite_eq hkey, q, hq, hkey⟩
    · rw [if_neg (by simpa using hkey)]
      exact .inr ⟨hq, hkey⟩
  · rintro (⟨rfl, q, hq, hkey⟩ | ⟨hr, hkey⟩)
    · exact ⟨q, hq, by rw [if_pos (beq_iff_eq.mpr hkey), overwrite_eq hkey]⟩
    · exact ⟨r, hr, if_neg (by simpa using hkey)⟩

theorem mem_add (h : ¬t.Clashes (withKey t.rows.next p)) :
    r ∈ (t.add p h).rows ↔ r ∈ t.rows ∨ r = withKey t.rows.next p :=
  Table.mem_insert

/-- What is selected before and after a write, which selects `p` if it did the old row. -/
theorem filter_put (h : ¬t.Clashes p) {q : ρ → Bool}
    (hq : ∀ r ∈ t.rows, key r = key p → q r = q p) :
    (t.put p h).rows.rows.filter q =
      (t.rows.rows.filter q).map fun r ↦ if key r = key p then p else r := by
  have hwrite : ∀ r, (if key r == key p then overwrite p r else r) =
      if key r = key p then p else r := by
    intro r
    by_cases hkey : key r = key p
    · rw [if_pos (beq_iff_eq.mpr hkey), if_pos hkey, overwrite_eq hkey]
    · rw [if_neg (by simpa using hkey), if_neg hkey]
  change (t.rows.rows.map fun r ↦ if key r == key p then overwrite p r else r).filter q = _
  simp only [hwrite]
  rw [List.filter_map]
  refine congrArg (List.map _) (List.filter_congr fun r hr ↦ ?_)
  by_cases hkey : key r = key p
  · simp only [Function.comp_apply, if_pos hkey, hq r hr hkey]
  · simp only [Function.comp_apply, if_neg hkey]

/-- A row may take the place of one that stood in the same way. -/
theorem not_clashes (hr : r ∈ t.rows) (hkey : key p = key r)
    (hsame : ∀ q, Index.same p q → Index.same r q) : ¬t.Clashes p := by
  rintro ⟨q, hq, hpq, hne⟩
  exact hne (hkey ▸ congrArg key (t.unique r hr q hq (hsame q hpq)))

/-- A table of one row. -/
def single (p : ρ) : UniqueTable ρ :=
  empty.add p fun h ↦ by
    obtain ⟨q, hq, -⟩ := h
    exact Table.not_mem_empty q hq

end UniqueTable

end Rosmon.Library
