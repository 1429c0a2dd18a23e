import Mathlib.Data.List.AList

namespace Rosmon.Go

/-- A `map[string]ν`. -/
abbrev Map (ν : Type) := AList fun _ : String ↦ ν

/-- An order in which `range` may visit the entries of a map. -/
structure RangeOrder (ν : Type) where
  visit : List (Sigma fun _ : String ↦ ν) → List (Sigma fun _ : String ↦ ν)
  perm : ∀ entries, (visit entries).Perm entries

def RangeOrder.asStored (ν : Type) : RangeOrder ν := ⟨id, .refl⟩

namespace Map

variable {ν : Type}

/-- `v, ok := m[k]`. -/
def get (m : Map ν) (k : String) : Option ν := m.lookup k

/-- `m[k]` with the zero value of a text. -/
def text (m : Map String) (k : String) : String := (m.get k).getD ""

/-- `m[k]` with the zero value of a number. -/
def number (m : Map ℕ) (k : String) : ℕ := (m.get k).getD 0

/-- The entries that a loop over the map copies to a new one. -/
def filter (p : String → ν → Bool) (m : Map ν) : Map ν where
  entries := m.entries.filter fun e ↦ p e.1 e.2
  nodupKeys := m.nodupKeys.sublist List.filter_sublist

/-- The number of keys under which the map holds `v`. -/
def holders (m : Map String) (v : String) : ℕ := m.entries.countP fun e ↦ e.2 = v

@[simp] theorem get_empty (k : String) : get (∅ : Map ν) k = none := rfl

@[simp] theorem text_empty (k : String) : text ∅ k = "" := rfl

@[simp] theorem number_empty (k : String) : number ∅ k = 0 := rfl

@[simp] theorem holders_empty (v : String) : holders ∅ v = 0 := rfl

theorem mem_entries {m : Map ν} {k : String} {v : ν} : ⟨k, v⟩ ∈ m.entries ↔ m.get k = some v :=
  AList.mem_lookup_iff.symm

theorem get_insert (m : Map ν) (k : String) (v : ν) (k' : String) :
    Map.get (m.insert k v) k' = if k' = k then some v else m.get k' := by
  unfold get
  by_cases h : k' = k
  · subst h
    simp
  · rw [AList.lookup_insert_ne h, if_neg h]

theorem get_erase (m : Map ν) (k k' : String) :
    Map.get (m.erase k) k' = if k' = k then none else m.get k' := by
  unfold get
  by_cases h : k' = k
  · subst h
    simp
  · rw [AList.lookup_erase_ne h, if_neg h]

theorem get_filter (p : String → ν → Bool) (m : Map ν) (k : String) :
    (m.filter p).get k = (m.get k).filter (p k) := by
  apply Option.ext
  intro v
  have hmem : ⟨k, v⟩ ∈ (m.filter p).entries ↔ ⟨k, v⟩ ∈ m.entries ∧ p k v = true := by
    simp [filter]
  rw [mem_entries, mem_entries] at hmem
  rw [hmem, Option.filter_eq_some_iff]

theorem number_insert (m : Map ℕ) (k : String) (n : ℕ) (k' : String) :
    Map.number (m.insert k n) k' = if k' = k then n else m.number k' := by
  unfold number
  rw [get_insert]
  split_ifs <;> rfl

theorem number_erase (m : Map ℕ) (k k' : String) :
    Map.number (m.erase k) k' = if k' = k then 0 else m.number k' := by
  unfold number
  rw [get_erase]
  split_ifs <;> rfl

theorem entries_perm {m n : Map ν} (h : ∀ k, m.get k = n.get k) :
    m.entries.Perm n.entries :=
  List.lookup_ext m.nodupKeys n.nodupKeys fun k v ↦ by
    have hk : m.entries.dlookup k = n.entries.dlookup k := h k
    rw [hk]

theorem holders_congr {m n : Map String} (h : ∀ k, m.get k = n.get k) (v : String) :
    m.holders v = n.holders v :=
  (entries_perm h).countP_eq _

/-- A key that goes takes one holder of its value with it. -/
theorem holders_erase {m : Map String} {k v : String} (h : m.get k = some v) (v' : String) :
    m.holders v' = Map.holders (m.erase k) v' + if v = v' then 1 else 0 := by
  have hkey : k ∈ m.entries.keys := List.mem_keys_of_mem (mem_entries.mpr h)
  obtain ⟨w, l₁, l₂, hk, hm, he⟩ := List.exists_of_kerase hkey
  have hw : w = v := by
    have hmem : ⟨k, w⟩ ∈ m.entries := by simp [hm]
    rw [mem_entries, h] at hmem
    exact (Option.some.inj hmem).symm
  subst hw
  have herase : (m.erase k).entries = l₁ ++ l₂ := he
  unfold holders
  rw [herase, hm, List.countP_append, List.countP_append, List.countP_cons]
  simp only [decide_eq_true_eq]
  omega

theorem erase_of_none {m : Map ν} {k : String} (h : m.get k = none) :
    m.erase k = m := by
  apply AList.ext
  exact List.kerase_of_notMem_keys (AList.lookup_eq_none.mp h)

theorem holders_insert (m : Map String) (k v v' : String) :
    Map.holders (m.insert k v) v' =
      Map.holders (m.erase k) v' + if v = v' then 1 else 0 := by
  have hentries : (m.insert k v).entries = ⟨k, v⟩ :: (m.erase k).entries := AList.entries_insert
  unfold holders
  rw [hentries, List.countP_cons]
  simp only [decide_eq_true_eq]

theorem holders_eq_zero {m : Map String} {v : String} :
    m.holders v = 0 ↔ ∀ k, m.get k ≠ some v := by
  unfold holders
  rw [List.countP_eq_zero]
  constructor
  · intro h k hk
    exact h _ (mem_entries.mpr hk) (by simp)
  · intro h e he hv
    obtain ⟨k, w⟩ := e
    have hw : w = v := by simpa using hv
    exact h k (hw ▸ mem_entries.mp he)

end Map

end Rosmon.Go
