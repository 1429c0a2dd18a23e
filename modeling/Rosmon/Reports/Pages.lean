import Rosmon.Library.Paging
import Rosmon.Reports.Transactions
import Rosmon.Rosfmt.Readings

namespace Rosmon.Reports

open Go Library Store Rosfmt

/-- `LIKE`, with a backslash before a letter that stands for itself. -/
def like : List Char → List Char → Bool
  | [], s => s = []
  | '%' :: p, s => s.tails.any (like p)
  | '_' :: p, _ :: s => like p s
  | '\\' :: c :: p, d :: s => c = d && like p s
  | ['\\'], _ => false
  | c :: p, d :: s => c = d && like p s
  | _ :: _, [] => false

/-- The sales as the database holds them. -/
structure SalesTable where
  rows : TransactionTable
  keys : (rows.map (·.id)).Nodup
  size : rows.length < 2 ^ 63

structure SalesFilter where
  deviceID : ℕ
  fromTime : Time
  toTime : Time
  profile : String
  search : String

structure SalesPage where
  rows : List Transaction
  total : ℕ
  revenue : ℤ

section List

-- `lower` of the database.
variable (lower : String → String) (table : SalesTable) (f : SalesFilter)

/-- `ILIKE` -/
def ilike (s pattern : String) : Bool := like (lower pattern).toList (lower s).toList

def SalesFilter.selects (t : Transaction) : Bool :=
  t.deviceID = f.deviceID && f.fromTime ≤ t.createdAt && t.createdAt ≤ f.toTime &&
    (f.profile = "" || t.profile = f.profile) &&
    (f.search = "" || ilike lower t.username ("%" ++ f.search ++ "%"))

def SalesTable.select : List Transaction := table.rows.filter (f.selects lower)

def pageOf (page : ℤ) : ℤ := if page < 1 then 1 else page

def sizeOf (pageSize : ℤ) : ℤ := if pageSize < 1 then 25 else pageSize

def offset (page pageSize : ℤ) : ℤ := wrap64 ((pageOf page - 1) * sizeOf pageSize)

/-- `ListByDateRange`. An offset that is not positive is left out of the query. -/
def listByDateRange (order : Arrangement Transaction) (page pageSize : ℤ) : SalesPage :=
  let selected := table.select lower f
  let total := selected.length
  { rows := (((order.order selected).mergeSort fun a b ↦ b.createdAt ≤ a.createdAt).drop
      (offset page pageSize).toNat).take (sizeOf pageSize).toNat
    total
    revenue := if 0 < total then totalSold selected else 0 }

/-- Any order of the selected rows in which none comes before a newer one is one that the
database may return. -/
theorem sorts_newest (order : Arrangement Transaction) (l : List Transaction) :
    Sorts (fun t : Transaction ↦ -t.createdAt)
      ((order.order l).mergeSort fun a b ↦ b.createdAt ≤ a.createdAt) l := by
  refine ⟨(List.mergeSort_perm _ _).trans (order.perm l), ?_⟩
  have hpairwise := @List.pairwise_mergeSort _
    (fun a b : Transaction ↦ decide (b.createdAt ≤ a.createdAt))
    (fun a b c hab hbc ↦ decide_eq_true ((of_decide_eq_true hbc).trans (of_decide_eq_true hab)))
    (fun a b ↦ by simpa using le_total b.createdAt a.createdAt) (order.order l)
  exact hpairwise.imp fun h ↦ Int.neg_le_neg (of_decide_eq_true h)

open Classical in
theorem exists_order {l L : List Transaction}
    (h : Sorts (fun t : Transaction ↦ -t.createdAt) L l) : ∃ order : Arrangement Transaction,
      (order.order l).mergeSort (fun a b ↦ b.createdAt ≤ a.createdAt) = L := by
  refine ⟨⟨fun l' ↦ if l' = l then L else l', fun l' ↦ ?_⟩, ?_⟩
  · split_ifs with heq
    · exact heq ▸ h.1
    · exact .refl l'
  · dsimp only
    rw [if_pos rfl]
    exact List.mergeSort_of_pairwise (h.2.imp fun hle ↦ decide_eq_true (Int.neg_le_neg_iff.mp hle))

theorem sizeOf_pos (pageSize : ℤ) : 0 < sizeOf pageSize := by
  unfold sizeOf
  split_ifs <;> omega

theorem length_select : (table.select lower f).length < 2 ^ 63 :=
  (List.length_filter_le _ _).trans_lt table.size

theorem nodup_select : (table.select lower f).Nodup :=
  (List.Nodup.of_map _ table.keys).filter _

/-- The offset of a page that is not empty. -/
theorem offset_page {k : ℕ} {pageSize : ℤ}
    (h : k < pageCount (sizeOf pageSize).toNat (table.select lower f).length) :
    (offset ((k : ℤ) + 1) pageSize).toNat = k * (sizeOf pageSize).toNat := by
  have hpos := sizeOf_pos pageSize
  obtain ⟨n, hn⟩ := Int.eq_ofNat_of_zero_le hpos.le
  have hpage : pageOf ((k : ℤ) + 1) = k + 1 := if_neg (by omega)
  rw [hn, Int.toNat_natCast] at h
  have hbefore : k * n < (table.select lower f).length := lt_of_lt_pageCount (by omega) h
  have hfits : fitsInt64 ((k : ℤ) * n) = true := by
    have hlength := length_select lower table f
    have hcast : ((k * n : ℕ) : ℤ) < 2 ^ 63 := by exact_mod_cast hbefore.trans hlength
    rw [Nat.cast_mul] at hcast
    have hnonneg : 0 ≤ (k : ℤ) * n := by positivity
    exact fits_iff.mpr ⟨by omega, hcast⟩
  rw [offset, hpage, hn, add_sub_cancel_right, wrap64_of_fits hfits, Int.toNat_natCast,
    ← Nat.cast_mul, Int.toNat_natCast]

/-- The pages contain each selected row once, each with the figures of all of them, and the offset
of a page is not negative. -/
structure PagesPartition (page pageSize : ℤ) : Prop where
  rows : ∀ orders : ℕ → Arrangement Transaction,
    ((List.range (pageCount (sizeOf pageSize).toNat (table.select lower f).length)).flatMap
      fun k ↦ (listByDateRange lower table f (orders k) (k + 1) pageSize).rows).Perm
        (table.select lower f)
  total : ∀ order, (listByDateRange lower table f order page pageSize).total =
    (table.select lower f).length
  revenue : ∀ order, (listByDateRange lower table f order page pageSize).revenue =
    totalSold (table.select lower f)
  offset : 0 ≤ offset page pageSize

/-- No page ends between rows of one time. -/
def EndsWithTimes (pageSize : ℤ) (rows : List Transaction) : Prop :=
  ∀ j, 0 < j * (sizeOf pageSize).toNat → j * (sizeOf pageSize).toNat < rows.length →
    ∃ t, rows.countP (fun row ↦ t ≤ row.createdAt) = j * (sizeOf pageSize).toNat

theorem pages_iff (pageSize : ℤ) : (∀ orders : ℕ → Arrangement Transaction,
    ((List.range (pageCount (sizeOf pageSize).toNat (table.select lower f).length)).flatMap
      fun k ↦ (listByDateRange lower table f (orders k) (k + 1) pageSize).rows).Perm
        (table.select lower f)) ↔ EndsWithTimes pageSize (table.select lower f) := by
  have hpos := sizeOf_pos pageSize
  have hparted (m : ℕ) : Parted (fun t : Transaction ↦ -t.createdAt) m (table.select lower f) ↔
      ∃ t, (table.select lower f).countP (fun row ↦ t ≤ row.createdAt) = m := by
    constructor
    · rintro ⟨r, hr⟩
      refine ⟨-r, hr ▸ congrArg (List.countP · _) (funext fun row ↦ ?_)⟩
      exact decide_eq_decide.mpr neg_le
    · rintro ⟨t, ht⟩
      refine ⟨-t, ht ▸ congrArg (List.countP · _) (funext fun row ↦ ?_)⟩
      exact decide_eq_decide.mpr neg_le_neg_iff
  unfold EndsWithTimes
  simp only [← hparted]
  rw [← pages_perm_iff (by omega) (nodup_select lower table f)]
  have hpages (orders : ℕ → Arrangement Transaction) :
      (List.range (pageCount (sizeOf pageSize).toNat (table.select lower f).length)).flatMap
        (fun k ↦ (listByDateRange lower table f (orders k) (k + 1) pageSize).rows) =
      (List.range (pageCount (sizeOf pageSize).toNat (table.select lower f).length)).flatMap
        fun k ↦ page (sizeOf pageSize).toNat k (((orders k).order (table.select lower f)).mergeSort
          fun a b ↦ b.createdAt ≤ a.createdAt) := by
    refine List.flatMap_congr fun k hk ↦ ?_
    dsimp only [listByDateRange]
    rw [offset_page lower table f (List.mem_range.mp hk), page]
  simp only [hpages]
  constructor
  · intro h sorted hsorted
    choose orders horders using fun k ↦ exists_order (hsorted k)
    have hperm := h orders
    simp only [horders] at hperm
    exact hperm
  · intro h orders
    exact h _ fun k ↦ sorts_newest (orders k) _

/-- The pages are a partition if and only if no page ends between rows of one time; the offset of a
page is one if the product does not come out negative in 64 bits. -/
theorem pagesPartition_iff (page pageSize : ℤ) : PagesPartition lower table f page pageSize ↔
    EndsWithTimes pageSize (table.select lower f) ∧
      (pageOf page - 1) * sizeOf pageSize % 2 ^ 64 < 2 ^ 63 := by
  have hoffset : 0 ≤ offset page pageSize ↔
      (pageOf page - 1) * sizeOf pageSize % 2 ^ 64 < 2 ^ 63 := by
    have hneg := wrap64_neg_iff ((pageOf page - 1) * sizeOf pageSize)
    rw [offset, ← not_lt, hneg, not_le]
  rw [← pages_iff, ← hoffset]
  constructor
  · intro h
    exact ⟨h.rows, h.offset⟩
  · rintro ⟨hrows, hoffset⟩
    refine ⟨hrows, fun _ ↦ rfl, fun _ ↦ ?_, hoffset⟩
    dsimp only [listByDateRange]
    split_ifs with htotal
    · rfl
    · rw [List.length_eq_zero_iff.mp (Nat.eq_zero_of_not_pos htotal)]
      rfl

end List

/-- A sale of the first device, at the time zero. -/
def soldAtZero (id : ℕ) : Transaction where
  id
  deviceID := 1
  saleDate := ""
  saleTime := ""
  saleMonth := monthText 0
  username := ""
  price := 5
  sellPrice := 5
  ip := ""
  mac := ""
  validity := ""
  profile := ""
  comment := ""
  createdAt := 0
  month_of_time := ⟨0, by decide +kernel, rfl⟩

def twins : SalesTable := ⟨[soldAtZero 1, soldAtZero 2], by decide, by decide⟩

/-- Two sales of one time, on pages of one row: both pages may show the same one. -/
theorem tied_sales_repeat : ¬PagesPartition id twins ⟨1, 0, 1, "", ""⟩ 1 1 ∧
    offset (2 ^ 62 + 1) 2 < 0 := by
  refine ⟨fun h ↦ ?_, by decide +kernel⟩
  have hselect : twins.select id ⟨1, 0, 1, "", ""⟩ = [soldAtZero 1, soldAtZero 2] := rfl
  have hends := (pages_iff id twins ⟨1, 0, 1, "", ""⟩ 1).mp h.rows
  rw [hselect] at hends
  obtain ⟨t, ht⟩ := hends 1 (by decide) (by decide)
  have hsame : (soldAtZero 1).createdAt = (soldAtZero 2).createdAt := rfl
  by_cases htime : t ≤ (soldAtZero 2).createdAt
  · rw [List.countP_cons_of_pos (by simpa [hsame] using htime),
      List.countP_cons_of_pos (by simpa using htime)] at ht
    cases ht
  · rw [List.countP_cons_of_neg (by simpa [hsame] using htime),
      List.countP_cons_of_neg (by simpa using htime)] at ht
    cases ht

end Rosmon.Reports
