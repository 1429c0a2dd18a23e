import Rosmon.Library.Separated
import Rosmon.Store.Errors

namespace Rosmon.Scripts

open Go Library Store

structure TransactionRecord where
  date : String
  time : String
  user : String
  price : String
  ip : String
  mac : String
  validity : String
  profile : String
  comment : String
  owner : String
  source : String
  deriving DecidableEq

def separator : String := "-|-"

def errFieldCount : Error := .new "transaction: name does not have 9 fields"

def format (rec : TransactionRecord) : String :=
  separator.intercalate [rec.date, rec.time, rec.user, rec.price, rec.ip, rec.mac, rec.validity,
    rec.profile, rec.comment]

def parse (name : String) : Except Error TransactionRecord :=
  match (split separator.toList name.toList).map String.ofList with
  | [date, time, user, price, ip, mac, validity, profile, comment] =>
    .ok { date, time, user, price, ip, mac, validity, profile, comment, owner := "", source := "" }
  | _ => .error errFieldCount

theorem separator_ne_nil : separator.toList ≠ [] := by decide

/-- Of the starts of the separator, `-|` alone is completed to it by the separator. -/
theorem closes_separator {field : List Char} :
    Closes separator.toList field ↔ ¬separator.toList <:+: field ∧ ¬['-', '|'] <:+ field := by
  have hstarts : separator.toList.inits = [[], ['-'], ['-', '|'], ['-', '|', '-']] := by decide
  have hone : ¬['|', '-'] <+: separator.toList := by decide
  have htwo : ['-'] <+: separator.toList := by decide
  rw [closes_iff separator_ne_nil, hstarts]
  constructor
  · intro ⟨hinside, hends⟩
    exact ⟨hinside, hends _ (by simp) (by simp) htwo⟩
  · intro ⟨hinside, hend⟩
    refine ⟨hinside, fun t ht hne hdrop ↦ ?_⟩
    simp only [List.mem_cons, List.not_mem_nil, or_false] at ht
    obtain rfl | rfl | rfl | rfl := ht
    · exact absurd rfl hne
    · exact absurd hdrop hone
    · exact hend
    · exact fun h ↦ hinside h.isInfix

/-- The fields that a separator follows in the name. -/
def TransactionRecord.leading (rec : TransactionRecord) : List String :=
  [rec.date, rec.time, rec.user, rec.price, rec.ip, rec.mac, rec.validity, rec.profile]

/-- The fields that make up the name. -/
def TransactionRecord.named (rec : TransactionRecord) : List String := rec.leading ++ [rec.comment]

theorem parse_eq_ok {name : String} {rec : TransactionRecord} :
    parse name = .ok rec ↔ rec.owner = "" ∧ rec.source = "" ∧
      split separator.toList name.toList = rec.named.map String.toList := by
  constructor
  · intro h
    unfold parse at h
    split at h
    next parts =>
      cases h
      refine ⟨rfl, rfl, ?_⟩
      have hlist := congrArg (List.map String.toList) parts
      simpa [Function.comp_def, TransactionRecord.named, TransactionRecord.leading] using hlist
    · cases h
  · rintro ⟨howner, hsource, hsplit⟩
    have hparts : (split separator.toList name.toList).map String.ofList = rec.named := by
      simp [hsplit, Function.comp_def]
    obtain ⟨date, time, user, price, ip, mac, validity, profile, comment, owner, source⟩ := rec
    obtain rfl := howner
    obtain rfl := hsource
    simp only [parse, hparts, TransactionRecord.named, TransactionRecord.leading,
      List.cons_append, List.nil_append]

theorem format_toList (rec : TransactionRecord) :
    (format rec).toList = separator.toList.intercalate (rec.named.map String.toList) :=
  String.toList_intercalate

/-- What is read from a name has that name. -/
theorem format_of_parse {name : String} {rec : TransactionRecord} (h : parse name = .ok rec) :
    format rec = name := by
  obtain ⟨-, -, hsplit⟩ := parse_eq_ok.mp h
  rw [← String.toList_inj, format_toList, ← hsplit, join_split separator_ne_nil]

theorem named_inj {r rec : TransactionRecord}
    (h : r.named.map String.toList = rec.named.map String.toList) : r.named = rec.named :=
  List.map_injective_iff.mpr (fun _ _ ↦ String.toList_inj.mp) h

/-- The fields of a record are found in its name just if they are the parts of the name. -/
theorem read_back_iff (rec : TransactionRecord) :
    (∃ r, parse (format rec) = .ok r ∧ r.named = rec.named) ↔
      split separator.toList (format rec).toList = rec.named.map String.toList := by
  constructor
  · rintro ⟨r, hparse, hnamed⟩
    rw [← hnamed]
    exact (parse_eq_ok.mp hparse).2.2
  · intro hsplit
    exact ⟨{ rec with owner := "", source := "" }, parse_eq_ok.mpr ⟨rfl, rfl, hsplit⟩, rfl⟩

/-- A record whose fields are free of the separator is read back from its name just if no field
but the comment ends in the start of a separator; and what is read always has the name it is read
from. -/
theorem name_round_trip_iff (rec : TransactionRecord)
    (hfree : ∀ field ∈ rec.named, contains field separator = false) :
    ((∃ r, parse (format rec) = .ok r ∧ r.named = rec.named) ↔
      ∀ field ∈ rec.leading, ¬['-', '|'] <:+ field.toList) ∧
    ∀ name r, parse name = .ok r → format r = name := by
  have hfree' : ∀ field ∈ rec.named, ¬separator.toList <:+: field.toList := by
    intro field hfield hin
    have := hfree field hfield
    rw [contains_iff.mpr hin] at this
    cases this
  have hleading : ∀ field ∈ rec.leading, Closes separator.toList field.toList ↔
      ¬['-', '|'] <:+ field.toList := by
    intro field hfield
    rw [closes_separator]
    exact and_iff_right (hfree' field (List.mem_append_left _ hfield))
  refine ⟨?_, fun name r h ↦ format_of_parse h⟩
  rw [read_back_iff, format_toList, TransactionRecord.named, List.map_append, List.map_singleton,
    split_join_iff separator_ne_nil, List.forall_mem_map]
  rw [and_iff_left (hfree' rec.comment (List.mem_append_right _ (List.mem_singleton_self _)))]
  exact forall₂_congr hleading

def cashSale : TransactionRecord where
  date := "jan/05/2025"
  time := "14:32:01"
  user := "user001"
  price := "5000"
  ip := "192.168.88.10"
  mac := "AA:BB:CC:DD:EE:FF"
  validity := "1d"
  profile := "1day"
  comment := "kasir-andi"
  owner := ""
  source := ""

theorem cash_sale_round_trip :
    ∃ r, parse (format cashSale) = .ok r ∧ r.named = cashSale.named := by
  obtain ⟨readBack, -⟩ := name_round_trip_iff cashSale (by decide)
  exact readBack.mpr (by decide)

/-- A user whose name ends in `-|` loses it to the price. -/
def oddUser : TransactionRecord := { cashSale with user := "x-|" }

theorem field_shifted : (∀ field ∈ oddUser.named, contains field separator = false) ∧
    parse (format oddUser) = .ok { oddUser with user := "x", price := "|-5000" } ∧
    ¬∃ r, parse (format oddUser) = .ok r ∧ r.named = oddUser.named := by
  have hparse : parse (format oddUser) = .ok { oddUser with user := "x", price := "|-5000" } := by
    refine parse_eq_ok.mpr ⟨rfl, rfl, ?_⟩
    rw [format_toList]
    decide
  refine ⟨by decide, hparse, ?_⟩
  rintro ⟨r, hr, hnamed⟩
  rw [hparse] at hr
  cases hr
  exact absurd hnamed (by decide)

end Rosmon.Scripts
