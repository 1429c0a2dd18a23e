import Mathlib.Algebra.Order.BigOperators.Group.List
import Rosmon.Go.Itoa
import Rosmon.Library.Separated
import Rosmon.Store.Errors

namespace Rosmon.QuickPrint

open Go Library Store

structure Config where
  name : String
  server : String
  userMode : String
  length : Int64
  usernamePrefix : String
  charset : String
  profile : String
  timeLimit : String
  dataLimit : Int64
  comment : String
  validity : String
  price : Int64
  sellPrice : Int64
  lockMAC : Bool
  deriving DecidableEq

def errFieldCount : Error := .new "quickprint: source does not have 13 fields"

def number (n : Int64) : String := String.ofList (itoa n.toInt)

def lockToken (b : Bool) : String := if b then "Enable" else "Disable"

/-- The parts of the source; the first is empty, so that a separator comes first. -/
def Config.parts (c : Config) : List String :=
  ["", c.name, c.server, c.userMode, number c.length, c.usernamePrefix, c.charset, c.profile,
    c.timeLimit, number c.dataLimit, c.comment, c.validity,
    number c.price ++ "_" ++ number c.sellPrice, lockToken c.lockMAC]

def format (c : Config) : String := "#".intercalate c.parts

/-- `atoiOr` and `atoi64Or`. -/
def atoiOr (s : String) (dflt : Int64) : Int64 := ((atoi s).map Int64.ofInt).getD dflt

/-- The prices of one field; a source of an older format has no second price. -/
def parsePrices (field : String) : Int64 × Int64 :=
  match (splitN ['_'] 1 field.toList).map String.ofList with
  | [price, sellPrice] => (atoiOr price 0, atoiOr sellPrice 0)
  | _ => (atoiOr field 0, 0)

def parse (src : String) : Except Error Config :=
  match (split ['#'] src.toList).map String.ofList with
  | [_, name, server, userMode, length, usernamePrefix, charset, profile, timeLimit, dataLimit,
      comment, validity, prices, lock] =>
    .ok
      { name, server, userMode
        length := atoiOr length 0
        usernamePrefix, charset, profile, timeLimit
        dataLimit := atoiOr dataLimit 0
        comment, validity
        price := (parsePrices prices).1
        sellPrice := (parsePrices prices).2
        lockMAC := lock = "Enable" }
  | _ => .error errFieldCount

/-- The text fields. -/
def Config.texts (c : Config) : List String :=
  [c.name, c.server, c.userMode, c.usernamePrefix, c.charset, c.profile, c.timeLimit, c.comment,
    c.validity]

theorem atoiOr_number (n dflt : Int64) : atoiOr (number n) dflt = n := by
  have hfits : fitsInt64 n.toInt = true := by
    have hlow := n.le_toInt
    have hhigh := n.toInt_lt
    simp only [fitsInt64, Bool.and_eq_true, decide_eq_true_eq]
    omega
  rw [atoiOr, number, atoi_itoa hfits, Option.map_some, Option.getD_some, Int64.ofInt_toInt]

theorem notMem_number (n : Int64) {c : Char} (hc : c.isDigit = false) (hminus : c ≠ '-') :
    c ∉ (number n).toList := by
  intro h
  rw [number, String.toList_ofList] at h
  obtain rfl | hdigit := mem_itoa h
  · exact hminus rfl
  · rw [hc] at hdigit
    cases hdigit

theorem parsePrices_number (price sellPrice : Int64) :
    parsePrices (number price ++ "_" ++ number sellPrice) = (price, sellPrice) := by
  have hfree : '_' ∉ (number price).toList := notMem_number price rfl (by decide)
  have hcut : cut ['_'] (number price ++ "_" ++ number sellPrice).toList =
      some ((number price).toList, (number sellPrice).toList) := by
    rw [String.toList_append, String.toList_append]
    exact (cut_append (List.cons_ne_nil _ _)).mpr (closes_singleton.mpr hfree)
  simp only [parsePrices, splitN, hcut, List.map_cons, List.map_nil, String.ofList_toList,
    atoiOr_number]

theorem lockToken_iff (b : Bool) : decide (lockToken b = "Enable") = b := by
  cases b <;> rfl

theorem notMem_lockToken (b : Bool) : '#' ∉ (lockToken b).toList := by
  cases b <;> decide

theorem format_toList (c : Config) :
    (format c).toList = ['#'].intercalate (c.parts.map String.toList) :=
  String.toList_intercalate

theorem parts_free_iff (c : Config) :
    (∀ part ∈ c.parts.map String.toList, '#' ∉ part) ↔ ∀ field ∈ c.texts, '#' ∉ field.toList := by
  have hnumber (n : Int64) : '#' ∉ (number n).toList := notMem_number n rfl (by decide)
  have hprices : '#' ∉ (number c.price ++ "_" ++ number c.sellPrice).toList := by
    simp [String.toList_append, hnumber]
  have hempty : '#' ∉ "".toList := by decide
  simp only [Config.parts, Config.texts, List.forall_mem_map, List.forall_mem_cons, hnumber,
    hprices, hempty, notMem_lockToken, not_false_eq_true, true_and]

/-- A configuration is read back from its source, and one with a separator in a text is not read
at all. -/
theorem parse_format (c : Config) :
    parse (format c) =
      if ∀ field ∈ c.texts, '#' ∉ field.toList then .ok c else .error errFieldCount := by
  have hne : c.parts.map String.toList ≠ [] := by simp [Config.parts]
  split_ifs with hfree
  · have hsplit : (split ['#'] (format c).toList).map String.ofList = c.parts := by
      rw [format_toList, split_join_of_free hne ((parts_free_iff c).mpr hfree), List.map_map]
      simp [Function.comp_def]
    simp only [parse, hsplit, Config.parts, atoiOr_number, parsePrices_number, lockToken_iff]
  · have hlength : 14 < ((split ['#'] (format c).toList).map String.ofList).length := by
      rw [← parts_free_iff] at hfree
      obtain ⟨part, hpart, hmem⟩ : ∃ part ∈ c.parts.map String.toList, '#' ∈ part := by
        simpa only [not_forall, not_not, exists_prop] using hfree
      have hcount : 0 < part.count '#' := List.count_pos_iff.mpr hmem
      have hle : part.count '#' ≤ ((c.parts.map String.toList).map (·.count '#')).sum :=
        List.single_le_sum (fun _ _ ↦ Nat.zero_le _) _ (List.mem_map_of_mem hpart)
      rw [List.length_map, format_toList, length_split_join hne, List.length_map]
      simp only [Config.parts, List.length_cons, List.length_nil]
      simp only [Config.parts] at hle
      omega
    unfold parse
    split
    next heq =>
      rw [heq] at hlength
      simp at hlength
    · rfl

end Rosmon.QuickPrint
