import Mathlib.Data.Prod.Lex
import Mathlib.Data.String.Basic
import Rosmon.Go.Calendar
import Rosmon.Go.Map
import Rosmon.Handler.Handlers
import Rosmon.Library.Listing
import Rosmon.Service.Billing

namespace Rosmon.Reports

open Go Library Store Service Program Handler

section Dates

def shortMonths : List String :=
  ["jan", "feb", "mar", "apr", "may", "jun", "jul", "aug", "sep", "oct", "nov", "dec"]

/-- `Jan` of a time, in lower case. -/
def monthName (t : Time) : String := shortMonths.getD (month t - 1).toNat ""

/-- `2006` of a time. -/
def yearText (t : Time) : String :=
  (if year t < 0 then "-" else "") ++ zeroPad 4 (year t).natAbs

/-- `Jan2006` of a time, in lower case. -/
def monthText (t : Time) : String := monthName t ++ yearText t

/-- `Jan/02/2006` of a time, in lower case. -/
def dateText (t : Time) : String :=
  monthName t ++ "/" ++ zeroPad 2 (dayOfMonth t) ++ "/" ++ yearText t

def saleMonthKey (year month : ℤ) : String := monthText (date year month 1)

/-- The number of a month, from its name in any case. -/
def monthOfName (name : String) : Option ℤ :=
  (shortMonths.findIdx? (· = toLower name)).map fun i ↦ i + 1

def saleMonthToInt (s : String) : ℤ := (monthOfName (String.ofList (s.toList.take 3))).getD 0

/-- `strings.SplitN(s, "/", 3)`, if there are three parts. -/
def dateParts (s : String) : Option (List Char × List Char × List Char) :=
  match s.toList.span (· ≠ '/') with
  | (month, _ :: rest) =>
    match rest.span (· ≠ '/') with
    | (day, _ :: year) => some (month, day, year)
    | _ => none
  | _ => none

/-- `strings.Title` of a letter, as far as it may become one of a month. -/
def titleRune (c : Char) : Char := if c.toNat = 0x17F then 'S' else c

def saleDateToISO (saleDate : String) : String :=
  match dateParts saleDate with
  | none => saleDate
  | some (name, day, year) =>
    match monthOfName (String.ofList (name.modifyHead titleRune)) with
    | none => saleDate
    | some m =>
      if day.length = 2 ∧ day.all isDigit ∧ year.length = 4 ∧ year.all isDigit ∧
          1 ≤ decimal day ∧ decimal day ≤ Calendar.monthLength (12 * decimal year + m - 1) then
        String.ofList year ++ "-" ++ zeroPad 2 m ++ "-" ++ String.ofList day
      else saleDate

example : saleDateToISO "jun/04/2026" = "2026-06-04" ∧
    saleDateToISO "feb/30/2026" = "feb/30/2026" := by decide +kernel

end Dates

section Rows

/-- A sale. The month of a row is that of some time, when it was sold or recorded. -/
structure Transaction where
  id : ℕ
  deviceID : ℕ
  saleDate : String
  saleTime : String
  saleMonth : String
  username : String
  price : ℤ
  sellPrice : ℤ
  ip : String
  mac : String
  validity : String
  profile : String
  comment : String
  createdAt : Time
  month_of_time : ∃ t : Time, (0 ≤ year t ∧ year t ≤ 9999) ∧ saleMonth = monthText t

/-- The sales of all devices. -/
abbrev TransactionTable := List Transaction

def defaultTransactionLimit : ℕ := 500

namespace TransactionTable

variable (order : Arrangement Transaction) (table : TransactionTable) (deviceID : ℕ)

/-- The newest rows that a condition selects. -/
def newest (p : Transaction → Bool) : List Transaction :=
  ((order.order (table.filter p)).mergeSort fun a b ↦ b.createdAt ≤ a.createdAt).take
    defaultTransactionLimit

def listByDevice (month : String) : List Transaction :=
  newest order table fun t ↦ t.deviceID = deviceID && (month = "" || t.saleMonth = month)

def listByDeviceDate (date : String) : List Transaction :=
  newest order table fun t ↦ t.deviceID = deviceID && t.saleDate = date

/-- `LIKE '%year'`. -/
def endsIn (year : ℤ) (t : Transaction) : Bool :=
  (toString year).toList.isSuffixOf t.saleMonth.toList

/-- `sale_month asc, created_at asc`. -/
def byMonth (a b : Transaction) : Bool :=
  toLex (a.saleMonth, a.createdAt) ≤ toLex (b.saleMonth, b.createdAt)

def listByDeviceYear (year : ℤ) : List Transaction :=
  ((order.order (table.filter fun t ↦ t.deviceID = deviceID && endsIn year t)).mergeSort
    byMonth).take (defaultTransactionLimit * 12)

end TransactionTable

end Rows

section Calls

/-- What the outside contributes to a call: the error it fails with, the time, the order of rows
that the sort leaves open. -/
structure Env where
  fault : Option Error
  now : Time
  order : Arrangement Transaction

inductive Call
  | now
  | listByDevice (deviceID : ℕ) (month : String)
  | listByDeviceDate (deviceID : ℕ) (date : String)
  | listByDeviceYear (deviceID : ℕ) (year : ℤ)

abbrev Call.Reply : Call → Type
  | .now => Time
  | .listByDevice .. | .listByDeviceDate .. | .listByDeviceYear .. =>
    Except Error (List Transaction)

abbrev Prog (α : Type) := Program Call Call.Reply α

abbrev perform (c : Call) : Prog c.Reply := Program.perform c

def orFault (e : Env) (txs : List Transaction) : Except Error (List Transaction) :=
  match e.fault with
  | some err => .error err
  | none => .ok txs

/-- Reports change nothing. -/
def Call.exec : (c : Call) → Env → TransactionTable → c.Reply × TransactionTable
  | .now, e, table => (e.now, table)
  | .listByDevice deviceID month, e, table =>
    (orFault e (table.listByDevice e.order deviceID month), table)
  | .listByDeviceDate deviceID date, e, table =>
    (orFault e (table.listByDeviceDate e.order deviceID date), table)
  | .listByDeviceYear deviceID year, e, table =>
    (orFault e (table.listByDeviceYear e.order deviceID year), table)

end Calls

section Responses

structure MonthlyReportResponse where
  year : ℤ
  month : ℤ
  daily : List (String × Figures)
  total : ℤ
  count : ℕ

structure ResumeReportResponse where
  year : ℤ
  monthly : List (ℤ × Figures)
  total : ℤ
  count : ℕ

structure VoucherDashboardSummary where
  todayCount : ℕ
  todaySum : ℤ
  monthCount : ℕ
  monthSum : ℤ

structure ReportSummary where
  count : ℕ
  totalPrice : ℤ
  totalSellPrice : ℤ
  profit : ℤ
  byProfile : Option (Map ℕ)
  transactions : List Transaction

def totalSold (txs : List Transaction) : ℤ := (txs.map (·.sellPrice)).sum

/-- The rows of a report, in the order of what they are about. -/
def rowsBy {κ : Type} [LinearOrder κ] (key : Transaction → κ) (txs : List Transaction) :
    List (κ × Figures) :=
  (tally key (·.sellPrice) txs).mergeSort fun a b ↦ a.1 ≤ b.1

def countProfile (byProfile : Map ℕ) (t : Transaction) : Map ℕ :=
  if t.profile = "" then byProfile else byProfile.insert t.profile (byProfile.number t.profile + 1)

def aggregate (txs : List Transaction) : ReportSummary :=
  let totalPrice := (txs.map (·.price)).sum
  let byProfile := txs.foldl countProfile ∅
  { count := txs.length
    totalPrice
    totalSellPrice := totalSold txs
    profit := totalSold txs - totalPrice
    byProfile := if byProfile.entries = [] then none else some byProfile
    transactions := [] }

end Responses

section Handlers

variable (deviceID : ℕ)

/-- A number of the query, which is zero if it is left out. -/
def orNow (v : ℤ) (field : Time → ℤ) : Prog ℤ :=
  if v = 0 then field <$> perform .now else pure v

/-- `Report.Monthly`, of the numbers that the query stands for. -/
def monthly (year month : ℤ) : Prog (Response MonthlyReportResponse) := do
  let year ← orNow year Go.year
  let month ← orNow month Go.month
  match ← perform (.listByDevice deviceID (saleMonthKey year month)) with
  | .error err => return writeErr err
  | .ok txs =>
    let daily := rowsBy (fun t ↦ saleDateToISO t.saleDate) txs
    return .success 200 ⟨year, month, daily, totalSold txs, txs.length⟩

/-- `Report.Resume`. -/
def resume (year : ℤ) : Prog (Response ResumeReportResponse) := do
  let year ← orNow year Go.year
  match ← perform (.listByDeviceYear deviceID year) with
  | .error err => return writeErr err
  | .ok txs =>
    let monthly := rowsBy (fun t ↦ saleMonthToInt t.saleMonth) txs
    return .success 200 ⟨year, monthly, totalSold txs, txs.length⟩

/-- `Report.Summary`. -/
def summary : Prog (Response VoucherDashboardSummary) := do
  let now ← perform .now
  match ← perform (.listByDeviceDate deviceID (dateText now)) with
  | .error err => return writeErr err
  | .ok todayTxs =>
    match ← perform (.listByDevice deviceID (monthText now)) with
    | .error err => return writeErr err
    | .ok monthTxs =>
      return .success 200
        ⟨todayTxs.length, totalSold todayTxs, monthTxs.length, totalSold monthTxs⟩

/-- `Report.SellingSummary`. -/
def sellingSummary (month : String) (includeTx : Bool) : Prog (Response ReportSummary) := do
  match ← perform (.listByDevice deviceID (toLower month)) with
  | .error err => return writeErr err
  | .ok txs =>
    let summary := aggregate txs
    return .success 200 { summary with transactions := if includeTx then txs else [] }

end Handlers

end Rosmon.Reports
