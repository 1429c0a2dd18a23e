import Rosmon.Go.Float64

namespace Rosmon.Go

/-- An hour in nanoseconds. -/
def hour : ℤ := 3600 * 1000000000

/-- `t.Sub(u)`, which stays in the range of a duration. -/
def timeSub (t u : ℤ) : ℤ := max (-2 ^ 63) (min (2 ^ 63 - 1) (t - u))

/-- The `float64` nearest to a number far from overflow. -/
def rounded (q : ℚ) : ℚ := (toFloat64 q).getD 0

/-- `d.Hours()`. -/
def hours (d : ℤ) : ℚ := rounded (rounded (d.tdiv hour) + rounded (d.tmod hour / hour))

/-- `int(d.Hours() / 24)`. -/
def wholeDays (d : ℤ) : ℤ := int64OfFloat64 (rounded (hours d / 24))

def monthName (month : ℤ) : String := match month with
  | 1 => "Jan" | 2 => "Feb" | 3 => "Mar" | 4 => "Apr" | 5 => "May" | 6 => "Jun"
  | 7 => "Jul" | 8 => "Aug" | 9 => "Sep" | 10 => "Oct" | 11 => "Nov" | _ => "Dec"

/-- Day, month and year of a day counted from the Unix epoch. The years of the
computation start in March, so that a leap day is the last of its year. -/
def civil (days : ℤ) : ℤ × ℤ × ℤ :=
  let z := days + 719468
  let doe := z % 146097
  let yoe := (doe - doe / 1460 + doe / 36524 - doe / 146096) / 365
  let doy := doe - (365 * yoe + yoe / 4 - yoe / 100)
  let mp := (5 * doy + 2) / 153
  let month := if mp < 10 then mp + 3 else mp - 9
  let year := yoe + z / 146097 * 400
  (doy - (153 * mp + 2) / 5 + 1, month, if month ≤ 2 then year + 1 else year)

/-- `t.Format("02 Jan 2006")`, in UTC. -/
def formatDate (t : ℤ) : String :=
  let (d, month, year) := civil (t / (24 * hour))
  (if d < 10 then "0" else "") ++ toString d ++ " " ++ monthName month ++ " " ++ toString year

example : formatDate (19782 * (24 * hour)) = "29 Feb 2024" := by decide

/-- `t.Format("02 Jan 2006 15:04")`, in UTC. -/
def formatDateTime (t : ℤ) : String :=
  let twoDigits (n : ℤ) := (if n < 10 then "0" else "") ++ toString n
  let minutes := t % (24 * hour) / (hour / 60)
  formatDate t ++ " " ++ twoDigits (minutes / 60) ++ ":" ++ twoDigits (minutes % 60)

example : wholeDays (timeSub (5 * 24 * hour) 1) = 4 := by decide +kernel

section Zones

/-- A time zone: by how many seconds its clocks are ahead of UTC, at a time in Unix seconds. -/
structure Zone where
  offset : ℤ → ℤ
  near : ∀ t, -86400 < offset t ∧ offset t < 86400

/-- A zone that keeps its distance from UTC. -/
def Zone.fixed (offset : ℤ) (h : -86400 < offset ∧ offset < 86400) : Zone :=
  ⟨fun _ ↦ offset, fun _ ↦ h⟩

def Zone.utc : Zone := .fixed 0 (by decide)

/-- What the clocks of a zone show at a time in nanoseconds, as if it were a time in UTC. -/
def Zone.clock (zone : Zone) (t : ℤ) : ℤ := t + zone.offset (t / 1000000000) * 1000000000

/-- The calendar date of a zone, in days from the Unix epoch. -/
def Zone.date (zone : Zone) (t : ℤ) : ℤ := zone.clock t / (24 * hour)

/-- No zone is a day ahead. -/
theorem Zone.le_of_lt_date (zone : Zone) {due now : ℤ} (hdate : due % (24 * hour) = 0)
    (h : due < zone.date now * (24 * hour)) : due ≤ now := by
  have hnear := zone.near (now / 1000000000)
  unfold Zone.date Zone.clock at h
  generalize zone.offset (now / 1000000000) = o at h hnear
  simp only [hour] at hdate h
  omega

end Zones

end Rosmon.Go
