import Rosmon.Go.Stamp

namespace Rosmon.Job

open Go

/-- A job that `startDailyJob` runs, and the zone of the server. -/
structure Daily where
  zone : Zone
  targetHour : ℤ
  targetMin : ℤ

namespace Daily

variable (job : Daily)

/-- The time of day of the target. -/
def target : ℤ := job.targetHour * hour + job.targetMin * (hour / 60)

/-- The target on the date that the clock shows. -/
def due (now : ℤ) : ℤ :=
  let clock := job.zone.clock now
  job.zone.resolve (date (year clock) (month clock) (dayOfMonth clock) + job.target)

def next (now : ℤ) : ℤ :=
  let next := job.due now
  if now < next then next else next + 24 * hour

/-- The timer fires at the time it was set to or later, and at once if that has passed. -/
def start (now late : ℤ) : ℤ := max (job.next now) now + late

end Daily

/-- How late each timer fires and how long the job that it starts takes. -/
structure Timing where
  late : ℕ → ℤ
  duration : ℕ → ℤ
  late_bounds : ∀ k, 0 ≤ late k ∧ late k < hour
  duration_bounds : ∀ k, 0 ≤ duration k ∧ duration k < 22 * hour

namespace Daily

variable (job : Daily) (timing : Timing) (now : ℤ)

/-- What `time.Now()` returns in each pass of the loop, of which the first is at `now`. -/
def pass : ℕ → ℤ
  | 0 => now
  | k + 1 => job.start (pass k) (timing.late k) + timing.duration k

def starts (k : ℕ) : ℤ := job.start (job.pass timing now k) (timing.late k)

/-- The job is started once on each date after that of the first pass. -/
def OnceADay : Prop :=
  ∀ day, job.zone.date now < day → ∃! k, job.zone.date (job.starts timing now k) = day

/-- The last date for which the job has been started. Where it is too late for the target of the
first date, that one counts. -/
def last : ℕ → ℤ
  | 0 => if now < job.due now then job.zone.date now - 1 else job.zone.date now
  | k + 1 => job.zone.date (job.starts timing now k)

/-- The time of day at which the job is started, counted on from the target: the time that passes,
and what the clocks are put forward in the meantime. -/
def timeOfDay (late : ℤ) : ℤ :=
  let start := job.start now late
  let clock := job.zone.date now * (24 * hour) + job.target
  job.target + (start - job.next now) +
    ((job.zone.clock start - start) - (clock - job.zone.resolve clock))

/-- A pass finds the target of its date ahead just if the job is still to be started on that date,
and the start that it waits for is not carried over midnight. -/
structure Sound (last now late : ℤ) : Prop where
  date : job.zone.date now = last ∨ job.zone.date now = last + 1
  turn : now < job.due now ↔ job.zone.date now ≠ last
  midnight : 0 ≤ job.timeOfDay now late ∧ job.timeOfDay now late < 24 * hour

end Daily

section Runs

variable {job : Daily} {timing : Timing} {now t late last : ℤ} {k : ℕ}

/-- The midnight of the date of a time. -/
theorem date_civil (t : ℤ) : date (year t) (month t) (dayOfMonth t) = t / (24 * hour) * (24 * hour) := by
  obtain ⟨m, d, c, hd, hc, ht⟩ := exists_midnight t
  obtain ⟨hyear, hmonth, hday⟩ := civil_midnight hd hc ht
  have hmonths : 12 * (m / 12) + (m % 12 + 1) - 1 = m := by omega
  rw [date, hyear, hmonth, hday, hmonths, (dayNumber_eq hc ht).1, midnight]
  ring

theorem Daily.due_eq (job : Daily) (now : ℤ) :
    job.due now = job.zone.resolve (job.zone.date now * (24 * hour) + job.target) := by
  simp only [due, date_civil]
  rfl

/-- Such a pass starts the job on the next date. -/
theorem Daily.Sound.start (h : job.Sound last now late) :
    job.zone.date (job.start now late) = last + 1 := by
  obtain ⟨hdate, hturn, hlow, hhigh⟩ := h
  have hnext : job.next now = if now < job.due now then job.due now else job.due now + 24 * hour :=
    rfl
  rw [timeOfDay, ← job.due_eq] at hlow hhigh
  have hclock : job.zone.date (job.start now late) =
      job.zone.clock (job.start now late) / (24 * hour) := rfl
  rw [hclock]
  generalize job.zone.clock (job.start now late) = clock at *
  generalize job.start now late = start at *
  rw [hnext] at hlow hhigh
  unfold hour at *
  split_ifs at hlow hhigh with hahead
  · have hlast := hturn.mp hahead
    omega
  · have hlast := not_not.mp (mt hturn.mpr hahead)
    omega

theorem Daily.last_eq (h : ∀ k, job.Sound (job.last timing now k) (job.pass timing now k)
    (timing.late k)) (k : ℕ) : job.last timing now k = job.last timing now 0 + k := by
  induction k with
  | zero => omega
  | succ k ih =>
    have hstart : job.last timing now (k + 1) = job.last timing now k + 1 := (h k).start
    rw [hstart, ih]
    omega

end Runs

section Clocks

section Fixed

variable {job : Daily} {timing : Timing} {now offset : ℤ}
  {hoffset : -86400 < offset ∧ offset < 86400} (hzone : job.zone = .fixed offset hoffset)
include hzone

theorem date_fixed (t : ℤ) : job.zone.date t = (t + offset * 1000000000) / (24 * hour) := by
  rw [hzone]
  rfl

theorem due_fixed (t : ℤ) :
    job.due t = job.zone.date t * (24 * hour) + job.target - offset * 1000000000 := by
  rw [job.due_eq, hzone]
  rfl

/-- The job is started as long after midnight as the target and the lateness say. -/
theorem timeOfDay_fixed (htarget : 0 ≤ job.target) (now late : ℤ) :
    job.start now late = job.next now + late ∧ job.timeOfDay now late = job.target + late := by
  have hnext : job.next now = if now < job.due now then job.due now else job.due now + 24 * hour :=
    rfl
  have hdate := date_fixed hzone now
  have hdue := due_fixed hzone now
  have hlater : now < job.next now := by
    rw [hnext]
    split_ifs with hahead
    · exact hahead
    · unfold hour at *
      omega
  have hstart : job.start now late = job.next now + late := by
    rw [Daily.start, max_eq_left hlater.le]
  have hclock : job.zone.clock (job.start now late) - job.start now late = offset * 1000000000 := by
    simp only [hzone, Zone.clock, Zone.fixed]
    omega
  have hresolve : ∀ clock, clock - job.zone.resolve clock = offset * 1000000000 := by
    intro clock
    simp only [hzone, Zone.resolve, Zone.fixed]
    omega
  refine ⟨hstart, ?_⟩
  rw [Daily.timeOfDay, hclock, hresolve, hstart]
  omega

/-- Where the clocks are never changed and the target is not in the last hour of the day, all
passes are sound. -/
theorem sound_fixed (htarget : 0 ≤ job.target ∧ job.target ≤ 23 * hour) (k : ℕ) :
    job.Sound (job.last timing now k) (job.pass timing now k) (timing.late k) := by
  have hmidnight : ∀ k t, 0 ≤ job.timeOfDay t (timing.late k) ∧
      job.timeOfDay t (timing.late k) < 24 * hour := by
    intro k t
    have hlate := timing.late_bounds k
    rw [(timeOfDay_fixed hzone htarget.1 t (timing.late k)).2]
    omega
  cases k with
  | zero =>
    have hlast : job.last timing now 0 =
        if now < job.due now then job.zone.date now - 1 else job.zone.date now := rfl
    refine ⟨?_, ?_, hmidnight 0 _⟩ <;> rw [hlast, Daily.pass] <;> split_ifs with hahead
    · omega
    · omega
    · exact iff_of_true hahead (by omega)
    · exact iff_of_false hahead (by omega)
  | succ k =>
    have hlate := timing.late_bounds k
    have hduration := timing.duration_bounds k
    have hstart := (timeOfDay_fixed hzone htarget.1 (job.pass timing now k) (timing.late k)).1
    obtain ⟨day, hday⟩ : ∃ day : ℤ,
        job.next (job.pass timing now k) = day * (24 * hour) + job.target - offset * 1000000000 := by
      rw [Daily.next, due_fixed hzone]
      split_ifs
      · exact ⟨_, rfl⟩
      · exact ⟨job.zone.date (job.pass timing now k) + 1, by ring⟩
    have hpass : job.pass timing now (k + 1) =
        job.start (job.pass timing now k) (timing.late k) + timing.duration k := rfl
    have hlast : job.last timing now (k + 1) =
        job.zone.date (job.start (job.pass timing now k) (timing.late k)) := rfl
    rw [date_fixed hzone] at hlast
    have hdate := date_fixed hzone (job.pass timing now (k + 1))
    have hdue := due_fixed hzone (job.pass timing now (k + 1))
    refine ⟨?_, ?_, hmidnight (k + 1) _⟩
    · unfold hour at *
      omega
    · unfold hour at *
      constructor <;> intro h <;> omega

end Fixed

/-- Timers that are on time, and a job that takes no time. -/
def prompt : Timing := ⟨fun _ ↦ 0, fun _ ↦ 0, fun _ ↦ by decide, fun _ ↦ by decide⟩

/-- A job of seven o'clock in a zone whose clocks are put back by an hour early on the tenth day. -/
def fallBack : Daily where
  zone := {
    offset t := if t < 10 * 86400 + 3600 then 7200 else 3600
    near t := by
      split_ifs <;> omega }
  targetHour := 7
  targetMin := 0

end Clocks

end Rosmon.Job
