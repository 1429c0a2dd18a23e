import Rosmon.Billing.Installation
import Rosmon.Library.Run

namespace Rosmon.Billing

open Go Library Library.Calendar Store Program Service Job Handler

/-- The dates that follow one another from the day of the installation on. -/
def startDate (today : Time) (billingDay : ℤ) : ℕ → Time
  | 0 => today
  | j + 1 => nextInvoiceDate (startDate today billingDay j) billingDay

/-- A run of the cron, and the day on which it takes place. -/
def cronDay (s : Time × World) (env : ℕ → Env) : Time × World :=
  (Time.truncateDay (env 0).now, (billingRun.run Call.exec env s.2).2)

/-- The cron runs on the day of the run before or on the next one, and the subscription, if
its date has come, can be billed. -/
def RunsDaily (id : ℕ) (s : Time × World) (env : ℕ → Env) : Prop :=
  (Time.truncateDay (env 0).now = s.1 ∨ Time.truncateDay (env 0).now = s.1 + day) ∧
    ∀ sub ∈ s.2.row id, sub.nextInvoiceDate = some (Time.truncateDay (env 0).now) →
      s.2.Chargeable sub (Time.truncateDay (env 0).now)

instance (id : ℕ) (s : Time × World) (env : ℕ → Env) : Decidable (RunsDaily id s env) :=
  inferInstanceAs (Decidable (_ ∧ ∀ sub ∈ s.2.row id, _))

section Dates

variable {today : Time} (billingDay : ℤ)

theorem startDate_whole (hwhole : Time.truncateDay today = today) (j : ℕ) :
    Time.truncateDay (startDate today billingDay j) = startDate today billingDay j := by
  cases j with
  | zero => exact hwhole
  | succ j => exact truncateDay_nextInvoiceDate _ _

theorem startDate_strictMono (hwhole : Time.truncateDay today = today) :
    StrictMono (startDate today billingDay) := by
  refine strictMono_nat_of_lt_succ fun j ↦ ?_
  have hlater := lt_nextInvoiceDate (startDate today billingDay j) billingDay
  rwa [startDate_whole billingDay hwhole] at hlater

/-- From the second date on, each is the billing day of another month. -/
theorem startDate_succ {m d : ℤ} (hd : 1 ≤ d ∧ d ≤ monthLength m) (htoday : today = midnight m d)
    (j : ℕ) : startDate today billingDay (j + 1) =
      midnight (monthAfter m d + j) (clampBillingDay billingDay) := by
  induction j with
  | zero =>
    rw [← add_zero (midnight m d)] at htoday
    rw [startDate, startDate, nextInvoiceDate_midnight hd zero_bounds htoday, Nat.cast_zero,
      add_zero]
  | succ j ih =>
    have hday := clampBillingDay_le billingDay (monthAfter m d + j)
    rw [← add_zero (midnight _ _)] at ih
    rw [startDate, nextInvoiceDate_midnight hday zero_bounds ih, monthAfter_clampBillingDay,
      Nat.cast_succ, add_assoc]

/-- The day of the installation is a midnight. -/
theorem exists_first (hwhole : Time.truncateDay today = today) :
    ∃ m d, (1 ≤ d ∧ d ≤ monthLength m) ∧ today = midnight m d ∧ monthOf today = m ∧
      dayOfMonth today = d := by
  obtain ⟨m, d, c, hd, hc, ht⟩ := exists_midnight today
  have hmidnight := truncateDay_midnight hc ht
  rw [hwhole] at hmidnight
  obtain ⟨-, -, hday⟩ := civil_midnight hd hc ht
  exact ⟨m, d, hd, hmidnight, monthOf_midnight hd hc ht, hday⟩

end Dates

/-- The subscription has been billed for each date up to the last day, and for no other. -/
structure Billed (w : World) (sub : Subscription) (today : Time) (k : ℕ) (s : Time × World) :
    Prop where
  whole : Time.truncateDay s.1 = s.1
  terms : SameTerms w s.2
  reached : startDate today (w.billingDay sub) k ≤ s.1
  ahead : s.1 < startDate today (w.billingDay sub) (k + 1)
  row : s.2.row sub.id =
    some (sub.setNextInvoiceDate (startDate today (w.billingDay sub) (k + 1)))
  next : w.invoices.next ≤ s.2.invoices.next
  periods : s.2.periodsOf w.invoices.next sub.id =
    (List.range (k + 1)).map fun j ↦ period (startDate today (w.billingDay sub) j)

section Steps

variable {w u : World} {sub : Subscription} {today : Time} {k : ℕ} {s : Time × World}
  {env : ℕ → Env}

theorem billed_installed (hterms : SameTerms w u) (h : Installed w sub today u) :
    Billed w sub today 0 (today, u) := by
  refine ⟨h.whole, hterms, le_rfl, ?_, h.row, h.next, h.periods⟩
  have hlater := lt_nextInvoiceDate today (w.billingDay sub)
  rwa [h.whole] at hlater

theorem cronDay_sameTerms (s : Time × World) (env : ℕ → Env) : SameTerms s.2 (cronDay s env).2 :=
  run_sameTerms billingRun env s.2

/-- What a run does to the row that awaits its next date. -/
theorem billed_row (hactive : sub.status = .active) (h : Billed w sub today k s)
    (henv : ∀ n, (env n).Quiet) : (cronDay s env).2.row sub.id =
      some (s.2.charged (Time.truncateDay (env 0).now)
        (sub.setNextInvoiceDate (startDate today (w.billingDay sub) (k + 1)))) := by
  have hrow := (billingRun_run (w := s.2) henv).1.rows sub.id
  rw [h.row, Option.map_some] at hrow
  rw [cronDay, hrow]
  exact congrArg some (if_pos hactive)

/-- A run on a day before the next date. -/
theorem billed_wait (hactive : sub.status = .active) (h : Billed w sub today k s)
    (henv : ∀ n, (env n).Quiet) (hlater : s.1 ≤ Time.truncateDay (env 0).now)
    (hahead : Time.truncateDay (env 0).now < startDate today (w.billingDay sub) (k + 1))
    (hdate : Time.truncateDay (startDate today (w.billingDay sub) (k + 1)) =
      startDate today (w.billingDay sub) (k + 1)) : Billed w sub today k (cronDay s env) := by
  have hcharged := (billingRun_run (w := s.2) henv).2
  have hdue : ¬s.2.Due (Time.truncateDay (env 0).now)
      (sub.setNextInvoiceDate (startDate today (w.billingDay sub) (k + 1))) := by
    intro hdue
    have hday := Option.some.inj hdue.1
    rw [hdate] at hday
    exact hahead.ne' hday
  refine ⟨truncateDay_truncateDay _, h.terms.trans (cronDay_sameTerms s env), h.reached.trans hlater,
    hahead, ?_, h.next.trans hcharged.next, ?_⟩
  · rw [billed_row hactive h henv, World.charged, if_neg hdue]
  · rw [← h.periods]
    refine hcharged.unbilled sub.id (fun hbilled ↦ ?_) _ h.next
    obtain ⟨r, hr, -, hrdue⟩ := hbilled
    rw [Option.mem_def, h.row, Option.some.injEq] at hr
    rw [← hr] at hrdue
    exact hdue hrdue

/-- A run on the next date. -/
theorem billed_next (hactive : sub.status = .active) (h : Billed w sub today k s)
    (henv : ∀ n, (env n).Quiet)
    (hday : Time.truncateDay (env 0).now = startDate today (w.billingDay sub) (k + 1))
    (hahead : startDate today (w.billingDay sub) (k + 1) <
      startDate today (w.billingDay sub) (k + 2))
    (hchargeable : s.2.Chargeable
      (sub.setNextInvoiceDate (startDate today (w.billingDay sub) (k + 1)))
      (Time.truncateDay (env 0).now)) : Billed w sub today (k + 1) (cronDay s env) := by
  have hcharged := (billingRun_run (w := s.2) henv).2
  have hdue : s.2.Due (Time.truncateDay (env 0).now)
      (sub.setNextInvoiceDate (startDate today (w.billingDay sub) (k + 1))) := by
    refine ⟨congrArg some ?_, hchargeable⟩
    rw [← hday, truncateDay_truncateDay]
  have hbillingDay : s.2.billingDay
      (sub.setNextInvoiceDate (startDate today (w.billingDay sub) (k + 1))) =
      w.billingDay sub := by
    rw [billingDay_congr h.terms]
    rfl
  refine ⟨truncateDay_truncateDay _, h.terms.trans (cronDay_sameTerms s env), hday.ge, ?_, ?_,
    h.next.trans hcharged.next, ?_⟩
  · rwa [cronDay, hday]
  · rw [billed_row hactive h henv, World.charged, if_pos hdue, hbillingDay]
    rfl
  · have hrow : sub.setNextInvoiceDate (startDate today (w.billingDay sub) (k + 1)) ∈
      s.2.row sub.id := h.row
    have hbilled := hcharged.billed sub.id ⟨_, hrow, hactive, hdue⟩ _ h.next
    rw [cronDay, hbilled, h.periods, hday, List.range_succ (n := k + 1), List.map_append]
    rfl

/-- The subscription has been billed for each date up to the day of the run. -/
theorem billed_step (hwhole : Time.truncateDay today = today) (hactive : sub.status = .active)
    (h : Billed w sub today k s) (henv : ∀ n, (env n).Quiet) (hdaily : RunsDaily sub.id s env) :
    ∃ k, Billed w sub today k (cronDay s env) := by
  obtain ⟨hday, hchargeable⟩ := hdaily
  have hdates := startDate_strictMono (w.billingDay sub) hwhole
  have hdate := startDate_whole (w.billingDay sub) hwhole (k + 1)
  have hnext : s.1 + day ≤ startDate today (w.billingDay sub) (k + 1) :=
    add_day_le h.whole hdate h.ahead
  have hpos : 0 < day := by decide
  by_cases hreached : Time.truncateDay (env 0).now = startDate today (w.billingDay sub) (k + 1)
  · refine ⟨k + 1, billed_next hactive h henv hreached (hdates (Nat.lt_succ_self _)) ?_⟩
    exact hchargeable _ h.row (congrArg some hreached.symm)
  · refine ⟨k, billed_wait hactive h henv ?_ ?_ hdate⟩
    · rcases hday with hday | hday
      · exact hday.ge
      · rw [hday]
        exact le_add_of_nonneg_right hpos.le
    · rcases hday with hday | hday
      · rw [hday]
        exact h.ahead
      · rw [← hday] at hnext
        exact lt_of_le_of_ne hnext hreached

/-- In every state that a history of daily runs leads to. -/
theorem billed_states (hterms : SameTerms w u) (h : Installed w sub today u)
    {envs : List (ℕ → Env)} (henvs : ∀ env ∈ envs, ∀ n, (env n).Quiet)
    (hdaily : Run.Guarded cronDay (RunsDaily sub.id) (today, u) envs) :
    ∀ s ∈ Run.states cronDay (today, u) envs, ∃ k, Billed w sub today k s := by
  refine Run.invariant_of (fun s env henv hs hdaily ↦ ?_) henvs
    ⟨0, billed_installed hterms h⟩ hdaily
  obtain ⟨k, hk⟩ := hs
  exact billed_step h.whole h.active hk henv hdaily

end Steps

/-- An installation that goes through, its first invoice included. -/
structure Installation where
  before : World
  id : ℕ
  req : RegistrationCompleteInstallRequest
  actor : Option ℕ
  env : ℕ → Env
  quiet : ∀ n, (env n).Quiet
  body : CompleteInstallResponse
  answer : ((completeInstall id req actor).run Call.exec env before).1 = .success 201 body
  invoiced : body.invoice.isSome
  today : Time
  date : body.subscription.nextInvoiceDate = some today

namespace Installation

variable (i : Installation)

def after : World := ((completeInstall i.id i.req i.actor).run Call.exec i.env i.before).2

def sub : Subscription := i.body.subscription

/-- The day of the month on which the subscription is billed. -/
def billingDay : ℤ := clampBillingDay (i.before.billingDay i.sub)

/-- The periods billed to the subscription since, in some later state. -/
def periods (w : World) : List (Time × Time) := w.periodsOf i.before.invoices.next i.sub.id

/-- The states that daily runs of the cron lead to. -/
def history (envs : List (ℕ → Env)) : List (Time × World) :=
  Run.states cronDay (i.today, i.after) envs

def last (envs : List (ℕ → Env)) : Time × World := envs.foldl cronDay (i.today, i.after)

/-- The cron runs every day and never fails. -/
structure Daily (envs : List (ℕ → Env)) : Prop where
  quiet : ∀ env ∈ envs, ∀ n, (env n).Quiet
  runs : Run.Guarded cronDay (RunsDaily i.sub.id) (i.today, i.after) envs

theorem installed : Installed i.before i.sub i.today i.after := by
  have hinstalls := run_of_quiet (completeInstall_installs i.before i.id i.req i.actor) i.quiet
  obtain ⟨today, h⟩ := hinstalls i.body i.answer i.invoiced
  have htoday : some today = some i.today := h.date.symm.trans i.date
  obtain rfl := Option.some.inj htoday
  exact h

variable {i} {envs : List (ℕ → Env)}

/-- In each state the subscription has been billed for the dates up to the day. -/
theorem billed (h : i.Daily envs) {s : Time × World} (hs : s ∈ i.history envs) :
    ∃ k, Billed i.before i.sub i.today k s :=
  billed_states (run_sameTerms _ _ _) i.installed h.quiet h.runs s hs

theorem last_mem (envs : List (ℕ → Env)) : i.last envs ∈ i.history envs :=
  Run.foldl_mem_states _ _

end Installation

section Concrete

/-- A customer with an approved registration. -/
def registered : World :=
  { World.oneInvoice 150000 .active with
    registrations := Table.empty.insert
      { id := 0, status := .approved, installedAt := none, customerID := some 1 } }

def siti (billingDay : ℤ) : RegistrationCompleteInstallRequest where
  deviceID := 1
  serviceType := .pppoe
  pppProfileID := some 1
  hotspotProfileID := none
  mikrotikUsername := "siti"
  mikrotikPassword := "rahasia"
  billingDay := some billingDay

/-- At seven o'clock. -/
def atSeven (today : Time) : ℕ → Env := fun _ ↦ Env.calm (today + 7 * hour)

/-- What the installation of 2026 is answered with. -/
def answered (billingDay : ℤ) (month dayOfMonth : ℤ) : CompleteInstallResponse :=
  let today := date 2026 month dayOfMonth
  let sub := { installedSubscription (siti billingDay) 1 today (today + 7 * hour) with id := 2 }
  let inv := newInvoice sub 150000 (formatNumber "INV" 2026 month 1) "" today 7 (today + 7 * hour)
  ⟨sub, some { inv with id := 2 }⟩

/-- An installation of 2026. -/
def installation (billingDay month dayOfMonth : ℤ)
    (h : ((completeInstall 1 (siti billingDay) none).run Call.exec
      (atSeven (date 2026 month dayOfMonth)) registered).1 =
        .success 201 (answered billingDay month dayOfMonth)) : Installation where
  before := registered
  id := 1
  req := siti billingDay
  actor := none
  env := atSeven (date 2026 month dayOfMonth)
  quiet := fun _ ↦ Env.calm_quiet _
  body := answered billingDay month dayOfMonth
  answer := h
  invoiced := rfl
  today := date 2026 month dayOfMonth
  date := rfl

/-- One run on each of the days that follow. -/
def daily (today : Time) (n : ℕ) : List (ℕ → Env) :=
  (List.range n).map fun i ↦ atSeven (today + (i + 1) * day)

theorem daily_quiet (today : Time) (n : ℕ) : ∀ env ∈ daily today n, ∀ n, (env n).Quiet := by
  intro env henv
  obtain ⟨i, -, rfl⟩ := List.mem_map.mp henv
  exact fun _ ↦ Env.calm_quiet _

end Concrete

end Rosmon.Billing
