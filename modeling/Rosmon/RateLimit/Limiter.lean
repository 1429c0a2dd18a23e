import Mathlib.Algebra.Order.Field.Rat
import Mathlib.Data.Finset.Basic
import Mathlib.Logic.Function.Basic
import Rosmon.Library.TokenBucket

namespace Rosmon.RateLimit

open Library TokenBucket

section Config

/-- What `New` makes of its arguments, in seconds. -/
structure Config where
  rps : ℚ
  burst : ℕ
  ttl : ℚ
  rps_pos : 0 < rps
  burst_pos : 0 < burst
  ttl_pos : 0 < ttl

/-- `New`: what is not positive gives way to a default. -/
def new (rps : ℚ) (burst : ℤ) (ttl : ℚ) : Config where
  rps := if rps ≤ 0 then 1 else rps
  burst := if burst ≤ 0 then 1 else burst.toNat
  ttl := if ttl ≤ 0 then 600 else ttl
  rps_pos := by split_ifs with h <;> [exact one_pos; exact not_le.mp h]
  burst_pos := by split_ifs with h <;> omega
  ttl_pos := by split_ifs with h <;> [decide; exact not_le.mp h]

/-- `golang.org/x/time/rate`, with what the code relies on: a limiter is a bucket that is full at
first, `Reserve` takes a token at once and has to wait if there was no whole one, and `Cancel` gives
the token back if none was reserved after it. `tokens` is `TokensAt`. -/
structure RateLib (cfg : Config) where
  Limiter : Type
  Reservation : Type
  newLimiter : Limiter
  reserve : ℚ → Limiter → Reservation × Limiter
  ok : Reservation → Bool
  delay : Reservation → ℚ
  cancel : ℚ → Reservation → Limiter → Limiter
  tokens : ℚ → Limiter → ℚ
  tokens_new : ∀ t, tokens t newLimiter = cfg.burst
  ok_reserve : ∀ t l, ok (reserve t l).1 = true
  delay_pos : ∀ t l, 0 < delay (reserve t l).1 ↔ tokens t l < 1
  tokens_reserve : ∀ t u l, t ≤ u → tokens u (reserve t l).2 =
    min (cfg.burst : ℚ) (tokens t l - 1 + cfg.rps * (u - t))
  tokens_cancel : ∀ t c u l, t ≤ c → c ≤ u →
    tokens u (cancel c (reserve t l).1 (reserve t l).2) =
      min (cfg.burst : ℚ) (min (cfg.burst : ℚ) (tokens c (reserve t l).2 + 1) + cfg.rps * (u - c))

end Config

section Steps

variable {cfg : Config} (lib : RateLib cfg)

/-- An entry of the map: where its limiter lies, and when it was last looked up. -/
structure Entry where
  lim : ℕ
  lastSeen : ℚ
  deriving DecidableEq

/-- Where a call of `Allow` stands. -/
inductive Thread
  | idle
  | found (key : String) (lim : ℕ)
  | denied (lim : ℕ) (reservation : lib.Reservation)

/-- What `Allow` has answered. -/
structure Decision where
  key : String
  time : ℚ
  allowed : Bool
  deriving DecidableEq

structure State where
  clock : ℚ
  entries : String → Option Entry
  limiters : ℕ → lib.Limiter
  next : ℕ
  threads : ℕ → Thread lib
  decisions : List Decision

inductive Action
  | lookup (thread : ℕ) (key : String)
  | reserve (thread : ℕ)
  | cancel (thread : ℕ)
  | evict

variable {lib}

namespace State

/-- The part of `Allow` that is locked. -/
def lookup (s : State lib) (now : ℚ) (thread : ℕ) (key : String) : State lib :=
  match s.threads thread with
  | .idle =>
    match s.entries key with
    | some e =>
      { s with
        entries := Function.update s.entries key (some { e with lastSeen := now })
        threads := Function.update s.threads thread (.found key e.lim) }
    | none =>
      { s with
        entries := Function.update s.entries key (some ⟨s.next, now⟩)
        limiters := Function.update s.limiters s.next lib.newLimiter
        next := s.next + 1
        threads := Function.update s.threads thread (.found key s.next) }
  | _ => s

/-- `Reserve`, and the answer that follows from it. -/
def reserve (s : State lib) (now : ℚ) (thread : ℕ) : State lib :=
  match s.threads thread with
  | .found key lim =>
    let r := lib.reserve now (s.limiters lim)
    let allowed := lib.ok r.1 && lib.delay r.1 ≤ 0
    { s with
      limiters := Function.update s.limiters lim r.2
      threads := Function.update s.threads thread
        (if lib.ok r.1 && 0 < lib.delay r.1 then .denied lim r.1 else .idle)
      decisions := s.decisions ++ [⟨key, now, allowed⟩] }
  | _ => s

def cancel (s : State lib) (now : ℚ) (thread : ℕ) : State lib :=
  match s.threads thread with
  | .denied lim r =>
    { s with
      limiters := Function.update s.limiters lim (lib.cancel now r (s.limiters lim))
      threads := Function.update s.threads thread .idle }
  | _ => s

def evict (s : State lib) (now : ℚ) : State lib :=
  { s with entries := fun key ↦ (s.entries key).filter fun e ↦ now - cfg.ttl ≤ e.lastSeen }

def act (s : State lib) (now : ℚ) : Action → State lib
  | .lookup thread key => s.lookup now thread key
  | .reserve thread => s.reserve now thread
  | .cancel thread => s.cancel now thread
  | .evict => s.evict now

/-- A step at a time. -/
def step (s : State lib) (a : ℚ × Action) : State lib :=
  { s.act a.1 a.2 with clock := a.1 }

variable (lib) in
/-- No request has been made yet. -/
def start (now : ℚ) : State lib :=
  ⟨now, fun _ ↦ none, fun _ ↦ lib.newLimiter, 0, fun _ ↦ .idle, []⟩

end State

end Steps

end Rosmon.RateLimit
