import Rosmon.Library.Run
import Rosmon.RateLimit.Limiter

namespace Rosmon.RateLimit

open Library TokenBucket State

section Invariant

variable {cfg : Config} {lib : RateLib cfg}

/-- The times of the requests for a key. -/
def timesOf (decisions : List Decision) (key : String) : List ℚ :=
  (decisions.filter (·.key = key)).map (·.time)

/-- Each key is answered as by an ideal bucket of its own, charged only for what it admits. -/
def Ideal (s : State lib) : Prop := ∀ key, (s.decisions.filter (·.key = key)).map (·.allowed) =
  admits cfg.rps cfg.burst none (timesOf s.decisions key)

/-- The ideal bucket of the key, after the requests that have been answered. -/
def bucket (s : State lib) (key : String) : Option (Charge ℚ) :=
  charged cfg.rps cfg.burst none (timesOf s.decisions key)

def ideal (s : State lib) (key : String) (t : ℚ) : ℚ := level cfg.rps cfg.burst (bucket s key) t

/-- A reservation on the limiter has still to be cancelled. -/
def Owing (s : State lib) (lim : ℕ) : Prop := ∃ i r, s.threads i = .denied lim r

/-- Nobody reserves from a limiter that is owed a token or has been evicted, and only limiters are
evicted that are full, but for a token that they are owed. -/
def Orderly (s : State lib) (a : ℚ × Action) : Prop := s.clock ≤ a.1 ∧
  match a.2 with
  | .reserve i => ∀ key lim, s.threads i = .found key lim →
    (∃ e, s.entries key = some e ∧ e.lim = lim) ∧ ¬Owing s lim
  | .evict => ∀ key e, s.entries key = some e → e.lastSeen < a.1 - cfg.ttl →
    cfg.burst ≤ lib.tokens a.1 (s.limiters e.lim) ∨
      Owing s e.lim ∧ cfg.burst ≤ lib.tokens a.1 (s.limiters e.lim) + 1
  | .lookup .. | .cancel _ => True

/-- The limiter of a key holds what its ideal bucket does, but for a token that it is owed. -/
inductive Agrees (s : State lib) (key : String) (lim : ℕ) : Prop
  | even (hnone : ¬Owing s lim)
      (heq : ∀ u, s.clock ≤ u → lib.tokens u (s.limiters lim) = ideal s key u)
  | owing (i : ℕ) (t : ℚ) (l : lib.Limiter) (hi : s.threads i = .denied lim (lib.reserve t l).1)
      (honly : ∀ j r, s.threads j = .denied lim r → j = i) (ht : t ≤ s.clock)
      (hlim : s.limiters lim = (lib.reserve t l).2) (heq : lib.tokens t l = ideal s key t)

structure Simulates (s : State lib) : Prop where
  ideal : Ideal s
  full : ∀ key, s.entries key = none → ∀ u, s.clock ≤ u → RateLimit.ideal s key u = cfg.burst
  agrees : ∀ key e, s.entries key = some e → Agrees s key e.lim
  apart : ∀ key key' e e', s.entries key = some e → s.entries key' = some e' → e.lim = e'.lim →
    key = key'
  fresh : ∀ key e, s.entries key = some e → e.lim < s.next
  fresh_denied : ∀ i lim r, s.threads i = .denied lim r → lim < s.next

variable {s s' : State lib} {key : String} {lim : ℕ} {now : ℚ}

/-- What does not touch the limiter leaves it in agreement. -/
theorem Agrees.frame (h : Agrees s key lim)
    (hthreads : ∀ j r, s'.threads j = .denied lim r ↔ s.threads j = .denied lim r)
    (hlimiter : s'.limiters lim = s.limiters lim) (hbucket : bucket s' key = bucket s key)
    (hclock : s.clock ≤ s'.clock) : Agrees s' key lim := by
  cases h with
  | even hnone heq =>
    refine .even ?_ fun u hu ↦ ?_
    · rintro ⟨j, r, hj⟩
      exact hnone ⟨j, r, (hthreads j r).mp hj⟩
    · rw [hlimiter, RateLimit.ideal, hbucket]
      exact heq u (hclock.trans hu)
  | owing i t l hi honly ht hlim heq =>
    exact .owing i t l ((hthreads _ _).mpr hi) (fun j r hj ↦ honly j r ((hthreads j r).mp hj))
      (ht.trans hclock) (hlimiter.trans hlim) (by rw [RateLimit.ideal, hbucket]; exact heq)

theorem ideal_refill (s : State lib) (key : String) {t u : ℚ} (h : t ≤ u) :
    ideal s key u = min (cfg.burst : ℚ) (ideal s key t + cfg.rps * (u - t)) :=
  level_eq cfg.rps_pos.le h

theorem start_simulates (now : ℚ) : Simulates (start lib now) where
  ideal _ := rfl
  full _ _ _ _ := rfl
  agrees _ _ h := by cases h
  apart _ _ _ _ h := by cases h
  fresh _ _ h := by cases h
  fresh_denied _ _ _ h := by cases h

end Invariant

section Steps

variable {cfg : Config} {lib : RateLib cfg} {s : State lib} {key : String} {lim i : ℕ} {now : ℚ}

theorem denied_update {threads : ℕ → Thread lib} {x : Thread lib} {r : lib.Reservation}
    (hx : x ≠ .denied lim r) (hi : threads i ≠ .denied lim r) (j : ℕ) :
    Function.update threads i x j = .denied lim r ↔ threads j = .denied lim r := by
  by_cases hj : j = i
  · subst hj
    rw [Function.update_self]
    exact iff_of_false hx hi
  · rw [Function.update_of_ne hj]

theorem tick_simulates (h : Simulates s) (hnow : s.clock ≤ now) :
    Simulates { s with clock := now } where
  ideal := h.ideal
  full key hnone u hu := h.full key hnone u (hnow.trans hu)
  agrees key e he := (h.agrees key e he).frame (fun _ _ ↦ Iff.rfl) rfl rfl hnow
  apart := h.apart
  fresh := h.fresh
  fresh_denied := h.fresh_denied

theorem update_eq_some {entries : String → Option Entry} {e a : Entry} {k : String}
    (h : Function.update entries key (some e) k = some a) :
    k = key ∧ a = e ∨ entries k = some a := by
  by_cases hk : k = key
  · subst hk
    rw [Function.update_self] at h
    exact .inl ⟨rfl, (Option.some.inj h).symm⟩
  · rw [Function.update_of_ne hk] at h
    exact .inr h

theorem update_eq_none {entries : String → Option Entry} {e : Entry} {k : String}
    (h : Function.update entries key (some e) k = none) : entries k = none := by
  by_cases hk : k = key
  · subst hk
    rw [Function.update_self] at h
    cases h
  · rwa [Function.update_of_ne hk] at h

/-- A thread has found the entry of a key, or has made it. -/
theorem found_simulates (h : Simulates s) (hnow : s.clock ≤ now) (hi : s.threads i = .idle)
    {e : Entry} {limiters : ℕ → lib.Limiter} {next : ℕ} (hnext : s.next ≤ next)
    (he : e.lim < next) (hlimiters : ∀ n < s.next, limiters n = s.limiters n)
    (hown : ∀ k a, s.entries k = some a → a.lim = e.lim → k = key)
    (hagrees : ∀ s' : State lib, s'.clock = now → s'.decisions = s.decisions →
      s'.limiters = limiters →
      (∀ lim r j, s'.threads j = .denied lim r ↔ s.threads j = .denied lim r) →
      Agrees s' key e.lim) :
    Simulates ⟨now, Function.update s.entries key (some e), limiters, next,
      Function.update s.threads i (.found key e.lim), s.decisions⟩ where
  ideal := h.ideal
  full k hk u hu := h.full k (update_eq_none hk) u (hnow.trans hu)
  agrees k a ha := by
    have hdenied : ∀ lim r j, Function.update s.threads i (.found key e.lim) j = .denied lim r ↔
        s.threads j = .denied lim r := fun lim r j ↦ denied_update (by simp) (by simp [hi]) j
    obtain ⟨rfl, rfl⟩ | hold := update_eq_some ha
    · exact hagrees _ rfl rfl rfl hdenied
    · exact (h.agrees k a hold).frame (fun j r ↦ hdenied _ _ j) (hlimiters _ (h.fresh k a hold))
        rfl hnow
  apart k k' a a' ha ha' hlim := by
    obtain ⟨rfl, rfl⟩ | hold := update_eq_some ha
    · obtain ⟨rfl, -⟩ | hold' := update_eq_some ha'
      · rfl
      · exact (hown k' a' hold' hlim.symm).symm
    · obtain ⟨rfl, rfl⟩ | hold' := update_eq_some ha'
      · exact hown k a hold hlim
      · exact h.apart k k' a a' hold hold' hlim
  fresh k a ha := by
    obtain ⟨-, rfl⟩ | hold := update_eq_some ha
    · exact he
    · exact (h.fresh k a hold).trans_le hnext
  fresh_denied j lim r hj :=
    (h.fresh_denied j lim r ((denied_update (by simp) (by simp [hi]) j).mp hj)).trans_le hnext

theorem lookup_simulates (h : Simulates s) (hnow : s.clock ≤ now) :
    Simulates (s.step (now, .lookup i key)) := by
  change Simulates { s.lookup now i key with clock := now }
  unfold State.lookup
  cases hi : s.threads i with
  | found | denied => exact tick_simulates h hnow
  | idle =>
    cases hentry : s.entries key with
    | some e =>
      refine found_simulates h hnow hi (e := { e with lastSeen := now }) le_rfl
        (h.fresh key e hentry) (fun _ _ ↦ rfl)
        (fun k a ha hlim ↦ h.apart k key a e ha hentry hlim) ?_
      intro s' hclock hdecisions hlimiters hthreads
      exact (h.agrees key e hentry).frame (fun j r ↦ hthreads _ _ j) (by rw [hlimiters])
        (by unfold bucket; rw [hdecisions]) (hclock ▸ hnow)
    | none =>
      refine found_simulates h hnow hi (e := ⟨s.next, now⟩) (Nat.le_succ _) (Nat.lt_succ_self _)
        (fun n hn ↦ Function.update_of_ne hn.ne _ _)
        (fun k a ha hlim ↦ absurd hlim (h.fresh k a ha).ne) ?_
      intro s' hclock hdecisions hlimiters hthreads
      dsimp only at hlimiters
      refine .even ?_ fun u hu ↦ ?_
      · rintro ⟨j, r, hj⟩
        exact lt_irrefl _ (h.fresh_denied j s.next r ((hthreads _ _ j).mp hj))
      · rw [hlimiters, Function.update_self, lib.tokens_new]
        unfold RateLimit.ideal bucket
        rw [hdecisions]
        exact (h.full key hentry u (hnow.trans (hclock ▸ hu))).symm

variable (s) in
theorem timesOf_concat (d : Decision) (k : String) : timesOf (s.decisions ++ [d]) k =
    if d.key = k then timesOf s.decisions k ++ [d.time] else timesOf s.decisions k := by
  unfold timesOf
  rw [List.filter_append]
  split_ifs with hk
  · rw [List.filter_cons_of_pos (by simpa using hk), List.filter_nil, List.map_append]
    rfl
  · rw [List.filter_cons_of_neg (by simpa using hk), List.filter_nil, List.append_nil]

theorem allowed_concat (d : Decision) (k : String) :
    ((s.decisions ++ [d]).filter (·.key = k)).map (·.allowed) =
      (s.decisions.filter (·.key = k)).map (·.allowed) ++
        if d.key = k then [d.allowed] else [] := by
  rw [List.filter_append, List.map_append]
  split_ifs with hk
  · rw [List.filter_cons_of_pos (by simpa using hk)]
    rfl
  · rw [List.filter_cons_of_neg (by simpa using hk)]
    rfl

/-- A request for a key is answered as by its ideal bucket. -/
theorem answer_simulates (h : Simulates s) (hnow : s.clock ≤ now) {e : Entry}
    (hi : s.threads i = .found key e.lim) (hentry : s.entries key = some e)
    {l : lib.Limiter} {x : Thread lib} {allowed : Bool}
    (hallowed : allowed = (take cfg.rps cfg.burst (bucket s key) now).1)
    (hx : ∀ lim r, x = .denied lim r → lim = e.lim)
    (hagrees : ∀ s' : State lib, s'.clock = now → s'.limiters e.lim = l →
      s'.threads = Function.update s.threads i x →
      bucket s' key = (take cfg.rps cfg.burst (bucket s key) now).2 → Agrees s' key e.lim) :
    Simulates ⟨now, s.entries, Function.update s.limiters e.lim l, s.next,
      Function.update s.threads i x, s.decisions ++ [⟨key, now, allowed⟩]⟩ := by
  have hself :
      timesOf (s.decisions ++ [⟨key, now, allowed⟩]) key = timesOf s.decisions key ++ [now] :=
    (timesOf_concat s _ key).trans (if_pos rfl)
  have hother : ∀ k, k ≠ key →
      timesOf (s.decisions ++ [⟨key, now, allowed⟩]) k = timesOf s.decisions k :=
    fun k hk ↦ (timesOf_concat s _ k).trans (if_neg (Ne.symm hk))
  refine ⟨fun k ↦ ?_, fun k hk u hu ↦ ?_, fun k a ha ↦ ?_, h.apart, h.fresh, fun j lim r hj ↦ ?_⟩
  · rw [allowed_concat, h.ideal k]
    by_cases hk : k = key
    · subst hk
      rw [if_pos rfl, hself, admits_concat, hallowed]
      rfl
    · rw [if_neg (Ne.symm hk), hother k hk, List.append_nil]
  · have hne : k ≠ key := by
      rintro rfl
      rw [hentry] at hk
      cases hk
    unfold RateLimit.ideal bucket
    rw [hother k hne]
    exact h.full k hk u (hnow.trans hu)
  · by_cases hk : k = key
    · subst hk
      obtain rfl := Option.some.inj (hentry.symm.trans ha)
      refine hagrees _ rfl (Function.update_self ..) rfl ?_
      unfold bucket
      rw [hself, charged_concat]
    · have hlim : a.lim ≠ e.lim := fun hlim ↦ hk (h.apart k key a e ha hentry hlim)
      refine (h.agrees k a ha).frame (fun j r ↦ denied_update ?_ (by simp [hi]) j)
        (Function.update_of_ne hlim _ _) ?_ hnow
      · exact fun hxr ↦ hlim (hx _ _ hxr)
      · unfold bucket
        rw [hother k hk]
  · by_cases hij : j = i
    · subst hij
      dsimp only at hj
      rw [Function.update_self] at hj
      exact hx lim r hj ▸ h.fresh key e hentry
    · dsimp only at hj
      rw [Function.update_of_ne hij] at hj
      exact h.fresh_denied j lim r hj

theorem reserve_simulates (h : Simulates s) (hnow : s.clock ≤ now)
    (horderly : ∀ key lim, s.threads i = .found key lim →
      (∃ e, s.entries key = some e ∧ e.lim = lim) ∧ ¬Owing s lim) :
    Simulates (s.step (now, .reserve i)) := by
  change Simulates { s.reserve now i with clock := now }
  unfold State.reserve
  cases hi : s.threads i with
  | idle | denied => exact tick_simulates h hnow
  | found key lim =>
    obtain ⟨⟨e, hentry, rfl⟩, hnone⟩ := horderly key lim hi
    have heven : ∀ u, s.clock ≤ u → lib.tokens u (s.limiters e.lim) = ideal s key u := by
      cases h.agrees key e hentry with
      | even _ heq => exact heq
      | owing j t l hj => exact absurd ⟨j, _, hj⟩ hnone
    have hdelay : 0 < lib.delay (lib.reserve now (s.limiters e.lim)).1 ↔ ideal s key now < 1 := by
      rw [lib.delay_pos, heven now hnow]
    have howing : ∀ {x : Thread lib} {j : ℕ} {r : lib.Reservation},
        Function.update s.threads i x j = .denied e.lim r → j = i ∧ x = .denied e.lim r := by
      intro x j r hj
      by_cases hij : j = i
      · subst hij
        exact ⟨rfl, by rwa [Function.update_self] at hj⟩
      · rw [Function.update_of_ne hij] at hj
        exact absurd ⟨j, r, hj⟩ hnone
    dsimp only
    by_cases hlow : ideal s key now < 1
    · have hwait := hdelay.mpr hlow
      have htake := take_of_lt hlow
      rw [if_pos (by simp [lib.ok_reserve, hwait])]
      refine answer_simulates h hnow hi hentry ?_ ?_ ?_
      · rw [htake]
        simp [lib.ok_reserve, hwait]
      · rintro lim r ⟨⟩
        rfl
      · intro s' hclock hlimiter hthreads hbucket
        refine .owing i now (s.limiters e.lim) ?_ (fun j r hj ↦ ?_) hclock.ge hlimiter ?_
        · rw [hthreads, Function.update_self]
        · rw [hthreads] at hj
          exact (howing hj).1
        · rw [htake] at hbucket
          rw [RateLimit.ideal, hbucket]
          exact heven now hnow
    · have hwait := mt hdelay.mp hlow
      have htake := take_of_le (not_lt.mp hlow)
      rw [if_neg (by simp [lib.ok_reserve, not_lt.mp hwait])]
      refine answer_simulates h hnow hi hentry ?_ (fun _ _ hx ↦ by cases hx) ?_
      · rw [htake]
        simp [lib.ok_reserve, not_lt.mp hwait]
      · intro s' hclock hlimiter hthreads hbucket
        refine .even ?_ fun u hu ↦ ?_
        · rintro ⟨j, r, hj⟩
          rw [hthreads] at hj
          cases (howing hj).2
        · rw [hclock] at hu
          rw [hlimiter, lib.tokens_reserve now u _ hu, heven now hnow]
          unfold RateLimit.ideal
          rw [hbucket, htake]
          rfl

theorem cancel_simulates (h : Simulates s) (hnow : s.clock ≤ now) :
    Simulates (s.step (now, .cancel i)) := by
  change Simulates { s.cancel now i with clock := now }
  unfold State.cancel
  cases hi : s.threads i with
  | idle | found => exact tick_simulates h hnow
  | denied lim r =>
    have hothers : ∀ {lim' : ℕ} {j : ℕ} {q : lib.Reservation},
        Function.update s.threads i .idle j = .denied lim' q →
          j ≠ i ∧ s.threads j = .denied lim' q := by
      intro lim' j q hj
      by_cases hij : j = i
      · subst hij
        rw [Function.update_self] at hj
        cases hj
      · rw [Function.update_of_ne hij] at hj
        exact ⟨hij, hj⟩
    refine ⟨h.ideal, fun k hk u hu ↦ h.full k hk u (hnow.trans hu), fun k a ha ↦ ?_, h.apart,
      h.fresh, fun j lim' q hj ↦ h.fresh_denied j lim' q (hothers hj).2⟩
    by_cases hlim : a.lim = lim
    · subst hlim
      cases h.agrees k a ha with
      | even hnone _ => exact absurd ⟨i, r, hi⟩ hnone
      | owing j t l hj honly ht hlimiter heq =>
        obtain rfl := honly i r hi
        rw [hi] at hj
        obtain ⟨-, rfl⟩ := Thread.denied.inj hj
        refine .even ?_ fun u hu ↦ ?_
        · rintro ⟨j, q, hq⟩
          obtain ⟨hne, hq⟩ := hothers hq
          exact hne (honly j q hq)
        · have hflow : 0 ≤ cfg.rps * (u - now) := mul_nonneg cfg.rps_pos.le (sub_nonneg.mpr hu)
          dsimp only
          rw [Function.update_self, hlimiter, lib.tokens_cancel t now u l (ht.trans hnow) hu,
            lib.tokens_reserve t now l (ht.trans hnow), heq, give_back hflow, ← mul_add]
          refine Eq.trans ?_ (ideal_refill s k (ht.trans (hnow.trans hu))).symm
          congr 2
          ring
    · have hthreads : ∀ j q, Function.update s.threads i .idle j = .denied a.lim q ↔
          s.threads j = .denied a.lim q := by
        refine fun j q ↦ denied_update (by simp) ?_ j
        rw [hi]
        exact fun hsame ↦ hlim (Thread.denied.inj hsame).1.symm
      exact (h.agrees k a ha).frame hthreads (Function.update_of_ne hlim _ _) rfl hnow

theorem evict_simulates (h : Simulates s) (hnow : s.clock ≤ now)
    (horderly : ∀ key e, s.entries key = some e → e.lastSeen < now - cfg.ttl →
      cfg.burst ≤ lib.tokens now (s.limiters e.lim) ∨
        Owing s e.lim ∧ cfg.burst ≤ lib.tokens now (s.limiters e.lim) + 1) :
    Simulates (s.step (now, .evict)) := by
  change Simulates { s.evict now with clock := now }
  unfold State.evict
  have hold : ∀ {k : String} {a : Entry}, (s.entries k).filter
      (fun e ↦ now - cfg.ttl ≤ e.lastSeen) = some a → s.entries k = some a :=
    fun ha ↦ (Option.filter_eq_some_iff.mp ha).1
  refine ⟨h.ideal, fun k hk u hu ↦ ?_, fun k a ha ↦ ?_,
    fun k k' a a' ha ha' ↦ h.apart k k' a a' (hold ha) (hold ha'),
    fun k a ha ↦ h.fresh k a (hold ha), h.fresh_denied⟩
  · cases hentry : s.entries k with
    | none => exact h.full k hentry u (hnow.trans hu)
    | some e =>
      have hstale : e.lastSeen < now - cfg.ttl := by
        dsimp only at hk
        rw [hentry] at hk
        exact lt_sub_iff_add_lt.mpr (by simpa using hk)
      have hfull : ideal s k now = cfg.burst := by
        refine le_antisymm level_le ?_
        have htokens := horderly k e hentry hstale
        cases h.agrees k e hentry with
        | even hnone heq =>
          rw [← heq now hnow]
          exact htokens.resolve_right fun howing ↦ hnone howing.1
        | owing j t l hj honly ht hlimiter heq =>
          rw [hlimiter, lib.tokens_reserve t now l (ht.trans hnow), heq] at htokens
          have hdebt : (cfg.burst : ℚ) ≤ ideal s k t - 1 + cfg.rps * (now - t) + 1 := by
            have hle := min_le_right (cfg.burst : ℚ) (ideal s k t - 1 + cfg.rps * (now - t))
            rcases htokens with htokens | ⟨-, htokens⟩ <;> linarith
          rw [ideal_refill s k (ht.trans hnow)]
          exact le_min le_rfl (by linarith)
      refine (ideal_refill s k hu).trans ?_
      rw [hfull]
      exact min_eq_left (le_add_of_nonneg_right (mul_nonneg cfg.rps_pos.le (sub_nonneg.mpr hu)))
  · exact (h.agrees k a (hold ha)).frame (fun _ _ ↦ Iff.rfl) rfl rfl hnow

theorem step_simulates (h : Simulates s) (a : ℚ × Action) (ha : Orderly s a) :
    Simulates (s.step a) := by
  obtain ⟨now, action⟩ := a
  obtain ⟨hnow, ha⟩ := ha
  cases action with
  | lookup i key => exact lookup_simulates h hnow
  | reserve i => exact reserve_simulates h hnow ha
  | cancel i => exact cancel_simulates h hnow
  | evict => exact evict_simulates h hnow ha

theorem orderly_simulates (now : ℚ) {actions : List (ℚ × Action)}
    (horderly : Run.Guarded State.step Orderly (start lib now) actions) :
    ∀ s ∈ Run.states State.step (start lib now) actions, Simulates s :=
  Run.invariant (fun _ a h ha ↦ step_simulates h a ha) (start_simulates now) horderly

/-- In an orderly run, each key is answered as by an ideal bucket of its own. -/
theorem orderly_ideal (lib : RateLib cfg) (now : ℚ) (actions : List (ℚ × Action))
    (horderly : Run.Guarded State.step Orderly (start lib now) actions) :
    ∀ s ∈ Run.states State.step (start lib now) actions, Ideal s :=
  fun s hs ↦ (orderly_simulates now horderly s hs).ideal

end Steps

section Prompt

variable {cfg : Config} {lib : RateLib cfg} {s : State lib}

/-- The bucket of an entry is on its way to be full when the entry becomes stale. -/
def Filled (s : State lib) : Prop := ∀ key e, s.entries key = some e → e.lastSeen ≤ s.clock ∧
  ∀ u, s.clock ≤ u →
    min (cfg.burst : ℚ) (cfg.burst + cfg.rps * (u - (e.lastSeen + cfg.ttl))) ≤ ideal s key u

/-- As in an orderly run, but eviction is not restricted: instead each bucket has the time to fill
between a reservation and the moment at which its entry becomes stale. -/
def Prompt (s : State lib) (a : ℚ × Action) : Prop := s.clock ≤ a.1 ∧
  match a.2 with
  | .reserve i => ∀ key lim, s.threads i = .found key lim → ¬Owing s lim ∧
    ∃ e, s.entries key = some e ∧ e.lim = lim ∧ cfg.burst ≤ cfg.rps * (e.lastSeen + cfg.ttl - a.1)
  | .lookup .. | .cancel _ | .evict => True

theorem prompt_orderly (h : Simulates s) (hfilled : Filled s) {a : ℚ × Action} (ha : Prompt s a) :
    Orderly s a := by
  obtain ⟨now, action⟩ := a
  obtain ⟨hnow, ha⟩ := ha
  refine ⟨hnow, ?_⟩
  cases action with
  | lookup | cancel => trivial
  | reserve i =>
    intro key lim hi
    obtain ⟨hnone, e, hentry, hlim, -⟩ := ha key lim hi
    exact ⟨⟨e, hentry, hlim⟩, hnone⟩
  | evict =>
    intro key e hentry hstale
    dsimp only at hstale ⊢
    have hfull : (cfg.burst : ℚ) ≤ ideal s key now := by
      refine le_trans (le_min le_rfl ?_) ((hfilled key e hentry).2 now hnow)
      exact le_add_of_nonneg_right (mul_nonneg cfg.rps_pos.le (by linarith))
    cases h.agrees key e hentry with
    | even _ heq => exact .inl (hfull.trans_eq (heq now hnow).symm)
    | owing i t l hi _ ht hlim heq =>
      refine .inr ⟨⟨i, _, hi⟩, ?_⟩
      rw [ideal_refill s key (ht.trans hnow)] at hfull
      have hflow := hfull.trans (min_le_right _ _)
      rw [hlim, lib.tokens_reserve t now l (ht.trans hnow), heq, ← sub_le_iff_le_add]
      exact le_min (by linarith) (by linarith)

theorem lookup_filled (h : Simulates s) (hfilled : Filled s) {now : ℚ} (hnow : s.clock ≤ now)
    (i : ℕ) (key : String) : Filled (s.step (now, .lookup i key)) := by
  change Filled { s.lookup now i key with clock := now }
  have hold : Filled { s with clock := now } := fun k a ha ↦
    ⟨(hfilled k a ha).1.trans hnow, fun u hu ↦ (hfilled k a ha).2 u (hnow.trans hu)⟩
  unfold State.lookup
  cases hi : s.threads i with
  | found | denied => exact hold
  | idle =>
    cases hentry : s.entries key with
    | some e =>
      intro k a ha
      obtain ⟨rfl, rfl⟩ | ha := update_eq_some ha
      · refine ⟨le_rfl, fun u hu ↦ le_trans (min_le_min_left _ ?_) ((hold k e hentry).2 u hu)⟩
        have hseen := (hold k e hentry).1
        exact add_le_add_right (mul_le_mul_of_nonneg_left (by linarith) cfg.rps_pos.le) _
      · exact hold k a ha
    | none =>
      intro k a ha
      obtain ⟨rfl, rfl⟩ | ha := update_eq_some ha
      · exact ⟨le_rfl, fun u hu ↦ (min_le_left _ _).trans (h.full k hentry u (hnow.trans hu)).ge⟩
      · exact hold k a ha

theorem reserve_filled (hfilled : Filled s) {now : ℚ} (hnow : s.clock ≤ now) {i : ℕ}
    (hprompt : ∀ key lim, s.threads i = .found key lim → ¬Owing s lim ∧ ∃ e,
      s.entries key = some e ∧ e.lim = lim ∧ cfg.burst ≤ cfg.rps * (e.lastSeen + cfg.ttl - now)) :
    Filled (s.step (now, .reserve i)) := by
  change Filled { s.reserve now i with clock := now }
  have hold : Filled { s with clock := now } := fun k a ha ↦
    ⟨(hfilled k a ha).1.trans hnow, fun u hu ↦ (hfilled k a ha).2 u (hnow.trans hu)⟩
  unfold State.reserve
  cases hi : s.threads i with
  | idle | denied => exact hold
  | found key lim =>
    obtain ⟨-, e, hentry, -, hfills⟩ := hprompt key lim hi
    intro k a ha
    refine ⟨(hold k a ha).1, fun u hu ↦ ?_⟩
    have hlevel := (hold k a ha).2 u hu
    unfold ideal bucket at hlevel ⊢
    dsimp only at hlevel hu ⊢
    rw [timesOf_concat]
    split_ifs with hk
    · dsimp only at hk
      subst hk
      obtain rfl := Option.some.inj (hentry.symm.trans ha)
      rw [charged_concat]
      refine (le_min hlevel ((min_le_right _ _).trans ?_)).trans le_level_take
      linarith
    · exact hlevel

theorem step_filled (h : Simulates s) (hfilled : Filled s) {a : ℚ × Action} (ha : Prompt s a) :
    Filled (s.step a) := by
  obtain ⟨now, action⟩ := a
  obtain ⟨hnow, ha⟩ := ha
  cases action with
  | lookup i key => exact lookup_filled h hfilled hnow i key
  | reserve i => exact reserve_filled hfilled hnow ha
  | cancel i =>
    change Filled { s.cancel now i with clock := now }
    unfold State.cancel
    cases s.threads i <;>
      exact fun k a ha ↦ ⟨(hfilled k a ha).1.trans hnow,
        fun u hu ↦ (hfilled k a ha).2 u (hnow.trans hu)⟩
  | evict =>
    intro k a ha
    obtain ⟨hseen, hlevel⟩ := hfilled k a (Option.filter_eq_some_iff.mp ha).1
    exact ⟨hseen.trans hnow, fun u hu ↦ hlevel u (hnow.trans hu)⟩

theorem prompt_guarded (now : ℚ) {actions : List (ℚ × Action)}
    (hprompt : Run.Guarded State.step Prompt (start lib now) actions) :
    Run.Guarded State.step Orderly (start lib now) actions :=
  Run.guarded_imp (I := fun s ↦ Simulates s ∧ Filled s)
    (fun _ a h ha ↦ ⟨step_simulates h.1 a (prompt_orderly h.1 h.2 ha), step_filled h.1 h.2 ha⟩)
    (fun _ _ h ha ↦ prompt_orderly h.1 h.2 ha) ⟨start_simulates now, fun _ _ h ↦ by cases h⟩ hprompt

/-- Where requests reserve promptly, evictions never change a decision. -/
theorem prompt_ideal (now : ℚ) (actions : List (ℚ × Action))
    (hprompt : Run.Guarded State.step Prompt (start lib now) actions) :
    ∀ s ∈ Run.states State.step (start lib now) actions, Ideal s :=
  fun s hs ↦ (orderly_simulates now (prompt_guarded now hprompt) s hs).ideal

end Prompt

section Sequential

variable {cfg : Config} {lib : RateLib cfg} {s : State lib}

inductive Visit
  | allow (thread : ℕ) (key : String)
  | evict

/-- A whole call of `Allow` at one moment, or an eviction. -/
def Visit.actions : ℚ × Visit → List (ℚ × Action)
  | (t, .allow i key) => [(t, .lookup i key), (t, .reserve i), (t, .cancel i)]
  | (t, .evict) => [(t, .evict)]

theorem lookup_idle {i : ℕ} (hi : s.threads i = .idle) (now : ℚ) (key : String) :
    ∃ lim, (s.lookup now i key).threads = Function.update s.threads i (.found key lim) ∧
      (s.lookup now i key).entries key = some ⟨lim, now⟩ := by
  unfold State.lookup
  rw [hi]
  cases hentry : s.entries key with
  | some e => exact ⟨e.lim, rfl, Function.update_self ..⟩
  | none => exact ⟨s.next, rfl, Function.update_self ..⟩

theorem reserve_other {i j : ℕ} (hj : j ≠ i) (now : ℚ) :
    (s.reserve now i).threads j = s.threads j := by
  unfold State.reserve
  cases s.threads i with
  | found => exact Function.update_of_ne hj _ _
  | idle | denied => rfl

theorem reserve_self {i : ℕ} {key : String} {lim : ℕ} (hi : s.threads i = .found key lim)
    (now : ℚ) :
    (s.reserve now i).threads i = .idle ∨ ∃ r, (s.reserve now i).threads i = .denied lim r := by
  unfold State.reserve
  rw [hi]
  dsimp only
  rw [Function.update_self]
  split_ifs
  · exact .inr ⟨_, rfl⟩
  · exact .inl rfl

theorem cancel_idle {i : ℕ} (hothers : ∀ j ≠ i, s.threads j = .idle)
    (hi : s.threads i = .idle ∨ ∃ lim r, s.threads i = .denied lim r) (now : ℚ) (j : ℕ) :
    (s.cancel now i).threads j = .idle := by
  unfold State.cancel
  obtain hi | ⟨lim, r, hi⟩ := hi <;> rw [hi]
  · by_cases hj : j = i
    · exact hj ▸ hi
    · exact hothers j hj
  · by_cases hj : j = i
    · subst hj
      exact Function.update_self ..
    · exact (Function.update_of_ne hj _ _).trans (hothers j hj)

/-- Calls one after another are prompt, if a bucket can fill before its entry is stale. -/
theorem sequential_prompt (hfills : cfg.burst ≤ cfg.rps * cfg.ttl) {visits : List (ℚ × Visit)}
    (hidle : ∀ j, s.threads j = .idle) (hclock : ∀ v ∈ visits, s.clock ≤ v.1)
    (htimes : visits.Pairwise (·.1 ≤ ·.1)) :
    Run.Guarded State.step Prompt s (visits.flatMap Visit.actions) := by
  induction visits generalizing s with
  | nil => trivial
  | cons v visits ih =>
    obtain ⟨now, visit⟩ := v
    obtain ⟨hlater, hrest⟩ := List.pairwise_cons.mp htimes
    have hnow : s.clock ≤ now := hclock _ List.mem_cons_self
    rw [List.flatMap_cons, Run.guarded_append]
    cases visit with
    | evict => exact ⟨⟨⟨hnow, trivial⟩, trivial⟩, ih hidle hlater hrest⟩
    | allow i key =>
      obtain ⟨lim, hthreads, hentry⟩ := lookup_idle (hidle i) now key
      have hfound : (s.step (now, .lookup i key)).threads i = .found key lim := by
        exact (congrFun hthreads i).trans (Function.update_self ..)
      have hothers : ∀ j ≠ i, (s.step (now, .lookup i key)).threads j = .idle := fun j hj ↦
        (congrFun hthreads j).trans ((Function.update_of_ne hj _ _).trans (hidle j))
      refine ⟨⟨⟨hnow, trivial⟩, ⟨le_rfl, ?_⟩, ⟨le_rfl, trivial⟩, trivial⟩, ih ?_ hlater hrest⟩
      · rintro key' lim' hi
        obtain ⟨rfl, rfl⟩ := Thread.found.inj (hfound.symm.trans hi)
        refine ⟨?_, _, hentry, rfl, ?_⟩
        · rintro ⟨j, r, hj⟩
          by_cases hij : j = i
          · subst hij
            cases hfound.symm.trans hj
          · cases (hothers j hij).symm.trans hj
        · simpa using hfills
      · refine cancel_idle (s := (s.step (now, .lookup i key)).step (now, .reserve i))
          (fun j hj ↦ (reserve_other hj now).trans (hothers j hj)) ?_ now
        exact (reserve_self hfound now).imp_right fun ⟨r, hr⟩ ↦ ⟨lim, r, hr⟩

/-- Such calls are answered ideally, whatever is evicted between them. -/
theorem sequential_ideal (hfills : cfg.burst ≤ cfg.rps * cfg.ttl) {now : ℚ}
    {visits : List (ℚ × Visit)} (hclock : ∀ v ∈ visits, now ≤ v.1)
    (htimes : visits.Pairwise (·.1 ≤ ·.1)) :
    ∀ s ∈ Run.states State.step (start lib now) (visits.flatMap Visit.actions), Ideal s :=
  prompt_ideal now _ (sequential_prompt hfills (fun _ ↦ rfl) hclock htimes)

end Sequential

section Reference

/-- A limiter as `golang.org/x/time/rate` has it: what it holds, since when, and how many
reservations stand. -/
structure RefLimiter where
  tokens : ℚ
  last : ℚ
  standing : ℕ

structure RefReservation where
  index : ℕ
  delay : ℚ

def RefLimiter.tokensAt (cfg : Config) (t : ℚ) (l : RefLimiter) : ℚ :=
  min cfg.burst (l.tokens + cfg.rps * max 0 (t - l.last))

def RefLimiter.reserve (cfg : Config) (t : ℚ) (l : RefLimiter) : RefReservation × RefLimiter :=
  (⟨l.standing + 1, max 0 ((1 - l.tokensAt cfg t) / cfg.rps)⟩,
    ⟨l.tokensAt cfg t - 1, t, l.standing + 1⟩)

/-- A token is given back if no reservation stands that is later. -/
def RefLimiter.cancel (cfg : Config) (t : ℚ) (r : RefReservation) (l : RefLimiter) : RefLimiter :=
  if l.standing = r.index then ⟨min cfg.burst (l.tokensAt cfg t + 1), t, l.standing - 1⟩ else l

def reference (cfg : Config) : RateLib cfg where
  Limiter := RefLimiter
  Reservation := RefReservation
  newLimiter := ⟨cfg.burst, 0, 0⟩
  reserve := RefLimiter.reserve cfg
  ok _ := true
  delay := RefReservation.delay
  cancel := RefLimiter.cancel cfg
  tokens := RefLimiter.tokensAt cfg
  tokens_new t := min_eq_left
    (le_add_of_nonneg_right (mul_nonneg cfg.rps_pos.le (le_max_left _ _)))
  ok_reserve _ _ := rfl
  delay_pos t l := by
    rw [RefLimiter.reserve, lt_max_iff, or_iff_right (lt_irrefl _),
      div_pos_iff_of_pos_right cfg.rps_pos, sub_pos]
  tokens_reserve t u l htu := by
    rw [RefLimiter.tokensAt, RefLimiter.reserve, max_eq_right (sub_nonneg.mpr htu)]
  tokens_cancel t c u l _ hcu := by
    have hlast : (RefLimiter.reserve cfg t l).2.standing =
      (RefLimiter.reserve cfg t l).1.index := rfl
    rw [RefLimiter.cancel, if_pos hlast, RefLimiter.tokensAt, max_eq_right (sub_nonneg.mpr hcu)]

/-- One request each second. -/
def eachSecond : Config := new 1 1 600

/-- The second request is denied, and its token is given back before the third one. -/
def spaced : List (ℚ × Visit) :=
  [(0, .allow 0 "a"), (1 / 2, .allow 1 "a"), (1, .allow 0 "a"), (700, .evict), (700, .allow 0 "a")]

def afterSpaced : State (reference eachSecond) :=
  (spaced.flatMap Visit.actions).foldl State.step (start _ 0)

theorem spaced_ideal :
    afterSpaced.decisions.map (·.allowed) = [true, false, true, true] ∧ Ideal afterSpaced := by
  have hprompt : Run.Guarded State.step Prompt (start (reference eachSecond) 0)
      (spaced.flatMap Visit.actions) :=
    sequential_prompt (by decide +kernel) (fun _ ↦ rfl) (by decide +kernel) (by decide +kernel)
  exact ⟨by decide +kernel,
    orderly_ideal _ 0 _ (prompt_guarded 0 hprompt) _ (Run.foldl_mem_states _ _)⟩

/-- A second request comes too early, and a third before the reservation of the second has been
cancelled. -/
def overlapping : List (ℚ × Action) :=
  [(0, .lookup 0 "a"), (0, .reserve 0), (1 / 2, .lookup 1 "a"), (1 / 2, .reserve 1),
    (6 / 5, .lookup 2 "a"), (6 / 5, .reserve 2), (6 / 5, .cancel 1), (6 / 5, .cancel 2)]

/-- The third request is denied because of the second, which has been denied. -/
theorem denied_by_denied : (eachSecond.burst : ℚ) / eachSecond.rps ≤ eachSecond.ttl ∧
    overlapping.Pairwise (·.1 ≤ ·.1) ∧
    ∃ s ∈ Run.states State.step (start (reference eachSecond) 0) overlapping, ¬Ideal s := by
  refine ⟨by decide +kernel, by decide +kernel, _, Run.foldl_mem_states _ _, fun h ↦ ?_⟩
  have hanswers := h "a"
  revert hanswers
  decide +kernel

end Reference

end Rosmon.RateLimit
