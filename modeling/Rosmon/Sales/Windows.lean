import Rosmon.Sales.Requests

namespace Rosmon.Sales

open Go Library Program Store
open Profiles (HotspotProfile HotspotColumns zeroTime)
open Webhook (LoginForm readLogin)

/-- What has been seen of a request: for whom it is, the profile it has found, when it has looked
for an earlier sale and whether there was one, and the sale it has made. -/
structure Mark where
  device : ℕ
  user : List UInt8
  config : Option HotspotColumns
  started : Option Time
  found : Option Bool
  made : Option ℕ

def Mark.blank (device : ℕ) (user : List UInt8) : Mark := ⟨device, user, none, none, none, none⟩

def Request.start : Request → Mark
  | .login req =>
    Mark.blank ((parseUint req.deviceID).getD 0) ((readLogin req.body).elim [] (·.user))
  | .recordSale _ _ => Mark.blank 0 []

/-- A sale by login to whom the request is for. -/
def Mark.Counts (m : Mark) (tx : Sale) : Prop :=
  tx.named m.device m.user loginEventComment = true

/-- The sale that a request makes under the profile it has found. -/
structure Mark.Sells (m : Mark) (tx : Sale) : Prop where
  counts : m.Counts tx
  config : ∃ cfg, m.config = some cfg ∧ tx.validity = cfg.validity ∧ tx.price = cfg.price ∧
    tx.sellPrice = cfg.sellPrice

/-- One look for an earlier sale, and a sale by login only where there was none. -/
def observer : Monitor Call Call.Reply Mark where
  allows m
    | .profile _ _ => m.config = none ∧ m.started = none
    | .existsByUserCommentSince deviceID username comment from_ =>
      deviceID = m.device ∧ username = m.user ∧ comment = loginEventComment ∧ m.found = none ∧
        m.made = none ∧ ∃ cfg t, m.config = some cfg ∧ m.started = some t ∧
          from_ = since cfg.validity t
    | .create tx => tx.comment ≠ loginEventComment ∨
      m.Sells tx ∧ m.found = some false ∧ m.made = none ∧ tx.createdAt = zeroTime
    | .device _ | .now => True
  next m
    | .profile _ _, .ok p => { m with config := some p.columns }
    | .now, t => if m.started = none then { m with started := some t } else m
    | .existsByUserCommentSince .., .ok found => { m with found := some found }
    | .create tx, .ok id => if tx.comment = loginEventComment then { m with made := some id } else m
    | _, _ => m

/-- An answer tells what has been stored, and a login under a profile that records sales is
answered well only if it is a sale or one stands for it. -/
structure Told (m : Mark) (a : Answer) : Prop where
  made : ∀ id, m.made = some id ↔ a = answer (.recorded id)
  stands : a.status = 200 → ∀ cfg, m.config = some cfg → Records cfg →
    m.made.isSome = true ∨ m.found = some true

section Follows

variable (zone : Zone) {m : Mark}

theorem told_failure (hmade : m.made = none) (status : ℕ) (hstatus : status ≠ 200)
    (code message : String) : Told m (.failure status code message) where
  made id := by simp [hmade, answer]
  stands h := absurd h hstatus

theorem told_skipped (hmade : m.made = none) (reason : String)
    (h : ∀ cfg, m.config = some cfg → Records cfg → m.found = some true) :
    Told m (answer (.skipped reason)) where
  made id := by simp [hmade, answer]
  stands _ cfg hcfg hrec := .inr (h cfg hcfg hrec)

theorem insertLogin_follows {deviceID : ℕ} {form : LoginForm} {cfg : HotspotColumns}
    (hdevice : deviceID = m.device) (huser : form.user = m.user) (hconfig : m.config = some cfg)
    (hstarted : m.started ≠ none) (hfound : m.found = some false) (hmade : m.made = none) :
    (insertLogin zone deviceID form cfg).Follows observer Told m := by
  refine ⟨trivial, fun now ↦ ?_⟩
  have hnow : observer.next m .now now = m := if_neg hstarted
  rw [hnow]
  have hsells : m.Sells (loginSale zone deviceID form cfg now) :=
    { counts := by simp [Mark.Counts, Sale.named, loginSale, hdevice, huser]
      config := ⟨cfg, hconfig, rfl, rfl, rfl⟩ }
  refine ⟨.inr ⟨hsells, hfound, hmade, rfl⟩, fun r ↦ ?_⟩
  rcases r with err | id
  · exact told_failure hmade 500 (by decide) _ _
  · exact
      { made := fun id' ↦ by simp [answer, observer, loginSale]
        stands := fun _ _ _ _ ↦ .inl rfl }

theorem recordLogin_follows {deviceID : ℕ} {form : LoginForm} {cfg : HotspotColumns}
    (hdevice : deviceID = m.device) (huser : form.user = m.user) (hconfig : m.config = some cfg)
    (hstarted : m.started = none) (hfound : m.found = none) (hmade : m.made = none) :
    (recordLogin zone deviceID form cfg).Follows observer Told m := by
  refine ⟨trivial, fun t ↦ ?_⟩
  have hnow : observer.next m .now t = { m with started := some t } := if_pos hstarted
  rw [hnow]
  refine ⟨⟨hdevice, huser, rfl, hfound, hmade, cfg, t, hconfig, rfl, rfl⟩, fun r ↦ ?_⟩
  rcases r with err | (_ | _)
  · have hfail : Mark.made { m with started := some t } = none := hmade
    exact told_failure hfail 500 (by decide) _ _
  · exact insertLogin_follows zone (m := { m with started := some t, found := some false })
      hdevice huser hconfig (Option.some_ne_none t) rfl hmade
  · have hskip : Mark.made { m with started := some t, found := some true } = none := hmade
    exact told_skipped hskip _ fun _ _ _ ↦ rfl

theorem configuredLogin_follows {deviceID : ℕ} {form : LoginForm} {cfg : HotspotColumns}
    (hdevice : deviceID = m.device) (huser : form.user = m.user) (hconfig : m.config = some cfg)
    (hstarted : m.started = none) (hfound : m.found = none) (hmade : m.made = none) :
    (configuredLogin zone deviceID form cfg).Follows observer Told m := by
  -- A profile whose logins are no sales leaves nothing to stand for them.
  have hskip (hnot : ¬Records cfg) : Told m (answer (.skipped "non_recording_mode")) := by
    refine told_skipped hmade _ fun cfg' hcfg hrec ↦ ?_
    obtain rfl := Option.some.inj (hconfig.symm.trans hcfg)
    exact absurd hrec hnot
  unfold configuredLogin
  split
  next hmode =>
    apply hskip
    intro hrec
    obtain ⟨mode, hsome, -⟩ := hrec
    simp [hmode] at hsome
  next mode hmode =>
    split
    · exact recordLogin_follows zone hdevice huser hconfig hstarted hfound hmade
    next hrecords =>
      apply hskip
      intro hrec
      obtain ⟨mode', hsome, hrec⟩ := hrec
      obtain rfl := Option.some.inj (hmode.symm.trans hsome)
      exact hrecords hrec

theorem profileLogin_follows {deviceID : ℕ} {form : LoginForm} (hdevice : deviceID = m.device)
    (huser : form.user = m.user) (hconfig : m.config = none) (hstarted : m.started = none)
    (hfound : m.found = none) (hmade : m.made = none) :
    (profileLogin zone deviceID form).Follows observer Told m := by
  unfold profileLogin
  split
  · exact told_skipped hmade _ fun cfg hcfg ↦ absurd hcfg (by simp [hconfig])
  refine ⟨⟨hconfig, hstarted⟩, fun r ↦ ?_⟩
  rcases r with (_ | err) | p
  · exact told_skipped hmade _ fun cfg hcfg ↦ absurd hcfg (by simp [hconfig])
  · exact told_failure hmade 500 (by decide) _ _
  · exact configuredLogin_follows zone (m := { m with config := some p.columns }) hdevice huser rfl
      hstarted hfound hmade

theorem login_follows (hookSharedSecret : String) (req : LoginRequest) :
    (login zone hookSharedSecret req).Follows observer Told (Request.login req).start := by
  unfold login
  split
  · exact told_failure rfl 401 (by decide) _ _
  split
  · exact told_failure rfl 400 (by decide) _ _
  next deviceID hdevice =>
    split
    · exact told_failure rfl 400 (by decide) _ _
    next form hform =>
      refine ⟨trivial, fun r ↦ ?_⟩
      rcases r with (_ | err) | _
      · exact told_failure rfl 404 (by decide) _ _
      · exact told_failure rfl 500 (by decide) _ _
      · refine profileLogin_follows zone ?_ ?_ rfl rfl rfl rfl
        · simp [observer, Request.start, Mark.blank, hdevice]
        · simp [observer, Request.start, Mark.blank, hform]

theorem recordSale_follows (deviceID : String) (req : RecordSaleParams) :
    (recordSale zone deviceID req).Follows observer Told (Request.recordSale deviceID req).start := by
  have hblank : ∀ a : Answer, (∀ id, a ≠ answer (.recorded id)) →
      ∀ m : Mark, m.made = none → m.config = none → Told m a := by
    intro a ha m hmade hconfig
    exact
      { made := fun id ↦ by simpa [hmade] using ha id
        stands := fun _ cfg hcfg ↦ absurd hcfg (by simp [hconfig]) }
  unfold recordSale
  split
  · exact hblank _ (by simp [answer]) _ rfl rfl
  split
  · exact hblank _ (by simp [answer]) _ rfl rfl
  refine ⟨trivial, fun now ↦ ⟨.inl (by simp [reportedSale, loginEventComment]), fun r ↦ ?_⟩⟩
  rcases r with err | id
  · refine hblank _ (fun id h ↦ ?_) _ rfl rfl
    have hnot := Handler.writeErr_not_accepted (α := Outcome) err
    rw [h] at hnot
    exact hnot ⟨le_rfl, by simp [answer, Handler.Response.status]⟩
  · exact hblank _ (by simp [answer]) _ rfl rfl

theorem prog_follows (hookSharedSecret : String) (req : Request) :
    (req.prog zone hookSharedSecret).Follows observer Told req.start := by
  cases req with
  | login req => exact login_follows zone hookSharedSecret req
  | recordSale deviceID req => exact recordSale_follows zone deviceID req

end Follows

section Step

variable {first : ℕ} {w : World} {m : Mark} {tx : Sale}

/-- What the sales say of a request: a sale that was there when it looked is not in its window,
and one that came later is not older than the look. The keys from `first` on are new. -/
structure Mark.Sound (first : ℕ) (w : World) (m : Mark) : Prop where
  clock : ∀ t, m.started = some t → t ≤ w.clock
  asked : m.found.isSome = true → m.config.isSome = true ∧ m.started.isSome = true
  cleared : ∀ cfg t, m.config = some cfg → m.started = some t → m.found = some false →
    ∀ tx ∈ w.sales, m.Counts tx → m.made ≠ some tx.id →
      tx.createdAt ≤ since cfg.validity t ∨ first ≤ tx.id ∧ t ≤ tx.createdAt
  stands : ∀ cfg t, m.config = some cfg → m.started = some t → m.found = some true →
    ∃ tx ∈ w.sales, m.Counts tx ∧ since cfg.validity t < tx.createdAt
  made : ∀ id, m.made = some id → first ≤ id ∧ m.found = some false ∧
    ∃ tx ∈ w.sales, tx.id = id ∧ m.Sells tx ∧ ∀ t, m.started = some t → t ≤ tx.createdAt

theorem Mark.Sound.wait (h : m.Sound first w) (tick : ℕ) : m.Sound first (w.wait tick) where
  clock t ht := (h.clock t ht).trans (by simp [World.wait])
  asked := h.asked
  cleared := h.cleared
  stands := h.stands
  made := h.made

theorem named_iff {deviceID : ℕ} {username : List UInt8} {comment : String} :
    tx.named deviceID username comment = true ↔
      tx.deviceID = deviceID ∧ tx.username = username ∧ tx.comment = comment := by
  simp [Sale.named, and_assoc]

theorem Mark.Counts.comment (h : m.Counts tx) : tx.comment = loginEventComment :=
  (named_iff.mp h).2.2

/-- A row as the table takes it. -/
def entered (w : World) (tx : Sale) : Sale := Row.withKey w.sales.next (tx.stamped w.clock)

theorem counts_entered : m.Counts (entered w tx) ↔ m.Counts tx := Iff.rfl

theorem createdAt_entered (h : tx.createdAt = zeroTime) : (entered w tx).createdAt = w.clock :=
  if_pos h

/-- A sale by login is not older than any look that has been made. -/
theorem Mark.Sound.insert (h : m.Sound first w) (hfirst : first ≤ w.sales.next)
    (hlogin : tx.comment = loginEventComment → tx.createdAt = zeroTime) :
    m.Sound first { w with sales := w.sales.insert (tx.stamped w.clock) } where
  clock := h.clock
  asked := h.asked
  cleared cfg t hconfig hstarted hfound row hrow hcounts hmade := by
    rcases Table.mem_insert.mp hrow with hold | rfl
    · exact h.cleared cfg t hconfig hstarted hfound row hold hcounts hmade
    · refine .inr ⟨hfirst, ?_⟩
      have hnew := createdAt_entered (w := w) (hlogin hcounts.comment)
      exact (h.clock t hstarted).trans_eq hnew.symm
  stands cfg t hconfig hstarted hfound := by
    obtain ⟨row, hrow, hcounts, hlater⟩ := h.stands cfg t hconfig hstarted hfound
    exact ⟨row, Table.mem_insert.mpr (.inl hrow), hcounts, hlater⟩
  made id hid := by
    obtain ⟨hle, hfound, row, hrow, hrest⟩ := h.made id hid
    exact ⟨hle, hfound, row, Table.mem_insert.mpr (.inl hrow), hrest⟩

/-- The sale that a request makes is its own. -/
theorem Mark.Sound.sell (h : m.Sound first w) (hfirst : first ≤ w.sales.next) (hsells : m.Sells tx)
    (hfound : m.found = some false) (hzero : tx.createdAt = zeroTime) :
    Mark.Sound first { w with sales := w.sales.insert (tx.stamped w.clock) }
      { m with made := some w.sales.next } where
  clock := h.clock
  asked := h.asked
  cleared cfg t hconfig hstarted hlook row hrow hcounts hmade := by
    rcases Table.mem_insert.mp hrow with hold | rfl
    · by_cases hown : m.made = some row.id
      · obtain ⟨hle, -, row', hrow', hid, -, hlater⟩ := h.made _ hown
        obtain rfl := Table.eq_of_key hrow' hold hid
        exact .inr ⟨hle, hlater t hstarted⟩
      · exact h.cleared cfg t hconfig hstarted hlook row hold hcounts hown
    · exact absurd rfl hmade
  stands cfg t hconfig hstarted htrue := by
    have hboth := hfound.symm.trans htrue
    simp at hboth
  made id hid := by
    obtain rfl := Option.some.inj hid
    refine ⟨hfirst, hfound, entered w tx, Table.mem_insert.mpr (.inr rfl), rfl, ?_, ?_⟩
    · exact ⟨counts_entered.mpr hsells.counts, hsells.config⟩
    · intro t hstarted
      exact (h.clock t hstarted).trans_eq (createdAt_entered hzero).symm

/-- As long as the clock has not been read, there has been no look. -/
theorem Mark.Sound.unasked (h : m.Sound first w) (hstarted : m.started = none) :
    m.found = none := by
  cases hfound : m.found with
  | none => rfl
  | some found =>
    have hboth := (h.asked (by simp [hfound])).2
    simp [hstarted] at hboth

/-- Before the look a request stands for nothing. -/
theorem Mark.sound_of_unasked {m : Mark} (hfound : m.found = none) (hmade : m.made = none)
    (hclock : ∀ t, m.started = some t → t ≤ w.clock) : m.Sound first w where
  clock := hclock
  asked h := by simp [hfound] at h
  cleared _ _ _ _ h := by simp [hfound] at h
  stands _ _ _ _ h := by simp [hfound] at h
  made _ h := by simp [hmade] at h

theorem Mark.Sound.unmade (h : m.Sound first w) (hfound : m.found = none) : m.made = none := by
  cases hmade : m.made with
  | none => rfl
  | some id =>
    have hlook := (h.made id hmade).2.1
    simp [hfound] at hlook

/-- The look for an earlier sale. -/
theorem Mark.Sound.look (h : m.Sound first w) {cfg : HotspotColumns} {t : Time}
    (hconfig : m.config = some cfg) (hstarted : m.started = some t) (hmade : m.made = none) :
    Mark.Sound first w { m with found := some (w.sales.rows.any fun tx ↦
      tx.named m.device m.user loginEventComment && since cfg.validity t < tx.createdAt) } where
  clock := h.clock
  asked _ := ⟨by simp [hconfig], by simp [hstarted]⟩
  cleared cfg' t' hconfig' hstarted' hfound row hrow hcounts _ := by
    obtain rfl := Option.some.inj (hconfig.symm.trans hconfig')
    obtain rfl := Option.some.inj (hstarted.symm.trans hstarted')
    have hnot := List.any_eq_false.mp (Option.some.inj hfound) row hrow
    have hnamed : row.named m.device m.user loginEventComment = true := hcounts
    simp only [hnamed, Bool.true_and, decide_eq_true_eq, not_lt] at hnot
    exact .inl hnot
  stands cfg' t' hconfig' hstarted' hfound := by
    obtain rfl := Option.some.inj (hconfig.symm.trans hconfig')
    obtain rfl := Option.some.inj (hstarted.symm.trans hstarted')
    obtain ⟨row, hrow, hboth⟩ := List.any_eq_true.mp (Option.some.inj hfound)
    simp only [Bool.and_eq_true, decide_eq_true_eq] at hboth
    exact ⟨row, hrow, hboth⟩
  made id hid := absurd hid (by simp [hmade])

/-- What a call that makes no sale by login does to the mark of its request. -/
theorem Mark.Sound.next (h : m.Sound first w) {c : Call} (hc : observer.allows m c) (e : Env)
    (hquiet : ∀ tx, c = .create tx → tx.comment ≠ loginEventComment) :
    Mark.Sound first (w.wait e.tick) (observer.next m c (c.exec e w).1) := by
  have hwait := h.wait e.tick
  cases c with
  | device id => exact hwait
  | profile deviceID name =>
    cases hr : ((Call.profile deviceID name).exec e w).1 with
    | error err => exact hwait
    | ok p =>
      have hfound := hwait.unasked hc.2
      have hclock : ∀ t, m.started = some t → t ≤ (w.wait e.tick).clock := hwait.clock
      exact Mark.sound_of_unasked hfound (hwait.unmade hfound) hclock
  | now =>
    by_cases hstarted : m.started = none
    · have hnext : observer.next m .now (Call.now.exec e w).1 =
          { m with started := some (w.wait e.tick).clock } := if_pos hstarted
      have hfound := hwait.unasked hstarted
      rw [hnext]
      exact Mark.sound_of_unasked hfound (hwait.unmade hfound) fun t ht ↦ (Option.some.inj ht).ge
    · have hnext : observer.next m .now (Call.now.exec e w).1 = m := if_neg hstarted
      rwa [hnext]
  | existsByUserCommentSince deviceID username comment from_ =>
    obtain ⟨rfl, rfl, rfl, -, hmade, cfg, t, hconfig, hstarted, rfl⟩ := hc
    cases hfault : e.fault with
    | some err =>
      simp only [Call.exec, hfault]
      exact hwait
    | none =>
      simp only [Call.exec, hfault]
      exact hwait.look hconfig hstarted hmade
  | create tx =>
    cases hr : ((Call.create tx).exec e w).1 with
    | error err => exact hwait
    | ok id =>
      have hnext : observer.next m (.create tx) (.ok id) = m := if_neg (hquiet tx rfl)
      rwa [hnext]

/-- A call without an insert leaves the sales as they are. -/
theorem exec_sales {c : Call} (e : Env) (hc : ∀ tx, c ≠ .create tx) :
    (c.exec e w).2 = w.wait e.tick := by
  cases c with
  | now => rfl
  | create tx => exact absurd rfl (hc tx)
  | device | profile | existsByUserCommentSince =>
    simp only [Call.exec]
    cases e.fault <;> rfl

end Step

section Runs

variable {ι : Type} [DecidableEq ι]

/-- Each request is sound, and every new sale by login has been made by just one of them. -/
structure Windows (first : ℕ) (w : World) (m : ι → Mark) : Prop where
  grown : first ≤ w.sales.next
  each : ∀ i, (m i).Sound first w
  once : ∀ i j id, (m i).made = some id → (m j).made = some id → i = j
  maker : ∀ tx ∈ w.sales, tx.comment = loginEventComment → first ≤ tx.id →
    ∃ i, (m i).made = some tx.id

variable {first : ℕ} {w w' : World} {m : ι → Mark} {i : ι}

/-- A call that leaves the sales by login as they are. -/
theorem Windows.quiet (h : Windows first w m) (hfirst : first ≤ w'.sales.next) {m' : Mark}
    (hi : m'.Sound first w') (hmade : m'.made = (m i).made) (hj : ∀ j, (m j).Sound first w')
    (hsales : ∀ tx ∈ w'.sales, tx.comment = loginEventComment → tx ∈ w.sales) :
    Windows first w' (Function.update m i m') := by
  have hall : ∀ j, (Function.update m i m' j).made = (m j).made := by
    intro j
    by_cases hji : j = i
    · rw [hji, Function.update_self, hmade]
    · rw [Function.update_of_ne hji]
  refine ⟨hfirst, fun j ↦ ?_, fun j k id ↦ ?_, fun tx htx hcomment hnew ↦ ?_⟩
  · by_cases hji : j = i
    · rw [hji, Function.update_self]
      exact hi
    · rw [Function.update_of_ne hji]
      exact hj j
  · simpa only [hall] using h.once j k id
  · simpa only [hall] using h.maker tx (hsales tx htx hcomment) hcomment hnew

omit [DecidableEq ι] in
theorem Windows.wait (h : Windows first w m) (tick : ℕ) : Windows first (w.wait tick) m :=
  ⟨h.grown, fun i ↦ (h.each i).wait tick, h.once, h.maker⟩

/-- A sale by login. -/
theorem Windows.sell (h : Windows first w m) {tx : Sale} (hsells : (m i).Sells tx)
    (hfound : (m i).found = some false) (hmade : (m i).made = none)
    (hzero : tx.createdAt = zeroTime) :
    Windows first { w with sales := w.sales.insert (tx.stamped w.clock) }
      (Function.update m i { m i with made := some w.sales.next }) := by
  have hfresh : ∀ j, (m j).made ≠ some w.sales.next := by
    intro j hj
    obtain ⟨-, -, row, hrow, hid, -⟩ := (h.each j).made _ hj
    exact (w.sales.fresh row hrow).ne hid
  refine ⟨h.grown.trans (Nat.le_succ _), fun j ↦ ?_, fun j k id hj hk ↦ ?_, ?_⟩
  · by_cases hji : j = i
    · rw [hji, Function.update_self]
      exact (h.each i).sell h.grown hsells hfound hzero
    · rw [Function.update_of_ne hji]
      exact (h.each j).insert h.grown fun _ ↦ hzero
  · by_cases hji : j = i
    · by_cases hki : k = i
      · rw [hji, hki]
      · rw [hji, Function.update_self] at hj
        rw [Function.update_of_ne hki] at hk
        exact absurd (hk.trans hj.symm) (hfresh k)
    · rw [Function.update_of_ne hji] at hj
      by_cases hki : k = i
      · rw [hki, Function.update_self] at hk
        exact absurd (hj.trans hk.symm) (hfresh j)
      · rw [Function.update_of_ne hki] at hk
        exact h.once j k id hj hk
  · intro row hrow hcomment hnew
    rcases Table.mem_insert.mp hrow with hold | rfl
    · obtain ⟨j, hj⟩ := h.maker row hold hcomment hnew
      refine ⟨j, ?_⟩
      by_cases hji : j = i
      · rw [hji, hmade] at hj
        cases hj
      · rwa [Function.update_of_ne hji]
    · exact ⟨i, by rw [Function.update_self]; rfl⟩

theorem Windows.step (h : Windows first w m) (i : ι) {c : Call} (hc : observer.allows (m i) c)
    (e : Env) :
    Windows first (c.exec e w).2 (Function.update m i (observer.next (m i) c (c.exec e w).1)) := by
  have hwait := h.wait e.tick
  by_cases hcreate : ∃ tx, c = .create tx
  · obtain ⟨tx, rfl⟩ := hcreate
    cases hfault : e.fault with
    | some err =>
      simp only [Call.exec, hfault]
      exact hwait.quiet hwait.grown (hwait.each i) rfl hwait.each fun _ htx _ ↦ htx
    | none =>
      simp only [Call.exec, hfault]
      rcases hc with hother | ⟨hsells, hfound, hmade, hzero⟩
      · have hnext : observer.next (m i) (.create tx) (.ok (w.wait e.tick).sales.next) = m i :=
          if_neg hother
        have hall (j : ι) := (hwait.each j).insert hwait.grown fun hlogin ↦ absurd hlogin hother
        rw [hnext]
        refine hwait.quiet (hwait.grown.trans (Nat.le_succ _)) (hall i) rfl hall ?_
        intro row hrow hcomment
        rcases Table.mem_insert.mp hrow with hold | rfl
        · exact hold
        · exact absurd hcomment hother
      · have hnext : observer.next (m i) (.create tx) (.ok (w.wait e.tick).sales.next) =
            { m i with made := some (w.wait e.tick).sales.next } := if_pos hsells.counts.comment
        rw [hnext]
        exact hwait.sell hsells hfound hmade hzero
  · have hnot : ∀ tx, c ≠ .create tx := fun tx heq ↦ hcreate ⟨tx, heq⟩
    have hsales := exec_sales (w := w) e hnot
    rw [hsales]
    refine hwait.quiet hwait.grown ((h.each i).next hc e fun tx heq ↦ absurd heq (hnot tx)) ?_
      hwait.each fun _ htx _ ↦ htx
    cases c with
    | create tx => exact absurd rfl (hnot tx)
    | device => rfl
    | now =>
      simp only [observer]
      split <;> rfl
    | profile deviceID name => cases ((Call.profile deviceID name).exec e w).1 <;> rfl
    | existsByUserCommentSince deviceID username comment from_ =>
      cases ((Call.existsByUserCommentSince deviceID username comment from_).exec e w).1 <;> rfl

/-- The requests that are being served, over the sales. -/
abbrev Server (ι : Type) := Pool ι Call Call.Reply Answer World Mark

variable (zone : Zone) (hookSharedSecret : String) (w : World) (reqs : ι → Request)

/-- The requests at their first call. -/
def pool : Server ι where
  state := w
  threads i := (reqs i).prog zone hookSharedSecret
  marks i := (reqs i).start

def after (schedule : List (ι × Env)) : Server ι :=
  (pool zone hookSharedSecret w reqs).run Call.exec observer schedule

omit [DecidableEq ι] in
theorem pool_windows : (pool zone hookSharedSecret w reqs).Sound observer (fun _ ↦ Told)
    (Windows w.sales.next) := by
  have hblank (i : ι) : ((reqs i).start).found = none ∧ ((reqs i).start).made = none ∧
      ((reqs i).start).started = none := by
    cases reqs i <;> exact ⟨rfl, rfl, rfl⟩
  refine ⟨⟨le_rfl, fun i ↦ ?_, fun i j id hi _ ↦ ?_, fun tx htx _ hnew ↦ ?_⟩, fun i ↦ ?_⟩
  · obtain ⟨hfound, hmade, hstarted⟩ := hblank i
    exact Mark.sound_of_unasked hfound hmade fun t ht ↦ by simp [pool, hstarted] at ht
  · exact absurd hi (by simp [pool, (hblank i).2.1])
  · exact absurd (w.sales.fresh tx htx) hnew.not_gt
  · exact prog_follows zone hookSharedSecret (reqs i)

theorem after_windows (schedule : List (ι × Env)) :
    (after zone hookSharedSecret w reqs schedule).Sound observer (fun _ ↦ Told)
      (Windows w.sales.next) :=
  (pool_windows zone hookSharedSecret w reqs).run_all (fun _ _ i _ e h hc ↦ h.step i hc e) schedule

/-- The request has made the sale. -/
def Makes (p : Server ι) (i : ι) (tx : Sale) : Prop :=
  tx ∈ p.state.sales ∧ (p.marks i).made = some tx.id

/-- Each of two requests has looked for an earlier sale before the other has made its own. -/
def Overlap (p : Server ι) (i j : ι) (tx tx' : Sale) : Prop :=
  ∃ t t', (p.marks i).started = some t ∧ (p.marks j).started = some t' ∧ t ≤ tx'.createdAt ∧
    t' ≤ tx.createdAt

/-- Two sales by login of one user. -/
def SameLogin (tx tx' : Sale) : Prop :=
  tx.deviceID = tx'.deviceID ∧ tx.username = tx'.username ∧ tx.comment = loginEventComment ∧
    tx'.comment = loginEventComment

variable {zone hookSharedSecret w reqs}

/-- No sale that a request has been able to see lies in the window of its own. -/
theorem Makes.spaced {schedule : List (ι × Env)} {i : ι} {tx tx' : Sale}
    (h : Makes (after zone hookSharedSecret w reqs schedule) i tx)
    (htx' : tx' ∈ (after zone hookSharedSecret w reqs schedule).state.sales) (hne : tx ≠ tx')
    (hsame : SameLogin tx tx') :
    ∃ t, ((after zone hookSharedSecret w reqs schedule).marks i).started = some t ∧
      (tx'.createdAt ≤ since tx.validity tx.createdAt ∨
        w.sales.next ≤ tx'.id ∧ t ≤ tx'.createdAt) := by
  have hsound := (after_windows zone hookSharedSecret w reqs schedule).inv.each i
  obtain ⟨-, hfound, row, hrow, hid, hsells, hlater⟩ := hsound.made _ h.2
  obtain rfl := Table.eq_of_key hrow h.1 hid
  obtain ⟨cfg, hconfig, hvalidity, -⟩ := hsells.config
  have hasked := (hsound.asked (by simp [hfound])).2
  obtain ⟨t, ht⟩ := Option.isSome_iff_exists.mp hasked
  have hcounts : Mark.Counts _ row := hsells.counts
  obtain ⟨hdevice, huser, -⟩ := named_iff.mp hcounts
  have hother : Mark.Counts ((after zone hookSharedSecret w reqs schedule).marks i) tx' :=
    named_iff.mpr ⟨hsame.1 ▸ hdevice, hsame.2.1 ▸ huser, hsame.2.2.2⟩
  have hown : ((after zone hookSharedSecret w reqs schedule).marks i).made ≠ some tx'.id := by
    intro heq
    have hkey : row.id = tx'.id := Option.some.inj (h.2.symm.trans heq)
    exact hne (Table.eq_of_key hrow htx' hkey)
  refine ⟨t, ht, ?_⟩
  rcases hsound.cleared cfg t hconfig ht hfound tx' htx' hother hown with hgap | hlate
  · rw [hvalidity]
    exact .inl (hgap.trans (since_mono _ (hlater t ht)))
  · exact .inr hlate

/-- Two sales by login of one user within a window come from requests that overlap. -/
theorem double_sale_overlaps (schedule : List (ι × Env)) {tx tx' : Sale}
    (htx : tx ∈ (after zone hookSharedSecret w reqs schedule).state.sales)
    (htx' : tx' ∈ (after zone hookSharedSecret w reqs schedule).state.sales) (hne : tx ≠ tx')
    (hsame : SameLogin tx tx') (hnew : w.sales.next ≤ tx.id) :
    tx'.createdAt ≤ since tx.validity tx.createdAt ∨
      w.sales.next ≤ tx'.id ∧ (tx.createdAt ≤ since tx'.validity tx'.createdAt ∨
        ∃ i j, i ≠ j ∧ Makes (after zone hookSharedSecret w reqs schedule) i tx ∧
          Makes (after zone hookSharedSecret w reqs schedule) j tx' ∧
          Overlap (after zone hookSharedSecret w reqs schedule) i j tx tx') := by
  have hwindows := (after_windows zone hookSharedSecret w reqs schedule).inv
  obtain ⟨i, hi⟩ := hwindows.maker tx htx hsame.2.2.1 hnew
  have hmakes : Makes (after zone hookSharedSecret w reqs schedule) i tx := ⟨htx, hi⟩
  obtain ⟨t, ht, hgap | ⟨hnew', hlate⟩⟩ := hmakes.spaced htx' hne hsame
  · exact .inl hgap
  -- The other sale is not of before the look, so that it has a maker, who has looked as well.
  · refine .inr ⟨hnew', ?_⟩
    obtain ⟨j, hj⟩ := hwindows.maker tx' htx' hsame.2.2.2 hnew'
    have hmakes' : Makes (after zone hookSharedSecret w reqs schedule) j tx' := ⟨htx', hj⟩
    have hback : SameLogin tx' tx :=
      ⟨hsame.1.symm, hsame.2.1.symm, hsame.2.2.2, hsame.2.2.1⟩
    obtain ⟨t', ht', hgap | ⟨-, hlate'⟩⟩ := hmakes'.spaced htx hne.symm hback
    · exact .inl hgap
    · refine .inr ⟨i, j, fun hij ↦ ?_, hmakes, hmakes', t, t', ht, ht', hlate, hlate'⟩
      have hkey : tx.id = tx'.id := Option.some.inj (hi.symm.trans (hij ▸ hj))
      exact hne (Table.eq_of_key htx htx' hkey)

instance (tx tx' : Sale) : Decidable (SameLogin tx tx') :=
  inferInstanceAs (Decidable (_ ∧ _ ∧ _ ∧ _))

/-- A profile for a day. -/
def daily : Table HotspotProfile :=
  Table.empty.insert ⟨0, 1, "day", ⟨"voucher", "", "", 1, "", "", 0, "remc", "1d", 4000, 5000, false,
    "", true, true⟩, 0, 0, none⟩

/-- One login, sent twice. -/
def retransmitted : Bool → Request := fun _ ↦ .login ⟨"", "1", bytes "user=ann&profile=day"⟩

def calm : Env := ⟨none, 1, [1], daily⟩

/-- Both requests look before one of them has made its sale. -/
def overlapping : List (Bool × Env) :=
  [false, false, false, false, true, true, true, true, false, false, true, true].map (·, calm)

def unsold : World := ⟨0, Table.empty⟩

theorem retransmission_sold_twice :
    ∃ tx ∈ (after .utc "" unsold retransmitted overlapping).state.sales,
      ∃ tx' ∈ (after .utc "" unsold retransmitted overlapping).state.sales,
        (tx ≠ tx' ∧ SameLogin tx tx' ∧ unsold.sales.next ≤ tx.id) ∧
          (tx'.createdAt ≤ since tx.validity tx.createdAt ∨
            unsold.sales.next ≤ tx'.id ∧ (tx.createdAt ≤ since tx'.validity tx'.createdAt ∨
              ∃ i j, i ≠ j ∧ Makes (after .utc "" unsold retransmitted overlapping) i tx ∧
                Makes (after .utc "" unsold retransmitted overlapping) j tx' ∧
                Overlap (after .utc "" unsold retransmitted overlapping) i j tx tx')) := by
  have hrows : ∃ tx ∈ (after .utc "" unsold retransmitted overlapping).state.sales,
      ∃ tx' ∈ (after .utc "" unsold retransmitted overlapping).state.sales,
        tx ≠ tx' ∧ SameLogin tx tx' ∧ unsold.sales.next ≤ tx.id := by
    decide +kernel
  obtain ⟨tx, htx, tx', htx', hne, hsame, hnew⟩ := hrows
  exact ⟨tx, htx, tx', htx', ⟨hne, hsame, hnew⟩,
    double_sale_overlaps overlapping htx htx' hne hsame hnew⟩

/-- One after the other, the first request makes a sale and the second finds it. -/
def consecutive : List (Bool × Env) :=
  [false, false, false, false, false, false, true, true, true, true].map (·, calm)

end Runs

end Rosmon.Sales
