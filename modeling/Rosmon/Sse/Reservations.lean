import Rosmon.Go.Map
import Rosmon.Go.Numbers
import Rosmon.Library.Run

namespace Rosmon.Sse

open Library

/-- A cap of zero is no cap. -/
structure Hub where
  perTopicCount : Go.Map ℕ
  perDeviceCount : Go.Map ℕ
  maxPerTopic : ℕ
  maxPerDevice : ℕ

/-- Negative caps are no caps either. -/
def newHubWithCaps (maxPerTopic maxPerDevice : ℤ) : Hub :=
  ⟨∅, ∅, maxPerTopic.toNat, maxPerDevice.toNat⟩

inductive ReserveError
  | topicCapExceeded
  | deviceCapExceeded
  deriving DecidableEq

/-- What a granted call of `Reserve` and its callback share. -/
structure Reservation where
  topic : String
  deviceID : String
  released : Bool
  deriving DecidableEq

/-- The hub and the reservations it has granted, in the order in which it has. -/
structure Reservations where
  hub : Hub
  granted : List Reservation

/-- `m[k]++`. -/
def increment (m : Go.Map ℕ) (k : String) : Go.Map ℕ := m.insert k (m.number k + 1)

/-- A counter goes when it comes down to zero. -/
def decrement (m : Go.Map ℕ) (k : String) : Go.Map ℕ :=
  let n := m.number k
  if 0 < n then
    let m : Go.Map ℕ := m.insert k (n - 1)
    if m.number k = 0 then m.erase k else m
  else m

namespace Reservations

def new (maxPerTopic maxPerDevice : ℤ) : Reservations := ⟨newHubWithCaps maxPerTopic maxPerDevice, []⟩

/-- Both counters go up, and the callback is made. -/
def grant (topic deviceID : String) (w : Reservations) : Reservations where
  hub := { w.hub with
    perTopicCount := increment w.hub.perTopicCount topic
    perDeviceCount :=
      if deviceID ≠ "" then increment w.hub.perDeviceCount deviceID else w.hub.perDeviceCount }
  granted := w.granted ++ [⟨topic, deviceID, false⟩]

def reserve (topic deviceID : String) (w : Reservations) :
    Except ReserveError ℕ × Reservations :=
  if 0 < w.hub.maxPerTopic ∧ w.hub.maxPerTopic ≤ w.hub.perTopicCount.number topic then
    (.error .topicCapExceeded, w)
  else if deviceID ≠ "" ∧ 0 < w.hub.maxPerDevice ∧
      w.hub.maxPerDevice ≤ w.hub.perDeviceCount.number deviceID then
    (.error .deviceCapExceeded, w)
  else (.ok w.granted.length, w.grant topic deviceID)

/-- What the first call of a callback does. -/
def giveBack (n : ℕ) (r : Reservation) (w : Reservations) : Reservations where
  hub := { w.hub with
    perTopicCount := decrement w.hub.perTopicCount r.topic
    perDeviceCount :=
      if r.deviceID ≠ "" then decrement w.hub.perDeviceCount r.deviceID
      else w.hub.perDeviceCount }
  granted := w.granted.set n { r with released := true }

/-- The callback of the `n`-th reservation. -/
def release (n : ℕ) (w : Reservations) : Reservations :=
  match w.granted[n]? with
  | none => w
  | some r => if r.released then w else w.giveBack n r

end Reservations

inductive HubCall
  | reserve (topic deviceID : String)
  | release (n : ℕ)

/-- `reserveSSE` answers with status 429 and the scope of the cap that is reached. -/
def reserveSSE (deviceID topic : String) (w : Reservations) : Except String ℕ × Reservations :=
  match w.reserve topic deviceID with
  | (.ok n, w) => (.ok n, w)
  | (.error .topicCapExceeded, w) => (.error "topic", w)
  | (.error .deviceCapExceeded, w) => (.error "device", w)

/-- The key of a stream of the device that the path names. -/
def deviceTopic (id base : String) : String := if id = "" then base else id ++ ":" ++ base

/-- A stream request for the device that the path names `raw`, which may be `connected` at that
moment, and the end of such a request. -/
inductive Visit
  | stream (raw base : String) (connected : Bool)
  | disconnect (n : ℕ)

namespace Reservations

def step (w : Reservations) : HubCall → Reservations
  | .reserve topic deviceID => (w.reserve topic deviceID).2
  | .release n => w.release n

/-- The middleware lets a request through if it can read the id and finds the device. -/
def serve (w : Reservations) : Visit → Reservations
  | .stream raw base connected =>
    match Go.parseUint raw with
    | none => w
    | some _ => if connected then (reserveSSE raw (deviceTopic raw base) w).2 else w
  | .disconnect n => w.release n

/-- The reservations of one kind that have not been released. -/
def live (p : Reservation → Bool) (w : Reservations) : ℕ :=
  w.granted.countP fun r ↦ !r.released && p r

def ofTopic (topic : String) (r : Reservation) : Bool := r.topic = topic

/-- The empty id is not counted. -/
def ofDeviceID (deviceID : String) (r : Reservation) : Bool :=
  deviceID ≠ "" && r.deviceID = deviceID

/-- Made under any spelling of the device's number. -/
def ofDevice (device : ℕ) (r : Reservation) : Bool := Go.parseUint r.deviceID = some device

/-- The entry of a counter that stands at `n`. -/
def tally (n : ℕ) : Option ℕ := if n = 0 then none else some n

theorem number_of_tally {m : Go.Map ℕ} {k : String} {n : ℕ} (h : m.get k = tally n) :
    m.number k = n := by
  unfold Go.Map.number
  rw [h, tally]
  split_ifs with hn
  · exact hn.symm
  · rfl

/-- The map has an entry for each key that stands at more than zero. -/
def Counts (m : Go.Map ℕ) (f : String → ℕ) : Prop := ∀ k, m.get k = tally (f k)

theorem Counts.increment {m : Go.Map ℕ} {f : String → ℕ} (h : Counts m f) (k : String) :
    Counts (increment m k) fun k' ↦ f k' + if k = k' then 1 else 0 := by
  intro k'
  unfold Sse.increment
  rw [Go.Map.get_insert, number_of_tally (h k)]
  by_cases hk : k' = k
  · subst hk
    simp [tally]
  · simpa [hk, Ne.symm hk] using h k'

theorem Counts.decrement {m : Go.Map ℕ} {f : String → ℕ} (h : Counts m f) (k : String) :
    Counts (decrement m k) fun k' ↦ f k' - if k = k' then 1 else 0 := by
  intro k'
  have hm : (Sse.decrement m k).get k' = if k' = k then tally (f k - 1) else m.get k' := by
    simp only [Sse.decrement, number_of_tally (h k), Go.Map.number_insert, if_true]
    split_ifs with hpos hlast hk hk hk
    · rw [Go.Map.get_erase, if_pos hk, hlast]
      rfl
    · rw [Go.Map.get_erase, if_neg hk, Go.Map.get_insert, if_neg hk]
    · rw [Go.Map.get_insert, if_pos hk, tally, if_neg hlast]
    · rw [Go.Map.get_insert, if_neg hk]
    · have hzero : f k = 0 := by omega
      rw [hk, h k, hzero]
    · rfl
  rw [hm]
  by_cases hk : k' = k
  · subst hk
    simp
  · simpa [hk, Ne.symm hk] using h k'

variable {w : Reservations}

theorem ofDeviceID_iff {d : String} {r : Reservation} :
    ofDeviceID d r = true ↔ r.deviceID ≠ "" ∧ r.deviceID = d := by
  simp only [ofDeviceID, Bool.and_eq_true, decide_eq_true_eq]
  constructor
  · rintro ⟨hd, rfl⟩
    exact ⟨hd, rfl⟩
  · rintro ⟨hd, rfl⟩
    exact ⟨hd, rfl⟩

theorem live_grant (w : Reservations) (p : Reservation → Bool) (topic deviceID : String) :
    (w.grant topic deviceID).live p =
      w.live p + if p ⟨topic, deviceID, false⟩ then 1 else 0 := by
  simp [live, grant, List.countP_append, List.countP_cons]

theorem live_giveBack {n : ℕ} {r : Reservation} (hn : w.granted[n]? = some r)
    (hr : r.released = false) (p : Reservation → Bool) :
    (w.giveBack n r).live p = w.live p - if p r then 1 else 0 := by
  obtain ⟨hlt, hget⟩ := List.getElem?_eq_some_iff.mp hn
  unfold live giveBack
  rw [List.countP_set hlt, hget]
  simp [hr]

/-- The counters are the numbers of the reservations that have not been released, and these
keep to the caps. -/
structure Counted (w : Reservations) : Prop where
  topics : Counts w.hub.perTopicCount fun topic ↦ w.live (ofTopic topic)
  devices : Counts w.hub.perDeviceCount fun deviceID ↦ w.live (ofDeviceID deviceID)
  topicCap : 0 < w.hub.maxPerTopic → ∀ topic, w.live (ofTopic topic) ≤ w.hub.maxPerTopic
  deviceCap : 0 < w.hub.maxPerDevice →
    ∀ deviceID, w.live (ofDeviceID deviceID) ≤ w.hub.maxPerDevice

theorem Counted.new (maxPerTopic maxPerDevice : ℤ) : (new maxPerTopic maxPerDevice).Counted where
  topics _ := rfl
  devices _ := rfl
  topicCap _ _ := Nat.zero_le _
  deviceCap _ _ := Nat.zero_le _

theorem Counted.grant (h : w.Counted) {topic deviceID : String}
    (htopic : 0 < w.hub.maxPerTopic → w.live (ofTopic topic) < w.hub.maxPerTopic)
    (hdevice : deviceID ≠ "" → 0 < w.hub.maxPerDevice →
      w.live (ofDeviceID deviceID) < w.hub.maxPerDevice) :
    (w.grant topic deviceID).Counted := by
  refine ⟨fun t ↦ ?_, fun d ↦ ?_, fun hcap t ↦ ?_, fun hcap d ↦ ?_⟩
  · simp only [live_grant, ofTopic, decide_eq_true_eq]
    exact h.topics.increment topic t
  · have hcount := h.devices.increment deviceID d
    have hmap : (w.grant topic deviceID).hub.perDeviceCount =
      if deviceID ≠ "" then increment w.hub.perDeviceCount deviceID
      else w.hub.perDeviceCount := rfl
    rw [hmap]
    by_cases hid : deviceID = ""
    · simpa [live_grant, ofDeviceID_iff, hid] using h.devices d
    · simpa [live_grant, ofDeviceID_iff, hid] using hcount
  · have hold := h.topicCap hcap t
    have hroom := htopic hcap
    rw [live_grant]
    split
    next ht =>
      have heq : topic = t := by simpa [ofTopic] using ht
      subst heq
      exact hroom
    next ht => exact hold
  · have hold := h.deviceCap hcap d
    rw [live_grant]
    split
    next hd =>
      obtain ⟨hne, rfl⟩ := ofDeviceID_iff.mp hd
      exact hdevice hne hcap
    next hd => exact hold

theorem Counted.reserve (h : w.Counted) (topic deviceID : String) :
    (w.reserve topic deviceID).2.Counted := by
  unfold Reservations.reserve
  rw [number_of_tally (h.topics topic), number_of_tally (h.devices deviceID)]
  split
  · exact h
  next htopic =>
    split
    · exact h
    next hdevice =>
      refine h.grant (fun hcap ↦ ?_) (fun hne hcap ↦ ?_)
      · by_contra hfull
        exact htopic ⟨hcap, Nat.le_of_not_lt hfull⟩
      · by_contra hfull
        exact hdevice ⟨hne, hcap, Nat.le_of_not_lt hfull⟩

/-- A refused call changes nothing. -/
theorem reserve_error {topic deviceID : String} {e : ReserveError}
    (h : (w.reserve topic deviceID).1 = .error e) : (w.reserve topic deviceID).2 = w := by
  unfold Reservations.reserve at h ⊢
  split
  · rfl
  next htopic =>
    rw [if_neg htopic] at h
    split
    · rfl
    next hdevice =>
      rw [if_neg hdevice] at h
      cases h

theorem Counted.giveBack (h : w.Counted) {n : ℕ} {r : Reservation}
    (hn : w.granted[n]? = some r) (hr : r.released = false) : (w.giveBack n r).Counted := by
  refine ⟨fun t ↦ ?_, fun d ↦ ?_, fun hcap t ↦ ?_, fun hcap d ↦ ?_⟩
  · simp only [live_giveBack hn hr, ofTopic, decide_eq_true_eq]
    exact h.topics.decrement r.topic t
  · have hcount := h.devices.decrement r.deviceID d
    have hmap : (w.giveBack n r).hub.perDeviceCount =
      if r.deviceID ≠ "" then decrement w.hub.perDeviceCount r.deviceID
      else w.hub.perDeviceCount := rfl
    rw [hmap]
    by_cases hid : r.deviceID = ""
    · simpa [live_giveBack hn hr, ofDeviceID_iff, hid] using h.devices d
    · simpa [live_giveBack hn hr, ofDeviceID_iff, hid] using hcount
  · rw [live_giveBack hn hr]
    exact (Nat.sub_le _ _).trans (h.topicCap hcap t)
  · rw [live_giveBack hn hr]
    exact (Nat.sub_le _ _).trans (h.deviceCap hcap d)

theorem Counted.release (h : w.Counted) (n : ℕ) : (w.release n).Counted := by
  unfold Reservations.release
  split
  · exact h
  next r hn =>
    split
    · exact h
    next hr => exact h.giveBack hn (Bool.not_eq_true _ ▸ hr)

theorem Counted.step (h : w.Counted) (call : HubCall) : (w.step call).Counted := by
  cases call with
  | reserve topic deviceID => exact h.reserve topic deviceID
  | release n => exact h.release n

theorem reserveSSE_snd (w : Reservations) (deviceID topic : String) :
    (reserveSSE deviceID topic w).2 = (w.reserve topic deviceID).2 := by
  unfold reserveSSE
  split
  next h => rw [h]
  next h => rw [h]
  next h => rw [h]

/-- A visit comes down to at most one call of the hub. -/
theorem serve_cases (w : Reservations) (visit : Visit) :
    w.serve visit = w ∨ (∃ n, w.serve visit = w.release n) ∨
      ∃ raw base connected, visit = .stream raw base connected ∧
        w.serve visit = (w.reserve (deviceTopic raw base) raw).2 := by
  cases visit with
  | disconnect n => exact .inr (.inl ⟨n, rfl⟩)
  | stream raw base connected =>
    simp only [serve]
    split
    · exact .inl rfl
    · split
      · exact .inr (.inr ⟨raw, base, connected, rfl, reserveSSE_snd w raw _⟩)
      · exact .inl rfl

theorem Counted.serve (h : w.Counted) (visit : Visit) : (w.serve visit).Counted := by
  obtain heq | ⟨n, heq⟩ | ⟨raw, base, connected, -, heq⟩ := serve_cases w visit
  · rwa [heq]
  · rw [heq]
    exact h.release n
  · rw [heq]
    exact h.reserve _ raw

def HasCaps (maxPerTopic maxPerDevice : ℤ) (w : Reservations) : Prop :=
  w.hub.maxPerTopic = maxPerTopic.toNat ∧ w.hub.maxPerDevice = maxPerDevice.toNat

section Caps

variable {maxPerTopic maxPerDevice : ℤ}

theorem HasCaps.reserve (h : w.HasCaps maxPerTopic maxPerDevice) (topic deviceID : String) :
    (w.reserve topic deviceID).2.HasCaps maxPerTopic maxPerDevice := by
  unfold Reservations.reserve
  split
  · exact h
  · split
    · exact h
    · exact h

theorem HasCaps.release (h : w.HasCaps maxPerTopic maxPerDevice) (n : ℕ) :
    (w.release n).HasCaps maxPerTopic maxPerDevice := by
  unfold Reservations.release
  split
  · exact h
  · split
    · exact h
    · exact h

theorem HasCaps.step (h : w.HasCaps maxPerTopic maxPerDevice) (call : HubCall) :
    (w.step call).HasCaps maxPerTopic maxPerDevice := by
  cases call with
  | reserve topic deviceID => exact h.reserve topic deviceID
  | release n => exact h.release n

theorem HasCaps.serve (h : w.HasCaps maxPerTopic maxPerDevice) (visit : Visit) :
    (w.serve visit).HasCaps maxPerTopic maxPerDevice := by
  obtain heq | ⟨n, heq⟩ | ⟨raw, base, connected, -, heq⟩ := serve_cases w visit
  · rwa [heq]
  · rw [heq]
    exact h.release n
  · rw [heq]
    exact h.reserve _ raw

end Caps

/-- A stream request spells its device as those do that hold a reservation for it. -/
def OneSpelling (w : Reservations) : Visit → Prop
  | .stream raw _ _ => ∀ r ∈ w.granted, r.released = false →
    Go.parseUint r.deviceID = Go.parseUint raw → r.deviceID = raw
  | .disconnect _ => True

instance (w : Reservations) : ∀ visit, Decidable (w.OneSpelling visit)
  | .stream _ _ _ => inferInstanceAs (Decidable (∀ r ∈ w.granted, _ → _ → _))
  | .disconnect _ => inferInstanceAs (Decidable True)

/-- The reservations for one device are all under one id. -/
def Uniform (w : Reservations) : Prop :=
  ∀ r ∈ w.granted, ∀ s ∈ w.granted, r.released = false → s.released = false →
    Go.parseUint r.deviceID = Go.parseUint s.deviceID → r.deviceID = s.deviceID

theorem Uniform.release (h : w.Uniform) (n : ℕ) : (w.release n).Uniform := by
  unfold Reservations.release
  split
  · exact h
  next r hn =>
    split
    · exact h
    next hr =>
      have hold : ∀ s ∈ (w.giveBack n r).granted, s.released = false → s ∈ w.granted := by
        intro s hs hlive
        obtain hmem | rfl := List.mem_or_eq_of_mem_set hs
        · exact hmem
        · cases hlive
      intro s hs t ht hslive htlive
      exact h s (hold s hs hslive) t (hold t ht htlive) hslive htlive

theorem Uniform.reserve (h : w.Uniform) {topic deviceID : String}
    (hone : ∀ r ∈ w.granted, r.released = false →
      Go.parseUint r.deviceID = Go.parseUint deviceID → r.deviceID = deviceID) :
    (w.reserve topic deviceID).2.Uniform := by
  unfold Reservations.reserve
  split
  · exact h
  · split
    · exact h
    · intro s hs t ht hslive htlive hst
      obtain hs | hs := List.mem_append.mp hs <;> obtain ht | ht := List.mem_append.mp ht
      · exact h s hs t ht hslive htlive hst
      · rw [List.mem_singleton.mp ht] at hst ⊢
        exact hone s hs hslive hst
      · rw [List.mem_singleton.mp hs] at hst ⊢
        exact (hone t ht htlive hst.symm).symm
      · rw [List.mem_singleton.mp hs, List.mem_singleton.mp ht]

theorem Uniform.serve (h : w.Uniform) {visit : Visit} (hone : w.OneSpelling visit) :
    (w.serve visit).Uniform := by
  obtain heq | ⟨n, heq⟩ | ⟨raw, base, connected, rfl, heq⟩ := serve_cases w visit
  · rwa [heq]
  · rw [heq]
    exact h.release n
  · rw [heq]
    exact h.reserve hone

/-- The reservations for a device are all counted under one of its spellings. -/
theorem Uniform.exists_deviceID (h : w.Uniform) (device : ℕ) :
    ∃ deviceID, w.live (ofDevice device) ≤ w.live (ofDeviceID deviceID) := by
  obtain hzero | hpos := Nat.eq_zero_or_pos (w.live (ofDevice device))
  · exact ⟨"", by omega⟩
  · obtain ⟨r, hr, hdevice⟩ := List.countP_pos_iff.mp hpos
    simp only [ofDevice, Bool.and_eq_true, Bool.not_eq_true', decide_eq_true_eq] at hdevice
    refine ⟨r.deviceID, List.countP_mono_left fun s hs hsdevice ↦ ?_⟩
    simp only [ofDevice, Bool.and_eq_true, Bool.not_eq_true', decide_eq_true_eq] at hsdevice ⊢
    have hid : s.deviceID = r.deviceID :=
      h s hs r hr hsdevice.1 hdevice.1 (hsdevice.2.trans hdevice.2.symm)
    have hne : s.deviceID ≠ "" := by
      intro hempty
      rw [hempty, Go.parseUint_empty] at hsdevice
      cases hsdevice.2
    exact ⟨hsdevice.1, ofDeviceID_iff.mpr ⟨hne, hid⟩⟩

theorem counted (maxPerTopic maxPerDevice : ℤ) (calls : List HubCall) :
    (calls.foldl step (new maxPerTopic maxPerDevice)).Counted ∧
      (calls.foldl step (new maxPerTopic maxPerDevice)).HasCaps maxPerTopic maxPerDevice :=
  Run.always (I := fun w : Reservations ↦ w.Counted ∧ w.HasCaps maxPerTopic maxPerDevice)
    (fun _ call h ↦ ⟨h.1.step call, h.2.step call⟩)
    ⟨Counted.new maxPerTopic maxPerDevice, rfl, rfl⟩ _ (Run.foldl_mem_states _ calls)

/-- As long as every device goes by one spelling, its cap holds for the device itself. -/
theorem device_capped {maxPerTopic maxPerDevice : ℤ} {visits : List Visit}
    (hone : Run.Guarded serve OneSpelling (new maxPerTopic maxPerDevice) visits)
    (hcap : 0 < maxPerDevice) (device : ℕ) :
    ((visits.foldl serve (new maxPerTopic maxPerDevice)).live (ofDevice device) : ℤ) ≤
      maxPerDevice := by
  have hstart : (new maxPerTopic maxPerDevice).Uniform := fun r hr ↦ nomatch hr
  have hrun := Run.invariant
    (I := fun w ↦ w.Uniform ∧ w.Counted ∧ w.HasCaps maxPerTopic maxPerDevice)
    (fun w visit h hvisit ↦ ⟨h.1.serve hvisit, h.2.1.serve visit, h.2.2.serve visit⟩)
    ⟨hstart, Counted.new _ _, rfl, rfl⟩ hone _ (Run.foldl_mem_states _ visits)
  obtain ⟨huniform, hcounted, -, hmax⟩ := hrun
  obtain ⟨deviceID, hle⟩ := huniform.exists_deviceID device
  have hdevice := hcounted.deviceCap (by omega) deviceID
  omega

theorem reservations_counted_and_capped (maxPerTopic maxPerDevice : ℤ) (calls : List HubCall)
    (visits : List Visit)
    (hone : Run.Guarded serve OneSpelling (new maxPerTopic maxPerDevice) visits) :
    (let w := calls.foldl step (new maxPerTopic maxPerDevice)
    (∀ topic, w.hub.perTopicCount.get topic = tally (w.live (ofTopic topic)) ∧
      (0 < maxPerTopic → (w.live (ofTopic topic) : ℤ) ≤ maxPerTopic)) ∧
    ∀ deviceID, w.hub.perDeviceCount.get deviceID = tally (w.live (ofDeviceID deviceID)) ∧
      (0 < maxPerDevice → (w.live (ofDeviceID deviceID) : ℤ) ≤ maxPerDevice)) ∧
    (0 < maxPerDevice → ∀ device,
      ((visits.foldl serve (new maxPerTopic maxPerDevice)).live (ofDevice device) : ℤ) ≤
        maxPerDevice) := by
  obtain ⟨h, htopic, hdevice⟩ := counted maxPerTopic maxPerDevice calls
  refine ⟨⟨fun topic ↦ ⟨h.topics topic, fun hcap ↦ ?_⟩,
    fun deviceID ↦ ⟨h.devices deviceID, fun hcap ↦ ?_⟩⟩, device_capped hone⟩
  · have hle := h.topicCap (by omega) topic
    omega
  · have hle := h.deviceCap (by omega) deviceID
    omega

theorem reservations_counted_and_capped_one :
    let visits : List Visit := [.stream "7" "log:all" true, .stream "7" "ping:a" true]
    ((visits.foldl serve (new 0 1)).live (ofDevice 7) : ℤ) ≤ 1 := by
  intro visits
  have hone : Run.Guarded serve OneSpelling (new 0 1) visits := by decide
  exact (reservations_counted_and_capped 0 1 [] visits hone).2 (by decide) 7

/-- A device that goes by two spellings gets one reservation under each. -/
theorem two_spellings_of_a_device :
    let visits : List Visit := [.stream "1" "log:all" true, .stream "01" "log:all" true]
    ¬((visits.foldl serve (new 0 1)).live (ofDevice 1) : ℤ) ≤ 1 := by
  decide

end Reservations

end Rosmon.Sse
