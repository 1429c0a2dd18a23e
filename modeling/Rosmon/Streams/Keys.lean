import Rosmon.Sse.Reservations
import Rosmon.Streams.Hub

namespace Rosmon.Streams

open Sse (deviceTopic)

/-- A request to a stream endpoint. An interval is what `time.ParseDuration` makes of its
text, `none` if there is no text or no duration in it. -/
inductive Ask
  | hotspotActive (mode : String)
  | hotspotUsers (mode : String)
  | hotspotInactive
  | pppActive
  | pppSecrets (mode : String)
  | pppInactive
  | log (topics : String)
  | systemResource (interval : Option ℤ)
  | interfaceTraffic (name : String)
  | interfaceStats (interval : Option ℤ)
  | queueStats (interval : Option ℤ)
  | queueStatsByName (name : String) (interval : Option ℤ)
  | parentQueueStats (interval : Option ℤ)
  | systemRouterboard (interval : Option ℤ)
  | ping (address : String)
  deriving DecidableEq

/-- `time.Second`, in nanoseconds. -/
def second : ℤ := 1000000000

def parseInterval (interval : Option ℤ) (default : ℤ) : ℤ :=
  match interval with
  | none => default
  | some d => if d ≤ 0 then default else d

theorem parseInterval_pos (interval : Option ℤ) {default : ℤ} (h : 0 < default) :
    0 < parseInterval interval default := by
  unfold parseInterval
  split
  · exact h
  · split <;> omega

/-- The client function that starts the backend of a stream. -/
inductive Starter
  | hotspotActiveStream
  | hotspotActiveStreamFollowOnly
  | userListStream
  | userListStreamFollowOnly
  | hotspotInactiveStream
  | pppActiveStream
  | secretStream
  | secretStreamFollowOnly
  | pppInactiveStream
  | logStream
  | monitorResource
  | interfaceTrafficStream
  | interfaceStatsStream
  | queueStatsStream
  | queueStatsByNameStream
  | monitorRouterboard
  | pingStream
  deriving DecidableEq

/-- A call of such a function, with its text and its interval if it has them. -/
structure Upstream where
  starter : Starter
  text : Option String
  interval : Option ℤ
  deriving DecidableEq

namespace Ask

def upstream : Ask → Upstream
  | hotspotActive mode =>
    if mode = "follow-only" then ⟨.hotspotActiveStreamFollowOnly, none, none⟩
    else ⟨.hotspotActiveStream, none, none⟩
  | hotspotUsers mode =>
    if mode = "follow-only" then ⟨.userListStreamFollowOnly, none, none⟩
    else ⟨.userListStream, none, none⟩
  | hotspotInactive => ⟨.hotspotInactiveStream, none, none⟩
  | pppActive => ⟨.pppActiveStream, none, none⟩
  | pppSecrets mode =>
    if mode = "follow-only" then ⟨.secretStreamFollowOnly, none, none⟩
    else ⟨.secretStream, none, none⟩
  | pppInactive => ⟨.pppInactiveStream, none, none⟩
  | log topics => ⟨.logStream, some topics, none⟩
  | systemResource interval =>
    ⟨.monitorResource, none, some (parseInterval interval (2 * second))⟩
  | interfaceTraffic name => ⟨.interfaceTrafficStream, some name, none⟩
  | interfaceStats interval =>
    ⟨.interfaceStatsStream, none, some (parseInterval interval (2 * second))⟩
  | queueStats interval => ⟨.queueStatsStream, none, some (parseInterval interval second)⟩
  | queueStatsByName name interval =>
    ⟨.queueStatsByNameStream, some name, some (parseInterval interval second)⟩
  -- the parents are picked out of the stream of all queues
  | parentQueueStats interval => ⟨.queueStatsStream, none, some (parseInterval interval second)⟩
  | systemRouterboard interval =>
    ⟨.monitorRouterboard, none, some (parseInterval interval (2 * second))⟩
  | ping address => ⟨.pingStream, some address, none⟩

/-- The endpoint with the text of its interval. -/
def endpoint : Ask → Endpoint
  | hotspotActive mode => .hotspotActive mode
  | hotspotUsers mode => .hotspotUsers mode
  | hotspotInactive => .hotspotInactive
  | pppActive => .pppActive
  | pppSecrets mode => .pppSecrets mode
  | pppInactive => .pppInactive
  | log topics => .log topics
  | systemResource interval =>
    .systemResource (Go.durationString (parseInterval interval (2 * second)))
  | interfaceTraffic name => .interfaceTraffic name
  | interfaceStats interval =>
    .interfaceStats (Go.durationString (parseInterval interval (2 * second)))
  | queueStats interval => .queueStats (Go.durationString (parseInterval interval second))
  | queueStatsByName name interval =>
    .queueStatsByName name (Go.durationString (parseInterval interval second))
  | parentQueueStats interval =>
    .parentQueueStats (Go.durationString (parseInterval interval second))
  | systemRouterboard interval =>
    .systemRouterboard (Go.durationString (parseInterval interval (2 * second)))
  | ping address => .ping address

end Ask

structure Request where
  deviceID : String
  ask : Ask
  deriving DecidableEq

/-- The key under which the hub keeps the broker of a request. -/
def Request.key (r : Request) : String := deviceTopic r.deviceID r.ask.endpoint.base

def Starter.tag : Starter → String
  | hotspotActiveStream => "hotspot-active"
  | hotspotActiveStreamFollowOnly => "hotspot-active-follow-only"
  | userListStream => "hotspot-user"
  | userListStreamFollowOnly => "hotspot-user-follow-only"
  | hotspotInactiveStream => "hotspot-inactive"
  | pppActiveStream => "ppp-active"
  | secretStream => "ppp-secret"
  | secretStreamFollowOnly => "ppp-secret-follow-only"
  | pppInactiveStream => "ppp-inactive"
  | logStream => "log"
  | monitorResource => "resource"
  | interfaceTrafficStream => "traffic"
  | interfaceStatsStream => "interface-stats"
  | queueStatsStream => "queue-stats"
  | queueStatsByNameStream => "queue-stats-name"
  | monitorRouterboard => "routerboard"
  | pingStream => "ping"

theorem Starter.tag_injective : Function.Injective Starter.tag := by
  intro k k' h
  cases k <;> cases k' <;> first | rfl | exact absurd h (by decide)

theorem Starter.colon_notMem_tag (k : Starter) : ':' ∉ k.tag.toList := by
  cases k <;> decide

/-- Whether a function takes a text and whether it takes an interval. -/
def Starter.parameters : Starter → Bool × Bool
  | logStream => (true, false)
  | interfaceTrafficStream => (true, false)
  | pingStream => (true, false)
  | monitorResource => (false, true)
  | interfaceStatsStream => (false, true)
  | queueStatsStream => (false, true)
  | monitorRouterboard => (false, true)
  | queueStatsByNameStream => (true, true)
  | _ => (false, false)

namespace Upstream

structure WellFormed (s : Upstream) : Prop where
  parameters : (s.text.isSome, s.interval.isSome) = s.starter.parameters
  positive : ∀ d ∈ s.interval, 0 < d

/-- A parameter with the colon in front of it. -/
def suffix : Option String → String
  | none => ""
  | some text => ":" ++ text

/-- The tag and the parameters. -/
def render (s : Upstream) : String :=
  s.starter.tag ++ suffix s.text ++ suffix (s.interval.map Go.durationString)

/-- No topics go by the name of all topics. -/
def named (s : Upstream) : Upstream :=
  if s = ⟨.logStream, some "", none⟩ then ⟨.logStream, some "all", none⟩ else s

end Upstream

theorem Ask.wellFormed (a : Ask) : a.upstream.WellFormed := by
  have htwo : ∀ i, 0 < parseInterval i (2 * second) := fun i ↦ parseInterval_pos i (by decide)
  have hone : ∀ i, 0 < parseInterval i second := fun i ↦ parseInterval_pos i (by decide)
  cases a with
  | hotspotActive mode => simp only [Ask.upstream]; split <;> exact ⟨rfl, by simp⟩
  | hotspotUsers mode => simp only [Ask.upstream]; split <;> exact ⟨rfl, by simp⟩
  | pppSecrets mode => simp only [Ask.upstream]; split <;> exact ⟨rfl, by simp⟩
  | _ => exact ⟨rfl, by simp [Ask.upstream, htwo, hone]⟩

theorem Ask.base_eq (a : Ask) : a.endpoint.base = a.upstream.named.render := by
  unfold Endpoint.base
  cases a with
  | hotspotActive mode =>
    by_cases h : mode = "follow-only" <;>
      simp [Ask.upstream, Ask.endpoint, Upstream.named, Upstream.render, Upstream.suffix,
        Starter.tag, h]
  | hotspotUsers mode =>
    by_cases h : mode = "follow-only" <;>
      simp [Ask.upstream, Ask.endpoint, Upstream.named, Upstream.render, Upstream.suffix,
        Starter.tag, h]
  | pppSecrets mode =>
    by_cases h : mode = "follow-only" <;>
      simp [Ask.upstream, Ask.endpoint, Upstream.named, Upstream.render, Upstream.suffix,
        Starter.tag, h]
  | log topics =>
    by_cases h : topics = "" <;>
      simp [Ask.upstream, Ask.endpoint, Upstream.named, Upstream.render, Upstream.suffix,
        Starter.tag, h, ← String.append_assoc]
  | _ =>
    simp [Ask.upstream, Ask.endpoint, Upstream.named, Upstream.render, Upstream.suffix,
      Starter.tag, ← String.append_assoc]

namespace Upstream

theorem suffix_append_head (text interval : Option String) :
    ∀ c ∈ (suffix text ++ suffix interval).toList.head?, c = ':' := by
  intro c hc
  cases text <;> cases interval <;> simp [suffix] at hc
  all_goals exact hc.symm

theorem render_toList (s : Upstream) : s.render.toList =
    s.starter.tag.toList ++ (suffix s.text ++ suffix (s.interval.map Go.durationString)).toList := by
  rw [render, String.append_assoc, String.toList_append]

theorem colon_span {xs ys r t : List Char} (hxs : ':' ∉ xs) (hys : ':' ∉ ys)
    (hr : ∀ c ∈ r.head?, c = ':') (ht : ∀ c ∈ t.head?, c = ':') (h : xs ++ r = ys ++ t) :
    xs = ys ∧ r = t := by
  refine Go.append_inj_of_span (p := fun c ↦ c ≠ ':') (fun c hc ↦ ?_) (fun c hc ↦ ?_)
    (fun c hc ↦ ?_) (fun c hc ↦ ?_) h
  · exact decide_eq_true fun heq ↦ hxs (heq ▸ hc)
  · exact decide_eq_true fun heq ↦ hys (heq ▸ hc)
  · exact decide_eq_false (not_not_intro (hr c hc))
  · exact decide_eq_false (not_not_intro (ht c hc))

/-- The last colon of a text is where the interval starts. -/
theorem append_colon_inj {xs ys ds es : List Char} (hds : ':' ∉ ds) (hes : ':' ∉ es)
    (h : xs ++ ':' :: ds = ys ++ ':' :: es) : xs = ys ∧ ds = es := by
  have hrev := congrArg List.reverse h
  simp only [List.reverse_append, List.reverse_cons, List.append_assoc, List.singleton_append]
    at hrev
  obtain ⟨hd, hx⟩ := colon_span (by simpa using hds) (by simpa using hes) (by simp) (by simp) hrev
  exact ⟨List.reverse_injective (List.cons.inj hx).2, List.reverse_injective hd⟩

theorem render_injective {s t : Upstream} (hs : s.WellFormed) (ht : t.WellFormed)
    (h : s.render = t.render) : s = t := by
  have hlist := congrArg String.toList h
  rw [render_toList, render_toList] at hlist
  obtain ⟨htag, hrest⟩ := colon_span s.starter.colon_notMem_tag t.starter.colon_notMem_tag
    (suffix_append_head _ _) (suffix_append_head _ _) hlist
  have hstarter := Starter.tag_injective (String.toList_inj.mp htag)
  have hparameters := hs.parameters.trans ((congrArg _ hstarter).trans ht.parameters.symm)
  have hpos := hs.positive
  have hpos' := ht.positive
  obtain ⟨starter, text, interval⟩ := s
  obtain ⟨starter', text', interval'⟩ := t
  dsimp only at hrest hstarter hparameters hpos hpos'
  subst hstarter
  cases text <;> cases text' <;> cases interval <;> cases interval' <;> simp at hparameters
  · rfl
  next d e =>
    have hd := hpos d rfl
    have he := hpos' e rfl
    have hinterval : Go.durationString d = Go.durationString e := by
      simpa [suffix, String.toList_inj] using hrest
    rw [Go.durationString_injective hd he hinterval]
  next a b =>
    have htext : a = b := by simpa [suffix, String.toList_inj] using hrest
    rw [htext]
  next a b d e =>
    have hd := hpos d rfl
    have he := hpos' e rfl
    simp only [suffix, Option.map_some, String.toList_append, List.append_assoc] at hrest
    obtain ⟨htext, hinterval⟩ := append_colon_inj (Go.colon_notMem_durationString hd)
      (Go.colon_notMem_durationString he) (List.append_cancel_left hrest)
    rw [String.toList_inj.mp htext,
      Go.durationString_injective hd he (String.toList_inj.mp hinterval)]

/-- The two streams of log entries that go by one name. -/
def Clash (s t : Upstream) : Prop :=
  s = ⟨.logStream, some "", none⟩ ∧ t = ⟨.logStream, some "all", none⟩ ∨
    s = ⟨.logStream, some "all", none⟩ ∧ t = ⟨.logStream, some "", none⟩

theorem named_eq_iff (s t : Upstream) : s.named = t.named ↔ s = t ∨ Clash s t := by
  have hne : (⟨.logStream, some "", none⟩ : Upstream) ≠ ⟨.logStream, some "all", none⟩ := by decide
  unfold named Clash
  split_ifs with hs ht ht
  · simp [hs, ht]
  · subst hs
    constructor
    · intro h
      exact .inr (.inl ⟨rfl, h.symm⟩)
    · intro h
      obtain h | ⟨-, h⟩ | ⟨h, -⟩ := h
      · exact absurd h.symm ht
      · exact h.symm
      · exact absurd h hne
  · subst ht
    constructor
    · intro h
      exact .inr (.inr ⟨h, rfl⟩)
    · intro h
      obtain h | ⟨h, -⟩ | ⟨h, -⟩ := h
      · exact absurd h hs
      · exact absurd h hs
      · exact h
  · simp [hs, ht]

theorem WellFormed.named {s : Upstream} (h : s.WellFormed) : s.named.WellFormed := by
  unfold Upstream.named
  split
  · exact ⟨rfl, by simp⟩
  · exact h

end Upstream

/-- A log request without topics and one for the topics "all". -/
def Ask.LogAll (a b : Ask) : Prop :=
  a = .log "" ∧ b = .log "all" ∨ a = .log "all" ∧ b = .log ""

instance (a b : Ask) : Decidable (a.LogAll b) := inferInstanceAs (Decidable (_ ∨ _))

theorem Ask.upstream_log {a : Ask} {topics : String} :
    a.upstream = ⟨.logStream, some topics, none⟩ ↔ a = .log topics := by
  cases a with
  | hotspotActive mode => by_cases h : mode = "follow-only" <;> simp [Ask.upstream, h]
  | hotspotUsers mode => by_cases h : mode = "follow-only" <;> simp [Ask.upstream, h]
  | pppSecrets mode => by_cases h : mode = "follow-only" <;> simp [Ask.upstream, h]
  | _ => simp [Ask.upstream]

theorem Ask.base_eq_iff (a b : Ask) :
    a.endpoint.base = b.endpoint.base ↔ a.upstream = b.upstream ∨ a.LogAll b := by
  have hclash : Upstream.Clash a.upstream b.upstream ↔ a.LogAll b := by
    simp only [Upstream.Clash, Ask.upstream_log, Ask.LogAll]
  rw [a.base_eq, b.base_eq, ← hclash, ← Upstream.named_eq_iff]
  constructor
  · exact Upstream.render_injective a.wellFormed.named b.wellFormed.named
  · intro h
    rw [h]

/-- The digits of the id end where the first colon stands. -/
theorem deviceTopic_inj {id id' base base' : String} {n n' : ℕ} (hid : Go.parseUint id = some n)
    (hid' : Go.parseUint id' = some n') :
    deviceTopic id base = deviceTopic id' base' ↔ id = id' ∧ base = base' := by
  have hne : ∀ {id : String} {n : ℕ}, Go.parseUint id = some n → id ≠ "" := by
    intro id n h hempty
    rw [hempty, Go.parseUint_empty] at h
    cases h
  have hcolon : ∀ {id : String} {n : ℕ}, Go.parseUint id = some n → ':' ∉ id.toList := by
    intro id n h hmem
    exact absurd (Go.isDigit_of_parseUint h _ hmem) (by decide)
  rw [deviceTopic, deviceTopic, if_neg (hne hid), if_neg (hne hid')]
  constructor
  · intro h
    have hlist := congrArg String.toList h
    simp only [String.toList_append, List.append_assoc] at hlist
    obtain ⟨heq, hrest⟩ := Upstream.colon_span (hcolon hid) (hcolon hid') (by simp) (by simp) hlist
    exact ⟨String.toList_inj.mp heq, String.toList_inj.mp (List.append_cancel_left hrest)⟩
  · rintro ⟨rfl, rfl⟩
    rfl

theorem same_key_iff_same_stream (r r' : Request) (n n' : ℕ)
    (hn : Go.parseUint r.deviceID = some n) (hn' : Go.parseUint r'.deviceID = some n') :
    (r.key = r'.key ↔ n = n' ∧ r.ask.upstream = r'.ask.upstream) ↔
      (n = n' ∧ r.ask.upstream = r'.ask.upstream → r.deviceID = r'.deviceID) ∧
        ¬(r.deviceID = r'.deviceID ∧ r.ask.LogAll r'.ask) := by
  have hsame : r.deviceID = r'.deviceID → n = n' := by
    intro h
    rw [h, hn'] at hn
    exact (Option.some.inj hn).symm
  have hdiffer : r.ask.LogAll r'.ask → r.ask.upstream ≠ r'.ask.upstream := by
    rintro (⟨h, h'⟩ | ⟨h, h'⟩) <;> simp [h, h', Ask.upstream]
  rw [Request.key, Request.key, deviceTopic_inj hn hn', Ask.base_eq_iff]
  constructor
  · intro hkey
    refine ⟨fun h ↦ (hkey.mpr h).1, fun ⟨hid, hlog⟩ ↦ ?_⟩
    exact hdiffer hlog (hkey.mp ⟨hid, .inr hlog⟩).2
  · rintro ⟨hspelling, hlog⟩
    constructor
    · rintro ⟨hid, hstream | hall⟩
      · exact ⟨hsame hid, hstream⟩
      · exact absurd ⟨hid, hall⟩ hlog
    · intro h
      exact ⟨hspelling h, .inl h.2⟩

theorem same_key_iff_same_stream_one :
    let r : Request := ⟨"1", .queueStats none⟩
    let r' : Request := ⟨"1", .parentQueueStats (some second)⟩
    r.key = r'.key := by
  intro r r'
  have h := same_key_iff_same_stream r r' 1 1 (by decide) (by decide)
  exact (h.mpr (by decide)).mpr (by decide)

/-- One stream under two keys, and two streams under one key. -/
theorem keys_of_two_spellings :
    (Request.key ⟨"1", .pppActive⟩ ≠ Request.key ⟨"01", .pppActive⟩ ∧
      Go.parseUint "1" = Go.parseUint "01") ∧
    Request.key ⟨"1", .log ""⟩ = Request.key ⟨"1", .log "all"⟩ ∧
      (Ask.log "").upstream ≠ (Ask.log "all").upstream := by
  decide

end Rosmon.Streams
