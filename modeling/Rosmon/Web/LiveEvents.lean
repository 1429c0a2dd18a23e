import Rosmon.Go.Text
import Rosmon.Library.Sequences
import Rosmon.Library.Run
import Mathlib.Algebra.Ring.Nat
import Mathlib.Data.List.Induction

namespace Rosmon.Web.Live

open Go Library

section Url

/-- The bytes that `encodeURIComponent` leaves as they are. -/
def unreserved (b : UInt8) : Bool :=
  (Char.ofNat b.toNat).isAlphanum || b.toNat ∈ "-_.!~*'()".toList.map Char.toNat

def hexDigits : List Char := "0123456789ABCDEF".toList

def encodeURIComponent (s : String) : String :=
  String.ofList ((bytes s).flatMap fun b ↦
    if unreserved b then [Char.ofNat b.toNat]
    else ['%', hexDigits.getD (b.toNat / 16) '0', hexDigits.getD (b.toNat % 16) '0'])

/-- `replace(/\/+$/, '')` -/
def trimSlashes (s : String) : String :=
  String.ofList (s.toList.reverse.dropWhile (· = '/')).reverse

def streamURL (baseURL path token : String) : String :=
  let sep := if '?' ∈ path.toList then "&" else "?"
  trimSlashes baseURL ++ "/api/v1" ++ path ++ sep ++ "access_token=" ++ encodeURIComponent token

example : streamURL "http://a/" "/x?y=1" "t/u" = "http://a/api/v1/x?y=1&access_token=t%2Fu" := by
  decide +kernel

end Url

inductive SSEStatus
  | idle
  | connecting
  | opened
  | closed
  deriving DecidableEq

/-- The variables of one run of the effect. -/
structure Effect where
  path : String
  maxBackoffMs : ℕ
  cancelled : Bool
  attempt : ℕ
  es : Option ℕ
  reconnectTimer : Option ℕ
  deriving DecidableEq

namespace Effect

/-- What a cleanup makes of the variables. -/
def cancel (e : Effect) : Effect := { e with cancelled := true, es := none }

def connect (e : Effect) (source : ℕ) : Effect := { e with es := some source }

def opened (e : Effect) : Effect := { e with attempt := 0 }

def failed (e : Effect) (timer : ℕ) : Effect :=
  { e with es := none, attempt := e.attempt + 1, reconnectTimer := some timer }

end Effect

inductive ReadyState
  | connecting
  | opened
  | closed
  deriving DecidableEq

structure EventSource where
  url : String
  names : List String
  effect : ℕ
  readyState : ReadyState
  deriving DecidableEq

/-- How often a message is handled. -/
def EventSource.calls (s : EventSource) (type : String) : ℕ :=
  (if type = "message" then 1 else 0) + if type ∈ s.names then 1 else 0

inductive TimerState
  | pending
  | fired
  | cleared
  deriving DecidableEq

structure Timer where
  effect : ℕ
  delay : ℕ
  state : TimerState
  deriving DecidableEq

/-- A component with the hook: the runs of its effect and the one that has not been cleaned up,
the sources and the timers that the browser has made for it, and the calls of `onEvent`, each with
the path it is about. -/
structure Page (δ : Type) where
  effects : List Effect
  mounted : Option ℕ
  sources : List EventSource
  timers : List Timer
  status : SSEStatus
  error : Bool
  delivered : List (String × δ)

/-- What the refs hold when a connection is made. -/
structure Refs where
  token : String
  events : List String

/-- What can happen to a page. An effect runs when its path or its bound has changed; a message
comes with what `JSON.parse` makes of its data. -/
inductive Act (δ : Type)
  | effect (path : Option String) (maxBackoffMs : ℕ) (refs : Refs)
  | unmount
  | opened (source : ℕ)
  | message (source : ℕ) (type : String) (data : Option δ)
  | failed (source : ℕ)
  | timeout (timer : ℕ) (refs : Refs)

namespace Page

variable {δ : Type}

def new : Page δ := ⟨[], none, [], [], .idle, false, []⟩

variable (baseURL : String)

def connect (k : ℕ) (refs : Refs) (p : Page δ) : Page δ :=
  match p.effects[k]? with
  | none => p
  | some e =>
    if e.cancelled then p
    else
      { p with
        status := .connecting
        sources := p.sources ++
          [⟨streamURL baseURL e.path refs.token, refs.events, k, .connecting⟩]
        effects := p.effects.set k (e.connect p.sources.length) }

def closeSource (i : ℕ) (p : Page δ) : Page δ :=
  { p with sources := p.sources.modify i fun s ↦ { s with readyState := .closed } }

def clearTimer (i : ℕ) (p : Page δ) : Page δ :=
  { p with timers := p.timers.modify i fun t ↦
    if t.state = .pending then { t with state := .cleared } else t }

/-- What the effect has returned. -/
def cleanup (p : Page δ) : Page δ :=
  match p.mounted with
  | none => p
  | some k => match p.effects[k]? with
    | none => { p with mounted := none }
    | some e =>
      let p := { p with mounted := none, effects := p.effects.set k e.cancel }
      let p := e.reconnectTimer.elim p p.clearTimer
      e.es.elim p p.closeSource

/-- The effect without the return of its cleanup. -/
def runEffect (path : Option String) (maxBackoffMs : ℕ) (refs : Refs) (p : Page δ) : Page δ :=
  match path with
  | none => { p with status := .idle, error := false }
  | some path =>
    if path = "" then { p with status := .idle, error := false }
    else
      let q : Page δ :=
        { p with
          mounted := some p.effects.length
          effects := p.effects ++ [⟨path, maxBackoffMs, false, 0, none, none⟩] }
      q.connect baseURL p.effects.length refs

/-- `es.onopen` -/
def onOpen (k : ℕ) (p : Page δ) : Page δ :=
  match p.effects[k]? with
  | none => p
  | some e =>
    if e.cancelled then p
    else
      { p with effects := p.effects.set k e.opened, status := .opened, error := false }

/-- `handle`, which is called by `onmessage` and by the listener of a name. -/
def handle (k calls : ℕ) (data : Option δ) (p : Page δ) : Page δ :=
  match p.effects[k]?, data with
  | some e, some data =>
    if e.cancelled then p
    else { p with delivered := p.delivered ++ List.replicate calls (e.path, data) }
  | _, _ => p

/-- `es.onerror` -/
def onError (k : ℕ) (p : Page δ) : Page δ :=
  match p.effects[k]? with
  | none => p
  | some e =>
    if e.cancelled then p
    else
      let p := e.es.elim p p.closeSource
      { p with
        status := .closed
        error := true
        timers := p.timers ++ [⟨k, min (1000 * 2 ^ e.attempt) e.maxBackoffMs, .pending⟩]
        effects := p.effects.set k (e.failed p.timers.length) }

/-- Once it has been closed, a source has no more events, and a timer fires once. -/
def step (p : Page δ) : Act δ → Page δ
  | .effect path maxBackoffMs refs => p.cleanup.runEffect baseURL path maxBackoffMs refs
  | .unmount => p.cleanup
  | .opened i => match p.sources[i]? with
    | none => p
    | some s =>
      if s.readyState = .connecting then
        { p with sources := p.sources.set i { s with readyState := .opened } }.onOpen s.effect
      else p
  | .message i type data => match p.sources[i]? with
    | none => p
    | some s =>
      if s.readyState = .opened then p.handle s.effect (s.calls type) data else p
  | .failed i => match p.sources[i]? with
    | none => p
    | some s => if s.readyState = .closed then p else p.onError s.effect
  | .timeout i refs => match p.timers[i]? with
    | none => p
    | some t =>
      if t.state = .pending then
        { p with timers := p.timers.set i { t with state := .fired } }.connect baseURL t.effect refs
      else p

section Connections

variable {p : Page δ} {k i : ℕ} {e : Effect}

/-- Nothing is open and nothing is to come. -/
structure Quiet (p : Page δ) : Prop where
  mounted : p.mounted = none
  effects : ∀ e ∈ p.effects, e.cancelled = true
  sources : ∀ s ∈ p.sources, s.readyState = .closed
  timers : ∀ t ∈ p.timers, t.state ≠ .pending

/-- The run of the effect that has not been cleaned up. -/
structure Mounted (p : Page δ) (k : ℕ) (e : Effect) : Prop where
  mounted : p.mounted = some k
  effect : p.effects[k]? = some e
  active : e.cancelled = false
  others : ∀ (j : ℕ) (e' : Effect), p.effects[j]? = some e' → j ≠ k → e'.cancelled = true

/-- The run has one source, which is the only one that has not been closed. -/
structure Connected (p : Page δ) (k : ℕ) (e : Effect) (i : ℕ) (s : EventSource) : Prop
    extends p.Mounted k e where
  es : e.es = some i
  url : ∃ token, s.url = streamURL baseURL e.path token
  source : p.sources[i]? = some s
  owner : s.effect = k
  opened : s.readyState ≠ .closed
  alone : ∀ (j : ℕ) (s' : EventSource), p.sources[j]? = some s' → j ≠ i → s'.readyState = .closed
  timers : ∀ t ∈ p.timers, t.state ≠ .pending
  status : s.readyState = .connecting ∧ p.status = .connecting ∨
    s.readyState = .opened ∧ p.status = .opened ∧ p.error = false

/-- The run has one timer, which is the only one to come, and waits the longer the more often it
has failed since it was connected. -/
structure Waiting (p : Page δ) (k : ℕ) (e : Effect) (i : ℕ) (t : Timer) : Prop
    extends p.Mounted k e where
  es : e.es = none
  reconnect : e.reconnectTimer = some i
  timer : p.timers[i]? = some t
  owner : t.effect = k
  pending : t.state = .pending
  alone : ∀ (j : ℕ) (t' : Timer), p.timers[j]? = some t' → j ≠ i → t'.state ≠ .pending
  sources : ∀ s ∈ p.sources, s.readyState = .closed
  status : p.status = .closed ∧ p.error = true
  failed : 0 < e.attempt
  delay : t.delay = min (1000 * 2 ^ (e.attempt - 1)) e.maxBackoffMs

inductive Sane (p : Page δ) : Prop
  | quiet (h : p.Quiet)
  | connected {k : ℕ} {e : Effect} {i : ℕ} {s : EventSource} (h : p.Connected baseURL k e i s)
  | waiting {k : ℕ} {e : Effect} {i : ℕ} {t : Timer} (h : p.Waiting k e i t)

variable {baseURL}

/-- A list with one element in another place. -/
theorem getElem?_set_cases {α : Type} {l : List α} {a b : α} {k j : ℕ}
    (h : (l.set k a)[j]? = some b) : j = k ∧ b = a ∨ j ≠ k ∧ l[j]? = some b := by
  by_cases hj : j = k
  · subst hj
    rw [List.getElem?_set_self' ] at h
    obtain ⟨-, -, rfl⟩ := Option.map_eq_some_iff.mp h
    exact .inl ⟨rfl, rfl⟩
  · rw [List.getElem?_set_ne (Ne.symm hj)] at h
    exact .inr ⟨hj, h⟩

theorem Mounted.set (h : p.Mounted k e) {e' : Effect} (hactive : e'.cancelled = false)
    {q : Page δ} (hmounted : q.mounted = p.mounted) (heffects : q.effects = p.effects.set k e') :
    q.Mounted k e' where
  mounted := hmounted.trans h.mounted
  effect := by
    rw [heffects]
    exact List.getElem?_set_self (List.getElem?_eq_some_iff.mp h.effect).1
  active := hactive
  others j e₀ he₀ hj := by
    rw [heffects] at he₀
    obtain ⟨rfl, -⟩ | ⟨-, hold⟩ := getElem?_set_cases he₀
    · exact absurd rfl hj
    · exact h.others j e₀ hold hj

/-- Where nothing else is open, a run that connects has the only connection. -/
theorem Mounted.connect (h : p.Mounted k e) (hsources : ∀ s ∈ p.sources, s.readyState = .closed)
    (htimers : ∀ t ∈ p.timers, t.state ≠ .pending) (refs : Refs) :
    (p.connect baseURL k refs).Sane baseURL := by
  have hconnect : p.connect baseURL k refs =
      { p with
        status := .connecting
        sources := p.sources ++
          [⟨streamURL baseURL e.path refs.token, refs.events, k, .connecting⟩]
        effects := p.effects.set k (e.connect p.sources.length) } := by
    simp only [Page.connect, h.effect, h.active]
    rfl
  have hmounted : (p.connect baseURL k refs).Mounted k (e.connect p.sources.length) := by
    have hactive : (e.connect p.sources.length).cancelled = false := h.active
    rw [hconnect]
    exact h.set hactive rfl rfl
  rw [hconnect] at hmounted ⊢
  refine .connected (i := p.sources.length)
    { toMounted := hmounted
      es := rfl
      url := ⟨refs.token, rfl⟩
      source := List.getElem?_concat_length
      owner := rfl
      opened := by simp
      alone := fun j s' hs' hj ↦ ?_
      timers := htimers
      status := .inl ⟨rfl, rfl⟩ }
  have hlt : j < p.sources.length := by
    have hlength := (List.getElem?_eq_some_iff.mp hs').1
    simp only [List.length_append, List.length_singleton] at hlength
    omega
  rw [List.getElem?_append_left hlt] at hs'
  exact hsources s' (List.mem_of_getElem? hs')

theorem Quiet.runEffect (h : p.Quiet) (path : Option String) (maxBackoffMs : ℕ) (refs : Refs) :
    (p.runEffect baseURL path maxBackoffMs refs).Sane baseURL := by
  have hidle : Sane baseURL { p with status := .idle, error := false } :=
    .quiet ⟨h.mounted, h.effects, h.sources, h.timers⟩
  unfold Page.runEffect
  split
  · exact hidle
  next path =>
    split
    · exact hidle
    · have hmounted : Mounted
          { p with
            mounted := some p.effects.length
            effects := p.effects ++ [⟨path, maxBackoffMs, false, 0, none, none⟩] }
          p.effects.length ⟨path, maxBackoffMs, false, 0, none, none⟩ :=
        { mounted := rfl
          effect := List.getElem?_concat_length
          active := rfl
          others := fun j e' he' hj ↦ by
            have hlt : j < p.effects.length := by
              have hlength := (List.getElem?_eq_some_iff.mp he').1
              simp only [List.length_append, List.length_singleton] at hlength
              omega
            rw [List.getElem?_append_left hlt] at he'
            exact h.effects e' (List.mem_of_getElem? he') }
      exact hmounted.connect h.sources h.timers refs

/-- What is left of a page whose run has been cleaned up. -/
theorem Mounted.effects_cleanup (h : p.Mounted k e) :
    ∀ e' ∈ p.effects.set k e.cancel, e'.cancelled = true := by
  intro e' he'
  obtain ⟨j, hj⟩ := List.mem_iff_getElem?.mp he'
  obtain ⟨-, rfl⟩ | ⟨hne, hold⟩ := getElem?_set_cases hj
  · rfl
  · exact h.others j e' hold hne

theorem mem_modify_close {l : List EventSource}
    (halone : ∀ (j : ℕ) (s : EventSource), l[j]? = some s → j ≠ i → s.readyState = .closed) :
    ∀ s ∈ l.modify i fun s ↦ { s with readyState := .closed }, s.readyState = .closed := by
  intro s hs
  obtain ⟨j, hj⟩ := List.mem_iff_getElem?.mp hs
  rw [List.getElem?_modify] at hj
  obtain ⟨s₀, hs₀, rfl⟩ := Option.map_eq_some_iff.mp hj
  by_cases hij : i = j
  · rw [if_pos hij]
  · rw [if_neg hij]
    exact halone j s₀ hs₀ (Ne.symm hij)

theorem mem_modify_clear {l : List Timer}
    (halone : ∀ (j : ℕ) (t : Timer), l[j]? = some t → j ≠ i → t.state ≠ .pending) :
    ∀ t ∈ l.modify i fun t ↦ if t.state = .pending then { t with state := .cleared } else t,
      t.state ≠ .pending := by
  intro t ht
  obtain ⟨j, hj⟩ := List.mem_iff_getElem?.mp ht
  rw [List.getElem?_modify] at hj
  obtain ⟨t₀, ht₀, rfl⟩ := Option.map_eq_some_iff.mp hj
  by_cases hij : i = j
  · rw [if_pos hij]
    split
    · simp
    next hstate => exact hstate
  · rw [if_neg hij]
    exact halone j t₀ ht₀ (Ne.symm hij)

theorem Connected.cleanup {s : EventSource} (h : p.Connected baseURL k e i s) :
    p.cleanup.Quiet := by
  have htimers : ∀ j, ∀ t ∈ p.timers.modify j fun t ↦
      if t.state = .pending then { t with state := .cleared } else t, t.state ≠ .pending :=
    fun j ↦ mem_modify_clear fun _ t ht _ ↦ h.timers t (List.mem_of_getElem? ht)
  simp only [Page.cleanup, h.mounted, h.effect, h.es, Option.elim_some]
  cases hreconnect : e.reconnectTimer with
  | none => exact ⟨rfl, h.effects_cleanup, mem_modify_close h.alone, h.timers⟩
  | some j => exact ⟨rfl, h.effects_cleanup, mem_modify_close h.alone, htimers j⟩

theorem Waiting.cleanup {t : Timer} (h : p.Waiting k e i t) : p.cleanup.Quiet := by
  simp only [Page.cleanup, h.mounted, h.effect, h.es, h.reconnect, Option.elim_some,
    Option.elim_none]
  exact ⟨rfl, h.effects_cleanup, h.sources, mem_modify_clear h.alone⟩

theorem Sane.cleanup (h : p.Sane baseURL) : p.cleanup.Quiet := by
  cases h with
  | quiet h =>
    unfold Page.cleanup
    rw [h.mounted]
    exact h
  | connected h => exact h.cleanup
  | waiting h => exact h.cleanup

section Sources

variable {s : EventSource} {j : ℕ} {s' : EventSource}

/-- A source that is not closed is the one of the run. -/
theorem Connected.eq_source (h : p.Connected baseURL k e i s) (hs' : p.sources[j]? = some s')
    (hopened : s'.readyState ≠ .closed) : j = i ∧ s' = s := by
  have hji : j = i := by
    by_contra hne
    exact hopened (h.alone j s' hs' hne)
  subst hji
  exact ⟨rfl, Option.some.inj (hs'.symm.trans h.source)⟩

theorem Sane.eq_source (h : p.Sane baseURL) (hs' : p.sources[j]? = some s')
    (hopened : s'.readyState ≠ .closed) : ∃ k e, p.Connected baseURL k e j s' := by
  cases h with
  | quiet h => exact absurd (h.sources s' (List.mem_of_getElem? hs')) hopened
  | waiting h => exact absurd (h.sources s' (List.mem_of_getElem? hs')) hopened
  | connected h =>
    obtain ⟨rfl, rfl⟩ := h.eq_source hs' hopened
    exact ⟨_, _, h⟩

theorem Sane.eq_timer (h : p.Sane baseURL) {t : Timer} (ht : p.timers[j]? = some t)
    (hpending : t.state = .pending) : ∃ k e, p.Waiting k e j t := by
  cases h with
  | quiet h => exact absurd hpending (h.timers t (List.mem_of_getElem? ht))
  | connected h => exact absurd hpending (h.timers t (List.mem_of_getElem? ht))
  | @waiting k e i t₀ h =>
    have hji : j = i := by
      by_contra hne
      exact h.alone j t ht hne hpending
    subst hji
    obtain rfl := Option.some.inj (ht.symm.trans h.timer)
    exact ⟨k, e, h⟩

theorem Connected.onOpen (h : p.Connected baseURL k e i s) :
    Sane baseURL (Page.onOpen k
      { p with sources := p.sources.set i { s with readyState := .opened } }) := by
  have hi := (List.getElem?_eq_some_iff.mp h.source).1
  have hactive : e.opened.cancelled = false := h.active
  simp only [Page.onOpen, h.effect, h.active, Bool.false_eq_true, if_false]
  refine .connected (s := { s with readyState := .opened })
    { toMounted := h.toMounted.set hactive rfl rfl
      es := h.es
      url := h.url
      source := List.getElem?_set_self hi
      owner := h.owner
      opened := by simp
      alone := fun j s' hs' hj ↦ ?_
      timers := h.timers
      status := .inr ⟨rfl, rfl, rfl⟩ }
  obtain ⟨rfl, -⟩ | ⟨-, hold⟩ := getElem?_set_cases hs'
  · exact absurd rfl hj
  · exact h.alone j s' hold hj

theorem Connected.onError (h : p.Connected baseURL k e i s) : (p.onError k).Sane baseURL := by
  have hactive : (e.failed p.timers.length).cancelled = false := h.active
  simp only [Page.onError, h.effect, h.active, h.es, Option.elim_some, Bool.false_eq_true, if_false]
  refine .waiting (i := p.timers.length)
    { toMounted := h.toMounted.set hactive rfl rfl
      es := rfl
      reconnect := rfl
      timer := List.getElem?_concat_length
      owner := rfl
      pending := rfl
      alone := fun j t ht hj ↦ ?_
      sources := mem_modify_close h.alone
      status := ⟨rfl, rfl⟩
      failed := Nat.succ_pos _
      delay := rfl }
  have hlt : j < p.timers.length := by
    have hlength := (List.getElem?_eq_some_iff.mp ht).1
    simp only [Page.closeSource, List.length_append, List.length_singleton] at hlength
    omega
  simp only [Page.closeSource, List.getElem?_append_left hlt] at ht
  exact h.timers t (List.mem_of_getElem? ht)

theorem Connected.deliver (h : p.Connected baseURL k e i s) (delivered : List (String × δ)) :
    Connected baseURL { p with delivered } k e i s :=
  ⟨⟨h.mounted, h.effect, h.active, h.others⟩, h.es, h.url, h.source, h.owner, h.opened, h.alone,
    h.timers, h.status⟩

theorem Connected.handle (h : p.Connected baseURL k e i s) (calls : ℕ) (data : Option δ) :
    Connected baseURL (Page.handle k calls data p) k e i s := by
  cases data with
  | none =>
    simp only [Page.handle, h.effect]
    exact h
  | some data =>
    simp only [Page.handle, h.effect, h.active, Bool.false_eq_true, if_false]
    exact h.deliver _

theorem Waiting.reconnecting {t : Timer} (h : p.Waiting k e i t) (refs : Refs) :
    Sane baseURL (Page.connect baseURL k refs
      { p with timers := p.timers.set i { t with state := .fired } }) := by
  have hmounted : Mounted { p with timers := p.timers.set i { t with state := .fired } } k e :=
    ⟨h.mounted, h.effect, h.active, h.others⟩
  refine hmounted.connect h.sources (fun t' ht' ↦ ?_) refs
  obtain ⟨j, hj⟩ := List.mem_iff_getElem?.mp ht'
  obtain ⟨-, rfl⟩ | ⟨hne, hold⟩ := getElem?_set_cases hj
  · simp
  · exact h.alone j t' hold hne

end Sources

theorem Sane.step (h : p.Sane baseURL) (a : Act δ) : (p.step baseURL a).Sane baseURL := by
  cases a with
  | effect path maxBackoffMs refs => exact h.cleanup.runEffect path maxBackoffMs refs
  | unmount => exact .quiet h.cleanup
  | opened j =>
    simp only [Page.step]
    split
    · exact h
    next s hs =>
      split
      next hstate =>
        obtain ⟨k, e, hc⟩ := h.eq_source hs (by simp [hstate])
        obtain rfl := hc.owner
        exact hc.onOpen
      · exact h
  | message j type data =>
    simp only [Page.step]
    split
    · exact h
    next s hs =>
      split
      next hstate =>
        obtain ⟨k, e, hc⟩ := h.eq_source hs (by simp [hstate])
        obtain rfl := hc.owner
        exact .connected (hc.handle _ data)
      · exact h
  | failed j =>
    simp only [Page.step]
    split
    · exact h
    next s hs =>
      split
      · exact h
      next hstate =>
        obtain ⟨k, e, hc⟩ := h.eq_source hs hstate
        obtain rfl := hc.owner
        exact hc.onError
  | timeout j refs =>
    simp only [Page.step]
    split
    · exact h
    next t ht =>
      split
      next hstate =>
        obtain ⟨k, e, hw⟩ := h.eq_timer ht hstate
        obtain rfl := hw.owner
        exact hw.reconnecting refs
      · exact h

theorem sane (acts : List (Act δ)) : (acts.foldl (step baseURL) new).Sane baseURL := by
  have hnew : (new : Page δ).Sane baseURL := by
    refine .quiet ⟨rfl, fun _ h ↦ ?_, fun _ h ↦ ?_, fun _ h ↦ ?_⟩
    all_goals exact absurd h List.not_mem_nil
  exact Run.always (fun _ a h ↦ h.step a) hnew _ (Run.foldl_mem_states _ acts)

end Connections

section OneConnection

variable {baseURL : String} {p : Page δ} {k i : ℕ} {e : Effect}

/-- The sources that can still have an event. -/
def live (p : Page δ) : List EventSource := p.sources.filter (·.readyState ≠ .closed)

def waiting (p : Page δ) : List Timer := p.timers.filter (·.state = .pending)

theorem live_eq_nil (h : ∀ s ∈ p.sources, s.readyState = .closed) : p.live = [] := by
  refine List.filter_eq_nil_iff.mpr fun s hs ↦ ?_
  simp [h s hs]

theorem waiting_eq_nil (h : ∀ t ∈ p.timers, t.state ≠ .pending) : p.waiting = [] := by
  refine List.filter_eq_nil_iff.mpr fun t ht ↦ ?_
  simp [h t ht]

theorem Connected.live_eq {s : EventSource} (h : p.Connected baseURL k e i s) : p.live = [s] := by
  refine filter_eq_singleton h.source (by simpa using h.opened) fun j s' hs' hj ↦ ?_
  simp [h.alone j s' hs' hj]

theorem Waiting.waiting_eq {t : Timer} (h : p.Waiting k e i t) : p.waiting = [t] := by
  refine filter_eq_singleton h.timer (by simp [h.pending]) fun j t' ht' hj ↦ ?_
  simpa using h.alone j t' ht' hj

/-- Whatever happens to a page, it has no connection and no timer that has not been cleaned up;
while the hook is mounted it has exactly one connection, which asks for the mounted path, or
exactly one timer, and the status tells which. -/
theorem one_connection (acts : List (Act δ)) :
    let p := acts.foldl (step baseURL) new
    (p.mounted = none → p.live = [] ∧ p.waiting = []) ∧
    ∀ k, p.mounted = some k → ∃ e, p.effects[k]? = some e ∧
      ((∃ s, p.live = [s] ∧ p.waiting = [] ∧ (∃ token, s.url = streamURL baseURL e.path token) ∧
          (p.status = .opened ↔ s.readyState = .opened) ∧
          (p.status = .connecting ↔ s.readyState = .connecting)) ∨
        ∃ t, p.live = [] ∧ p.waiting = [t] ∧ p.status = .closed ∧ p.error = true ∧
          0 < e.attempt ∧ t.delay = min (1000 * 2 ^ (e.attempt - 1)) e.maxBackoffMs) := by
  intro p
  have hsane : p.Sane baseURL := sane acts
  cases hsane with
  | quiet h =>
    refine ⟨fun _ ↦ ⟨live_eq_nil h.sources, waiting_eq_nil h.timers⟩, fun k hk ↦ ?_⟩
    rw [h.mounted] at hk
    cases hk
  | @connected k e i s h =>
    refine ⟨fun hnone ↦ ?_, fun k' hk' ↦ ?_⟩
    · rw [h.mounted] at hnone
      cases hnone
    · obtain rfl : k = k' := Option.some.inj (h.mounted.symm.trans hk')
      refine ⟨e, h.effect, .inl ⟨s, h.live_eq, waiting_eq_nil h.timers, h.url, ?_, ?_⟩⟩
      · rcases h.status with ⟨hs, hp⟩ | ⟨hs, hp, -⟩ <;> simp [hs, hp]
      · rcases h.status with ⟨hs, hp⟩ | ⟨hs, hp, -⟩ <;> simp [hs, hp]
  | @waiting k e i t h =>
    refine ⟨fun hnone ↦ ?_, fun k' hk' ↦ ?_⟩
    · rw [h.mounted] at hnone
      cases hnone
    · obtain rfl : k = k' := Option.some.inj (h.mounted.symm.trans hk')
      exact ⟨e, h.effect, .inr ⟨t, live_eq_nil h.sources, h.waiting_eq, h.status.1, h.status.2,
        h.failed, h.delay⟩⟩

end OneConnection

section Current

variable {baseURL : String} {p : Page δ} {k i : ℕ} {e : Effect}

/-- The path that the hook is mounted on after some acts. -/
def current (acts : List (Act δ)) : Option String :=
  acts.foldl (fun cur a ↦ match a with
    | .effect path _ _ => path.filter (· ≠ "")
    | .unmount => none
    | _ => cur) none

def path (p : Page δ) : Option String := p.mounted.bind fun k ↦ p.effects[k]?.map (·.path)

theorem path_congr {q : Page δ} (hmounted : q.mounted = p.mounted) {e' : Effect}
    (he : p.effects[k]? = some e) (heffects : q.effects = p.effects.set k e')
    (hpath : e'.path = e.path) : q.path = p.path := by
  unfold path
  rw [hmounted, heffects]
  congr 1
  funext j
  by_cases hj : j = k
  · subst hj
    rw [List.getElem?_set_self (List.getElem?_eq_some_iff.mp he).1, he]
    exact congrArg some hpath
  · rw [List.getElem?_set_ne (Ne.symm hj)]

theorem path_connect (refs : Refs) : (p.connect baseURL k refs).path = p.path := by
  unfold connect
  split
  · rfl
  next e he =>
    split
    · rfl
    · exact path_congr rfl he rfl rfl

theorem path_onOpen : (p.onOpen k).path = p.path := by
  unfold onOpen
  split
  · rfl
  next e he =>
    split
    · rfl
    · exact path_congr rfl he rfl rfl

theorem path_handle (calls : ℕ) (data : Option δ) : (p.handle k calls data).path = p.path := by
  unfold handle
  split
  · split <;> rfl
  · rfl

theorem path_onError : (p.onError k).path = p.path := by
  unfold onError
  split
  · rfl
  next e he =>
    split
    · rfl
    · cases hes : e.es with
      | none => exact path_congr rfl he rfl rfl
      | some j => exact path_congr rfl he rfl rfl

theorem path_cleanup : p.cleanup.path = none := by
  have hnone : p.cleanup.mounted = none := by
    unfold cleanup
    split
    next hmounted => exact hmounted
    · split
      · rfl
      next e _ => cases e.es <;> cases e.reconnectTimer <;> rfl
  unfold path
  rw [hnone]
  rfl

theorem path_runEffect (hmounted : p.path = none) (path : Option String) (maxBackoffMs : ℕ)
    (refs : Refs) : (p.runEffect baseURL path maxBackoffMs refs).path = path.filter (· ≠ "") := by
  have hidle : Page.path { p with status := .idle, error := false } = none := hmounted
  cases path with
  | none => exact hidle
  | some path =>
    simp only [runEffect]
    split
    next hempty => simpa [Option.filter, hempty] using hidle
    next hne =>
      rw [path_connect]
      simp [Page.path, Option.filter, hne]

theorem path_foldl (acts : List (Act δ)) :
    (acts.foldl (step baseURL) new).path = current acts := by
  induction acts using List.reverseRecOn with
  | nil => rfl
  | append_singleton acts a ih =>
    rw [List.foldl_append, List.foldl_cons, List.foldl_nil, current, List.foldl_append,
      List.foldl_cons, List.foldl_nil]
    rw [current] at ih
    cases a with
    | effect path maxBackoffMs refs => exact path_runEffect path_cleanup path maxBackoffMs refs
    | unmount => exact path_cleanup
    | opened j =>
      rw [← ih]
      simp only [Page.step]
      split
      · rfl
      · split
        · exact path_onOpen
        · rfl
    | message j type data =>
      rw [← ih]
      simp only [Page.step]
      split
      · rfl
      · split
        · exact path_handle _ data
        · rfl
    | failed j =>
      rw [← ih]
      simp only [Page.step]
      split
      · rfl
      · split
        · rfl
        · exact path_onError
    | timeout j refs =>
      rw [← ih]
      simp only [Page.step]
      split
      · rfl
      · split
        · exact path_connect refs
        · rfl

theorem delivered_connect (refs : Refs) :
    (p.connect baseURL k refs).delivered = p.delivered := by
  unfold connect
  split
  · rfl
  · split <;> rfl

theorem delivered_cleanup : p.cleanup.delivered = p.delivered := by
  unfold cleanup
  split
  · rfl
  · split
    · rfl
    next e _ => cases e.es <;> cases e.reconnectTimer <;> rfl

theorem delivered_runEffect (path : Option String) (maxBackoffMs : ℕ) (refs : Refs) :
    (p.runEffect baseURL path maxBackoffMs refs).delivered = p.delivered := by
  cases path with
  | none => rfl
  | some path =>
    simp only [runEffect]
    split
    · rfl
    · exact delivered_connect refs

theorem delivered_onOpen : (p.onOpen k).delivered = p.delivered := by
  unfold onOpen
  split
  · rfl
  · split <;> rfl

theorem handle_none {calls : ℕ} : p.handle k calls none = p := by
  unfold handle
  cases p.effects[k]? <;> rfl

theorem delivered_onError : (p.onError k).delivered = p.delivered := by
  unfold onError
  split
  · rfl
  next e _ =>
    split
    · rfl
    · cases e.es <;> rfl

/-- The act is a message that can be read on a connection that is open. -/
def Hears (p : Page δ) (a : Act δ) (i : ℕ) (type : String) (data : δ) (s : EventSource) : Prop :=
  a = .message i type (some data) ∧ p.sources[i]? = some s ∧ s.readyState = .opened

theorem delivered_of_not_hears {a : Act δ} (h : ∀ i type data s, ¬p.Hears a i type data s) :
    (p.step baseURL a).delivered = p.delivered := by
  cases a with
  | effect path maxBackoffMs refs =>
    exact (delivered_runEffect path maxBackoffMs refs).trans delivered_cleanup
  | unmount => exact delivered_cleanup
  | opened i =>
    simp only [Page.step]
    split
    · rfl
    · split
      · exact delivered_onOpen
      · rfl
  | failed i =>
    simp only [Page.step]
    split
    · rfl
    · split
      · rfl
      · exact delivered_onError
  | timeout i refs =>
    simp only [Page.step]
    split
    · rfl
    · split
      · exact delivered_connect refs
      · rfl
  | message i type data =>
    simp only [Page.step]
    split
    · rfl
    next s hs =>
      split
      next hopened =>
        cases data with
        | none => exact congrArg delivered handle_none
        | some data => exact absurd ⟨rfl, hs, hopened⟩ (h i type data s)
      next => rfl

/-- An event is handed over exactly when it comes on a connection that is open, which then asks
for the path that the hook is mounted on. -/
theorem delivered_current (acts : List (Act δ)) (a : Act δ) :
    let p := acts.foldl (step baseURL) new
    (∀ i type data s, p.Hears a i type data s → ∃ path, current acts = some path ∧
      (∃ token, s.url = streamURL baseURL path token) ∧
      (p.step baseURL a).delivered = p.delivered ++ List.replicate (s.calls type) (path, data)) ∧
    ((∀ i type data s, ¬p.Hears a i type data s) →
      (p.step baseURL a).delivered = p.delivered) := by
  intro p
  have hsane : p.Sane baseURL := sane acts
  have hpath : p.path = current acts := path_foldl acts
  refine ⟨fun i type data s h ↦ ?_, fun h ↦ delivered_of_not_hears h⟩
  obtain ⟨rfl, hs, hopened⟩ := h
  obtain ⟨k, e, hc⟩ := hsane.eq_source hs (by simp [hopened])
  obtain rfl := hc.owner
  have hcurrent : current acts = some e.path := by
    rw [← hpath, path, hc.mounted]
    simp [hc.effect]
  refine ⟨e.path, hcurrent, hc.url, ?_⟩
  simp only [Page.step, hs, hopened, if_true, handle, hc.effect, hc.active, Bool.false_eq_true,
    if_false]

end Current

end Page

end Rosmon.Web.Live
