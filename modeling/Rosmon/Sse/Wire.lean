import Rosmon.Sse.Delivery

namespace Rosmon.Sse

variable {δ : Type}

section Write

/-- What `json.Marshal` makes of the data of events, if it does not fail. -/
abbrev Marshal (δ : Type) := δ → Option (List Char)

variable (marshal : Marshal δ)

def payload (e : Event δ) : List Char :=
  (marshal e.data).getD "\x7b\"error\":\"marshal failed\"\x7d".toList

def field (name value : List Char) : List Char := name ++ [':', ' '] ++ value ++ ['\n']

def writeEvent (e : Event δ) : List Char :=
  (if e.type ≠ "" then field "event".toList e.type.toList else []) ++
    (if e.id ≠ "" then field "id".toList e.id.toList else []) ++
      field "data".toList (payload marshal e) ++ ['\n']

/-- What the loop of `streamWith` writes, one after the other. -/
inductive Item (δ : Type)
  | event (e : Event δ)
  | keepalive

def Item.event? : Item δ → Option (Event δ)
  | event e => some e
  | keepalive => none

def Item.write : Item δ → List Char
  | event e => writeEvent marshal e
  | keepalive => ':' :: " keepalive".toList ++ ['\n'] ++ ['\n']

end Write

section Read

/-- An event as the page gets it. -/
structure Message where
  type : List Char
  data : List Char
  lastEventID : List Char
  deriving DecidableEq

/-- An `EventSource` in the middle of a stream: the line it is reading, whether that comes after
a carriage return, its buffers, and what it has dispatched. -/
structure Source where
  line : List Char
  afterReturn : Bool
  type : List Char
  data : List Char
  lastEventID : List Char
  messages : List Message

namespace Source

def start : Source := ⟨[], false, [], [], [], []⟩

/-- At an empty line. -/
def dispatch (s : Source) : Source :=
  if s.data = [] then { s with type := [] }
  else
    { s with
      type := []
      data := []
      messages := s.messages ++
        [⟨if s.type = [] then "message".toList else s.type,
          if s.data.getLast? = some '\n' then s.data.dropLast else s.data, s.lastEventID⟩] }

def setField (s : Source) (name value : List Char) : Source :=
  if name = "event".toList then { s with type := value }
  else if name = "data".toList then { s with data := s.data ++ value ++ ['\n'] }
  else if name = "id".toList then
    if '\x00' ∈ value then s else { s with lastEventID := value }
  -- the time to wait before another connection does not concern the events
  else s

/-- The value after a colon; a blank before it does not count. -/
def valueOf : List Char → List Char
  | ':' :: ' ' :: value => value
  | ':' :: value => value
  | _ => []

def endLine (s : Source) : Source :=
  let line := s.line
  let s := { s with line := [] }
  if line = [] then s.dispatch
  else if line.head? = some ':' then s
  else s.setField (line.takeWhile (· ≠ ':')) (valueOf (line.dropWhile (· ≠ ':')))

/-- A line ends with a line feed, a carriage return, or both. -/
def feed (s : Source) (c : Char) : Source :=
  if c = '\n' then
    if s.afterReturn then { s with afterReturn := false } else s.endLine
  else if c = '\r' then { s.endLine with afterReturn := true }
  else { s with line := s.line ++ [c], afterReturn := false }

/-- A byte order mark at the start of the stream is not part of it. -/
def read (stream : List Char) : Source :=
  (if stream.head? = some '\uFEFF' then stream.tail else stream).foldl feed start

end Source

end Read

section RoundTrip

/-- No end of a line is in the text. -/
def OneLine (s : List Char) : Prop := '\n' ∉ s ∧ '\r' ∉ s

instance (s : List Char) : Decidable (OneLine s) := inferInstanceAs (Decidable (_ ∧ _))

namespace Source

variable {s : Source} {l : List Char}

/-- Between two lines. -/
def Fresh (s : Source) : Prop := s.line = [] ∧ s.afterReturn = false

theorem feed_line (h : OneLine l) (hafter : s.afterReturn = false) :
    l.foldl feed s = { s with line := s.line ++ l } := by
  induction l generalizing s with
  | nil => simp
  | cons c l ih =>
    have hc : c ≠ '\n' ∧ c ≠ '\r' := by
      constructor
      · rintro rfl
        exact h.1 List.mem_cons_self
      · rintro rfl
        exact h.2 List.mem_cons_self
    have hl : OneLine l := ⟨fun hm ↦ h.1 (List.mem_cons_of_mem _ hm),
      fun hm ↦ h.2 (List.mem_cons_of_mem _ hm)⟩
    have hfeed : s.feed c = { s with line := s.line ++ [c], afterReturn := false } := by
      rw [feed, if_neg hc.1, if_neg hc.2]
    rw [List.foldl_cons, hfeed, ih hl rfl]
    simp [hafter]

theorem feed_wholeLine (hs : s.Fresh) (h : OneLine l) :
    (l ++ ['\n']).foldl feed s = Source.endLine { s with line := l } := by
  have hfeed : Source.feed { s with line := l } '\n' = Source.endLine { s with line := l } := by
    simp [feed, hs.2]
  rw [List.foldl_append, feed_line h hs.2, hs.1, List.nil_append, List.foldl_cons, List.foldl_nil,
    hfeed]

theorem takeWhile_name {name : List Char} (hname : ':' ∉ name) (value : List Char) :
    (name ++ ':' :: value).takeWhile (· ≠ ':') = name ∧
      (name ++ ':' :: value).dropWhile (· ≠ ':') = ':' :: value := by
  have hall : ∀ a ∈ name, decide (a ≠ ':') = true := by
    intro a ha
    apply decide_eq_true
    rintro rfl
    exact hname ha
  rw [List.takeWhile_append_of_pos hall, List.dropWhile_append_of_pos hall]
  simp

/-- A field whose name has no colon in it. -/
theorem feed_field (hs : s.Fresh) {name value : List Char} (hname : ':' ∉ name) (hne : name ≠ [])
    (hnameLine : OneLine name) (hvalue : OneLine value) :
    (field name value).foldl feed s = s.setField name value := by
  have hline : OneLine (name ++ ':' :: ' ' :: value) := by
    constructor
    · simpa using ⟨hnameLine.1, hvalue.1⟩
    · simpa using ⟨hnameLine.2, hvalue.2⟩
  have hhead : (name ++ ':' :: ' ' :: value).head? ≠ some ':' := by
    obtain ⟨c, rest, rfl⟩ := List.exists_cons_of_ne_nil hne
    intro h
    obtain rfl := Option.some.inj h
    exact hname List.mem_cons_self
  obtain ⟨htake, hdrop⟩ := takeWhile_name hname (' ' :: value)
  have hsame : ({ s with line := [] } : Source) = s := by rw [← hs.1]
  have hfield : field name value = (name ++ ':' :: ' ' :: value) ++ ['\n'] := by simp [field]
  rw [hfield, feed_wholeLine hs hline, endLine]
  dsimp only
  rw [if_neg (by simp), if_neg hhead, htake, hdrop, hsame]
  rfl

theorem feed_blank (hs : s.Fresh) : s.feed '\n' = s.dispatch := by
  have hsame : ({ s with line := [] } : Source) = s := by rw [← hs.1]
  rw [feed, if_pos rfl, hs.2, if_neg Bool.false_ne_true, endLine, if_pos hs.1, hsame]

/-- A line that starts with a colon says nothing. -/
theorem feed_comment (hs : s.Fresh) (h : OneLine l) : (':' :: l ++ ['\n']).foldl feed s = s := by
  have hline : OneLine (':' :: l) := by
    constructor
    · simpa using h.1
    · simpa using h.2
  have hsame : ({ s with line := [] } : Source) = s := by rw [← hs.1]
  rw [feed_wholeLine hs hline, endLine]
  dsimp only
  rw [if_neg (List.cons_ne_nil _ _), List.head?_cons, if_pos rfl, hsame]

/-- Between two events. -/
structure Idle (s : Source) : Prop where
  fresh : s.Fresh
  type : s.type = []
  data : s.data = []

theorem start_idle : start.Idle := ⟨⟨rfl, rfl⟩, rfl, rfl⟩

end Source

/-- Every text of the event is a line of its own. -/
structure Plain (marshal : Marshal δ) (e : Event δ) : Prop where
  type : OneLine e.type.toList
  id : OneLine e.id.toList
  noNull : '\x00' ∉ e.id.toList
  payload : OneLine (payload marshal e)

/-- The last id that has been sent. -/
def lastID (last : List Char) (e : Event δ) : List Char :=
  if e.id ≠ "" then e.id.toList else last

/-- What a page is to get of an event. -/
def message (marshal : Marshal δ) (last : List Char) (e : Event δ) : Message :=
  ⟨if e.type ≠ "" then e.type.toList else "message".toList, payload marshal e, lastID last e⟩

def told (marshal : Marshal δ) : List Char → List (Event δ) → List Message
  | _, [] => []
  | last, e :: events => message marshal last e :: told marshal (lastID last e) events

namespace Source

variable {s : Source} (marshal : Marshal δ)

/-- An event that has been written is dispatched. -/
theorem read_event {e : Event δ} (he : Plain marshal e) (hs : s.Idle) :
    (writeEvent marshal e).foldl feed s =
      { s with
        lastEventID := lastID s.lastEventID e
        messages := s.messages ++ [message marshal s.lastEventID e] } := by
  have htype : ((if e.type ≠ "" then field "event".toList e.type.toList else []).foldl feed s) =
      { s with type := e.type.toList } := by
    split_ifs with hempty
    · exact feed_field hs.fresh (by decide) (by decide) (by decide) he.type
    · rw [not_not.mp hempty, List.foldl_nil]
      simp [← hs.type]
  have hid : ∀ t : Source, t.Fresh →
      ((if e.id ≠ "" then field "id".toList e.id.toList else []).foldl feed t) =
        { t with lastEventID := lastID t.lastEventID e } := by
    intro t ht
    unfold lastID
    split_ifs with hempty
    · rw [feed_field ht (by decide) (by decide) (by decide) he.id]
      simp [setField, he.noNull]
    · rfl
  have hdata : ∀ t : Source, t.Fresh → t.data = [] →
      (field "data".toList (payload marshal e)).foldl feed t =
        { t with data := payload marshal e ++ ['\n'] } := by
    intro t ht hempty
    rw [feed_field ht (by decide) (by decide) (by decide) he.payload]
    simp [setField, hempty]
  let typed : Source := { s with type := e.type.toList }
  have htyped : typed.Fresh := hs.fresh
  let named : Source := { typed with lastEventID := lastID s.lastEventID e }
  have hnamed : named.Fresh := hs.fresh
  let full : Source := { named with data := payload marshal e ++ ['\n'] }
  have hfull : full.Fresh := hs.fresh
  have hread : (writeEvent marshal e).foldl feed s = full.dispatch := by
    rw [writeEvent, List.foldl_append, List.foldl_append, List.foldl_append, htype]
    rw [hid typed htyped, hdata named hnamed hs.data, List.foldl_cons, List.foldl_nil]
    exact feed_blank hfull
  have hlast : (payload marshal e ++ ['\n']).getLast? = some '\n' := List.getLast?_concat
  have hdispatch : full.dispatch = { s with
      type := []
      data := []
      lastEventID := lastID s.lastEventID e
      messages := s.messages ++ [⟨if e.type.toList = [] then "message".toList else e.type.toList,
        payload marshal e, lastID s.lastEventID e⟩] } := by
    unfold dispatch
    rw [if_neg (by simp [full])]
    simp only [full, named, typed]
    rw [if_pos hlast, List.dropLast_concat]
  rw [hread, hdispatch]
  simp only [message, hs.type, hs.data, String.toList_eq_nil_iff, ne_eq, ite_not]

theorem read_item {item : Item δ} (hitem : ∀ e ∈ item.event?, Plain marshal e) (hs : s.Idle) :
    ∃ t : Source, t.Idle ∧ (item.write marshal).foldl feed s = t ∧
      t.messages = s.messages ++ told marshal s.lastEventID item.event?.toList ∧
      t.lastEventID = item.event?.elim s.lastEventID (lastID s.lastEventID) := by
  cases item with
  | event e =>
    have he : Plain marshal e := hitem e rfl
    refine ⟨{ s with
      lastEventID := lastID s.lastEventID e
      messages := s.messages ++ [message marshal s.lastEventID e] }, ?_, ?_, rfl, rfl⟩
    · exact ⟨hs.fresh, hs.type, hs.data⟩
    · exact read_event marshal he hs
  | keepalive =>
    have hread : (Item.write marshal (.keepalive : Item δ)).foldl feed s = s.dispatch := by
      rw [Item.write, List.foldl_append, feed_comment hs.fresh (by decide), List.foldl_cons,
        List.foldl_nil, feed_blank hs.fresh]
    have hsame : s.dispatch = s := by
      rw [dispatch, if_pos hs.data, ← hs.type]
    exact ⟨s, hs, hread.trans hsame, (List.append_nil _).symm, rfl⟩

theorem read_items {items : List (Item δ)}
    (hitems : ∀ e ∈ items.filterMap Item.event?, Plain marshal e) (hs : s.Idle) :
    ((items.flatMap (Item.write marshal)).foldl feed s).messages =
      s.messages ++ told marshal s.lastEventID (items.filterMap Item.event?) := by
  induction items generalizing s with
  | nil => exact (List.append_nil _).symm
  | cons item items ih =>
    have hfirst : ∀ e ∈ item.event?, Plain marshal e := by
      intro e he
      exact hitems e (List.mem_filterMap.mpr ⟨item, List.mem_cons_self, he⟩)
    have hrest : ∀ e ∈ items.filterMap Item.event?, Plain marshal e := by
      intro e he
      obtain ⟨item', hmem, he⟩ := List.mem_filterMap.mp he
      exact hitems e (List.mem_filterMap.mpr ⟨item', List.mem_cons_of_mem _ hmem, he⟩)
    obtain ⟨t, ht, hread, hmessages, hlast⟩ := read_item marshal hfirst hs
    rw [List.flatMap_cons, List.foldl_append, hread, ih hrest ht, hmessages, List.append_assoc,
      hlast]
    cases hevent : item.event? with
    | none => rw [List.filterMap_cons_none hevent]; rfl
    | some e => rw [List.filterMap_cons_some hevent]; rfl

/-- What has been dispatched stays. -/
theorem messages_feed (s : Source) (c : Char) : s.messages <+: (s.feed c).messages := by
  have hfield (s : Source) (name value : List Char) :
      (s.setField name value).messages = s.messages := by
    unfold setField
    split_ifs <;> rfl
  have hdispatch (s : Source) : s.messages <+: s.dispatch.messages := by
    unfold dispatch
    split_ifs
    · exact List.prefix_rfl
    all_goals exact List.prefix_append _ _
  have hline (s : Source) : s.messages <+: s.endLine.messages := by
    unfold endLine
    dsimp only
    split_ifs
    · exact hdispatch { s with line := [] }
    · exact List.prefix_rfl
    · rw [hfield]
  unfold feed
  split_ifs
  · exact List.prefix_rfl
  · exact hline s
  · exact hline s
  · exact List.prefix_rfl

theorem messages_foldl (stream : List Char) (s : Source) :
    s.messages <+: (stream.foldl feed s).messages := by
  induction stream generalizing s with
  | nil => exact List.prefix_rfl
  | cons c stream ih => exact (messages_feed s c).trans (ih _)

end Source

theorem write_head (marshal : Marshal δ) (item : Item δ) :
    ∃ c rest, item.write marshal = c :: rest ∧ c ≠ '\uFEFF' := by
  cases item with
  | keepalive => exact ⟨':', _, rfl, by decide⟩
  | event e =>
    have hevent : "event".toList = 'e' :: "vent".toList := by decide
    have hid : "id".toList = 'i' :: "d".toList := by decide
    have hdata : "data".toList = 'd' :: "ata".toList := by decide
    rw [Item.write, writeEvent, field, field, field, hevent, hid, hdata]
    by_cases htype : e.type ≠ ""
    · rw [if_pos htype]
      exact ⟨'e', _, rfl, by decide⟩
    · rw [if_neg htype]
      by_cases hempty : e.id ≠ ""
      · rw [if_pos hempty]
        exact ⟨'i', _, rfl, by decide⟩
      · rw [if_neg hempty]
        exact ⟨'d', _, rfl, by decide⟩

theorem read_eq_foldl (marshal : Marshal δ) {items : List (Item δ)} {received : List Char}
    (hreceived : received <+: items.flatMap (Item.write marshal)) :
    Source.read received = received.foldl Source.feed Source.start := by
  unfold Source.read
  rw [if_neg]
  intro hmark
  obtain ⟨rest, hrest⟩ := hreceived
  cases items with
  | nil =>
    rw [List.flatMap_nil, List.append_eq_nil_iff] at hrest
    simp [hrest.1] at hmark
  | cons item items =>
    obtain ⟨c, tail, hwrite, hc⟩ := write_head marshal item
    obtain ⟨stream, rfl⟩ := List.head?_eq_some_iff.mp hmark
    rw [List.flatMap_cons, hwrite] at hrest
    exact hc (List.cons.inj hrest).1.symm

/-- Where the connection breaks, the events that came before are read. -/
theorem read_cut (marshal : Marshal δ) {items : List (Item δ)}
    (hitems : ∀ e ∈ items.filterMap Item.event?, Plain marshal e) {received : List Char}
    (hreceived : received <+: items.flatMap (Item.write marshal)) :
    (Source.read received).messages <+: told marshal [] (items.filterMap Item.event?) := by
  rw [read_eq_foldl marshal hreceived]
  have hall := Source.read_items marshal hitems Source.start_idle
  obtain ⟨rest, hrest⟩ := hreceived
  have hprefix := Source.messages_foldl rest (received.foldl Source.feed Source.start)
  rw [← List.foldl_append, hrest, hall] at hprefix
  exact hprefix

/-- A page gets the events that have been written, in their order and each as a whole, however much
of the stream has come to it; keepalives are no events. -/
theorem read_written (marshal : Marshal δ) {items : List (Item δ)}
    (hitems : ∀ e ∈ items.filterMap Item.event?, Plain marshal e) {received : List Char}
    (hreceived : received <+: items.flatMap (Item.write marshal)) :
    (Source.read received).messages <+: told marshal [] (items.filterMap Item.event?) ∧
      (received = items.flatMap (Item.write marshal) →
        (Source.read received).messages = told marshal [] (items.filterMap Item.event?)) := by
  refine ⟨read_cut marshal hitems hreceived, fun heq ↦ ?_⟩
  rw [read_eq_foldl marshal hreceived, heq]
  exact Source.read_items marshal hitems Source.start_idle

/-- Data that is a number. -/
def digits : Marshal ℕ := fun n ↦ some (Nat.toDigits 10 n)

theorem plain_log {n : ℕ} (hn : OneLine (Nat.toDigits 10 n)) : Plain digits ⟨"log", n, ""⟩ where
  type := show OneLine "log".toList by decide
  id := show OneLine "".toList by decide
  noNull := show '\x00' ∉ "".toList by decide
  payload := hn

/-- Two events, of which the second comes through in part. -/
def cutOff : List (Item ℕ) := [.event ⟨"log", 1, ""⟩, .keepalive, .event ⟨"log", 2, ""⟩]

theorem cut_off_read :
    (Source.read ((cutOff.flatMap (Item.write digits)).take 40)).messages <+:
      told digits [] [⟨"log", 1, ""⟩, ⟨"log", 2, ""⟩] := by
  have hplain : ∀ e ∈ cutOff.filterMap Item.event?, Plain digits e := by
    change ∀ e ∈ [⟨"log", 1, ""⟩, ⟨"log", 2, ""⟩], Plain digits e
    simp only [List.forall_mem_cons]
    exact ⟨plain_log (by decide), plain_log (by decide), fun e he ↦ absurd he List.not_mem_nil⟩
  exact (read_written digits hplain (List.take_prefix 40 _)).1

end RoundTrip

section EndToEnd

/-- Type and data of a message. -/
def Message.shown (m : Message) : List Char × List Char := (m.type, m.data)

def shown (marshal : Marshal δ) (e : Event δ) : List Char × List Char :=
  (message marshal [] e).shown

theorem shown_told (marshal : Marshal δ) (last : List Char) (events : List (Event δ)) :
    (told marshal last events).map Message.shown = events.map (shown marshal) := by
  induction events generalizing last with
  | nil => rfl
  | cons e events ih =>
    rw [told, List.map_cons, List.map_cons, ih]
    rfl

/-- A connection of a subscriber: of what it has received it has written what its filter, which may
change, has kept, with keepalives in between. -/
def Connection (t : Traffic δ) (n : ℕ) (items : List (Item δ)) : Prop :=
  (items.filterMap Item.event?).Sublist (t.taken n)

/-- Two events, of which the first has been received. -/
def oneReceived : Traffic ℕ :=
  (Traffic.twoEvents ++ [Act.op (.receive 0)]).foldl Traffic.step (Traffic.new "1:log:all")

end EndToEnd

end Rosmon.Sse
