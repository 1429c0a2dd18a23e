import Mathlib.Data.List.Nodup
import Rosmon.Library.Run

namespace Rosmon.Web

open Library

/-- Where a request of the client stands. -/
inductive Phase
  | idle
  | inFlight
  | refreshing
  | waiting
  | resolved
  | rejected
  deriving DecidableEq

/-- A request: the mark `_retry` of its config, how often it has been sent again, and how often its
promise has been settled. -/
structure Request where
  phase : Phase
  retry : Bool
  resends : ℕ
  settled : ℕ
  deriving DecidableEq

def Request.settle (phase : Phase) (r : Request) : Request :=
  { r with phase, settled := r.settled + 1 }

/-- `apiClient(originalRequest)`: the config keeps its mark. -/
def Request.resend (r : Request) : Request :=
  { r with phase := .inFlight, resends := r.resends + 1 }

/-- The tokens of `useAuthStore`. -/
structure Auth where
  accessToken : String
  refreshToken : String
  deriving DecidableEq

/-- The client: besides its variables, the refresh calls in flight, each named by the request that
makes it, and the refresh tokens that have been sent. -/
structure Client where
  requests : ℕ → Request
  isRefreshing : Bool
  failedQueue : List ℕ
  auth : Auth
  calls : List ℕ
  sent : List String

/-- An answer to a request; a 401 of the refresh endpoint itself is a failure. -/
inductive Answer
  | success
  | unauthorized
  | failure
  deriving DecidableEq

/-- An answer to a refresh call. -/
inductive RefreshAnswer
  | tokens (accessToken refreshToken : String)
  | failure
  deriving DecidableEq

inductive Event
  | issue (i : ℕ)
  | answer (i : ℕ) (answer : Answer)
  | refreshed (i : ℕ) (answer : RefreshAnswer)
  | signIn (accessToken refreshToken : String)
  | signOut
  deriving DecidableEq

namespace Client

def edit (i : ℕ) (f : Request → Request) (s : Client) : Client :=
  { s with requests := Function.update s.requests i (f (s.requests i)) }

/-- `auth.reset()` -/
def reset (s : Client) : Client := { s with auth := ⟨"", ""⟩ }

/-- What `processQueue` does to a request in the queue: with neither an error nor a token, nothing. -/
def notify (error : Bool) (token : String) (r : Request) : Request :=
  if error then r.settle .rejected else if token = "" then r else r.resend

def processQueue (error : Bool) (token : String) (s : Client) : Client :=
  { s.failedQueue.foldl (fun s i ↦ s.edit i (notify error token)) s with failedQueue := [] }

/-- The `catch` block of the interceptor, and `finally`. -/
def refreshFailed (i : ℕ) (s : Client) : Client :=
  { (s.processQueue true "").reset.edit i (Request.settle .rejected) with isRefreshing := false }

/-- The `try` block after the answer, and `finally`. -/
def refreshSucceeded (i : ℕ) (auth : Auth) (s : Client) : Client :=
  { (processQueue false auth.accessToken { s with auth }).edit i Request.resend with
    isRefreshing := false }

/-- The interceptor on a 401. -/
def onUnauthorized (i : ℕ) (s : Client) : Client :=
  if (s.requests i).retry then s.edit i (Request.settle .rejected)
  else if s.isRefreshing then
    { s.edit i fun r ↦ { r with phase := .waiting } with failedQueue := s.failedQueue ++ [i] }
  else
    let s := { s.edit i fun r ↦ { r with retry := true } with isRefreshing := true }
    if s.auth.refreshToken = "" then s.refreshFailed i
    else
      { s.edit i fun r ↦ { r with phase := .refreshing } with
        calls := s.calls ++ [i]
        sent := s.sent ++ [s.auth.refreshToken] }

/-- What happens at an event; an answer that nobody waits for is none. -/
def step (s : Client) : Event → Client
  | .issue i =>
    if (s.requests i).phase = .idle then s.edit i fun r ↦ { r with phase := .inFlight } else s
  | .answer i answer =>
    if (s.requests i).phase = .inFlight then
      match answer with
      | .success => s.edit i (Request.settle .resolved)
      | .unauthorized => s.onUnauthorized i
      | .failure => s.edit i (Request.settle .rejected)
    else s
  | .refreshed i answer =>
    if i ∈ s.calls then
      let s := { s with calls := s.calls.erase i }
      match answer with
      | .tokens accessToken refreshToken => s.refreshSucceeded i ⟨accessToken, refreshToken⟩
      | .failure => s.refreshFailed i
    else s
  | .signIn accessToken refreshToken => { s with auth := ⟨accessToken, refreshToken⟩ }
  | .signOut => s.reset

/-- The client when the page has been loaded. -/
def start (auth : Auth) : Client where
  requests _ := ⟨.idle, false, 0, 0⟩
  isRefreshing := false
  failedQueue := []
  auth
  calls := []
  sent := []

section Edits

variable {s : Client} {i j : ℕ} {f : Request → Request} {error : Bool} {token : String}

theorem edit_requests : (s.edit i f).requests j =
    if j = i then f (s.requests j) else s.requests j := by
  unfold edit
  dsimp only
  by_cases h : j = i
  · rw [h, Function.update_self, if_pos rfl]
  · rw [Function.update_of_ne h, if_neg h]

/-- Each request of the list is edited; nothing else is. -/
theorem foldl_edit (queue : List ℕ) (hqueue : queue.Nodup) (s : Client) :
    queue.foldl (fun s i ↦ s.edit i f) s =
      { s with requests := fun j ↦ if j ∈ queue then f (s.requests j) else s.requests j } := by
  induction queue generalizing s with
  | nil => rfl
  | cons i queue ih =>
    obtain ⟨hnew, hqueue⟩ := List.nodup_cons.mp hqueue
    rw [List.foldl_cons, ih hqueue]
    refine congrArg (fun requests ↦ { s with requests }) (funext fun j ↦ ?_)
    rw [edit_requests]
    by_cases hi : j = i
    · subst hi
      rw [if_neg hnew, if_pos rfl, if_pos List.mem_cons_self]
    · rw [if_neg hi]
      simp only [List.mem_cons, hi, false_or]

theorem processQueue_eq (h : s.failedQueue.Nodup) : s.processQueue error token =
    { s with
      requests := fun j ↦ if j ∈ s.failedQueue then notify error token (s.requests j)
        else s.requests j
      failedQueue := [] } := by
  rw [processQueue, foldl_edit _ h]

end Edits

/-- What a request has been through, by where it stands. -/
def Counted (r : Request) : Prop :=
  match r.phase with
  | .idle => r.settled = 0 ∧ r.resends = 0
  | .inFlight => r.settled = 0 ∧ r.resends ≤ 1
  | .refreshing | .waiting => r.settled = 0 ∧ r.resends = 0
  | .resolved | .rejected => r.settled = 1 ∧ r.resends ≤ 1

/-- A request that is not part of a refresh. -/
def Free (r : Request) : Prop := r.phase ≠ .refreshing ∧ r.phase ≠ .waiting

/-- The invariant: while a refresh call is in flight the flag is set, and without one nobody
waits. -/
structure Sound (s : Client) : Prop where
  flag : s.calls = [] ∧ s.isRefreshing = false ∧ s.failedQueue = [] ∨
    (∃ i, s.calls = [i]) ∧ s.isRefreshing = true
  refreshing : ∀ j, (s.requests j).phase = .refreshing ↔ j ∈ s.calls
  waiting : ∀ j, (s.requests j).phase = .waiting ↔ j ∈ s.failedQueue
  queue : s.failedQueue.Nodup
  sent : s.sent.Nodup ∧ "" ∉ s.sent
  unsent : s.isRefreshing = false → s.auth.refreshToken ∉ s.sent
  counted : ∀ j, Counted (s.requests j)

theorem sound_start (auth : Auth) : Sound (start auth) where
  flag := .inl ⟨rfl, rfl, rfl⟩
  refreshing _ := iff_of_false nofun List.not_mem_nil
  waiting _ := iff_of_false nofun List.not_mem_nil
  queue := .nil
  sent := ⟨.nil, List.not_mem_nil⟩
  unsent _ := List.not_mem_nil
  counted _ := ⟨rfl, rfl⟩

section Steps

variable {s : Client} {i : ℕ} {f : Request → Request}

theorem Sound.edit (h : Sound s) (hfree : Free (s.requests i)) (hfree' : Free (f (s.requests i)))
    (hcounted : Counted (f (s.requests i))) : Sound (s.edit i f) where
  flag := h.flag
  refreshing j := by
    refine Iff.trans ?_ (h.refreshing j)
    rw [edit_requests]
    split_ifs with hj
    · rw [hj]
      exact iff_of_false hfree'.1 hfree.1
    · rfl
  waiting j := by
    refine Iff.trans ?_ (h.waiting j)
    rw [edit_requests]
    split_ifs with hj
    · rw [hj]
      exact iff_of_false hfree'.2 hfree.2
    · rfl
  queue := h.queue
  sent := h.sent
  unsent := h.unsent
  counted j := by
    rw [edit_requests]
    split_ifs with hj
    · rw [hj]
      exact hcounted
    · exact h.counted j

theorem counted_settle {r : Request} {phase : Phase} (hphase : phase = .resolved ∨ phase = .rejected)
    (hsettled : r.settled = 0) (hresends : r.resends ≤ 1) :
    Counted (r.settle phase) ∧ Free (r.settle phase) := by
  obtain rfl | rfl := hphase
  · exact ⟨⟨congrArg (· + 1) hsettled, hresends⟩, nofun, nofun⟩
  · exact ⟨⟨congrArg (· + 1) hsettled, hresends⟩, nofun, nofun⟩

theorem counted_resend {r : Request} (hsettled : r.settled = 0) (hresends : r.resends = 0) :
    Counted r.resend ∧ Free r.resend :=
  ⟨⟨hsettled, Nat.le_of_eq (congrArg (· + 1) hresends)⟩, nofun, nofun⟩

/-- An answer settles the promise. -/
theorem Sound.settle (h : Sound s) (hphase : (s.requests i).phase = .inFlight) {phase : Phase}
    (hsettled : phase = .resolved ∨ phase = .rejected) :
    Sound (s.edit i (Request.settle phase)) := by
  have hcounted := h.counted i
  rw [Counted, hphase] at hcounted
  obtain ⟨hnew, hfree⟩ := counted_settle hsettled hcounted.1 hcounted.2
  refine h.edit ?_ hfree hnew
  rw [Free, hphase]
  exact ⟨nofun, nofun⟩

/-- The refresh of a request is over, and the queue is not told yet. -/
structure Over (i : ℕ) (s : Client) : Prop where
  calls : s.calls = []
  refreshing : ∀ j, (s.requests j).phase = .refreshing → j = i
  waiting : ∀ j, (s.requests j).phase = .waiting ↔ j ∈ s.failedQueue
  queue : s.failedQueue.Nodup
  sent : s.sent.Nodup ∧ "" ∉ s.sent
  counted : ∀ j, Counted (s.requests j)
  leader : i ∉ s.failedQueue ∧ (s.requests i).settled = 0 ∧ (s.requests i).resends = 0

/-- The request and those that wait for it go on in one way. -/
theorem Over.sound (h : Over i s) {auth : Auth} (hauth : auth.refreshToken ∉ s.sent)
    (hf : ∀ r : Request, r.settled = 0 → r.resends = 0 → Counted (f r) ∧ Free (f r)) :
    Sound
      { s with
        requests := fun j ↦ if j = i ∨ j ∈ s.failedQueue then f (s.requests j) else s.requests j
        isRefreshing := false
        failedQueue := []
        auth } := by
  have hall : ∀ j, Counted (if j = i ∨ j ∈ s.failedQueue then f (s.requests j) else s.requests j) ∧
      Free (if j = i ∨ j ∈ s.failedQueue then f (s.requests j) else s.requests j) := by
    intro j
    split_ifs with hj
    · obtain rfl | hj := hj
      · exact hf _ h.leader.2.1 h.leader.2.2
      · have hwaiting := h.counted j
        rw [Counted, (h.waiting j).mpr hj] at hwaiting
        exact hf _ hwaiting.1 hwaiting.2
    · rw [not_or] at hj
      exact ⟨h.counted j, fun hr ↦ hj.1 (h.refreshing j hr), fun hw ↦ hj.2 ((h.waiting j).mp hw)⟩
  constructor
  · exact .inl ⟨h.calls, rfl, rfl⟩
  · intro j
    rw [h.calls]
    exact iff_of_false (hall j).2.1 List.not_mem_nil
  · exact fun j ↦ iff_of_false (hall j).2.2 List.not_mem_nil
  · exact .nil
  · exact h.sent
  · exact fun _ ↦ hauth
  · exact fun j ↦ (hall j).1

/-- What the queue is told and what becomes of the leader are the same. -/
theorem Over.processQueue_edit (h : Over i s) {error : Bool} {token : String} (auth : Auth)
    (hf : notify error token = f) :
    { ({ s.processQueue error token with auth } : Client).edit i f with isRefreshing := false } =
      { s with
        requests := fun j ↦ if j = i ∨ j ∈ s.failedQueue then f (s.requests j) else s.requests j
        isRefreshing := false
        failedQueue := []
        auth } := by
  rw [processQueue_eq h.queue, hf]
  refine congrArg (fun requests ↦ { s with requests, isRefreshing := false, failedQueue := [], auth })
    (funext fun j ↦ ?_)
  rw [edit_requests]
  by_cases hj : j = i
  · rw [if_pos hj, if_pos (.inl hj)]
    exact congrArg f (if_neg (hj ▸ h.leader.1))
  · rw [if_neg hj]
    simp only [hj, false_or]

theorem Over.refreshFailed_eq (h : Over i s) : s.refreshFailed i =
    { s with
      requests := fun j ↦ if j = i ∨ j ∈ s.failedQueue then (s.requests j).settle .rejected
        else s.requests j
      isRefreshing := false
      failedQueue := []
      auth := ⟨"", ""⟩ } :=
  h.processQueue_edit ⟨"", ""⟩ rfl

theorem Over.refreshFailed (h : Over i s) : Sound (s.refreshFailed i) := by
  rw [h.refreshFailed_eq]
  exact h.sound h.sent.2 fun r hsettled hresends ↦
    counted_settle (.inr rfl) hsettled (hresends ▸ Nat.zero_le 1)

theorem Over.refreshSucceeded (h : Over i s) {auth : Auth} (haccess : auth.accessToken ≠ "")
    (hauth : auth.refreshToken ∉ s.sent) : Sound (s.refreshSucceeded i auth) := by
  have hnotify : notify false auth.accessToken = Request.resend := by
    funext r
    exact (if_neg Bool.false_ne_true).trans (if_neg haccess)
  have hqueue : (processQueue false auth.accessToken { s with auth }) =
      { s.processQueue false auth.accessToken with auth } := by
    rw [processQueue_eq (s := { s with auth }) h.queue, processQueue_eq h.queue]
  rw [Client.refreshSucceeded, hqueue]
  exact (congrArg Sound (h.processQueue_edit auth hnotify)).mpr
    (h.sound hauth fun r ↦ counted_resend)

/-- A call that is answered is the only one. -/
theorem Sound.over (h : Sound s) (hi : i ∈ s.calls) :
    Over i { s with calls := s.calls.erase i } := by
  obtain ⟨hcalls, -⟩ | ⟨⟨j, hcalls⟩, -⟩ := h.flag
  · rw [hcalls] at hi
    cases hi
  · obtain rfl : i = j := by simpa [hcalls] using hi
    have hphase := (h.refreshing i).mpr hi
    have hcounted := h.counted i
    rw [Counted, hphase] at hcounted
    constructor
    · simp [hcalls]
    · intro j hj
      simpa [hcalls] using (h.refreshing j).mp hj
    · exact h.waiting
    · exact h.queue
    · exact h.sent
    · exact h.counted
    · refine ⟨fun hmem ↦ ?_, hcounted⟩
      rw [(h.waiting i).mpr hmem] at hphase
      cases hphase

theorem Sound.idle (h : Sound s) (hrefreshing : ¬s.isRefreshing = true) :
    s.calls = [] ∧ s.failedQueue = [] := by
  obtain ⟨hcalls, -, hqueue⟩ | ⟨-, htrue⟩ := h.flag
  · exact ⟨hcalls, hqueue⟩
  · exact absurd htrue hrefreshing

/-- During a refresh a request joins the queue. -/
theorem Sound.wait (h : Sound s) (hphase : (s.requests i).phase = .inFlight)
    (hresends : (s.requests i).resends = 0) (hrefreshing : s.isRefreshing = true) :
    Sound { s.edit i fun r ↦ { r with phase := .waiting } with
      failedQueue := s.failedQueue ++ [i] } := by
  have hcounted := h.counted i
  rw [Counted, hphase] at hcounted
  have hnew : i ∉ s.failedQueue := by
    rw [← h.waiting i, hphase]
    nofun
  constructor
  · obtain ⟨-, hfalse, -⟩ | hone := h.flag
    · rw [hfalse] at hrefreshing
      cases hrefreshing
    · exact .inr hone
  · intro j
    refine Iff.trans ?_ (h.refreshing j)
    dsimp only
    rw [edit_requests]
    split_ifs with hj
    · rw [hj, hphase]
      exact iff_of_false nofun nofun
    · rfl
  · intro j
    dsimp only
    rw [edit_requests, List.mem_append, List.mem_singleton]
    split_ifs with hj
    · exact iff_of_true rfl (.inr hj)
    · rw [h.waiting j]
      exact (or_iff_left hj).symm
  · exact List.nodup_append.mpr ⟨h.queue, List.nodup_singleton i, fun a ha b hb hab ↦
      hnew (List.mem_singleton.mp hb ▸ hab ▸ ha)⟩
  · exact h.sent
  · exact h.unsent
  · intro j
    dsimp only
    rw [edit_requests]
    split_ifs with hj
    · rw [hj]
      exact ⟨hcounted.1, hresends⟩
    · exact h.counted j

/-- Without one a request makes the refresh call. -/
theorem Sound.lead (h : Sound s) (hphase : (s.requests i).phase = .inFlight)
    (hresends : (s.requests i).resends = 0) (hrefreshing : ¬s.isRefreshing = true)
    (htoken : s.auth.refreshToken ≠ "") :
    Sound { s.edit i fun r ↦ { r with retry := true, phase := .refreshing } with
      isRefreshing := true
      calls := s.calls ++ [i]
      sent := s.sent ++ [s.auth.refreshToken] } := by
  have hcounted := h.counted i
  rw [Counted, hphase] at hcounted
  obtain ⟨hcalls, -⟩ := h.idle hrefreshing
  have hfresh := h.unsent (Bool.eq_false_iff.mpr hrefreshing)
  constructor
  · refine .inr ⟨⟨i, ?_⟩, rfl⟩
    dsimp only
    rw [hcalls, List.nil_append]
  · intro j
    dsimp only
    rw [edit_requests, List.mem_append, List.mem_singleton]
    split_ifs with hj
    · exact iff_of_true rfl (.inr hj)
    · rw [h.refreshing j]
      exact (or_iff_left hj).symm
  · intro j
    refine Iff.trans ?_ (h.waiting j)
    dsimp only
    rw [edit_requests]
    split_ifs with hj
    · rw [hj, hphase]
      exact iff_of_false nofun nofun
    · rfl
  · exact h.queue
  · refine ⟨List.nodup_append.mpr ⟨h.sent.1, List.nodup_singleton _, fun a ha b hb hab ↦
      hfresh (List.mem_singleton.mp hb ▸ hab ▸ ha)⟩, ?_⟩
    rw [List.mem_append, List.mem_singleton, not_or]
    exact ⟨h.sent.2, Ne.symm htoken⟩
  · exact nofun
  · intro j
    dsimp only
    rw [edit_requests]
    split_ifs with hj
    · rw [hj]
      exact ⟨hcounted.1, hresends⟩
    · exact h.counted j

/-- Without a token to refresh with, the refresh is over at once. -/
theorem Sound.over_at_once (h : Sound s) (hphase : (s.requests i).phase = .inFlight)
    (hresends : (s.requests i).resends = 0) (hrefreshing : ¬s.isRefreshing = true) :
    Over i { s.edit i fun r ↦ { r with retry := true } with isRefreshing := true } := by
  have hcounted := h.counted i
  rw [Counted, hphase] at hcounted
  obtain ⟨hcalls, hqueue⟩ := h.idle hrefreshing
  have hsame : ∀ j, ((s.edit i fun r ↦ { r with retry := true }).requests j).phase =
      (s.requests j).phase := by
    intro j
    rw [edit_requests]
    split_ifs <;> rfl
  constructor
  · exact hcalls
  · intro j hj
    have hmem := (h.refreshing j).mp ((hsame j).symm.trans hj)
    rw [hcalls] at hmem
    cases hmem
  · intro j
    dsimp only
    rw [hsame]
    exact h.waiting j
  · exact h.queue
  · exact h.sent
  · intro j
    dsimp only
    rw [edit_requests]
    split_ifs with hj
    · rw [hj]
      exact h.counted i
    · exact h.counted j
  · dsimp only
    rw [edit_requests, if_pos rfl]
    refine ⟨?_, hcounted.1, hresends⟩
    change i ∉ s.failedQueue
    rw [hqueue]
    exact List.not_mem_nil

/-- A request that has not been sent again before may wait for the refresh or make one. -/
theorem Sound.onUnauthorized (h : Sound s) (hphase : (s.requests i).phase = .inFlight)
    (hfirst : (s.requests i).retry = true ∨ (s.requests i).resends = 0) :
    Sound (s.onUnauthorized i) := by
  unfold Client.onUnauthorized
  by_cases hretry : (s.requests i).retry = true
  · rw [if_pos hretry]
    exact h.settle hphase (.inr rfl)
  rw [if_neg hretry]
  have hresends := hfirst.resolve_left hretry
  by_cases hrefreshing : s.isRefreshing = true
  · rw [if_pos hrefreshing]
    exact h.wait hphase hresends hrefreshing
  rw [if_neg hrefreshing]
  by_cases htoken : s.auth.refreshToken = ""
  · exact (if_pos htoken).symm ▸ (h.over_at_once hphase hresends hrefreshing).refreshFailed
  · have hlead := h.lead hphase hresends hrefreshing htoken
    refine (if_neg htoken).symm ▸ ?_
    unfold Client.edit at hlead ⊢
    dsimp only at hlead ⊢
    rwa [Function.update_self, Function.update_idem]

end Steps

/-- A step on which the claim rests: a request that comes out of the queue is not refused once more,
and new tokens are not empty and have not been sent. -/
def Regular (s : Client) : Event → Prop
  | .answer i .unauthorized => (s.requests i).retry = true ∨ (s.requests i).resends = 0
  | .refreshed _ (.tokens accessToken refreshToken) =>
    accessToken ≠ "" ∧ refreshToken ∉ s.sent
  | .signIn _ refreshToken => refreshToken ∉ s.sent
  | _ => True

instance (s : Client) : DecidablePred (Regular s)
  | .answer i .unauthorized =>
    inferInstanceAs (Decidable ((s.requests i).retry = true ∨ (s.requests i).resends = 0))
  | .refreshed _ (.tokens accessToken refreshToken) =>
    inferInstanceAs (Decidable (accessToken ≠ "" ∧ refreshToken ∉ s.sent))
  | .signIn _ refreshToken => inferInstanceAs (Decidable (refreshToken ∉ s.sent))
  | .answer _ .success | .answer _ .failure | .refreshed _ .failure | .issue _ | .signOut =>
    inferInstanceAs (Decidable True)

theorem sound_step {s : Client} (e : Event) (h : Sound s) (hregular : Regular s e) :
    Sound (s.step e) := by
  cases e with
  | issue i =>
    unfold step
    dsimp only
    split_ifs with hphase
    · have hcounted := h.counted i
      rw [Counted, hphase] at hcounted
      refine h.edit ?_ ⟨nofun, nofun⟩ ⟨hcounted.1, hcounted.2 ▸ Nat.zero_le 1⟩
      rw [Free, hphase]
      exact ⟨nofun, nofun⟩
    · exact h
  | answer i answer =>
    unfold step
    dsimp only
    split_ifs with hphase
    · cases answer with
      | success => exact h.settle hphase (.inl rfl)
      | unauthorized => exact h.onUnauthorized hphase hregular
      | failure => exact h.settle hphase (.inr rfl)
    · exact h
  | refreshed i answer =>
    unfold step
    dsimp only
    split_ifs with hcall
    · cases answer with
      | tokens accessToken refreshToken =>
        exact (h.over hcall).refreshSucceeded hregular.1 hregular.2
      | failure => exact (h.over hcall).refreshFailed
    · exact h
  | signIn accessToken refreshToken => exact { h with unsent := fun _ ↦ hregular }
  | signOut => exact { h with unsent := fun _ ↦ h.sent.2 }

/-- What the interceptor promises of a state. -/
structure Safe (s : Client) : Prop where
  single : s.calls.length ≤ 1
  sent : s.sent.Nodup
  resends : ∀ i, (s.requests i).resends ≤ 1
  settled : ∀ i, (s.requests i).settled =
    if (s.requests i).phase = .resolved ∨ (s.requests i).phase = .rejected then 1 else 0
  forgotten : s.calls = [] →
    ∀ i, (s.requests i).phase ≠ .refreshing ∧ (s.requests i).phase ≠ .waiting
  rejects : ∀ i ∈ s.calls, ∀ j, (s.requests j).phase = .waiting →
    ((s.step (.refreshed i .failure)).requests j).phase = .rejected

theorem Counted.bounds {r : Request} (h : Counted r) : r.resends ≤ 1 ∧
    r.settled = if r.phase = .resolved ∨ r.phase = .rejected then 1 else 0 := by
  unfold Counted at h
  cases hphase : r.phase with
  | idle | inFlight | refreshing | waiting | resolved | rejected =>
    simp only [hphase] at h
    simp [h]

theorem Sound.safe {s : Client} (h : Sound s) : Safe s where
  single := by
    obtain ⟨hcalls, -⟩ | ⟨⟨i, hcalls⟩, -⟩ := h.flag
    · simp [hcalls]
    · simp [hcalls]
  sent := h.sent.1
  resends i := (h.counted i).bounds.1
  settled i := (h.counted i).bounds.2
  forgotten hcalls i := by
    obtain ⟨-, -, hqueue⟩ | ⟨⟨j, hone⟩, -⟩ := h.flag
    · refine ⟨fun hphase ↦ ?_, fun hphase ↦ ?_⟩
      · exact absurd ((h.refreshing i).mp hphase) (by simp [hcalls])
      · exact absurd ((h.waiting i).mp hphase) (by simp [hqueue])
    · rw [hcalls] at hone
      cases hone
  rejects i hi j hj := by
    have hstep : s.step (.refreshed i .failure) =
        Client.refreshFailed i { s with calls := s.calls.erase i } := if_pos hi
    rw [hstep, (h.over hi).refreshFailed_eq]
    dsimp only
    rw [if_pos (.inr ((h.waiting j).mp hj))]
    rfl

end Client

open Client

/-- In a run of regular steps the interceptor keeps its promises in every state. -/
theorem refresh_safe (auth : Auth) (events : List Event)
    (h : Run.Guarded Client.step Regular (start auth) events) :
    ∀ s ∈ Run.states Client.step (start auth) events, Safe s := by
  have hsound := Run.invariant (fun s e hs hregular ↦ sound_step e hs hregular)
    (sound_start auth) h
  exact fun s hs ↦ (hsound s hs).safe

/-- Two requests, of which one refreshes and one waits for it. -/
def twoRequests : List Event :=
  [.issue 0, .issue 1, .answer 0 .unauthorized, .answer 1 .unauthorized,
    .refreshed 0 (.tokens "a1" "r1")]

theorem refresh_safe_twoRequests :
    Safe ((twoRequests ++ [Event.answer 0 .success, .answer 1 .success]).foldl Client.step
      (start ⟨"a0", "r0"⟩)) :=
  refresh_safe _ _ (by decide) _ (Run.foldl_mem_states _ _)

/-- The one that has waited is refused again: it refreshes itself and is sent a third time. -/
theorem queued_request_resent_twice :
    ¬∀ s ∈ Run.states Client.step (start ⟨"a0", "r0"⟩) (twoRequests ++ [.answer 1 .unauthorized,
      .refreshed 1 (.tokens "a2" "r2")]), Safe s := by
  intro h
  have hlast := (h _ (Run.foldl_mem_states _ _)).resends 1
  exact absurd hlast (by decide)

end Rosmon.Web
