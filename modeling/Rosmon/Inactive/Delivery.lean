import Rosmon.Inactive.State
import Rosmon.Library.Run

namespace Rosmon.Inactive

open Go Library

variable {ρ ε π : Type}

/-- The state under `mu`, the callbacks that have left it and still have to deliver their
events, in the order in which they left, and what the handler has been given under `emitMu`. -/
structure Desk (ρ ε π : Type) where
  state : InactiveState ρ ε
  pending : List (List (Event π))
  delivered : List (Event π)

/-- One of the two critical sections of a callback. -/
inductive Section (ρ : Type)
  | update (a : Arrival ρ) (order order' : RangeOrder ρ)
  | emit (k : ℕ)

namespace Desk

variable (F : Feed ρ ε π)

def start : Desk ρ ε π := ⟨newInactiveState F, [], []⟩

/-- The events that the `k`-th of the pending callbacks is going to deliver. -/
def batch (d : Desk ρ ε π) (k : ℕ) : List (Event π) := d.pending[k]?.getD []

/-- A callback without events returns after its first section. -/
def step [DecidableEq ρ] (d : Desk ρ ε π) : Section ρ → Desk ρ ε π
  | .update a order order' =>
    let result := d.state.callback F a order order'
    { d with
      state := result.1
      pending := if result.2.isEmpty then d.pending else d.pending ++ [result.2] }
  | .emit k =>
    { d with
      pending := d.pending.eraseIdx k
      delivered := d.delivered ++ d.batch k }

/-- A delivery does not overtake an earlier callback with an event for the same name. -/
def InTurn (d : Desk ρ ε π) : Section ρ → Prop
  | .update _ _ _ => True
  | .emit k => ∀ e ∈ (d.pending.take k).flatten, ∀ e' ∈ d.batch k, F.title e.row ≠ F.title e'.row

instance (d : Desk ρ ε π) (m : Section ρ) : Decidable (d.InTurn F m) :=
  match m with
  | .update _ _ _ => inferInstanceAs (Decidable True)
  | .emit k => inferInstanceAs
      (Decidable (∀ e ∈ (d.pending.take k).flatten, ∀ e' ∈ d.batch k,
        F.title e.row ≠ F.title e'.row))

/-- What has been delivered amounts to the inactive set, and that to the enabled names that
no session uses. -/
structure UpToDate (d : Desk ρ ε π) : Prop where
  shown : ∀ n, shown F F.plain d.delivered n =
    (d.state.inactive.get n).map fun r ↦ F.plain (F.build d.state.kept r)
  idle : ∀ n, (Inactive.shown F F.plain d.delivered n).isSome ↔
    (d.state.configured.get n).isSome ∧ d.state.activeCounts.number n = 0

/-- A client that got the pending events in the order of the first sections would be right. -/
structure Inv (d : Desk ρ ε π) : Prop where
  keyed : InactiveState.Keyed F d.state.configured
  inactive : d.state.inactive = d.state.next
  due : shown F F.plain (d.delivered ++ d.pending.flatten) = d.state.view F F.plain

variable {F} {d : Desk ρ ε π}

theorem Inv.upToDate (h : d.Inv F) (hreturned : d.pending = []) : d.UpToDate F := by
  have hdue := h.due
  rw [hreturned, List.flatten_nil, List.append_nil] at hdue
  constructor
  · intro n
    rw [hdue]
    rfl
  · intro n
    rw [hdue, InactiveState.view, Option.isSome_map, h.inactive, InactiveState.get_next]
    split_ifs with hzero
    · simp [hzero]
    · simp [hzero]

theorem Inv.start : (start F).Inv F where
  keyed := .empty
  inactive := rfl
  due := rfl

theorem Inv.update [DecidableEq ρ] (h : d.Inv F) (a : Arrival ρ) (order order' : RangeOrder ρ) :
    (d.step F (.update a order order')).Inv F where
  keyed := InactiveState.locked_keyed a h.keyed
  inactive := rfl
  due := by
    have hconf := InactiveState.locked_keyed a h.keyed
    have hin : InactiveState.Keyed F (d.state.locked F a).inactive := by
      rw [InactiveState.locked_inactive, h.inactive]
      exact h.keyed.next
    have hpending : (d.step F (.update a order order')).pending.flatten =
        d.pending.flatten ++ (d.state.callback F a order order').2 := by
      unfold step
      dsimp only
      split
      next hempty => rw [List.isEmpty_iff.mp hempty, List.append_nil]
      next => rw [List.flatten_append, List.flatten_singleton]
    have hdue := h.due
    unfold Inactive.shown at hdue ⊢
    rw [hpending]
    change Change.replay _ (List.map _ (d.delivered ++ _)) = _
    rw [← List.append_assoc, List.map_append, Change.replay_append, hdue]
    apply InactiveState.reconcileLocked_replay F.plain order order' hconf hin
    intro n hsame
    rw [InactiveState.locked_inactive] at hsame
    rw [hsame]
    cases hr : d.state.inactive.get n with
    | none => simp [InactiveState.view, hr]
    | some r =>
      simp only [InactiveState.view, hr, Option.map_some]
      exact congrArg some (F.plain_build _ _ r)

/-- The pending events without one batch, which comes first. -/
theorem pending_flatten (d : Desk ρ ε π) (k : ℕ) :
    d.pending.flatten = (d.pending.take k).flatten ++ (d.batch k ++
      (d.pending.drop (k + 1)).flatten) := by
  have hbatch : d.pending[k]?.toList.flatten = d.batch k := by
    unfold batch
    cases d.pending[k]? <;> simp
  calc d.pending.flatten
      = (d.pending.take k ++ d.pending.drop k).flatten := by rw [List.take_append_drop]
    _ = (d.pending.take k).flatten ++ (d.batch k ++ (d.pending.drop (k + 1)).flatten) := by
        rw [List.drop_eq_getElem?_toList_append, List.flatten_append, List.flatten_append, hbatch]

theorem Inv.emit [DecidableEq ρ] (h : d.Inv F) {k : ℕ} (hturn : d.InTurn F (.emit k)) :
    (d.step F (.emit k)).Inv F where
  keyed := h.keyed
  inactive := h.inactive
  due := by
    have hapart : Change.Apart (((d.pending.take k).flatten).map (Event.change F F.plain))
        ((d.batch k).map (Event.change F F.plain)) := by
      intro c hc c' hc'
      obtain ⟨e, he, rfl⟩ := List.mem_map.mp hc
      obtain ⟨e', he', rfl⟩ := List.mem_map.mp hc'
      exact hturn e he e' he'
    have hdue := h.due
    unfold Inactive.shown at hdue ⊢
    rw [pending_flatten d k] at hdue
    have hpending : (d.step F (.emit k)).pending =
        d.pending.take k ++ d.pending.drop (k + 1) := List.eraseIdx_eq_take_drop_succ _ _
    have hdelivered : (d.step F (.emit k)).delivered = d.delivered ++ d.batch k := rfl
    refine Eq.trans ?_ hdue
    rw [hpending, hdelivered]
    simp only [List.flatten_append, List.map_append, Change.replay_append]
    have hswap := Change.replay_comm (m := Change.replay (fun _ ↦ none)
      (d.delivered.map (Event.change F F.plain))) hapart
    rw [Change.replay_append, Change.replay_append] at hswap
    rw [hswap]

theorem Inv.step [DecidableEq ρ] (h : d.Inv F) {m : Section ρ} (hturn : d.InTurn F m) :
    (d.step F m).Inv F := by
  cases m with
  | update a order order' => exact h.update a order order'
  | emit k => exact h.emit hturn

theorem upToDate [DecidableEq ρ] {moves : List (Section ρ)}
    (h : Run.Guarded (step F) (InTurn F) (start F) moves) :
    ∀ d ∈ Run.states (step F) (start F) moves, d.pending = [] → d.UpToDate F := by
  intro d hd
  have hstep : ∀ d m, Inv F d → InTurn F d m → Inv F (Desk.step F d m) :=
    fun _ _ hd hturn ↦ hd.step hturn
  exact (Run.invariant hstep .start h d hd).upToDate

end Desk

theorem deliveries_up_to_date (pppMoves : List (Section PPPSecret))
    (hotspotMoves : List (Section HotspotUser)) :
    (Run.Guarded (Desk.step pppFeed) (Desk.InTurn pppFeed) (Desk.start pppFeed) pppMoves →
      ∀ d ∈ Run.states (Desk.step pppFeed) (Desk.start pppFeed) pppMoves,
        d.pending = [] → d.UpToDate pppFeed) ∧
    (Run.Guarded (Desk.step hotspotFeed) (Desk.InTurn hotspotFeed) (Desk.start hotspotFeed)
        hotspotMoves →
      ∀ d ∈ Run.states (Desk.step hotspotFeed) (Desk.start hotspotFeed) hotspotMoves,
        d.pending = [] → d.UpToDate hotspotFeed) :=
  ⟨fun h ↦ Desk.upToDate h, fun h ↦ Desk.upToDate h⟩

section Witness

def updateInOrder {ρ : Type} (a : Arrival ρ) : Section ρ :=
  .update a (.asStored ρ) (.asStored ρ)

/-- A secret turns up while its session does; both callbacks leave `mu` before one of them
delivers. -/
def secretAndSession (deliveries : List ℕ) : List (Section PPPSecret) :=
  [updateInOrder (.secret ⟨{ (default : PPPSecret) with id := "*1", name := "budi" }, false⟩),
    updateInOrder (.active (.ofWords [(".id", "*A"), ("name", "budi")]))] ++
    deliveries.map .emit

def userAndSession (deliveries : List ℕ) : List (Section HotspotUser) :=
  [updateInOrder (.secret ⟨{ (default : HotspotUser) with id := "*1", name := "budi" }, false⟩),
    updateInOrder (.active (.ofWords [(".id", "*A"), ("user", "budi")]))] ++
    deliveries.map .emit

theorem delivered_in_turn :
    ((secretAndSession [0, 0]).foldl (Desk.step pppFeed) (Desk.start pppFeed)).UpToDate pppFeed ∧
      ((userAndSession [0, 0]).foldl (Desk.step hotspotFeed)
        (Desk.start hotspotFeed)).UpToDate hotspotFeed := by
  constructor
  · have hturn : Run.Guarded (Desk.step pppFeed) (Desk.InTurn pppFeed) (Desk.start pppFeed)
        (secretAndSession [0, 0]) := by decide
    exact (deliveries_up_to_date _ []).1 hturn _ (Run.foldl_mem_states _ _) (by decide)
  · have hturn : Run.Guarded (Desk.step hotspotFeed) (Desk.InTurn hotspotFeed)
        (Desk.start hotspotFeed) (userAndSession [0, 0]) := by decide
    exact (deliveries_up_to_date [] _).2 hturn _ (Run.foldl_mem_states _ _) (by decide)

/-- The session's callback gets `emitMu` first: the name stays inactive for the client while
it is logged in. -/
theorem shown_while_live :
    ¬ ∀ moves : List (Section PPPSecret),
      (moves.foldl (Desk.step pppFeed) (Desk.start pppFeed)).pending = [] →
        (moves.foldl (Desk.step pppFeed) (Desk.start pppFeed)).UpToDate pppFeed := by
  intro h
  have hup := h (secretAndSession [1, 0]) (by decide)
  have hshown : (shown pppFeed pppFeed.plain ((secretAndSession [1, 0]).foldl
      (Desk.step pppFeed) (Desk.start pppFeed)).delivered "budi").isSome = true := by
    decide
  have hzero := ((hup.idle "budi").mp hshown).2
  exact absurd hzero (by decide)

end Witness

end Rosmon.Inactive
