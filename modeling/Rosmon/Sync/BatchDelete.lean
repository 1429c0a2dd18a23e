import Rosmon.Library.Program
import Rosmon.Sync.Warnings

namespace Rosmon

open Library Store Mikrotik Program Service Handler

/-- The rows that one statement over a list of ids deletes. -/
def Store.Subscription.liveAmong (ids : List ℕ) (s : Subscription) : Bool :=
  s.live && decide (s.id ∈ ids)

/-- The calls of the batch handler: a statement over a list, and those of the others. -/
inductive BatchCall
  | deleteAmong (ids : List ℕ)
  | other (c : Call)

abbrev BatchCall.Reply : BatchCall → Type
  | .deleteAmong _ => Except Error ℕ
  | .other c => c.Reply

def BatchCall.exec : (c : BatchCall) → Env → World → c.Reply × World
  | .deleteAmong ids, e, w =>
    let t := w.subscriptions
    orFault e w (.ok (t.rows.countP (Subscription.liveAmong ids)), { w with
      subscriptions := t.update (Subscription.liveAmong ids) (Subscription.softDelete e.now) })
  | .other c, e, w => c.exec e w

abbrev BatchProg (α : Type) := Program BatchCall BatchCall.Reply α

namespace BatchProg

def ofProg {α : Type} (p : Prog α) : BatchProg α := p.lift .other fun _ r ↦ r

theorem wp_ofProg {α : Type} {ok : Env → Prop} {Q : α → World → Prop} {p : Prog α} {w : World}
    (h : p.wp Call.exec ok Q w) : (ofProg p).wp BatchCall.exec ok Q w := by
  induction p generalizing w with
  | ret a => exact h
  | call c k ih => exact fun e he ↦ ih _ (h e he)

end BatchProg

/-- `BatchDelete` of the store. -/
def Store.batchDelete (ids : List ℕ) : BatchProg (Except Error ℕ) :=
  if ids = [] then pure (.ok 0) else Program.perform (BatchCall.deleteAmong ids)

/-- `Subscriptions.BatchDelete`; a list is required and must not be empty. -/
def Handler.batchDeleteSubscriptions (ids : List ℕ) (actor : Option ℕ) :
    BatchProg (Response ℕ) := do
  if ids = [] then return .failure 400 "VALIDATION" "request validation failed"
  match ← Store.batchDelete ids with
  | .error err => return writeErr err
  | .ok count => do
    ids.forM fun id ↦
      BatchProg.ofProg (audit actor "subscription_batch_deleted" "subscription" id)
    return .success 200 count

/-- `Subscriptions.Delete` for one id after the other. -/
def deleteEach (ids : List ℕ) (actor : Option ℕ) : Prog Unit :=
  ids.forM fun id ↦ do let _ ← deleteSubscription id actor

/-- A row but for the moment at which it was deleted. -/
def Store.Subscription.undated (s : Subscription) : Subscription :=
  { s with deletedAt := s.deletedAt.map fun _ ↦ 0 }

/-- Each row is deleted at a moment of its own. -/
def Store.Subscription.softDeleteAt (times : ℕ → Time) (s : Subscription) : Subscription :=
  s.softDelete (times s.id)

instance (times : ℕ → Time) : KeepsKey (Subscription.softDeleteAt times) := ⟨fun _ ↦ rfl⟩

/-- The same subscriptions, and the same records in every table of every router. -/
structure SameOutcome (w w' : World) : Prop where
  rows : w.subscriptions.rows.map Subscription.undated =
    w'.subscriptions.rows.map Subscription.undated
  records : ∀ deviceID service row, row ∈ (w.routers deviceID).records service ↔
    row ∈ (w'.routers deviceID).records service

theorem not_faulty_faultless : ¬Faulty Env.Faultless := fun ⟨_, he, hf⟩ ↦ hf he

theorem Env.Faultless.honest {e : Env} (h : e.Faultless) : e.Honest := by
  intro err herr
  have hnone : e.fault = none := h
  rw [hnone] at herr
  cases herr

section Single

variable {w : World}

theorem record_of_noName (hw : ∀ id, (w.routers id).WellFormed) {l : Login} (hl : l.name = "") :
    w.record l = none := by
  have hnone : ∀ row ∈ (w.routers l.deviceID).records l.service, row.name ≠ l.name :=
    fun row hrow ↦ hl ▸ (((hw l.deviceID).tidy l.service).named row hrow).2
  exact find_none_iff.mpr hnone

/-- When nothing fails, the record is gone afterwards, whether there was one or not. -/
theorem puts_none_of_warns {sub : Subscription} {text : String} {w' : World}
    (h : Warns Env.Faultless sub.login (lookedUp sub (some none) fun _ ↦ none) w text w') :
    Puts sub.login none w w' := by
  cases h with
  | @done o _ hf hput =>
    have ho : o = none := by
      cases haccount : w.account sub.login <;> rw [haccount] at hf <;>
        simp only [lookedUp] at hf <;> split_ifs at hf <;>
        simpa using (Option.some.inj hf).symm
    exact ho ▸ hput
  | warned _ hput hr =>
    have hname : sub.mikrotikUsername = "" := by
      have hf := hr.resolve_left not_faulty_faultless
      by_contra hne
      cases haccount : w.account sub.login <;> rw [haccount] at hf <;>
        simp [lookedUp, hne] at hf
    exact ⟨hput.rest, hput.wellFormed, record_of_noName hput.wellFormed hname, hput.elsewhere⟩

/-- Only the log may have changed. -/
def Logged (w w' : World) : Prop := ∃ logs, w' = { w with auditLogs := logs }

theorem audit_logged (ok : Env → Prop) (userID : Option ℕ) (action entityType : String)
    (entityID : ℕ) :
    (audit userID action entityType entityID).wp Call.exec ok (fun _ w' ↦ Logged w w') w := by
  intro e _
  obtain h | ⟨err, h⟩ := orFault_cases e w
    (.ok (), { w with auditLogs := w.auditLogs ++ [⟨userID, action, entityType, entityID⟩] })
  · exact ⟨_, congrArg Prod.snd h⟩
  · exact ⟨w.auditLogs, congrArg Prod.snd h⟩

/-- One deletion: the row is marked, and its login has no record any more. -/
structure Deletes (sub : Subscription) (w w' : World) : Prop where
  rows : ∃ now, w'.subscriptions =
    w.subscriptions.update (Subscription.liveAt sub.id) (Subscription.softDelete now)
  connected : w'.connected = w.connected
  wellFormed : ∀ id, (w'.routers id).WellFormed
  here : w'.record sub.login = none
  elsewhere : ∀ l, l ≠ sub.login → w'.record l = w.record l

theorem deleteSubscription_deletes (hw : ∀ id, (w.routers id).WellFormed) {sub : Subscription}
    (hrow : w.row sub.id = some sub) (hdevice : sub.deviceID ∈ w.connected) (actor : Option ℕ) :
    (deleteSubscription sub.id actor).wp Call.exec Env.Faultless
      (fun _ w' ↦ Deletes sub w w') w := by
  have hfind : w.subscriptions.find (Subscription.liveAt sub.id) = some sub := hrow
  simp only [deleteSubscription, withSubscription, perform_bind]
  intro e he
  simp only [Call.exec, SubscriptionCall.exec, orFault_of_quiet he, hfind, found_some]
  intro e' he'
  simp only [Call.exec, SubscriptionCall.exec, orFault_of_quiet he', updated, hfind,
    Option.isSome_some, if_true]
  rw [wp_bind]
  refine wp_mono (audit_logged _ actor _ _ _) ?_
  rintro - u ⟨logs, rfl⟩
  rw [wp_bind]
  refine wp_mono (tryRemoveOnRouter_warns hw (fun _ h ↦ h.honest) hdevice) fun text w' h ↦ ?_
  have hput := puts_none_of_warns h
  have hdeletes : Deletes sub w w' :=
    ⟨⟨e'.now, by rw [hput.rest]⟩, by rw [hput.rest], hput.wellFormed, hput.here, hput.elsewhere⟩
  split_ifs
  · exact hdeletes
  · exact hdeletes

end Single

section Many

variable {w : World} {ids : List ℕ}

theorem undated_softDelete (s : Subscription) (now now' : Time) :
    (s.softDelete now).undated = (s.softDelete now').undated := rfl

/-- A row deleted first, and then those of a list. -/
theorem update_update (t : Table Subscription) (id : ℕ) (ids : List ℕ) (now : Time)
    (times : ℕ → Time) :
    (t.update (Subscription.liveAt id) (Subscription.softDelete now)).update
        (Subscription.liveAmong ids) (Subscription.softDeleteAt times) =
      t.update (Subscription.liveAmong (id :: ids))
        (Subscription.softDeleteAt (Function.update times id now)) := by
  refine Table.ext ?_ rfl
  simp only [Table.update, List.map_map]
  apply List.map_congr_left
  intro s _
  cases hlive : s.live with
  | false => simp [Subscription.liveAt, Subscription.liveAmong, hlive]
  | true =>
    by_cases hid : s.id = id
    · have hdead : (s.softDelete now).live = false := rfl
      simp [Subscription.liveAt, Subscription.liveAmong, Subscription.softDeleteAt, hlive, hid, hdead]
    · simp [Subscription.liveAt, Subscription.liveAmong, Subscription.softDeleteAt, hlive, hid]

/-- The rows of a list have been deleted, and their logins have no records any more. -/
structure DeletesAll (ids : List ℕ) (w w' : World) : Prop where
  rows : ∃ times, w'.subscriptions =
    w.subscriptions.update (Subscription.liveAmong ids) (Subscription.softDeleteAt times)
  wellFormed : ∀ id, (w'.routers id).WellFormed
  gone : ∀ sub ∈ w.subscriptions, sub.live → sub.id ∈ ids → w'.record sub.login = none
  kept : ∀ l, (∀ sub ∈ w.subscriptions, sub.live → sub.id ∈ ids → sub.login ≠ l) →
    w'.record l = w.record l

theorem DeletesAll.refl (hw : ∀ id, (w.routers id).WellFormed) : DeletesAll [] w w where
  rows := ⟨fun _ ↦ 0, (Table.update_of_none fun s _ ↦ by simp [Subscription.liveAmong]).symm⟩
  wellFormed := hw
  gone _ _ _ h := absurd h List.not_mem_nil
  kept _ _ := rfl

/-- The record of a login never comes back. -/
theorem DeletesAll.none {w' : World} (h : DeletesAll ids w w') {l : Login}
    (hl : w.record l = none) : w'.record l = none := by
  by_cases hlisted : ∀ sub ∈ w.subscriptions, sub.live → sub.id ∈ ids → sub.login ≠ l
  · rw [h.kept l hlisted, hl]
  · push Not at hlisted
    obtain ⟨sub, hsub, hlive, hid, rfl⟩ := hlisted
    exact h.gone sub hsub hlive hid

/-- The rows that are left after one deletion. -/
theorem Deletes.mem_iff {sub : Subscription} {u : World} (h : Deletes sub w u) {s : Subscription}
    (hs : s.live) : s ∈ u.subscriptions ↔ s ∈ w.subscriptions ∧ s.id ≠ sub.id := by
  obtain ⟨now, hrows⟩ := h.rows
  rw [hrows, Table.mem_update]
  constructor
  · rintro ⟨r, hr, heq⟩
    split_ifs at heq with hat
    · subst heq
      exact absurd hs (by simp [Subscription.softDelete, Subscription.live])
    · subst heq
      refine ⟨hr, fun hid ↦ hat ?_⟩
      simp [Subscription.liveAt, hs, hid]
  · rintro ⟨hr, hid⟩
    exact ⟨s, hr, by simp [Subscription.liveAt, hid]⟩

theorem Deletes.cons {sub : Subscription} {u v : World} (hrow : w.row sub.id = some sub)
    (h : Deletes sub w u) (h' : DeletesAll ids u v) : DeletesAll (sub.id :: ids) w v := by
  obtain ⟨hsub, hlive, -⟩ := row_iff.mp hrow
  have hnone : v.record sub.login = none := h'.none h.here
  refine ⟨?_, h'.wellFormed, ?_, ?_⟩
  · obtain ⟨now, hu⟩ := h.rows
    obtain ⟨times, hv⟩ := h'.rows
    exact ⟨_, by rw [hv, hu, update_update]⟩
  · intro s hs hlive hid
    by_cases heq : s.id = sub.id
    · rw [Table.eq_of_key hs hsub heq]
      exact hnone
    · have hmem : s.id ∈ ids := (List.mem_cons.mp hid).resolve_left heq
      exact h'.gone s ((h.mem_iff hlive).mpr ⟨hs, heq⟩) hlive hmem
  · intro l hl
    have hne : sub.login ≠ l := hl sub hsub hlive List.mem_cons_self
    rw [h'.kept l fun s hs hlive hid ↦ ?_, h.elsewhere l hne.symm]
    exact hl s ((h.mem_iff hlive).mp hs).1 hlive (List.mem_cons_of_mem _ hid)

theorem deleteEach_deletesAll (hw : ∀ id, (w.routers id).WellFormed)
    (hdevices : ∀ sub ∈ w.subscriptions, sub.live → sub.deviceID ∈ w.connected)
    (hnodup : ids.Nodup) (hrows : ∀ id ∈ ids, (w.row id).isSome) (actor : Option ℕ) :
    (deleteEach ids actor).wp Call.exec Env.Faultless (fun _ w' ↦ DeletesAll ids w w') w := by
  induction ids generalizing w with
  | nil => exact .refl hw
  | cons id ids ih =>
    obtain ⟨sub, hrow⟩ := Option.isSome_iff_exists.mp (hrows id List.mem_cons_self)
    obtain ⟨hsub, hlive, rfl⟩ := row_iff.mp hrow
    obtain ⟨hfresh, hnodup⟩ := List.nodup_cons.mp hnodup
    have hfirst := deleteSubscription_deletes hw hrow (hdevices sub hsub hlive) actor
    refine (wp_bind _ _ _).mpr ((wp_bind _ _ _).mpr (wp_mono hfirst fun _ u hu ↦ ?_))
    have hleft : ∀ id ∈ ids, (u.row id).isSome := by
      intro id hid
      obtain ⟨s, hsrow⟩ := Option.isSome_iff_exists.mp (hrows id (List.mem_cons_of_mem _ hid))
      obtain ⟨hs, hslive, rfl⟩ := row_iff.mp hsrow
      have hne : s.id ≠ sub.id := fun heq ↦ hfresh (heq ▸ hid)
      rw [row_of_mem ((hu.mem_iff hslive).mpr ⟨hs, hne⟩) hslive]
      rfl
    have hdevices' : ∀ s ∈ u.subscriptions, s.live → s.deviceID ∈ u.connected := by
      intro s hs hslive
      rw [hu.connected]
      exact hdevices s ((hu.mem_iff hslive).mp hs).1 hslive
    have hrest := ih hu.wellFormed hdevices' hnodup hleft
    exact wp_mono (p := deleteEach ids actor) hrest fun _ v hv ↦ hu.cons hrow hv

theorem batchDelete_marks (ids : List ℕ) (actor : Option ℕ) :
    (batchDeleteSubscriptions ids actor).wp BatchCall.exec Env.Faultless (fun _ w' ↦
      ∃ now, w'.subscriptions = w.subscriptions.update (Subscription.liveAmong ids)
        (Subscription.softDelete now) ∧ w'.routers = w.routers) w := by
  by_cases hids : ids = []
  · subst hids
    exact ⟨0, (Table.update_of_none fun s _ ↦ by simp [Subscription.liveAmong]).symm, rfl⟩
  · simp only [batchDeleteSubscriptions, Store.batchDelete, if_neg hids, perform_bind]
    intro e he
    simp only [BatchCall.exec, orFault_of_quiet he]
    rw [wp_bind]
    refine wp_mono (wp_forM (fun _ w' ↦ w'.subscriptions = w.subscriptions.update
      (Subscription.liveAmong ids) (Subscription.softDelete e.now) ∧ w'.routers = w.routers)
      ?_ ⟨rfl, rfl⟩) ?_
    · rintro id _ u hu
      apply BatchProg.wp_ofProg
      refine wp_mono (audit_logged _ actor _ _ id) ?_
      rintro - v ⟨logs, rfl⟩
      exact hu
    · intro _ w' hw'
      exact ⟨e.now, hw'⟩

end Many

section Agreement

variable {w : World} {ids order : List ℕ}

theorem mem_records_iff (hw : ∀ id, (w.routers id).WellFormed) {deviceID : ℕ}
    {service : ServiceType} {row : Record} : row ∈ (w.routers deviceID).records service ↔
      w.record ⟨deviceID, service, row.name⟩ = some row := by
  have hfind : w.record ⟨deviceID, service, row.name⟩ = some row ↔
      row ∈ (w.routers deviceID).records service ∧ row.name = row.name :=
    ((hw deviceID).tidy service).find_iff
  exact ⟨fun h ↦ hfind.mpr ⟨h, rfl⟩, fun h ↦ (hfind.mp h).1⟩

/-- The rows of the two ways differ in the moments of deletion alone. -/
theorem undated_rows (horder : ∀ id, id ∈ order ↔ id ∈ ids ∧ (w.row id).isSome) (now : Time)
    (times : ℕ → Time) :
    (w.subscriptions.update (Subscription.liveAmong ids) (Subscription.softDelete now)).rows.map
        Subscription.undated =
      (w.subscriptions.update (Subscription.liveAmong order)
        (Subscription.softDeleteAt times)).rows.map Subscription.undated := by
  simp only [Table.update, List.map_map]
  apply List.map_congr_left
  intro s hs
  cases hlive : s.live with
  | false => simp [Subscription.liveAmong, hlive]
  | true =>
    have hsome : (w.row s.id).isSome := by
      rw [row_of_mem hs hlive]
      rfl
    have hiff : s.id ∈ order ↔ s.id ∈ ids := (horder s.id).trans (and_iff_left hsome)
    by_cases hid : s.id ∈ ids
    · simp [Subscription.liveAmong, hlive, hiff, hid, Subscription.softDeleteAt,
        undated_softDelete s now (times s.id)]
    · simp [Subscription.liveAmong, hlive, hiff, hid]

/-- One request for a list does what a request for each of its subscriptions does exactly if none
of them has a record on its router. -/
theorem batchDelete_agrees_iff (hw : ∀ id, (w.routers id).WellFormed)
    (hdevices : ∀ sub ∈ w.subscriptions, sub.live → sub.deviceID ∈ w.connected)
    (hnodup : order.Nodup) (horder : ∀ id, id ∈ order ↔ id ∈ ids ∧ (w.row id).isSome)
    (actor : Option ℕ) {env env' : ℕ → Env} (henv : ∀ n, (env n).Faultless)
    (henv' : ∀ n, (env' n).Faultless) :
    SameOutcome ((batchDeleteSubscriptions ids actor).run BatchCall.exec env w).2
        ((deleteEach order actor).run Call.exec env' w).2 ↔
      ∀ sub ∈ w.subscriptions, sub.live → sub.id ∈ ids → w.record sub.login = none := by
  obtain ⟨now, hrows, hrouters⟩ := run_of_wp (batchDelete_marks (w := w) ids actor) env henv
  have hlive : ∀ id ∈ order, (w.row id).isSome := fun id hid ↦ ((horder id).mp hid).2
  have hall := run_of_wp (deleteEach_deletesAll hw hdevices hnodup hlive actor) env' henv'
  generalize ((batchDeleteSubscriptions ids actor).run BatchCall.exec env w).2 = u
    at hrows hrouters ⊢
  generalize ((deleteEach order actor).run Call.exec env' w).2 = v at hall ⊢
  have hlisted : ∀ sub ∈ w.subscriptions, sub.live → sub.id ∈ ids → sub.id ∈ order := by
    intro sub hsub hslive hid
    rw [horder, row_of_mem hsub hslive]
    exact ⟨hid, rfl⟩
  constructor
  · intro hsame sub hsub hslive hid
    by_contra hne
    obtain ⟨row, hrow⟩ := Option.ne_none_iff_exists'.mp hne
    have hname : row.name = sub.login.name := by simpa using List.find?_some hrow
    have hmem : row ∈ (w.routers sub.deviceID).records sub.serviceType :=
      List.mem_of_find?_eq_some hrow
    rw [← hrouters, hsame.records, mem_records_iff hall.wellFormed, hname] at hmem
    have hgone := hall.gone sub hsub hslive (hlisted sub hsub hslive hid)
    exact absurd (hgone.symm.trans hmem) (by simp)
  · intro hnone
    have hrecord : ∀ l, v.record l = w.record l := by
      intro l
      by_cases hl : ∀ sub ∈ w.subscriptions, sub.live → sub.id ∈ order → sub.login ≠ l
      · exact hall.kept l hl
      · push Not at hl
        obtain ⟨sub, hsub, hslive, hid, rfl⟩ := hl
        rw [hall.gone sub hsub hslive hid, hnone sub hsub hslive ((horder _).mp hid).1]
    constructor
    · obtain ⟨times, htimes⟩ := hall.rows
      rw [hrows, htimes]
      exact undated_rows horder now times
    · intro deviceID service row
      rw [hrouters, mem_records_iff hw, mem_records_iff hall.wellFormed, hrecord]

/-- The router of a world to which one record has been added. -/
def routerWith (name : String) : Router :=
  (RouterCall.exec .pppoe (.add ⟨name, "rahasia", "pppoe", "paket-10M", false⟩) .blank).2

theorem batchDelete_agrees_elsewhere :
    let w := { World.oneInvoice 150000 .active with routers := fun _ ↦ routerWith "ani" }
    SameOutcome
        ((batchDeleteSubscriptions [1, 7, 1] none).run BatchCall.exec (fun _ ↦ .calm 0) w).2
        ((deleteEach [1] none).run Call.exec (fun _ ↦ .calm 0) w).2 ↔
      ∀ sub ∈ w.subscriptions, sub.live → sub.id ∈ [1, 7, 1] → w.record sub.login = none := by
  refine batchDelete_agrees_iff (fun _ ↦ RouterCall.exec_wellFormed Router.blank_wellFormed _ _)
    (by decide) (by decide) (fun id ↦ ?_) none (fun _ ↦ rfl) fun _ ↦ rfl
  by_cases hid : id = 1
  · subst hid
    decide
  · have hnone : World.row { World.oneInvoice 150000 .active with
        routers := fun _ ↦ routerWith "ani" } id = none := by
      refine Table.find_eq_none.mpr fun sub hsub ↦ ?_
      obtain rfl := List.mem_singleton.mp hsub
      exact decide_eq_false (Ne.symm hid)
    simp [hid, hnone]

/-- The secret of the subscription stays on its router. -/
theorem batchDelete_leaves_secret :
    let w := { World.oneInvoice 150000 .active with routers := fun _ ↦ routerWith "budi" }
    (∀ id, (w.routers id).WellFormed) ∧ (∀ sub ∈ w.subscriptions, sub.deviceID ∈ w.connected) ∧
      ¬SameOutcome
        ((batchDeleteSubscriptions [1] none).run BatchCall.exec (fun _ ↦ .calm 0) w).2
        ((deleteEach [1] none).run Call.exec (fun _ ↦ .calm 0) w).2 := by
  refine ⟨fun _ ↦ RouterCall.exec_wellFormed Router.blank_wellFormed _ _, by decide, ?_⟩
  intro h
  have hrow := h.records 1 .pppoe ⟨"*1", "budi", "rahasia", "pppoe", "paket-10M", false⟩
  exact absurd (hrow.mp (by decide)) (by decide)

end Agreement

end Rosmon
