import Rosmon.Profiles.Sync

namespace Rosmon.Profiles

open Library Store Program Handler

variable {texts : Texts} {t t' : ProfileTable HotspotColumns} {deviceID : ℕ} {w : World}

section Calls

/-- No call fails, where that is assumed. -/
def Env.QuietIf (quiet : Prop) (e : Env) : Prop := quiet → e.Quiet

variable {e : Env} {quiet : Prop}

theorem Env.quiet_cases (e : Env) : e.Quiet ∨ ∃ err, e.fault = some err ∧ ¬e.Quiet := by
  cases h : e.fault with
  | none => exact .inl h
  | some err => exact .inr ⟨err, rfl, by simp [Env.Quiet, h]⟩

/-- A call on the hotspot profiles does what it does to their table, or fails. -/
theorem exec_hotspot_cases (he : e.QuietIf quiet) (c : StoreCall HotspotColumns) (w : World) :
    (¬quiet ∧ ∃ err, (Call.hotspot c).exec e w = (.error err, w)) ∨
      (Call.hotspot c).exec e w =
        ((c.exec e.now w.hotspot).1, { w with hotspot := (c.exec e.now w.hotspot).2 }) := by
  obtain hquiet | ⟨err, hfault, hnot⟩ := e.quiet_cases
  · exact .inr (exec_hotspot hquiet c w)
  · refine .inl ⟨mt he hnot, err, ?_⟩
    simp only [Call.exec, orFault, hfault]

theorem exec_print_cases (he : e.QuietIf quiet) (w : World) :
    (¬quiet ∧ ∃ err, (Call.router .hotspot .print).exec e w = (.error err, w)) ∨
      (Call.router .hotspot .print).exec e w = (.ok (w.router .hotspot).rows.rows, w) := by
  obtain hquiet | ⟨err, hfault, hnot⟩ := e.quiet_cases
  · refine .inr ?_
    simp only [Call.exec, orFault_quiet hquiet, RouterCall.exec, Function.update_eq_self]
  · refine .inl ⟨mt he hnot, err, ?_⟩
    simp only [Call.exec, orFault, hfault, Function.update_eq_self]

theorem exec_listByDevice_cases (he : e.QuietIf quiet) (deviceID : ℕ) (role : String) (w : World) :
    (¬quiet ∧ ∃ err, (Call.listByDevice deviceID role).exec e w = (.error err, w)) ∨
      (Call.listByDevice deviceID role).exec e w =
        (.ok (e.order.order (w.hotspot.rows.rows.filter fun r ↦
          r.live && decide (r.deviceID = deviceID) && (role = "" || r.columns.role = role))), w) := by
  obtain hquiet | ⟨err, hfault, hnot⟩ := e.quiet_cases
  · refine .inr ?_
    simp only [Call.exec, orFault_quiet hquiet]
  · refine .inl ⟨mt he hnot, err, ?_⟩
    simp only [Call.exec, orFault, hfault]

end Calls

section SyncProfiles

/-- A live voucher bears the name. -/
def VoucherNamed (t : ProfileTable HotspotColumns) (deviceID : ℕ) (name : String) : Prop :=
  ∃ r ∈ t.rows, r.live ∧ r.named deviceID name ∧ r.columns.role = "voucher"

instance (t : ProfileTable HotspotColumns) (deviceID : ℕ) (name : String) :
    Decidable (VoucherNamed t deviceID name) :=
  inferInstanceAs (Decidable (∃ r ∈ t.rows, _))

/-- The names that `SyncProfiles` stores a row for: those that are not of a voucher, up to the
first one whose row cannot be stored. -/
def stored (t : ProfileTable HotspotColumns) (deviceID : ℕ) (names : List String) : List String :=
  (names.filter fun name ↦ managed name && decide (¬VoucherNamed t deviceID name)).takeWhile
    fun name ↦ decide (¬Obstructed t deviceID name)

/-- What the loop keeps of the table `t` that it has started on. -/
structure Swept (t : ProfileTable HotspotColumns) (deviceID : ℕ) (done : List String)
    (t' : ProfileTable HotspotColumns) : Prop where
  kept : ∀ r ∈ t.rows, r.live → (∀ name ∈ done, ¬r.named deviceID name) →
    t'.rows.get r.id = some r
  obstructed : ∀ name, ¬VoucherNamed t deviceID name →
    (Obstructed t' deviceID name ↔ Obstructed t deviceID name)

theorem Swept.upsert {done : List String} (h : Swept t deviceID done t') {name : String}
    (hvoucher : ¬VoucherNamed t deviceID name) (hfree : ¬Obstructed t deviceID name) (now : Time) :
    (∃ created, (ProfileTable.upsert now (unknownRow deviceID name) t').1 = .ok created) ∧
      Swept t deviceID (done ++ [name])
        (ProfileTable.upsert now (unknownRow deviceID name) t').2 := by
  obtain ⟨hdone, hagain⟩ := not_obstructed_upsert now (p := unknownRow deviceID name) rfl
    (mt (h.obstructed name hvoucher).mp hfree)
  refine ⟨hdone, fun r hr hlive hnot ↦ ?_, fun other hother ↦ ?_⟩
  · refine get_upsert (h.kept r hr hlive fun n hn ↦ hnot n (List.mem_append_left _ hn)) ?_
    exact hnot name (List.mem_append_right _ List.mem_cons_self)
  · by_cases heq : other = name
    · subst heq
      exact iff_of_false hagain hfree
    · refine (obstructed_upsert ?_ t').trans (h.obstructed other hother)
      rw [ProfileRow.named_iff]
      exact fun hnamed ↦ heq hnamed.2.symm

/-- What has been created when the loop ends on `names`: all that is to be stored, unless a call
has failed before. -/
def Progress (quiet : Prop) (t : ProfileTable HotspotColumns) (deviceID : ℕ)
    (names done created : List String) : Prop :=
  ∃ new, created = done ++ new ∧ new <+: stored t deviceID names ∧
    (quiet → new = stored t deviceID names)

theorem Progress.stop {quiet : Prop} {names done : List String}
    (h : quiet → stored t deviceID names = []) : Progress quiet t deviceID names done done :=
  ⟨[], (List.append_nil done).symm, List.nil_prefix, fun hquiet ↦ (h hquiet).symm⟩

theorem Progress.skip {quiet : Prop} {name : String} {names done created : List String}
    (hskip : stored t deviceID (name :: names) = stored t deviceID names)
    (h : Progress quiet t deviceID names done created) :
    Progress quiet t deviceID (name :: names) done created := by
  unfold Progress
  rwa [hskip]

theorem Progress.store {quiet : Prop} {name : String} {names done created : List String}
    (hstore : stored t deviceID (name :: names) = name :: stored t deviceID names)
    (h : Progress quiet t deviceID names (done ++ [name]) created) :
    Progress quiet t deviceID (name :: names) done created := by
  obtain ⟨new, hcreated, hnew, hall⟩ := h
  refine ⟨name :: new, ?_, ?_, fun hquiet ↦ ?_⟩
  · rw [hcreated, List.append_assoc, List.singleton_append]
  · rw [hstore]
    exact (List.prefix_cons_inj name).mpr hnew
  · rw [hstore, hall hquiet]

theorem syncRows_wp (quiet : Prop) {dbNames : List String}
    (hdb : ∀ name, name ∈ dbNames ↔ VoucherNamed t deviceID name) (names : List String)
    {done : List String} {result : ProfileSyncResult} (hsame : result.created = done)
    (h : Swept t deviceID done w.hotspot) :
    (syncRows deviceID dbNames names result).wp Call.exec (Env.QuietIf quiet) (fun out s ↦
      Progress quiet t deviceID names done out.1.created ∧
        Swept t deviceID out.1.created s.hotspot) w := by
  induction names generalizing done result w with
  | nil =>
    refine ⟨?_, by rwa [hsame]⟩
    rw [hsame]
    exact .stop fun _ ↦ rfl
  | cons name names ih =>
    unfold syncRows
    by_cases hmanaged : managed name = true
    · rw [if_neg (not_not.mpr hmanaged)]
      by_cases hvoucher : VoucherNamed t deviceID name
      · rw [if_pos ((hdb name).mpr hvoucher)]
        have hskip : stored t deviceID (name :: names) = stored t deviceID names := by
          simp [stored, hvoucher]
        refine wp_mono (ih ?_ h) fun out s hout ↦ ⟨hout.1.skip hskip, hout.2⟩
        exact hsame
      · rw [if_neg (mt (hdb name).mp hvoucher)]
        intro e he
        have hstays : Swept t deviceID result.created w.hotspot := by rwa [hsame]
        obtain ⟨hfaulty, err, hfails⟩ | hruns := exec_hotspot_cases he _ w
        · rw [hfails]
          refine ⟨?_, hstays⟩
          rw [hsame]
          exact .stop fun hquiet ↦ absurd hquiet hfaulty
        rw [hruns]
        by_cases hobstructed : Obstructed t deviceID name
        · have hstop : stored t deviceID (name :: names) = [] := by
            simp [stored, hmanaged, hvoucher, hobstructed]
          obtain ⟨err, hfails⟩ := upsert_obstructed (p := unknownRow deviceID name)
            ((h.obstructed name hvoucher).mpr hobstructed) e.now
          rw [StoreCall.exec, hfails]
          refine ⟨?_, hstays⟩
          rw [hsame]
          exact .stop fun _ ↦ hstop
        · have hstore : stored t deviceID (name :: names) = name :: stored t deviceID names := by
            simp [stored, hmanaged, hvoucher, hobstructed]
          obtain ⟨⟨created, hdone⟩, hswept⟩ := h.upsert hvoucher hobstructed e.now
          rw [StoreCall.exec, hdone]
          refine wp_mono (ih ?_ hswept) fun out s hout ↦ ⟨hout.1.store hstore, hout.2⟩
          exact congrArg (· ++ [name]) hsame
    · rw [if_pos hmanaged]
      have hskip : stored t deviceID (name :: names) = stored t deviceID names := by
        simp [stored, hmanaged]
      refine wp_mono (ih ?_ h) fun out s hout ↦ ⟨hout.1.skip hskip, hout.2⟩
      exact hsame

theorem injectRows_wp {ok : Env → Prop} (routerNames : List String) (rows : List HotspotProfile)
    {result : ProfileSyncResult} {created : List String} (hcreated : result.created = created)
    (w : World) :
    (injectRows texts routerNames rows result).wp Call.exec ok
      (fun out s ↦ out.created = created ∧ s.hotspot = w.hotspot) w := by
  induction rows generalizing result w with
  | nil => exact ⟨hcreated, rfl⟩
  | cons p rows ih =>
    unfold injectRows
    by_cases hsystem : isSystemProfile p.name = true
    · rw [if_pos hsystem]
      exact ih hcreated w
    rw [if_neg hsystem]
    by_cases horphan : p.name ∉ routerNames
    · rw [if_pos horphan]
      refine ih ?_ w
      exact hcreated
    · rw [if_neg horphan]
      have hkeeps : (injectOnLoginScript texts p).wp Call.exec ok
          (fun _ s ↦ s.hotspot = w.hotspot) w := by
        refine (injectOnLoginScript_keeps texts p).wp (fun c e s hc _ hs ↦ ?_) rfl
        rwa [Call.exec_keepsHotspot hc]
      refine (wp_bind _ _ _).mpr (wp_mono hkeeps fun r s hs ↦ ?_)
      rw [← hs]
      cases r with
      | error _ | ok _ =>
        refine ih ?_ s
        exact hcreated

theorem mem_vouchers (e : Env) (t : ProfileTable HotspotColumns) (deviceID : ℕ) (name : String) :
    name ∈ (e.order.order (t.rows.rows.filter fun r ↦ r.live &&
      decide (r.deviceID = deviceID) && ("voucher" = "" || r.columns.role = "voucher"))).map (·.name) ↔
      VoucherNamed t deviceID name := by
  simp only [List.mem_map, Arrangement.mem_order, List.mem_filter, VoucherNamed,
    ProfileRow.named_iff, Bool.and_eq_true, decide_eq_true_eq]
  constructor
  · rintro ⟨r, ⟨hr, ⟨hlive, hdevice⟩, hrole⟩, hname⟩
    exact ⟨r, hr, hlive, ⟨hdevice, hname⟩, by simpa using hrole⟩
  · rintro ⟨r, hr, hlive, ⟨hdevice, hname⟩, hrole⟩
    exact ⟨r, ⟨hr, ⟨hlive, hdevice⟩, by simpa using hrole⟩, hname⟩

/-- `SyncProfiles` reports the rows that it has stored, and keeps the others. -/
theorem syncProfiles_wp (texts : Texts) (quiet : Prop) (deviceID : ℕ) (w : World) :
    (syncProfiles texts deviceID).wp Call.exec (Env.QuietIf quiet) (fun out s ↦
      Progress quiet w.hotspot deviceID ((w.router .hotspot).rows.rows.map Item.name) []
          out.1.created ∧
        Swept w.hotspot deviceID out.1.created s.hotspot) w := by
  have hstart : Swept w.hotspot deviceID [] w.hotspot :=
    ⟨fun r hr _ _ ↦ Table.get_eq_some.mpr ⟨hr, rfl⟩, fun _ _ ↦ Iff.rfl⟩
  intro e he
  obtain ⟨hfaulty, err, hfails⟩ | hruns := exec_print_cases he w
  · rw [hfails]
    exact ⟨.stop fun hquiet ↦ absurd hquiet hfaulty, hstart⟩
  rw [hruns]
  intro e he
  obtain ⟨hfaulty, err, hfails⟩ | hruns := exec_listByDevice_cases he deviceID "voucher" w
  · rw [hfails]
    exact ⟨.stop fun hquiet ↦ absurd hquiet hfaulty, hstart⟩
  rw [hruns]
  have hempty : (⟨[], [], [], [], []⟩ : ProfileSyncResult).created = [] := rfl
  have hloop := syncRows_wp quiet (mem_vouchers e w.hotspot deviceID)
    ((w.router .hotspot).rows.rows.map Item.name) hempty hstart
  refine (wp_bind (syncRows deviceID _ _ _) _ _).mpr (wp_mono hloop fun out s hout ↦ ?_)
  obtain ⟨result, err⟩ := out
  cases err with
  | some err => exact hout
  | none =>
    refine (wp_bind (injectRows texts _ _ _) _ _).mpr
      (wp_mono (injectRows_wp _ _ rfl s) fun result' s' h ↦ ?_)
    obtain ⟨hcreated, hsame⟩ := h
    rw [pure_eq, wp_ret, hcreated, hsame]
    exact hout

end SyncProfiles

section Sync

variable {role : String} {res : SyncResponse} {q r : HotspotProfile} {rps : List RouterProfile}

/-- One profile of the router: its row is stored, or the response stays as it is. -/
theorem upsertRows_step (quiet : Prop) (deviceID : ℕ) (role : String) (rp : RouterProfile)
    {Q : SyncResponse → World → Prop}
    (hskip : (managed rp.name → quiet → Obstructed w.hotspot deviceID rp.name) →
      (upsertRows deviceID role rps res).wp Call.exec (Env.QuietIf quiet) Q w)
    (hstore : managed rp.name → ¬Obstructed w.hotspot deviceID rp.name → ∀ now created,
      (w.hotspot.upsert now (routerRow deviceID role rp)).1 = .ok created →
      (upsertRows deviceID role rps
        (if created then { res with created := res.created ++ [rp.name] }
        else { res with synced := res.synced ++ [rp.name] })).wp Call.exec (Env.QuietIf quiet) Q
        { w with hotspot := (w.hotspot.upsert now (routerRow deviceID role rp)).2 }) :
    (upsertRows deviceID role (rp :: rps) res).wp Call.exec (Env.QuietIf quiet) Q w := by
  unfold upsertRows
  by_cases hmanaged : managed rp.name = true
  · rw [if_neg (not_not.mpr hmanaged)]
    intro e he
    obtain ⟨hfaulty, err, hfails⟩ | hruns := exec_hotspot_cases he _ w
    · rw [hfails]
      exact hskip fun _ hquiet ↦ absurd hquiet hfaulty
    rw [hruns, StoreCall.exec]
    by_cases hob : Obstructed w.hotspot deviceID rp.name
    · obtain ⟨err, hfails⟩ := upsert_obstructed (p := routerRow deviceID role rp) hob e.now
      rw [hfails]
      exact hskip fun _ _ ↦ hob
    · obtain ⟨⟨created, hdone⟩, -⟩ :=
        not_obstructed_upsert e.now (p := routerRow deviceID role rp) rfl hob
      have hnext := hstore hmanaged hob e.now created hdone
      rw [hdone]
      cases created <;> exact hnext
  · rw [if_pos hmanaged]
    exact hskip fun h ↦ absurd h hmanaged

end Sync

end Rosmon.Profiles
