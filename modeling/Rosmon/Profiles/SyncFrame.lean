import Rosmon.Profiles.SyncEffects

namespace Rosmon.Profiles

open Go Library Store Program Handler UniqueTable

variable {texts : Texts} {t t' : ProfileTable HotspotColumns} {deviceID : ℕ} {w : World}
variable {quiet : Prop} {role : String} {res : SyncResponse} {q r : HotspotProfile}
variable {rps : List RouterProfile}

section Properties

/-- The live rows stay as they are, and none of them is reported as created. -/
def KeptBySync (deviceID : ℕ) (created : List String) (t t' : ProfileTable HotspotColumns) : Prop :=
  ∀ r ∈ t.rows, r.live →
    t'.rows.get r.id = some r ∧ ¬(r.deviceID = deviceID ∧ r.name ∈ created)

/-- The row with the values of the router. -/
def HotspotColumns.fromRouter (rp : RouterProfile) (c : HotspotColumns) : HotspotColumns :=
  { c with
    rateLimit := rp.rateLimit
    addressPool := rp.addressPool
    sharedUsers := rp.sharedUsers
    statusAutorefresh := rp.statusAutorefresh
    parentQueue := rp.parentQueue
    active := true }

/-- The live rows that are reported as synchronised get the values of the router, and the others
stay as they are. -/
def SyncedFromRouter (deviceID : ℕ) (rps : List RouterProfile) (synced : List String)
    (t t' : ProfileTable HotspotColumns) : Prop :=
  ∀ r ∈ t.rows, r.live →
    if r.deviceID = deviceID ∧ r.name ∈ synced then
      ∃ rp ∈ rps, rp.name = r.name ∧ ∃ now, t'.rows.get r.id =
        some { r with columns := r.columns.fromRouter rp, updatedAt := now }
    else t'.rows.get r.id = some r

/-- The names that an answer reports as synchronised. -/
def syncedNames : Response SyncResponse → List String
  | .success _ res => res.synced
  | .failure .. => []

theorem syncedNames_writeErr (err : Error) : syncedNames (writeErr err) = [] := by
  unfold writeErr
  split_ifs <;> rfl

/-- No row that `SyncProfiles` stores takes the place of a live one. -/
def Unnamed (t : ProfileTable HotspotColumns) (deviceID : ℕ) (names : List String) : Prop :=
  ∀ name ∈ stored t deviceID names, ∀ r ∈ t.rows, r.live → ¬r.named deviceID name

/-- The live rows that `Sync` writes are of one user on the router, where it takes them for
vouchers. -/
def SingleUser (t : ProfileTable HotspotColumns) (deviceID : ℕ) (role : String)
    (rps : List RouterProfile) : Prop :=
  role = "voucher" → ∀ r ∈ t.rows, r.live → r.deviceID = deviceID →
    ¬Obstructed t deviceID r.name → ∀ rp ∈ rps, managed rp.name → rp.name = r.name →
      rp.sharedUsers = 1

end Properties

section SyncProfiles

/-- `SyncProfiles` keeps the live rows just if none of them has a name that it stores. -/
theorem kept_of_unnamed {names created : List String} (hnames : Unnamed t deviceID names)
    (hcreated : Progress quiet t deviceID names [] created) (h : Swept t deviceID created t') :
    KeptBySync deviceID created t t' := by
  obtain ⟨new, hsame, hnew, -⟩ := hcreated
  obtain rfl : created = new := hsame
  intro r hr hlive
  have hnot : ∀ name ∈ created, ¬r.named deviceID name :=
    fun name hname ↦ hnames name (hnew.subset hname) r hr hlive
  refine ⟨h.kept r hr hlive hnot, fun hin ↦ ?_⟩
  exact hnot r.name hin.2 (ProfileRow.named_iff.mpr ⟨hin.1, rfl⟩)

theorem unnamed_of_kept {names created : List String} (hquiet : quiet)
    (hcreated : Progress quiet t deviceID names [] created)
    (h : KeptBySync deviceID created t t') : Unnamed t deviceID names := by
  obtain ⟨new, hsame, -, hall⟩ := hcreated
  obtain rfl : created = new := hsame
  intro name hname r hr hlive hnamed
  obtain ⟨hdevice, rfl⟩ := ProfileRow.named_iff.mp hnamed
  refine (h r hr hlive).2 ⟨hdevice, ?_⟩
  rw [hall hquiet]
  exact hname

end SyncProfiles

section Sync

/-- What `Upsert` writes over a live row from the router. -/
theorem merged_routerRow (hlive : r.live) (hdevice : r.deviceID = deviceID)
    {rp : RouterProfile} (hname : rp.name = r.name) (now : Time) :
    (ProfileTable.merged r (routerRow deviceID role rp)).stamp now =
      { r with
        columns :=
          { r.columns.fromRouter rp with
            sharedUsers := if role = "voucher" then 1 else rp.sharedUsers }
        updatedAt := now } := by
  have hdeleted : r.deletedAt = none := by simpa [ProfileRow.live] using hlive
  simp only [ProfileTable.merged, routerRow, newRow, ProfileRow.stamp, hlive, if_true,
    hname, hdevice, hdeleted, HotspotColumns.fromRouter]
  rfl

/-- A row that the rest of the loop does not name. -/
theorem upsertRows_other (quiet : Prop) (res : SyncResponse) (hget : w.hotspot.rows.get r.id = some r)
    (hnot : ∀ rp ∈ rps, ¬r.named deviceID rp.name) {name : String} (hname : name ∈ res.synced) :
    (upsertRows deviceID role rps res).wp Call.exec (Env.QuietIf quiet)
      (fun out s ↦ name ∈ out.synced ∧ s.hotspot.rows.get r.id = some r) w := by
  induction rps generalizing res w with
  | nil => exact ⟨hname, hget⟩
  | cons rp rps ih =>
    have hrest := fun p hp ↦ hnot p (List.mem_cons_of_mem rp hp)
    refine upsertRows_step quiet deviceID role rp (fun _ ↦ ih res hget hrest hname)
      fun _ _ now created _ ↦ ?_
    refine ih _ (get_upsert hget (hnot rp List.mem_cons_self)) hrest ?_
    cases created with
    | false => exact List.mem_append_left _ hname
    | true => exact hname

/-- What becomes of a live row in the loop of `Sync`. -/
structure Fate (quiet : Prop) (t : ProfileTable HotspotColumns) (deviceID : ℕ) (role : String)
    (rps : List RouterProfile) (r : HotspotProfile) (synced : List String)
    (row : Option HotspotProfile) : Prop where
  row : if r.deviceID = deviceID ∧ r.name ∈ synced then
      ∃ rp ∈ rps, managed rp.name ∧ rp.name = r.name ∧ ∃ now,
        row = some ((ProfileTable.merged r (routerRow deviceID role rp)).stamp now)
    else row = some r
  obstructed : r.deviceID = deviceID → r.name ∈ synced → ¬Obstructed t deviceID r.name
  stored : quiet → r.deviceID = deviceID → ¬Obstructed t deviceID r.name →
    ∀ rp ∈ rps, managed rp.name → rp.name = r.name → r.name ∈ synced

variable {synced : List String} {row : Option HotspotProfile} {rp : RouterProfile}

theorem Fate.cons (h : Fate quiet t deviceID role rps r synced row)
    (hhead : quiet → r.deviceID = deviceID → ¬Obstructed t deviceID r.name →
      managed rp.name → rp.name = r.name → r.name ∈ synced) :
    Fate quiet t deviceID role (rp :: rps) r synced row := by
  refine ⟨?_, h.obstructed, fun hquiet hdevice hfree p hp hmanaged hname ↦ ?_⟩
  · have hrow := h.row
    split_ifs at hrow ⊢ with hin
    · obtain ⟨p, hp, hrest⟩ := hrow
      exact ⟨p, List.mem_cons_of_mem rp hp, hrest⟩
    · exact hrow
  · obtain rfl | hp := List.mem_cons.mp hp
    · exact hhead hquiet hdevice hfree hmanaged hname
    · exact h.stored hquiet hdevice hfree p hp hmanaged hname

theorem Fate.congr (hsame : r.deviceID = deviceID →
      (Obstructed t' deviceID r.name ↔ Obstructed t deviceID r.name))
    (h : Fate quiet t' deviceID role rps r synced row) :
    Fate quiet t deviceID role rps r synced row where
  row := h.row
  obstructed hdevice hin := mt (hsame hdevice).mpr (h.obstructed hdevice hin)
  stored hquiet hdevice hfree := h.stored hquiet hdevice (mt (hsame hdevice).mp hfree)

theorem upsertRows_wp (quiet : Prop) (role : String) (hget : w.hotspot.rows.get r.id = some r)
    (hlive : r.live) (hnodup : (rps.map (·.name)).Nodup)
    (hfresh : r.deviceID = deviceID → r.name ∉ res.synced) :
    (upsertRows deviceID role rps res).wp Call.exec (Env.QuietIf quiet) (fun out s ↦
      Fate quiet w.hotspot deviceID role rps r out.synced (s.hotspot.rows.get r.id)) w := by
  induction rps generalizing res w with
  | nil =>
    refine ⟨?_, fun hdevice hin ↦ absurd hin (hfresh hdevice), fun _ _ _ rp hrp ↦ ?_⟩
    · rw [if_neg fun h ↦ hfresh h.1 h.2]
      exact hget
    · cases hrp
  | cons rp rps ih =>
    rw [List.map_cons, List.nodup_cons] at hnodup
    obtain ⟨hother, hnodup⟩ := hnodup
    refine upsertRows_step quiet deviceID role rp (fun hskip ↦ ?_)
      fun hmanaged hfree now created hdone ↦ ?_
    · refine wp_mono (ih hget hnodup hfresh) fun out s h ↦ h.cons ?_
      intro hquiet _ hfree hmanaged hname
      exact absurd (hname ▸ hskip hmanaged hquiet) hfree
    by_cases hnamed : r.named deviceID rp.name
    · obtain ⟨rfl, hname⟩ := ProfileRow.named_iff.mp hnamed
      have hr := (Table.get_eq_some.mp hget).1
      have hhead := head_bearing hr hlive (hname ▸ hfree)
      rw [hname] at hhead
      obtain ⟨h, hput⟩ := upsert_live now (p := routerRow r.deviceID role rp) hhead hlive
      rw [hput] at hdone ⊢
      obtain rfl : false = created := Except.ok.inj hdone
      have hnone : ∀ p ∈ rps, ¬((ProfileTable.merged r (routerRow r.deviceID role rp)).stamp
          now).named r.deviceID p.name := by
        intro p hp hpnamed
        refine hother (List.mem_map.mpr ⟨p, hp, ?_⟩)
        exact (ProfileRow.named_iff.mp hpnamed).2.symm
      refine wp_mono (upsertRows_other quiet { res with synced := res.synced ++ [rp.name] }
        (r := (ProfileTable.merged r (routerRow r.deviceID role rp)).stamp now)
        (get_put_self h hget) hnone (List.mem_append_right _ List.mem_cons_self))
        fun out s hout ↦ ?_
      obtain ⟨hin, hrow⟩ := hout
      rw [← hname] at hin
      refine ⟨?_, fun _ _ ↦ hname ▸ hfree, fun _ _ _ _ _ _ _ ↦ hin⟩
      rw [if_pos ⟨rfl, hin⟩]
      exact ⟨rp, List.mem_cons_self, hmanaged, hname.symm, now, hrow⟩
    · have hne : r.deviceID = deviceID → rp.name ≠ r.name :=
        fun hdevice hname ↦ hnamed (ProfileRow.named_iff.mpr ⟨hdevice, hname.symm⟩)
      refine wp_mono (ih (get_upsert hget hnamed) hnodup fun hdevice ↦ ?_) fun out s h ↦
        Fate.cons (h.congr fun hdevice ↦ obstructed_upsert ?_ w.hotspot)
          fun _ hdevice _ _ hname ↦ absurd hname (hne hdevice)
      · have hold := hfresh hdevice
        cases created with
        | false => simpa [hold] using (hne hdevice).symm
        | true => exact hold
      · rw [ProfileRow.named_iff]
        exact fun h ↦ hne hdevice h.2

theorem Fate.untouched (hfaulty : ¬quiet) : Fate quiet t deviceID role rps r [] (some r) where
  row := by rw [if_neg fun h ↦ List.not_mem_nil h.2]
  obstructed _ hin := absurd hin List.not_mem_nil
  stored hquiet := absurd hquiet hfaulty

theorem injectVouchers_keeps (rows : List HotspotProfile) :
    (injectVouchers texts rows).Only Call.keepsHotspot := by
  induction rows with
  | nil => trivial
  | cons p rows ih =>
    unfold injectVouchers
    split
    · exact (tryInjectOnLogin_keeps texts p).bind fun _ ↦ ih
    · exact ih

/-- The names of the profiles on the router are different. -/
theorem nodup_names (items : ItemTable) :
    ((items.rows.rows.map sentenceToProfile).map (·.name)).Nodup := by
  rw [List.map_map, List.Nodup, List.pairwise_map]
  refine items.rows.sorted.imp_of_mem fun {a b} ha hb hlt hname ↦ ?_
  rw [items.unique a ha b hb hname] at hlt
  exact lt_irrefl _ hlt

/-- `Sync` does with a live row what its loop does. -/
theorem sync_wp (texts : Texts) (quiet : Prop) (deviceID : ℕ) (role : String) (hr : r ∈ w.hotspot.rows) (hlive : r.live) :
    (sync texts deviceID role).wp Call.exec (Env.QuietIf quiet) (fun out s ↦
      Fate (quiet ∧ w.online ∧ role = "voucher") w.hotspot deviceID role
        ((w.router .hotspot).rows.rows.map sentenceToProfile) r (syncedNames out)
        (s.hotspot.rows.get r.id)) w := by
  have hget : w.hotspot.rows.get r.id = some r := Table.get_eq_some.mpr ⟨hr, rfl⟩
  unfold sync
  by_cases hrole : role ≠ "permanent" ∧ role ≠ "voucher"
  · rw [if_pos hrole, pure_eq, wp_ret, hget]
    exact .untouched fun h ↦ hrole.2 h.2.2
  rw [if_neg hrole]
  intro e he
  change (if ¬w.online = true then _ else _ : Prog (Response SyncResponse)).wp _ _ _ w
  by_cases honline : w.online = true
  · rw [if_neg (not_not.mpr honline)]
    intro e he
    obtain ⟨hfaulty, err, hfails⟩ | hruns := exec_print_cases he w
    · rw [hfails]
      change Fate (quiet ∧ w.online ∧ role = "voucher") w.hotspot deviceID role _ r
        (syncedNames (writeErr _)) (w.hotspot.rows.get r.id)
      rw [hget, syncedNames_writeErr]
      exact .untouched fun h ↦ hfaulty h.1
    rw [hruns]
    have hfresh : r.deviceID = deviceID → r.name ∉ (⟨[], [], []⟩ : SyncResponse).synced :=
      fun _ ↦ List.not_mem_nil
    refine (wp_bind (upsertRows deviceID role _ _) _ _).mpr (wp_mono
      (upsertRows_wp quiet role hget hlive (nodup_names (w.router .hotspot)) hfresh)
      fun res s hfate ↦ ?_)
    have hend : ∀ (s' : World) (orphan : List String), s'.hotspot = s.hotspot →
        Fate (quiet ∧ w.online ∧ role = "voucher") w.hotspot deviceID role
          ((w.router .hotspot).rows.rows.map sentenceToProfile) r
          (syncedNames (.success 200 { res with orphan })) (s'.hotspot.rows.get r.id) := by
      intro s' orphan hsame
      rw [hsame]
      exact ⟨hfate.row, hfate.obstructed, fun h ↦ hfate.stored h.1⟩
    intro e he
    change (if role = "voucher" then _ else _ : Prog (Response SyncResponse)).wp _ _ _ s
    by_cases hvoucher : role = "voucher"
    · rw [if_pos hvoucher]
      intro e he
      obtain ⟨-, err, hfails⟩ | hruns := exec_listByDevice_cases he deviceID "voucher" s
      · rw [hfails]
        exact hend s _ rfl
      · rw [hruns]
        have hkeeps (rows) : (injectVouchers texts rows).wp Call.exec (Env.QuietIf quiet)
            (fun _ s' ↦ s'.hotspot = s.hotspot) s := by
          refine (injectVouchers_keeps rows).wp (fun c e s' hc _ hs ↦ ?_) rfl
          rwa [Call.exec_keepsHotspot hc]
        exact (wp_bind (injectVouchers texts _) _ _).mpr
          (wp_mono (hkeeps _) fun _ s' hsame ↦ hend s' _ hsame)
    · rw [if_neg hvoucher]
      exact hend s _ rfl
  · rw [if_pos honline, pure_eq, wp_ret, hget]
    exact .untouched fun h ↦ honline h.2.1

theorem synced_of_singleUser {synced : List String}
    (hfate : ∀ r ∈ t.rows, r.live →
      Fate quiet t deviceID role rps r synced (t'.rows.get r.id))
    (h : SingleUser t deviceID role rps) : SyncedFromRouter deviceID rps synced t t' := by
  intro r hr hlive
  have hrow := (hfate r hr hlive).row
  split_ifs at hrow ⊢ with hin
  · obtain ⟨rp, hrp, hmanaged, hname, now, hsaved⟩ := hrow
    refine ⟨rp, hrp, hname, now, hsaved.trans (congrArg some ?_)⟩
    rw [merged_routerRow hlive hin.1 hname]
    have husers : (if role = "voucher" then 1 else rp.sharedUsers) = rp.sharedUsers := by
      split_ifs with hrole
      · have hfree := (hfate r hr hlive).obstructed hin.1 hin.2
        exact (h hrole r hr hlive hin.1 hfree rp hrp hmanaged hname).symm
      · rfl
    rw [husers]
    rfl
  · exact hrow

theorem singleUser_of_synced {synced : List String} (hnodup : (rps.map (·.name)).Nodup)
    (hfate : ∀ r ∈ t.rows, r.live →
      Fate quiet t deviceID role rps r synced (t'.rows.get r.id))
    (hquiet : role = "voucher" → quiet) (h : SyncedFromRouter deviceID rps synced t t') :
    SingleUser t deviceID role rps := by
  intro hrole r hr hlive hdevice hfree rp hrp hmanaged hname
  have hfate := hfate r hr hlive
  have hin := hfate.stored (hquiet hrole) hdevice hfree rp hrp hmanaged hname
  have hsaved := hfate.row
  have hrow := h r hr hlive
  rw [if_pos ⟨hdevice, hin⟩] at hsaved hrow
  obtain ⟨p, hp, -, hpname, now, hsaved⟩ := hsaved
  obtain ⟨q, hq, hqname, now', hrow⟩ := hrow
  obtain rfl : p = rp := List.inj_on_of_nodup_map hnodup hp hrp (hpname.trans hname.symm)
  obtain rfl : q = p := List.inj_on_of_nodup_map hnodup hq hp (hqname.trans hpname.symm)
  rw [merged_routerRow hlive hdevice hname, hrow, Option.some.injEq] at hsaved
  have husers := congrArg (·.columns.sharedUsers) hsaved
  rw [if_pos hrole] at husers
  exact husers

end Sync

section Result

def World.routerNames (w : World) : List String := (w.router .hotspot).rows.rows.map Item.name

def World.routerProfiles (w : World) : List RouterProfile :=
  (w.router .hotspot).rows.rows.map sentenceToProfile

/-- What is to hold of a run of `SyncProfiles`. -/
def ProfilesKept (texts : Texts) (deviceID : ℕ) (env : ℕ → Env) (w : World) : Prop :=
  let out := (syncProfiles texts deviceID).run Call.exec env w
  KeptBySync deviceID out.1.1.created w.hotspot out.2.hotspot

/-- What is to hold of a run of `HotspotProfiles.Sync`. -/
def OnlyRouterFields (texts : Texts) (deviceID : ℕ) (role : String) (env : ℕ → Env)
    (w : World) : Prop :=
  let out := (sync texts deviceID role).run Call.exec env w
  SyncedFromRouter deviceID w.routerProfiles (syncedNames out.1) w.hotspot out.2.hotspot

/-- `SyncProfiles` keeps the live rows if none of them has a name that it stores, and
`HotspotProfiles.Sync` writes the values of the router if those it takes for vouchers have one user
there. Without faults, each of them does so only then. -/
theorem sync_preserves_iff (texts : Texts) (deviceID : ℕ) (role : String) (env : ℕ → Env)
    (w : World) :
    ((Unnamed w.hotspot deviceID w.routerNames → ProfilesKept texts deviceID env w) ∧
      (SingleUser w.hotspot deviceID role w.routerProfiles →
        OnlyRouterFields texts deviceID role env w)) ∧
    ((∀ n, (env n).Quiet) → w.online →
      (ProfilesKept texts deviceID env w ↔ Unnamed w.hotspot deviceID w.routerNames) ∧
      (OnlyRouterFields texts deviceID role env w ↔
        SingleUser w.hotspot deviceID role w.routerProfiles)) := by
  have hkept : ∀ n, Env.QuietIf (∀ n, (env n).Quiet) (env n) := fun n hquiet ↦ hquiet n
  obtain ⟨hprogress, hswept⟩ := run_of_wp (syncProfiles_wp texts _ deviceID w) env hkept
  have hfate := fun r (hr : r ∈ w.hotspot.rows) (hlive : r.live) ↦
    run_of_wp (sync_wp texts _ deviceID role hr hlive) env hkept
  have hunnamed : Unnamed w.hotspot deviceID w.routerNames → ProfilesKept texts deviceID env w :=
    fun h ↦ kept_of_unnamed h hprogress hswept
  have hsingle : SingleUser w.hotspot deviceID role w.routerProfiles →
      OnlyRouterFields texts deviceID role env w := synced_of_singleUser hfate
  refine ⟨⟨hunnamed, hsingle⟩, fun hquiet honline ↦ ⟨⟨?_, hunnamed⟩, ⟨?_, hsingle⟩⟩⟩
  · exact unnamed_of_kept hquiet hprogress
  · exact singleUser_of_synced (nodup_names _) hfate fun hrole ↦ ⟨hquiet, honline, hrole⟩

/-- A monthly package that is on the router as well. -/
def World.oneOnRouter : World :=
  { World.one "paket-10M" monthly with
    online := true
    router := fun _ ↦ .single (Item.blank.assign [("name", "paket-10M"), ("rate-limit", "10M/10M")]) }

/-- `SyncProfiles` reports it as created and takes its rate limit away. -/
theorem monthly_wiped :
    ¬(ProfilesKept plainTexts 1 (fun _ ↦ Env.calm 0) World.oneOnRouter ∧
      OnlyRouterFields plainTexts 1 "permanent" (fun _ ↦ Env.calm 0) World.oneOnRouter) := by
  rintro ⟨h, -⟩
  have hcreated := (h { newRow 1 "paket-10M" monthly with id := 1 } (by decide +kernel) rfl).2
  refine hcreated ⟨rfl, ?_⟩
  decide +kernel

end Result

end Rosmon.Profiles
