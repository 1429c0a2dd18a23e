import Mathlib.Tactic.MkIffOfInductiveProp
import Rosmon.Written.Profiles

namespace Rosmon.Profiles

open Go Library Store Program Handler UniqueTable Written

section Settings

/-- The text stands for no value. -/
def Unset (s : String) : Prop := s = "" ∨ s = "none"

instance (s : String) : Decidable (Unset s) := inferInstanceAs (Decidable (_ ∨ _))

/-- The router has the value of the row, or there is none in either. -/
def Agree (value setting : String) : Prop := setting = value ∨ Unset value ∧ Unset setting

instance (value setting : String) : Decidable (Agree value setting) :=
  inferInstanceAs (Decidable (_ ∨ _))

variable {i : Item} {setting value : String} {pairs : List (String × String)}

theorem assign_append (i : Item) (pairs more : List (String × String)) :
    i.assign (pairs ++ more) = (i.assign pairs).assign more := by
  simp only [Item.assign, List.foldl_append]

theorem assign_cons (i : Item) (pair : String × String) (pairs : List (String × String)) :
    i.assign (pair :: pairs) = (i.assign [pair]).assign pairs := rfl

theorem assign_nil (i : Item) : i.assign [] = i := rfl

theorem settings_assign_one (i : Item) (setting value other : String) :
    (i.assign [(setting, value)]).settings other =
      if other = setting then value else i.settings other := by
  simp only [Item.assign, List.foldl_cons, List.foldl_nil, Function.update_apply]

theorem settings_sent (i : Item) (setting value other : String) :
    (i.assign (sent setting value)).settings other =
      if other = setting ∧ value ≠ "" then value else i.settings other := by
  unfold sent
  by_cases hvalue : value = ""
  · simp [hvalue, assign_nil]
  · simp [hvalue, settings_assign_one]

theorem settings_sentUnlessNone (i : Item) (setting value other : String) :
    (i.assign (sentUnlessNone setting value)).settings other =
      if other = setting ∧ ¬Unset value then value else i.settings other := by
  change (i.assign (if Unset value then [] else [(setting, value)])).settings other = _
  by_cases hvalue : Unset value
  · rw [if_pos hvalue, assign_nil, if_neg fun h ↦ h.2 hvalue]
  · rw [if_neg hvalue, settings_assign_one]
    simp only [hvalue, not_false_eq_true, and_true]

/-- A setting that is sent if it has a value. -/
theorem agree_sent_iff (old : String) :
    Agree value (if value ≠ "" then value else old) ↔ (value = "" → Unset old) := by
  by_cases hvalue : value = ""
  · simp [Agree, Unset, hvalue]
  · simp [Agree, hvalue]

theorem agree_sentUnlessNone_iff (old : String) :
    Agree value (if ¬Unset value then value else old) ↔ (Unset value → Unset old) := by
  by_cases hvalue : Unset value
  · simp only [hvalue, not_true_eq_false, if_false, Agree, true_and, forall_const]
    refine ⟨fun h ↦ h.elim (fun hsame ↦ ?_) id, .inr⟩
    rwa [hsame]
  · simp [Agree, hvalue]

end Settings

section Agreement

/-- The settings of a hotspot profile on the router are those of the row. -/
@[mk_iff] structure HotspotAgrees (p : HotspotProfile) (settings : String → String) : Prop where
  rateLimit : Agree p.columns.rateLimit (settings "rate-limit")
  addressPool : Agree p.columns.addressPool (settings "address-pool")
  sharedUsers : settings "shared-users" = sharedUsersText p.columns.sharedUsers
  parentQueue : Agree p.columns.parentQueue (settings "parent-queue")

@[mk_iff] structure PPPAgrees (p : PPPProfile) (settings : String → String) : Prop where
  rateLimit : Agree p.columns.rateLimit (settings "rate-limit")
  localAddress : Agree p.columns.localAddress (settings "local-address")
  remoteAddress : Agree p.columns.remoteAddress (settings "remote-address")
  sessionTimeout : Agree p.columns.sessionTimeout (settings "session-timeout")
  idleTimeout : Agree p.columns.idleTimeout (settings "idle-timeout")
  parentQueue : Agree p.columns.parentQueue (settings "parent-queue")

/-- What is cleared in the row is not set on the router. -/
def Cleared (rateLimit parentQueue : String) (settings : String → String) : Prop :=
  (rateLimit = "" → Unset (settings "rate-limit")) ∧
    (Unset parentQueue → Unset (settings "parent-queue"))

/-- The router has a profile of the new name that is as the row wants it, and none of the old name
after a change. -/
def Reached (agrees : (String → String) → Prop) (old new : String) (items : ItemTable) : Prop :=
  (∃ i ∈ items.rows, i.name = new ∧ agrees i.settings) ∧
    (old ≠ new → ¬∃ i ∈ items.rows, i.name = old)

/-- A profile that the router has under the new name has nothing set that the row has cleared, and
there is none of the old name after a change. -/
def Reachable (rateLimit parentQueue old new : String) (items : ItemTable) : Prop :=
  (∀ i ∈ items.rows, i.name = new → Cleared rateLimit parentQueue i.settings) ∧
    (old ≠ new → ¬∃ i ∈ items.rows, i.name = old)

end Agreement

section Tables

variable {items items' : ItemTable} {i j : Item} {id : ℕ}

/-- The item of the key has become `j`. -/
def Changed (items items' : ItemTable) (id : ℕ) (j : Item) : Prop :=
  items'.rows.get id = some j ∧ ∀ n, n ≠ id → items'.rows.get n = items.rows.get n

theorem exists_changed (h : Changed items items' id j) (P : Item → Prop) :
    (∃ x ∈ items'.rows, P x) ↔ P j ∨ ∃ x ∈ items.rows, x.id ≠ id ∧ P x := by
  constructor
  · rintro ⟨x, hx, hP⟩
    by_cases hid : x.id = id
    · have hget : items'.rows.get id = some x := Table.get_eq_some.mpr ⟨hx, hid⟩
      obtain rfl := Option.some.inj (h.1.symm.trans hget)
      exact .inl hP
    · have hget : items'.rows.get x.id = some x := Table.get_eq_some.mpr ⟨hx, rfl⟩
      rw [h.2 x.id hid] at hget
      exact .inr ⟨x, (Table.get_eq_some.mp hget).1, hid, hP⟩
  · rintro (hP | ⟨x, hx, hid, hP⟩)
    · exact ⟨j, (Table.get_eq_some.mp h.1).1, hP⟩
    · have hget : items.rows.get x.id = some x := Table.get_eq_some.mpr ⟨hx, rfl⟩
      rw [← h.2 x.id hid] at hget
      exact ⟨x, (Table.get_eq_some.mp hget).1, hP⟩

theorem exists_changed_congr (hi : items.rows.get id = some i) (h : Changed items items' id j)
    {P : Item → Prop} (hP : P j ↔ P i) : (∃ x ∈ items'.rows, P x) ↔ ∃ x ∈ items.rows, P x := by
  have hsame : Changed items items id i := ⟨hi, fun _ _ ↦ rfl⟩
  rw [exists_changed h P, hP]
  exact (exists_changed hsame P).symm

theorem change_cases (items : ItemTable) (id : ℕ) (pairs : List (String × String)) :
    (∃ err, change items id pairs = (.error err, items)) ∨ ∃ i items',
      items.rows.get id = some i ∧ change items id pairs = (.ok (), items') ∧
        Changed items items' id (i.assign pairs) := by
  unfold change
  cases hget : items.rows.get id with
  | none => exact .inl ⟨_, rfl⟩
  | some i =>
    dsimp only
    by_cases hclash : items.Clashes (i.assign pairs)
    · exact .inl ⟨_, dif_pos hclash⟩
    · refine .inr ⟨i, _, rfl, dif_neg hclash, ?_⟩
      obtain rfl : i.id = id := (Table.get_eq_some.mp hget).2
      exact ⟨get_put_self hclash hget, fun n hn ↦ get_put_of_ne hclash hn⟩

/-- What a propagation has made of the items. -/
def Propagated (items items' : ItemTable) (name : String)
    (addPairs setPairs : List (String × String)) : Prop :=
  (∃ i, items.rows.get i.id = some i ∧ i.name = name ∧
    Changed items items' i.id (i.assign setPairs)) ∨
  ((¬∃ i ∈ items.rows, i.name = name) ∧ ∀ x, x ∈ items'.rows ↔
    x ∈ items.rows ∨ x = Row.withKey items.rows.next (Item.blank.assign addPairs))

variable {agrees : (String → String) → Prop} {rateLimit parentQueue old new : String}
variable {addPairs setPairs : List (String × String)}

theorem reached_iff (h : Propagated items items' new addPairs setPairs)
    (hadd : (Item.blank.assign addPairs).name = new ∧
      agrees (Item.blank.assign addPairs).settings)
    (hset : ∀ i : Item, (i.assign setPairs).name = i.name ∧
      (agrees (i.assign setPairs).settings ↔ Cleared rateLimit parentQueue i.settings)) :
    Reached agrees old new items' ↔ Reachable rateLimit parentQueue old new items := by
  obtain ⟨i, hget, hname, hchanged⟩ | ⟨hnone, hmem⟩ := h
  · obtain ⟨hsame, hagrees⟩ := hset i
    have hi := (Table.get_eq_some.mp hget).1
    refine and_congr ?_ (forall_congr' fun hne ↦ not_congr ?_)
    · constructor
      · rintro ⟨x, hx, hxname, hxagrees⟩ y hy hyname
        obtain rfl : y = i := items.unique i hi y hy (hname.trans hyname.symm)
        have hj := (Table.get_eq_some.mp hchanged.1).1
        obtain rfl := items'.unique x hx _ hj (hxname.trans (hsame.trans hname).symm)
        exact hagrees.mp hxagrees
      · intro hcleared
        refine ⟨_, (Table.get_eq_some.mp hchanged.1).1, hsame.trans hname, ?_⟩
        exact hagrees.mpr (hcleared i hi hname)
    · exact exists_changed_congr hget hchanged (by rw [hsame])
  · refine and_congr ?_ (forall_congr' fun hne ↦ not_congr ?_)
    · refine iff_of_true ⟨_, (hmem _).mpr (.inr rfl), hadd⟩ fun x hx hxname ↦ ?_
      exact absurd ⟨x, hx, hxname⟩ hnone
    · constructor
      · rintro ⟨x, hx, hxname⟩
        obtain hx | rfl := (hmem x).mp hx
        · exact ⟨x, hx, hxname⟩
        · exact absurd (hxname.symm.trans hadd.1) hne
      · rintro ⟨x, hx, hxname⟩
        exact ⟨x, (hmem x).mpr (.inl hx), hxname⟩

/-- A change of another setting. -/
theorem reached_congr (hi : items.rows.get id = some i) (h : Changed items items' id j)
    (hname : j.name = i.name) (hagrees : agrees j.settings ↔ agrees i.settings) :
    Reached agrees old new items' ↔ Reached agrees old new items := by
  unfold Reached
  rw [exists_changed_congr hi h (by rw [hname, hagrees]),
    exists_changed_congr hi h (by rw [hname])]

end Tables

section Programs

variable {menu : Menu} {w : World} {i : Item} {id : ℕ} {name : String}
variable {addPairs setPairs pairs : List (String × String)}

/-- A call to the router does what it does to the items, or fails. -/
theorem exec_router_cases (menu : Menu) (c : RouterCall) (e : Env) (w : World) :
    (∃ err, (Call.router menu c).exec e w = (.error err, w)) ∨
      (Call.router menu c).exec e w = ((c.exec (w.router menu)).1,
        { w with router := Function.update w.router menu (c.exec (w.router menu)).2 }) := by
  cases h : e.fault with
  | some err =>
    refine .inl ⟨err, ?_⟩
    simp only [Call.exec, orFault, h, Function.update_eq_self]
  | none =>
    refine .inr ?_
    simp only [Call.exec, orFault, h]

theorem mapProfileErr_eq_empty {r : Except Error Unit} :
    mapProfileErr menu name r = "" ↔ r = .ok () := by
  cases r with
  | ok _ => exact iff_of_true rfl rfl
  | error err =>
    refine iff_of_false (fun h ↦ ?_) nofun
    have hlength := congrArg String.length h
    simp [mapProfileErr] at hlength

theorem exec_set_cases (pairs : List (String × String)) (e : Env)
    (hi : (w.router menu).rows.get id = some i) :
    (∃ err, (Call.router menu (.set id pairs)).exec e w = (.error err, w)) ∨
      ∃ w', (Call.router menu (.set id pairs)).exec e w = (.ok (), w') ∧
        Changed (w.router menu) (w'.router menu) id (i.assign pairs) := by
  obtain ⟨err, h⟩ | h := exec_router_cases menu (.set id pairs) e w
  · exact .inl ⟨err, h⟩
  rw [h, RouterCall.exec]
  obtain ⟨err, hfails⟩ | ⟨j, items', hj, hdone, hchanged⟩ := change_cases (w.router menu) id pairs
  · rw [hfails, Function.update_eq_self]
    exact .inl ⟨err, rfl⟩
  · rw [hdone]
    obtain rfl := Option.some.inj (hi.symm.trans hj)
    refine .inr ⟨_, rfl, ?_⟩
    simpa only [Function.update_self] using hchanged

theorem profileSet_wp (unset : List String) (hi : (w.router menu).rows.get id = some i) :
    (profileSet menu id pairs unset).wp Call.exec (fun _ ↦ True) (fun r w' ↦ r = .ok () →
      Changed (w.router menu) (w'.router menu) id (i.assign (unset.map (·, "") ++ pairs))) w := by
  induction unset generalizing w i with
  | nil =>
    intro e _
    obtain ⟨err, h⟩ | ⟨w', h, hchanged⟩ := exec_set_cases pairs e hi
    · rw [h]
      nofun
    · rw [h]
      exact fun _ ↦ hchanged
  | cons setting unset ih =>
    intro e _
    have hset : (Call.router menu (.unset id setting)).exec e w =
        (Call.router menu (.set id [(setting, "")])).exec e w := rfl
    obtain ⟨err, h⟩ | ⟨w', h, hchanged⟩ := exec_set_cases [(setting, "")] e hi
    · rw [hset, h]
      nofun
    · rw [hset, h]
      refine wp_mono (ih hchanged.1) fun r w'' h hr ↦ ?_
      obtain ⟨hget, hother⟩ := h hr
      exact ⟨hget, fun n hn ↦ (hother n hn).trans (hchanged.2 n hn)⟩

theorem offline_ne_empty : offline ≠ "" := by decide

/-- An item is added if no other has its name. -/
theorem add_cases (items : ItemTable) (pairs : List (String × String)) :
    (∃ err, (RouterCall.add pairs).exec items = (.error err, items)) ∨
      ∃ items', (RouterCall.add pairs).exec items = (.ok (), items') ∧
        (¬∃ i ∈ items.rows, i.name = (Item.blank.assign pairs).name) ∧ ∀ x, x ∈ items'.rows ↔
          x ∈ items.rows ∨ x = Row.withKey items.rows.next (Item.blank.assign pairs) := by
  simp only [RouterCall.exec]
  split_ifs with hname hclash
  · exact .inl ⟨_, rfl⟩
  · exact .inl ⟨_, rfl⟩
  · refine .inr ⟨_, rfl, ?_, fun x ↦ mem_add hclash⟩
    rintro ⟨i, hi, hsame⟩
    exact hclash ⟨i, hi, hsame.symm, Nat.ne_of_lt (items.rows.fresh i hi)⟩

theorem byName_cases (items : ItemTable) (name : String) :
    (∃ err, (RouterCall.byName name).exec items = (.error err, items)) ∨
      ∃ i, (RouterCall.byName name).exec items = (.ok i, items) ∧ items.rows.get i.id = some i ∧
        i.name = name := by
  simp only [RouterCall.exec]
  split_ifs with hname
  · exact .inl ⟨_, rfl⟩
  cases hfind : items.rows.find (·.name = name) with
  | none => exact .inl ⟨_, rfl⟩
  | some i =>
    refine .inr ⟨i, rfl, Table.get_eq_some.mpr ⟨Table.mem_of_find hfind, rfl⟩, ?_⟩
    simpa using Table.find_sat hfind

theorem propagateAdd_wp (hname : (Item.blank.assign addPairs).name = name) (w : World) :
    (propagateAdd menu name addPairs).wp Call.exec (fun _ ↦ True) (fun warning w' ↦
      warning = "" → Propagated (w.router menu) (w'.router menu) name addPairs setPairs) w := by
  intro e _
  cases honline : w.online with
  | false =>
    simp only [Call.exec, honline]
    exact fun h ↦ absurd h offline_ne_empty
  | true =>
    simp only [Call.exec, honline]
    intro e _ hwarning
    have hdone := mapProfileErr_eq_empty.mp hwarning
    obtain ⟨err, h⟩ | h := exec_router_cases menu (.add addPairs) e w
    · rw [h] at hdone
      cases hdone
    rw [h] at hdone ⊢
    obtain ⟨err, hfails⟩ | ⟨items', hadded, hnone, hmem⟩ := add_cases (w.router menu) addPairs
    · rw [hfails] at hdone
      cases hdone
    · rw [hname] at hnone
      refine .inr ⟨hnone, ?_⟩
      simpa only [Function.update_self, hadded] using hmem

theorem propagateSet_wp (unset : List String) (hname : (Item.blank.assign addPairs).name = name)
    (w : World) :
    (propagateSet menu name addPairs setPairs unset).wp Call.exec (fun _ ↦ True)
      (fun warning w' ↦ warning = "" → Propagated (w.router menu) (w'.router menu) name addPairs
        (unset.map (·, "") ++ setPairs)) w := by
  have hfailed : ∀ err : Error, (if err.is .mikrotikNotFound then propagateAdd menu name addPairs
      else return mapProfileErr menu name (.error err)).wp Call.exec (fun _ ↦ True)
      (fun warning w' ↦ warning = "" → Propagated (w.router menu) (w'.router menu) name addPairs
        (unset.map (·, "") ++ setPairs)) w := by
    intro err
    split
    · exact propagateAdd_wp hname w
    · exact fun h ↦ by cases mapProfileErr_eq_empty.mp h
  intro e _
  cases honline : w.online with
  | false =>
    simp only [Call.exec, honline]
    exact fun h ↦ absurd h offline_ne_empty
  | true =>
    simp only [Call.exec, honline]
    intro e _
    obtain ⟨err, h⟩ | h := exec_router_cases menu (.byName name) e w
    · rw [h]
      exact hfailed err
    rw [h]
    obtain ⟨err, hfails⟩ | ⟨i, hfound, hget, hiname⟩ := byName_cases (w.router menu) name
    · rw [hfails, Function.update_eq_self]
      exact hfailed err
    · rw [hfound, Function.update_eq_self]
      change (profileSet menu i.id setPairs unset >>= fun r ↦
        (return mapProfileErr menu name r : Prog String)).wp _ _ _ _
      rw [wp_bind]
      refine wp_mono (profileSet_wp unset hget) fun r w' hr hwarning ↦ ?_
      exact .inl ⟨i, hget, hiname, hr (mapProfileErr_eq_empty.mp hwarning)⟩

end Programs

section Pairs

theorem sharedUsersText_ne_empty (sharedUsers : ℤ) : sharedUsersText sharedUsers ≠ "" := by
  unfold sharedUsersText
  split_ifs
  · decide
  · cases sharedUsers with
    | ofNat n => exact Nat.repr_ne_empty
    | negSucc n =>
      intro h
      have hlength := congrArg String.length h
      simp [toString, Int.repr] at hlength

theorem unset_empty : Unset "" := .inl rfl

theorem unset_none : Unset "none" := .inr rfl

theorem agree_self (value : String) : Agree value value := .inl rfl

theorem agree_or_none (value : String) : Agree value (if value = "" then "none" else value) := by
  split_ifs with h
  · exact .inr ⟨.inl h, unset_none⟩
  · exact agree_self value

theorem hotspotAdd_agrees (p : HotspotProfile) :
    (Item.blank.assign (hotspotAddPairs p)).name = p.name ∧
      HotspotAgrees p (Item.blank.assign (hotspotAddPairs p)).settings := by
  have hblank : ∀ setting, Item.blank.settings setting = "" := fun _ ↦ rfl
  constructor
  · simp only [hotspotAddPairs, Item.name, assign_append, settings_sent, settings_sentUnlessNone,
      settings_assign_one, String.reduceEq, false_and, if_false, if_true]
  · constructor <;>
      simp only [hotspotAddPairs, assign_append, settings_sent, settings_sentUnlessNone,
        settings_assign_one, String.reduceEq, false_and, true_and, if_false, if_true, hblank,
        agree_sent_iff, agree_sentUnlessNone_iff, unset_empty, implies_true,
        sharedUsersText_ne_empty, ne_eq, not_false_eq_true]

theorem hotspotSet_agrees (p : HotspotProfile) (i : Item) :
    (i.assign (hotspotSetPairs p)).name = i.name ∧
      (HotspotAgrees p (i.assign (hotspotSetPairs p)).settings ↔
        Cleared p.columns.rateLimit p.columns.parentQueue i.settings) := by
  constructor
  · simp only [hotspotSetPairs, Item.name, assign_append, settings_sent, settings_sentUnlessNone,
      settings_assign_one, String.reduceEq, false_and, if_false]
  · rw [hotspotAgrees_iff]
    simp only [hotspotSetPairs, assign_append, settings_sent, settings_sentUnlessNone,
      settings_assign_one, String.reduceEq, false_and, true_and, if_false, if_true,
      agree_sent_iff, agree_sentUnlessNone_iff, agree_or_none, Cleared]

theorem pppAdd_agrees (p : PPPProfile) :
    (Item.blank.assign (pppAddPairs p)).name = p.name ∧
      PPPAgrees p (Item.blank.assign (pppAddPairs p)).settings := by
  have hblank : ∀ setting, Item.blank.settings setting = "" := fun _ ↦ rfl
  constructor
  · simp only [pppAddPairs, Item.name, assign_append, settings_sent, settings_sentUnlessNone,
      settings_assign_one, String.reduceEq, false_and, if_false, if_true]
  · constructor <;>
      simp only [pppAddPairs, assign_append, settings_sent, settings_sentUnlessNone,
        settings_assign_one, String.reduceEq, false_and, true_and, if_false, hblank,
        agree_sent_iff, agree_sentUnlessNone_iff, unset_empty, implies_true]

theorem settings_unset (i : Item) (setting value other : String) :
    (i.assign ((if value = "" then [setting] else []).map (·, ""))).settings other =
      if other = setting ∧ value = "" then "" else i.settings other := by
  by_cases hvalue : value = ""
  · simp [hvalue, settings_assign_one]
  · simp [hvalue, assign_nil]

theorem unset_taken (value old : String) : value = "" → Unset (if value = "" then "" else old) :=
  fun h ↦ by rw [if_pos h]; exact unset_empty

theorem pppSet_agrees (p : PPPProfile) (i : Item) :
    (i.assign ((pppUnset p).map (·, "") ++ pppSetPairs p)).name = i.name ∧
      (PPPAgrees p (i.assign ((pppUnset p).map (·, "") ++ pppSetPairs p)).settings ↔
        Cleared p.columns.rateLimit p.columns.parentQueue i.settings) := by
  have htimeouts : ∀ session idle : String,
      [("session-timeout", session), ("idle-timeout", idle)] =
        [("session-timeout", session)] ++ [("idle-timeout", idle)] := fun _ _ ↦ rfl
  constructor
  · simp only [pppSetPairs, pppUnset, Item.name, List.map_append, htimeouts, assign_append,
      settings_sent, settings_sentUnlessNone, settings_assign_one, settings_unset,
      String.reduceEq, false_and, if_false]
  · rw [pPPAgrees_iff]
    simp only [pppSetPairs, pppUnset, List.map_append, htimeouts, assign_append,
      settings_sent, settings_sentUnlessNone, settings_assign_one, settings_unset,
      String.reduceEq, false_and, true_and, if_false, if_true, agree_sent_iff,
      agree_sentUnlessNone_iff, agree_self, Cleared]
    exact ⟨fun h ↦ ⟨h.1, h.2.2.2⟩, fun h ↦ ⟨h.1, unset_taken _ _, unset_taken _ _, h.2⟩⟩

end Pairs

section Frame

theorem profileSet_onRouter (menu : Menu) (id : ℕ) (pairs : List (String × String))
    (unset : List String) : (profileSet menu id pairs unset).Only Call.onRouter := by
  induction unset with
  | nil => exact ⟨trivial, fun _ ↦ trivial⟩
  | cons setting unset ih =>
    refine ⟨trivial, fun r ↦ ?_⟩
    cases r with
    | error err => trivial
    | ok _ => exact ih

theorem propagateSet_onRouter (menu : Menu) (name : String)
    (addPairs setPairs : List (String × String)) (unset : List String) :
    (propagateSet menu name addPairs setPairs unset).Only Call.onRouter := by
  refine ⟨trivial, fun online ↦ ?_⟩
  cases online with
  | false => trivial
  | true =>
    refine ⟨trivial, fun r ↦ ?_⟩
    cases r with
    | error err =>
      change (if err.is .mikrotikNotFound then propagateAdd menu name addPairs
        else return mapProfileErr menu name (.error err)).Only _
      split
      · exact propagateAdd_onRouter menu name addPairs
      · trivial
    | ok rp => exact (profileSet_onRouter menu rp.id setPairs unset).bind fun _ ↦ trivial

variable (texts : Texts)

/-- The items are the same but for an on-login script. -/
def Scripted (items items' : ItemTable) : Prop :=
  items' = items ∨ ∃ i script, items.rows.get i.id = some i ∧
    Changed items items' i.id (i.assign [("on-login", script)])

theorem tryInjectOnLogin_wp (p : HotspotProfile) (w : World) :
    (tryInjectOnLogin texts p).wp Call.exec (fun _ ↦ True)
      (fun _ w' ↦ Scripted (w.router .hotspot) (w'.router .hotspot)) w := by
  intro e _
  cases honline : w.online with
  | false =>
    simp only [Call.exec, honline]
    exact .inl rfl
  | true =>
    simp only [Call.exec, honline]
    unfold injectOnLoginScript
    split
    · exact .inl rfl
    intro e _
    obtain ⟨err, h⟩ | h := exec_router_cases .hotspot (.byName p.name) e w
    · rw [h]
      exact .inl rfl
    rw [h]
    obtain ⟨err, hfails⟩ | ⟨i, hfound, hget, hiname⟩ := byName_cases (w.router .hotspot) p.name
    · rw [hfails, Function.update_eq_self]
      exact .inl rfl
    rw [hfound, Function.update_eq_self]
    cases hscript : texts.onLogin p with
    | error err =>
      exact .inl rfl
    | ok script =>
      intro e _
      obtain ⟨err, h⟩ | ⟨w', h, hchanged⟩ := exec_set_cases [("on-login", script)] e hget
      · rw [h]
        exact .inl rfl
      · rw [h]
        exact .inr ⟨i, script, hget, hchanged⟩

end Frame

section Edits

variable {κ : Type} [Columns κ] {t : ProfileTable κ} {p q row : ProfileRow κ} {id : ℕ}

theorem get_ok (h : ProfileTable.get id t = .ok p) :
    t.rows.get id = some p ∧ p.id = id ∧ p.deletedAt = none := by
  unfold ProfileTable.get at h
  cases hfind : t.rows.find fun r ↦ r.live && r.id == id with
  | none =>
    rw [hfind] at h
    cases h
  | some r =>
    rw [hfind] at h
    obtain rfl : r = p := Except.ok.inj h
    have hsat := Table.find_sat hfind
    rw [Bool.and_eq_true, beq_iff_eq] at hsat
    exact ⟨Table.get_eq_some.mpr ⟨Table.mem_of_find hfind, hsat.2⟩, hsat.2,
      of_decide_eq_true hsat.1⟩

theorem save_stamp {now : Time} (h : (t.save now p).1 = .ok row) : row = p.stamp now := by
  obtain ⟨err, hfails⟩ | ⟨_, hdone⟩ := ProfileTable.save_cases now p t
  · rw [hfails] at h
    cases h
  · rw [hdone] at h
    exact (Except.ok.inj h).symm

theorem exec_get (e : Env) (t : ProfileTable κ) (id : ℕ) :
    ∃ r, orFault e t ((StoreCall.get id).exec e.now t) = (r, t) ∧
      ∀ row, r = .ok row → ProfileTable.get id t = .ok row := by
  unfold orFault
  cases e.fault with
  | some err => exact ⟨_, rfl, nofun⟩
  | none => exact ⟨_, rfl, fun _ h ↦ h⟩

/-- The row that `Update` stores of `p`. -/
structure Edited (id : ℕ) (p row : ProfileRow κ) (t : ProfileTable κ) : Prop where
  found : ProfileTable.get id t = .ok row
  name : row.name = p.name
  columns : row.columns = p.columns

theorem exec_update (e : Env) (hq : ProfileTable.get id t = .ok q) (hid : p.id = q.id)
    (hdeleted : p.deletedAt = q.deletedAt) :
    ∃ r t', orFault e t ((StoreCall.update p).exec e.now t) = (r, t') ∧
      ∀ row, r = .ok row → Edited id p row t' := by
  obtain ⟨hget, hqid, hlive⟩ := get_ok hq
  unfold orFault
  cases e.fault with
  | some err => exact ⟨_, _, rfl, nofun⟩
  | none =>
    refine ⟨_, _, rfl, fun row hrow ↦ ?_⟩
    have hp : t.rows.get p.id = some q := by rwa [hid, hqid]
    obtain ⟨hfound, hname, hcolumns⟩ := save_ok hp (hdeleted.trans hlive) hrow
    have hsame : row.id = id := (congrArg ProfileRow.id (save_stamp hrow)).trans (hid.trans hqid)
    exact ⟨hsame ▸ hfound, hname, hcolumns⟩

end Edits

section Handlers

variable {texts : Texts} {old new : String}

theorem propagateHotspot_wp (old : String) (p : HotspotProfile) (w : World) :
    (propagateHotspot p).wp Call.exec (fun _ ↦ True) (fun warning w' ↦ warning = "" →
      (Reached (HotspotAgrees p) old p.name (w'.router .hotspot) ↔
        Reachable p.columns.rateLimit p.columns.parentQueue old p.name (w.router .hotspot))) w := by
  obtain ⟨hname, hagrees⟩ := hotspotAdd_agrees p
  refine wp_mono (propagateSet_wp [] hname w) fun warning w' h hwarning ↦ ?_
  exact reached_iff (h hwarning) ⟨hname, hagrees⟩ (hotspotSet_agrees p)

theorem propagatePPP_wp (old : String) (p : PPPProfile) (w : World) :
    (propagatePPP p).wp Call.exec (fun _ ↦ True) (fun warning w' ↦ warning = "" →
      (Reached (PPPAgrees p) old p.name (w'.router .ppp) ↔
        Reachable p.columns.rateLimit p.columns.parentQueue old p.name (w.router .ppp))) w := by
  obtain ⟨hname, hagrees⟩ := pppAdd_agrees p
  refine wp_mono (propagateSet_wp (pppUnset p) hname w) fun warning w' h hwarning ↦ ?_
  exact reached_iff (h hwarning) ⟨hname, hagrees⟩ (pppSet_agrees p)

theorem reached_scripted {p : HotspotProfile} {items items' : ItemTable}
    (h : Scripted items items') :
    Reached (HotspotAgrees p) old new items' ↔ Reached (HotspotAgrees p) old new items := by
  obtain rfl | ⟨i, script, hi, hchanged⟩ := h
  · rfl
  refine reached_congr hi hchanged ?_ ?_
  · simp only [Item.name, settings_assign_one, String.reduceEq, if_false]
  · simp only [hotspotAgrees_iff, settings_assign_one, String.reduceEq, if_false]

/-- The row of the answer is the stored one. The router is as the row wants it, and has nothing
under the old name, just if it had nothing that is in the way. -/
def HotspotUpdated (w w' : World) (id : ℕ) (req : HotspotProfileUpdateRequest)
    (row : HotspotProfile) : Prop :=
  ∃ old, ProfileTable.get id w.hotspot = .ok old ∧ ProfileTable.get id w'.hotspot = .ok row ∧
    (Reached (HotspotAgrees row) old.name row.name (w'.router .hotspot) ↔
      Reachable (req.rateLimit.getD old.columns.rateLimit)
        (req.parentQueue.getD old.columns.parentQueue) old.name (req.name.getD old.name)
        (w.router .hotspot))

/-- The end of `HotspotProfiles.Update`, after `row` has been stored. -/
theorem answerHotspot_wp (old : String) (row : HotspotProfile) (w : World) :
    (do let warning ← propagateHotspot row
        if row.columns.role = "voucher" then tryInjectOnLogin texts row
        return Response.success 200 ⟨row, warning⟩ :
        Prog (Response (ProfileWriteResponse HotspotColumns))).wp Call.exec (fun _ ↦ True)
      (fun answer w' ↦ ∀ res, answer = .success 200 res → res.warning = "" →
        res.profile = row ∧ w'.hotspot = w.hotspot ∧
        (Reached (HotspotAgrees row) old row.name (w'.router .hotspot) ↔
          Reachable row.columns.rateLimit row.columns.parentQueue old row.name
            (w.router .hotspot))) w := by
  have hrows := onRouter_wp (propagateSet_onRouter .hotspot row.name (hotspotAddPairs row)
    (hotspotSetPairs row) []) w
  rw [wp_bind]
  refine wp_mono (wp_and hrows (propagateHotspot_wp old row w))
    fun warning w' ⟨hsame, hreached⟩ ↦ ?_
  split
  · rw [wp_bind]
    refine wp_mono (wp_and (onRouter_wp (tryInjectOnLogin_onRouter texts row) w')
      (tryInjectOnLogin_wp texts row w')) fun _ w'' ⟨hsame', hscripted⟩ res h hwarning ↦ ?_
    obtain ⟨-, rfl⟩ := Response.success.inj h
    exact ⟨rfl, hsame'.1.trans hsame.1, (reached_scripted hscripted).trans (hreached hwarning)⟩
  · intro res h hwarning
    obtain ⟨-, rfl⟩ := Response.success.inj h
    exact ⟨rfl, hsame.1, hreached hwarning⟩

theorem updateHotspot_wp (texts : Texts) (deviceID id : ℕ) (req : HotspotProfileUpdateRequest)
    (w : World) : (updateHotspot texts deviceID id req).wp Call.exec (fun _ ↦ True)
      (fun answer w' ↦ ∀ res, answer = .success 200 res → res.warning = "" →
        HotspotUpdated w w' id req res.profile) w := by
  unfold updateHotspot
  by_cases hvalid : req.valid = true
  · rw [if_neg (not_not.mpr hvalid)]
    intro e _
    obtain ⟨r, hget, hfound⟩ := exec_get e w.hotspot id
    rw [Call.exec, hget]
    cases r with
    | error err => exact fun res h ↦ absurd h (ite_failure_ne (writeErr_ne_success err))
    | ok old =>
      have hold := hfound old rfl
      change (if old.deviceID ≠ deviceID then _ else _ : Prog (Response _)).wp _ _ _ _
      split
      · exact fun res h ↦ absurd h failure_ne_success
      cases req.validity.mapM texts.normalizeDuration with
      | error err => exact fun res h ↦ absurd h failure_ne_success
      | ok validity =>
        intro e _
        obtain ⟨r, t, hupdate, hstored⟩ := exec_update e hold (p := req.apply validity old) rfl rfl
        rw [Call.exec, hupdate]
        cases r with
        | error err => exact fun res h ↦ absurd h (writeErr_ne_success err)
        | ok row =>
          obtain ⟨hrow, hname, hcolumns⟩ := hstored row rfl
          refine wp_mono (answerHotspot_wp old.name row _) fun answer w' h res hres hno ↦ ?_
          obtain ⟨rfl, hsame, hreached⟩ := h res hres hno
          refine ⟨old, hold, hsame ▸ hrow, ?_⟩
          rw [hname] at hreached ⊢
          rw [hcolumns] at hreached
          exact hreached
  · rw [if_pos hvalid]
    exact fun res h ↦ absurd h failure_ne_success

def PPPUpdated (w w' : World) (id : ℕ) (req : PPPProfileUpdateRequest) (row : PPPProfile) : Prop :=
  ∃ old, ProfileTable.get id w.ppp = .ok old ∧ ProfileTable.get id w'.ppp = .ok row ∧
    (Reached (PPPAgrees row) old.name row.name (w'.router .ppp) ↔
      Reachable (req.rateLimit.getD old.columns.rateLimit)
        (req.parentQueue.getD old.columns.parentQueue) old.name (req.name.getD old.name)
        (w.router .ppp))

theorem updatePPP_wp (deviceID id : ℕ) (req : PPPProfileUpdateRequest) (w : World) :
    (updatePPP deviceID id req).wp Call.exec (fun _ ↦ True)
      (fun answer w' ↦ ∀ res, answer = .success 200 res → res.warning = "" →
        PPPUpdated w w' id req res.profile) w := by
  unfold updatePPP
  by_cases hvalid : req.valid = true
  · rw [if_neg (not_not.mpr hvalid)]
    intro e _
    obtain ⟨r, hget, hfound⟩ := exec_get e w.ppp id
    rw [Call.exec, hget]
    cases r with
    | error err => exact fun res h ↦ absurd h (ite_failure_ne (writeErr_ne_success err))
    | ok old =>
      have hold := hfound old rfl
      change (if old.deviceID ≠ deviceID then _ else _ : Prog (Response _)).wp _ _ _ _
      split
      · exact fun res h ↦ absurd h failure_ne_success
      intro e _
      obtain ⟨r, t, hupdate, hstored⟩ := exec_update e hold (p := req.apply old) rfl rfl
      rw [Call.exec, hupdate]
      cases r with
      | error err => exact fun res h ↦ absurd h (writeErr_ne_success err)
      | ok row =>
        obtain ⟨hrow, hname, hcolumns⟩ := hstored row rfl
        change (propagatePPP row >>= _ : Prog _).wp _ _ _ _
        rw [wp_bind]
        refine wp_mono (wp_and (onRouter_wp (propagateSet_onRouter .ppp row.name (pppAddPairs row)
          (pppSetPairs row) (pppUnset row)) _) (propagatePPP_wp old.name row _))
          fun warning w' hboth res hres hno ↦ ?_
        obtain ⟨hsame, hreached⟩ := hboth
        obtain ⟨-, rfl⟩ := Response.success.inj hres
        refine ⟨old, hold, hsame.2 ▸ hrow, (hreached hno).trans ?_⟩
        rw [hname, hcolumns]
        rfl
  · rw [if_pos hvalid]
    exact fun res h ↦ absurd h failure_ne_success

/-- A profile is on the router as `Update` has stored it just if the router had nothing set that
the row has cleared, and after a rename none under the old name. -/
theorem update_reaches_router_iff (texts : Texts) (env : ℕ → Env) (w : World) (deviceID id : ℕ) :
    (∀ req res w', (updateHotspot texts deviceID id req).run Call.exec env w =
        (.success 200 res, w') → res.warning = "" → HotspotUpdated w w' id req res.profile) ∧
      ∀ req res w', (updatePPP deviceID id req).run Call.exec env w =
        (.success 200 res, w') → res.warning = "" → PPPUpdated w w' id req res.profile := by
  constructor
  · intro req res w' hrun
    have h := run_of_wp (updateHotspot_wp texts deviceID id req w) env fun _ ↦ trivial
    rw [hrun] at h
    exact h res rfl
  · intro req res w' hrun
    have h := run_of_wp (updatePPP_wp deviceID id req w) env fun _ ↦ trivial
    rw [hrun] at h
    exact h res rfl

/-- The router has the monthly package as it is stored. -/
def World.served : World :=
  let w := World.one "paket-10M" monthly
  { w with
    online := true
    router := Function.update w.router .hotspot (.single (Item.blank.assign
      (hotspotAddPairs (newRow 1 "paket-10M" monthly)))) }

def clearLimit : HotspotProfileUpdateRequest :=
  ⟨none, some "", none, none, none, none, none, none, none, none, none, none, none, none, none⟩

def unlimited : HotspotProfile :=
  { newRow 1 "paket-10M" { monthly with rateLimit := "" } with id := 1, updatedAt := 0 }

/-- The customers of a package without a limit keep the old one. -/
theorem cleared_limit_stays :
    ∃ w', (updateHotspot plainTexts 1 1 clearLimit).run Call.exec (fun _ ↦ Env.calm 0)
        World.served = (.success 200 ⟨unlimited, ""⟩, w') ∧
      ¬Reached (HotspotAgrees unlimited) "paket-10M" "paket-10M" (w'.router .hotspot) := by
  refine ⟨((updateHotspot plainTexts 1 1 clearLimit).run Call.exec (fun _ ↦ Env.calm 0)
    World.served).2, Prod.ext rfl rfl, ?_⟩
  rintro ⟨⟨i, hi, -, hagrees⟩, -⟩
  have hlimit : ∀ i ∈ (((updateHotspot plainTexts 1 1 clearLimit).run Call.exec
      (fun _ ↦ Env.calm 0) World.served).2.router .hotspot).rows.rows,
      ¬Agree "" (i.settings "rate-limit") := by
    decide +kernel
  exact hlimit i hi hagrees.rateLimit

end Handlers

end Rosmon.Profiles
