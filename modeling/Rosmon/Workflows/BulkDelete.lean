import Rosmon.Go.Map
import Rosmon.Handler.Handlers
import Rosmon.Workflows.Cascades
import Mathlib.Data.List.Dedup

namespace Rosmon.Workflows

open Go Library Store Program

structure BulkResult where
  succeeded : List String
  failed : Map String

structure BulkMeta where
  total : ℕ
  successCount : ℕ
  failedCount : ℕ

section Definitions

variable (quote : String → String)

/-- `BulkDeleteUsers`: the errors by id. -/
def bulkDeleteUsers : List String → Map Error → Prog (Map Error)
  | [], failed => return failed
  | id :: ids, failed => do
    match ← deleteUser quote id with
    | .error err => bulkDeleteUsers ids (failed.insert id err)
    | .ok () => bulkDeleteUsers ids failed

/-- The texts of the errors. -/
def texts (failed : Map Error) : Map String where
  entries := failed.entries.map fun e ↦ ⟨e.1, e.2.text⟩
  nodupKeys := by
    have hkeys : (failed.entries.map fun e ↦ (⟨e.1, e.2.text⟩ : Sigma fun _ : String ↦ String)).keys =
        failed.entries.keys := by
      simp [List.keys, List.map_map, Function.comp_def]
    unfold List.NodupKeys
    rw [hkeys]
    exact failed.nodupKeys

/-- `HotspotUser.BulkDelete`; the list must not be empty, and neither any id. -/
def bulkDelete (ids : List String) : Prog (Handler.Response (BulkResult × BulkMeta)) :=
  if ids = [] ∨ "" ∈ ids then return .failure 400 "VALIDATION" "request validation failed"
  else do
    let failed := texts (← bulkDeleteUsers quote ids ∅)
    let succeeded := ids.filter fun id ↦ (failed.get id).isNone
    return .success 200 (⟨succeeded, failed⟩, ⟨ids.length, succeeded.length, failed.keys.length⟩)

end Definitions

/-- A user with the id is on the router. -/
def HasUser (r : Router) (id : String) : Prop := ∃ u ∈ r.sentences .user, u.id = id

/-- Every id is reported once, as succeeded if no user with the id is left and as failed if one is,
and the counts add up. -/
structure Truthful (ids : List String) (t : Router) (result : BulkResult) (counts : BulkMeta) :
    Prop where
  succeeded : ∀ id ∈ ids, id ∈ result.succeeded ↔ ¬HasUser t id
  once : ∀ id ∈ ids, (id ∈ result.succeeded ∧ ¬(result.failed.get id).isSome) ∨
    (id ∉ result.succeeded ∧ (result.failed.get id).isSome)
  counts : counts.successCount + counts.failedCount = counts.total

/-- If there is a report, it is true. -/
def ReportsTruly (ids : List String) (out : Handler.Response (BulkResult × BulkMeta) × Router) :
    Prop := ∀ result counts, out.1 = .success 200 (result, counts) →
  Truthful ids out.2 result counts

section Reports

variable {quote : String → String} {ok : Env → Prop} {r t : Router} {ids : List String}
  {failed : Map Error} {id : String}

theorem get_texts (failed : Map Error) (id : String) :
    (texts failed).get id = (failed.get id).map Error.text := by
  refine Option.ext fun text ↦ ?_
  rw [Option.map_eq_some_iff, ← Map.mem_entries]
  constructor
  · intro h
    obtain ⟨e, he, heq⟩ := List.mem_map.mp h
    obtain ⟨rfl, htext⟩ := Sigma.mk.inj_iff.mp heq
    exact ⟨e.2, Map.mem_entries.mp he, eq_of_heq htext⟩
  · rintro ⟨err, herr, rfl⟩
    exact List.mem_map.mpr ⟨⟨id, err⟩, Map.mem_entries.mpr herr, rfl⟩

theorem isSome_insert {x : String} {err : Error} :
    (Map.get (failed.insert x err) id).isSome ↔ id = x ∨ (failed.get id).isSome := by
  rw [Map.get_insert]
  split_ifs with h
  · simp [h]
  · simp [h]

/-- Which ids are failures in the end. -/
structure Bulk (ids : List String) (failed : Map Error) (r : Router) (failed' : Map Error)
    (t : Router) : Prop where
  users : ∀ u, u ∈ t.sentences .user → u ∈ r.sentences .user
  kept : ∀ u ∈ r.sentences .user, u.id ∉ ids → u ∈ t.sentences .user
  failed : ∀ id, (failed'.get id).isSome ↔ (failed.get id).isSome ∨
    id ∈ ids ∧ (¬HasUser r id ∨ 1 < ids.count id ∨ HasUser t id)

/-- A deletion that has failed: the user was not there, or is there still. -/
theorem Bulk.failure {x : String} {err : Error} {failed' : Map Error} {r' : Router}
    (husers : ∀ u, u ∈ r'.sentences .user ↔ u ∈ r.sentences .user)
    (h : Bulk ids (failed.insert x err) r' failed' t) : Bulk (x :: ids) failed r failed' t := by
  have hhas : ∀ id, HasUser r' id ↔ HasUser r id :=
    fun id ↦ exists_congr fun u ↦ and_congr_left fun _ ↦ husers u
  refine ⟨fun u hu ↦ (husers u).mp (h.users u hu), fun u hu hid ↦ ?_, fun id ↦ ?_⟩
  · exact h.kept u ((husers u).mpr hu) (mt (List.mem_cons_of_mem x) hid)
  rw [h.failed, isSome_insert, hhas, List.mem_cons]
  by_cases hx : id = x
  · subst hx
    by_cases hmem : id ∈ ids
    · simp [hmem]
    · -- The last attempt for this id: the user, if there was one, has been kept.
      have hleft : ¬HasUser r id ∨ HasUser t id := by
        by_cases hr : HasUser r id
        · obtain ⟨u, hu, rfl⟩ := hr
          exact .inr ⟨u, h.kept u ((husers u).mpr hu) hmem, rfl⟩
        · exact .inl hr
      simp [hmem, hleft]
  · simp [hx, List.count_cons_of_ne (Ne.symm hx)]

/-- A deletion that has succeeded. -/
theorem Bulk.success {u : Sentence} {failed' : Map Error} (hu : u ∈ r.sentences .user)
    (h : Bulk ids failed (r.withoutUser u) failed' t) : Bulk (u.id :: ids) failed r failed' t := by
  have husers : ∀ v, v ∈ (r.withoutUser u).sentences .user ↔ v ∈ r.sentences .user ∧ v.id ≠ u.id := by
    intro v
    simp [Router.withoutUser, Router.mem_drop]
  refine ⟨fun v hv ↦ ((husers v).mp (h.users v hv)).1, fun v hv hid ↦ ?_, fun id ↦ ?_⟩
  · obtain ⟨hne, hmem⟩ := not_or.mp (mt List.mem_cons.mpr hid)
    exact h.kept v ((husers v).mpr ⟨hv, hne⟩) hmem
  have hhas : HasUser (r.withoutUser u) id ↔ HasUser r id ∧ id ≠ u.id := by
    constructor
    · rintro ⟨v, hv, rfl⟩
      exact ⟨⟨v, ((husers v).mp hv).1, rfl⟩, ((husers v).mp hv).2⟩
    · rintro ⟨⟨v, hv, rfl⟩, hne⟩
      exact ⟨v, (husers v).mpr ⟨hv, hne⟩, rfl⟩
  rw [h.failed, hhas, List.mem_cons]
  by_cases hx : id = u.id
  · subst hx
    have hgone : ¬HasUser t u.id := by
      rintro ⟨v, hv, hid⟩
      exact ((husers v).mp (h.users v hv)).2 hid
    have hthere : HasUser r u.id := ⟨u, hu, rfl⟩
    by_cases hmem : u.id ∈ ids
    · simp [hmem]
    · simp [hmem, hgone, hthere]
  · simp [hx, List.count_cons_of_ne (Ne.symm hx)]

theorem wp_bulkDeleteUsers :
    (bulkDeleteUsers quote ids failed).wp Command.exec ok (Bulk ids failed r) r := by
  induction ids generalizing failed r with
  | nil => exact ⟨fun u hu ↦ hu, fun u hu _ ↦ hu, fun id ↦ by simp⟩
  | cons x ids ih =>
    rw [bulkDeleteUsers, wp_bind]
    by_cases hx : HasUser r x
    · obtain ⟨u, hu, rfl⟩ := hx
      refine wp_mono (wp_deleteUser hu) fun res r' hends ↦ ?_
      cases res with
      | ok =>
        obtain rfl : r' = r.withoutUser u := hends
        exact wp_mono ih fun failed' t h ↦ h.success hu
      | error err =>
        have hlost : Lost u.OwnedByUser r r' := hends.2
        refine wp_mono ih fun failed' t h ↦ h.failure fun v ↦ ⟨hlost.mem_of_mem, fun hv ↦ ?_⟩
        exact hlost.mem hv fun howned ↦ by obtain ⟨h | h, -⟩ := howned <;> cases h
    · refine wp_mono (wp_deleteUser_absent fun u hu hid ↦ hx ⟨u, hu, hid⟩) ?_
      rintro _ _ ⟨rfl, err, rfl⟩
      exact wp_mono ih fun failed' t h ↦ h.failure fun v ↦ Iff.rfl

variable (quote ok r) in
/-- The report of a list that is accepted. -/
theorem wp_bulkDelete (h : ¬(ids = [] ∨ "" ∈ ids)) : (bulkDelete quote ids).wp Command.exec ok
    (fun out t ↦ ∃ failed, Bulk ids ∅ r failed t ∧
      out = .success 200 (⟨ids.filter fun id ↦ ((texts failed).get id).isNone, texts failed⟩,
        ⟨ids.length, (ids.filter fun id ↦ ((texts failed).get id).isNone).length,
          (texts failed).keys.length⟩)) r := by
  rw [bulkDelete, if_neg h, wp_bind]
  exact wp_mono wp_bulkDeleteUsers fun failed t hbulk ↦ ⟨failed, hbulk, rfl⟩

/-- A map and the list of the ids that it was made of: the lengths agree if no id of the map is twice
in the list. -/
theorem length_keys_iff {failed : Map String} (h : ∀ id, (failed.get id).isSome → id ∈ ids) :
    (ids.filter fun id ↦ (failed.get id).isNone).length + failed.keys.length = ids.length ↔
      ∀ id, (failed.get id).isSome → ids.count id ≤ 1 := by
  obtain ⟨l, hl⟩ : ∃ l, l = ids.filter fun id ↦ (failed.get id).isSome := ⟨_, rfl⟩
  have hsplit : (ids.filter fun id ↦ (failed.get id).isNone).length + l.length = ids.length := by
    have hnot : (fun id ↦ (failed.get id).isNone) = fun id ↦ decide ¬(failed.get id).isSome = true := by
      funext id
      cases failed.get id <;> rfl
    rw [hl, hnot, Nat.add_comm, ← List.countP_eq_length_filter, ← List.countP_eq_length_filter]
    exact (List.length_eq_countP_add_countP _).symm
  have hmem : ∀ id, id ∈ l.dedup ↔ id ∈ failed.keys := by
    intro id
    rw [List.mem_dedup, hl, List.mem_filter, ← AList.mem_keys, ← AList.lookup_isSome]
    exact and_iff_right_of_imp (h id)
  have hkeys : l.dedup.length = failed.keys.length :=
    ((List.perm_ext_iff_of_nodup l.nodup_dedup failed.keys_nodup).mpr hmem).length_eq
  have hnodup : l.Nodup ↔ ∀ id, (failed.get id).isSome → ids.count id ≤ 1 := by
    rw [List.nodup_iff_count_le_one]
    refine forall_congr' fun id ↦ ?_
    by_cases hid : (failed.get id).isSome = true
    · rw [hl, List.count_filter (p := fun id ↦ (failed.get id).isSome) hid]
      simp [hid]
    · have hnone : id ∉ l := by
        rw [hl, List.mem_filter]
        exact fun hmem ↦ hid hmem.2
      simp [hid, List.count_eq_zero_of_not_mem hnone]
  rw [← hnodup, ← hkeys]
  constructor
  · intro hlength
    have hsame : l.dedup = l := (List.dedup_sublist l).eq_of_length (by omega)
    rw [← hsame]
    exact l.nodup_dedup
  · intro hl'
    rw [hl'.dedup]
    exact hsplit

/-- A router with one user. -/
def oneUser : Router where
  sentences
    | .user => [{ Sentence.blank "*1" with name := "budi" }]
    | _ => []
  given
    | .user => ["*1"]
    | _ => []
  unique m := by cases m <;> decide
  known m := by cases m <;> decide
  named m h := by
    revert h
    cases m <;> decide

end Reports

end Rosmon.Workflows
