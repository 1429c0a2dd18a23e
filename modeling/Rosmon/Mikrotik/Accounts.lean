import Rosmon.Mikrotik.Router

namespace Rosmon.Mikrotik

open Store

/-- The `.id` of the `n`-th item of a router. -/
def itemID (n : ℕ) : String := "*" ++ toString n

theorem itemID_inj {m n : ℕ} (h : itemID m = itemID n) : m = n := by
  have hlist : Nat.toDigits 10 m = Nat.toDigits 10 n := by
    have h' := congrArg String.toList h
    simpa [itemID, String.toList_append, Nat.toString_eq_repr, Nat.toList_repr] using h'
  have hm := Nat.ofDigitChars_toDigits (b := 10) (n := m) (by omega) (by omega)
  rw [hlist, Nat.ofDigitChars_toDigits (by omega) (by omega)] at hm
  exact hm.symm

theorem itemID_ne_empty (n : ℕ) : itemID n ≠ "" := by
  intro h
  have h' := congrArg String.toList h
  simp [itemID, String.toList_append] at h'

/-- What RouterOS guarantees of one of its tables: ids and names are unique and not
empty, and the ids yet to come are free. -/
structure Tidy (nextID : ℕ) (records : List Record) : Prop where
  ids : (records.map (·.id)).Nodup
  names : (records.map (·.name)).Nodup
  named : ∀ row ∈ records, row.id ≠ "" ∧ row.name ≠ ""
  fresh : ∀ row ∈ records, ∀ n, nextID ≤ n → row.id ≠ itemID n

structure Router.WellFormed (r : Router) : Prop where
  tidy : ∀ service, Tidy r.nextID (r.records service)

theorem Router.blank_wellFormed : Router.blank.WellFormed := by
  constructor
  intro service
  cases service <;> exact ⟨.nil, .nil, by simp [Router.blank, Router.records], by
    simp [Router.blank, Router.records]⟩

/-- The record under a name. -/
def Router.record (r : Router) (service : ServiceType) (name : String) : Option Record :=
  (r.records service).find? (·.name = name)

/-- What a subscription has on a router, whatever `.id` it has there. -/
structure Account where
  password : String
  profile : String
  disabled : Bool
  deriving DecidableEq

def Record.account (row : Record) : Account := ⟨row.password, row.profile, row.disabled⟩

section Tables

variable {records : List Record} {row : Record} {name : String} {nextID : ℕ}

theorem Tidy.find_iff (h : Tidy nextID records) :
    records.find? (·.name = name) = some row ↔ row ∈ records ∧ row.name = name := by
  constructor
  · intro hf
    exact ⟨List.mem_of_find?_eq_some hf, by simpa using List.find?_some hf⟩
  · rintro ⟨hrow, rfl⟩
    cases hf : records.find? (·.name = row.name) with
    | none =>
      have hnone := List.find?_eq_none.mp hf row hrow
      simp at hnone
    | some row' =>
      have hname : row'.name = row.name := by simpa using List.find?_some hf
      rw [List.inj_on_of_nodup_map h.names (List.mem_of_find?_eq_some hf) hrow hname]

theorem find_none_iff : records.find? (·.name = name) = none ↔ ∀ row ∈ records, row.name ≠ name := by
  simp

/-- There is at most one record of a name. -/
theorem Tidy.filter_eq (h : Tidy nextID records) (name : String) :
    records.filter (·.name = name) = (records.find? (·.name = name)).toList := by
  have hnames := h.names
  clear h
  induction records with
  | nil => rfl
  | cons row records ih =>
    rw [List.map_cons, List.nodup_cons] at hnames
    by_cases hrow : row.name = name
    · have hrest : records.filter (·.name = name) = [] := by
        rw [List.filter_eq_nil_iff]
        intro row' hrow' heq
        exact hnames.1 (List.mem_map.mpr ⟨row', hrow', by simpa [hrow] using heq⟩)
      simp [hrow, hrest]
    · simpa [hrow] using ih hnames.2

/-- Changing the row under an id, but neither its id nor its name. -/
theorem Tidy.change (h : Tidy nextID records) (id : String) {f : Record → Record}
    (hid : ∀ row, (f row).id = row.id) (hname : ∀ row, (f row).name = row.name) :
    Tidy nextID (records.map fun row ↦ if row.id = id then f row else row) := by
  have hids : ∀ row : Record, (if row.id = id then f row else row).id = row.id := by
    intro row
    split <;> simp [hid]
  have hnames : ∀ row : Record, (if row.id = id then f row else row).name = row.name := by
    intro row
    split <;> simp [hname]
  refine ⟨?_, ?_, ?_, ?_⟩
  · simpa [Function.comp_def, hids] using h.ids
  · simpa [Function.comp_def, hnames] using h.names
  · intro row' hrow'
    obtain ⟨row, hrow, rfl⟩ := List.mem_map.mp hrow'
    rw [hids, hnames]
    exact h.named row hrow
  · intro row' hrow'
    obtain ⟨row, hrow, rfl⟩ := List.mem_map.mp hrow'
    rw [hids]
    exact h.fresh row hrow

theorem Tidy.remove (h : Tidy nextID records) (id : String) :
    Tidy nextID (records.filter fun row ↦ row.id ≠ id) := by
  have hsub : (records.filter fun row ↦ row.id ≠ id).Sublist records := List.filter_sublist
  exact ⟨h.ids.sublist (hsub.map _), h.names.sublist (hsub.map _),
    fun row hrow ↦ h.named row (hsub.subset hrow), fun row hrow ↦ h.fresh row (hsub.subset hrow)⟩

theorem Tidy.mono (h : Tidy nextID records) {n : ℕ} (hn : nextID ≤ n) : Tidy n records :=
  ⟨h.ids, h.names, h.named, fun row hrow m hm ↦ h.fresh row hrow m (by omega)⟩

theorem Tidy.add (h : Tidy nextID records) (hid : row.id = itemID nextID) (hname : row.name ≠ "")
    (hnew : ∀ row' ∈ records, row'.name ≠ row.name) : Tidy (nextID + 1) (records ++ [row]) := by
  have hfresh : ∀ row' ∈ records, row'.id ≠ row.id := by
    intro row' hrow'
    rw [hid]
    exact h.fresh row' hrow' _ le_rfl
  refine ⟨?_, ?_, ?_, ?_⟩
  · rw [List.map_append, List.map_singleton, List.nodup_append]
    refine ⟨h.ids, List.nodup_singleton _, ?_⟩
    simpa using hfresh
  · rw [List.map_append, List.map_singleton, List.nodup_append]
    refine ⟨h.names, List.nodup_singleton _, ?_⟩
    simpa using hnew
  · intro row' hrow'
    rcases List.mem_append.mp hrow' with hrow' | hrow'
    · exact h.named row' hrow'
    · rw [List.mem_singleton.mp hrow', hid]
      exact ⟨itemID_ne_empty _, hname⟩
  · intro row' hrow' n hn
    rcases List.mem_append.mp hrow' with hrow' | hrow'
    · exact h.fresh row' hrow' n (by omega)
    · rw [List.mem_singleton.mp hrow', hid]
      intro heq
      have := itemID_inj heq
      omega

end Tables

/-- `r'` differs from `r` at most in the record under one name, which is `o`. -/
structure Router.Puts (service : ServiceType) (name : String) (o : Option Record)
    (r r' : Router) : Prop where
  wellFormed : r'.WellFormed
  here : r'.record service name = o
  elsewhere : ∀ service' name', (service', name') ≠ (service, name) →
    r'.record service' name' = r.record service' name'

section Calls

variable {r : Router} {service : ServiceType} {name : String} {row : Record}

theorem Router.records_setRecords_of_ne {service' : ServiceType} (h : service' ≠ service)
    (l : List Record) : (r.setRecords service l).records service' = r.records service' := by
  cases service <;> cases service' <;> first | rfl | exact absurd rfl h

@[simp] theorem Router.nextID_setRecords (l : List Record) :
    (r.setRecords service l).nextID = r.nextID := by
  cases service <;> rfl

/-- Another table under one service. -/
theorem Router.WellFormed.of {r' : Router} {l : List Record} (h : r.WellFormed)
    (hn : r.nextID ≤ r'.nextID) (hsame : r'.records service = l)
    (hother : ∀ service' ≠ service, r'.records service' = r.records service')
    (hl : Tidy r'.nextID l) : r'.WellFormed := by
  constructor
  intro service'
  by_cases hs : service' = service
  · rw [hs, hsame]
    exact hl
  · rw [hother service' hs]
    exact (h.tidy service').mono hn

/-- All other names mean in it what they did. -/
theorem Router.puts_of {r' : Router} {l : List Record} {o : Option Record} (h : r.WellFormed)
    (hn : r.nextID ≤ r'.nextID) (hsame : r'.records service = l)
    (hother : ∀ service' ≠ service, r'.records service' = r.records service')
    (hl : Tidy r'.nextID l) (hhere : l.find? (·.name = name) = o)
    (helse : ∀ name' ≠ name, l.find? (·.name = name') = r.record service name') :
    r.Puts service name o r' := by
  refine ⟨h.of hn hsame hother hl, ?_, ?_⟩
  · rw [Router.record, hsame, hhere]
  · intro service' name' hne
    by_cases hs : service' = service
    · subst hs
      have hname : name' ≠ name := by
        intro heq
        exact hne (by rw [heq])
      rw [Router.record, hsame, helse name' hname]
    · rw [Router.record, hother service' hs, Router.record]

theorem Router.WellFormed.record_iff (h : r.WellFormed) :
    r.record service name = some row ↔ row ∈ r.records service ∧ row.name = name :=
  (h.tidy service).find_iff

theorem Router.WellFormed.id_ne_empty (h : r.WellFormed) (hrow : r.record service name = some row) :
    row.id ≠ "" :=
  ((h.tidy service).named row (h.record_iff.mp hrow).1).1

/-- A command on the id of a record that was found is carried out. -/
theorem Router.change_found (h : r.WellFormed) (hrow : r.record service name = some row)
    (f : List Record → List Record) :
    r.change service row.id f = (.ok (), r.setRecords service (f (r.records service))) := by
  have hmem : (r.records service).any (·.id = row.id) := by
    simpa using ⟨row, (h.record_iff.mp hrow).1, rfl⟩
  simp [Router.change, h.id_ne_empty hrow, hmem]

/-- The id of a record belongs to no other name. -/
theorem Router.WellFormed.id_eq (h : r.WellFormed) (hrow : r.record service name = some row)
    {row' : Record} (hrow' : row' ∈ r.records service) : row'.id = row.id ↔ row' = row := by
  constructor
  · intro hid
    exact List.inj_on_of_nodup_map (h.tidy service).ids hrow' (h.record_iff.mp hrow).1 hid
  · intro heq
    rw [heq]

theorem Router.puts_change (h : r.WellFormed) (hrow : r.record service name = some row)
    {f : Record → Record} (hid : ∀ row, (f row).id = row.id)
    (hname : ∀ row, (f row).name = row.name) :
    r.Puts service name (some (f row)) (r.setRecords service
      ((r.records service).map fun row' ↦ if row'.id = row.id then f row' else row')) := by
  have hlookup : ∀ name', ((r.records service).map fun row' ↦
      if row'.id = row.id then f row' else row').find? (·.name = name') =
        (r.record service name').map fun row' ↦ if row'.id = row.id then f row' else row' := by
    intro name'
    rw [List.find?_map, Router.record]
    congr 2
    funext row'
    by_cases h' : row'.id = row.id <;> simp [h', hname]
  refine Router.puts_of h (by simp) (Router.records_setRecords _ _ _)
    (fun _ hs ↦ Router.records_setRecords_of_ne hs _)
    (by simpa using (h.tidy service).change row.id hid hname) ?_ ?_
  · rw [hlookup, hrow]
    simp
  · intro name' hne
    rw [hlookup]
    cases hrow' : r.record service name' with
    | none => rfl
    | some row' =>
      have hother : row'.id ≠ row.id := by
        intro heq
        have := (h.id_eq hrow (h.record_iff.mp hrow').1).mp heq
        exact hne ((h.record_iff.mp hrow').2.symm.trans (this ▸ (h.record_iff.mp hrow).2))
      simp [hother]

theorem Router.puts_remove (h : r.WellFormed) (hrow : r.record service name = some row) :
    r.Puts service name none (r.setRecords service
      ((r.records service).filter fun row' ↦ row'.id ≠ row.id)) := by
  have htidy := (h.tidy service).remove row.id
  refine Router.puts_of h (by simp) (Router.records_setRecords _ _ _)
    (fun _ hs ↦ Router.records_setRecords_of_ne hs _) (by simpa using htidy) ?_ ?_
  · rw [List.find?_eq_none]
    intro row' hrow'
    simp only [decide_eq_true_eq]
    intro hname
    obtain ⟨hmem, hid⟩ := List.mem_filter.mp hrow'
    have heq := h.record_iff.mpr ⟨hmem, hname⟩
    rw [hrow] at heq
    simp [Option.some.inj heq] at hid
  · intro name' hne
    apply Option.ext
    intro row'
    rw [htidy.find_iff, h.record_iff, List.mem_filter]
    constructor
    · intro h'
      exact ⟨h'.1.1, h'.2⟩
    · intro h'
      refine ⟨⟨h'.1, ?_⟩, h'.2⟩
      simp only [ne_eq, decide_eq_true_eq]
      intro hid
      have heq := (h.id_eq hrow h'.1).mp hid
      exact hne (h'.2.symm.trans (heq ▸ (h.record_iff.mp hrow).2))

theorem Router.puts_add (h : r.WellFormed) (hnone : r.record service row.name = none)
    (hid : row.id = itemID r.nextID) (hname : row.name ≠ "") :
    r.Puts service row.name (some row)
      { r.setRecords service (r.records service ++ [row]) with nextID := r.nextID + 1 } := by
  have hnew : ∀ row' ∈ r.records service, row'.name ≠ row.name := find_none_iff.mp hnone
  have hrecords : ∀ service' n, ({ r.setRecords service (r.records service ++ [row]) with
      nextID := n } : Router).records service' =
        (r.setRecords service (r.records service ++ [row])).records service' := by
    intro service' n
    cases service' <;> rfl
  refine Router.puts_of h (Nat.le_succ _) ((hrecords _ _).trans (Router.records_setRecords _ _ _))
    (fun _ hs ↦ (hrecords _ _).trans (Router.records_setRecords_of_ne hs _))
    ((h.tidy service).add hid hname hnew) ?_ ?_
  · rw [List.find?_append, show (r.records service).find? _ = none from hnone]
    simp
  · intro name' hne
    rw [List.find?_append]
    simp [Router.record, hne.symm]

/-- The row `SecretAdd` and `UserAdd` make of their arguments. -/
def Router.newRecord (r : Router) (service : ServiceType) (args : AddArgs) : Record where
  id := itemID r.nextID
  name := args.name
  password := args.password
  scope := orDefault args.scope (match service with | .pppoe => "any" | .hotspot => "all")
  profile := orDefault args.profile "default"
  disabled := args.disabled

theorem exec_add {args : AddArgs} (h : r.WellFormed) (hname : args.name ≠ "")
    (hnone : r.record service args.name = none) :
    ∃ r', RouterCall.exec service (.add args) r = (.ok (itemID r.nextID), r') ∧
      r.Puts service args.name (some (r.newRecord service args)) r' := by
  have hany : (r.records service).any (·.name = args.name) = false := by
    simpa using find_none_iff.mp hnone
  have hput : r.Puts service (r.newRecord service args).name (some (r.newRecord service args)) _ :=
    Router.puts_add h hnone rfl hname
  refine ⟨_, ?_, hput⟩
  simp only [RouterCall.exec, hname, hany, if_false, Bool.false_eq_true]
  rfl

theorem exec_add_refused {args : AddArgs} (h : args.name = "" ∨ r.record service args.name ≠ none) :
    ∃ err, RouterCall.exec service (.add args) r = (.error err, r) := by
  by_cases hname : args.name = ""
  · exact ⟨_, by simp only [RouterCall.exec, hname, if_true]; rfl⟩
  · have hany : (r.records service).any (·.name = args.name) = true := by
      have := mt find_none_iff.mpr (h.resolve_left hname)
      simpa using this
    exact ⟨_, by simp only [RouterCall.exec, hname, hany, if_false, if_true]; rfl⟩

variable (h : r.WellFormed) (hrow : r.record service name = some row)
include h hrow

theorem exec_setProfile (profile : String) :
    ∃ r', RouterCall.exec service (.setProfile row.id profile) r = (.ok (), r') ∧
      r.Puts service name (some { row with profile := orDefault profile row.profile }) r' :=
  ⟨_, Router.change_found h hrow _, Router.puts_change h hrow
    (f := fun row ↦ { row with profile := orDefault profile row.profile })
    (fun _ ↦ rfl) (fun _ ↦ rfl)⟩

theorem exec_set (password profile : String) (disabled : Option Bool) :
    ∃ r', RouterCall.exec service (.set row.id password profile disabled) r = (.ok (), r') ∧
      r.Puts service name (some { row with
        password := orDefault password row.password
        profile := orDefault profile row.profile
        disabled := disabled.getD row.disabled }) r' :=
  ⟨_, Router.change_found h hrow _, Router.puts_change h hrow
    (f := fun row ↦ { row with
      password := orDefault password row.password
      profile := orDefault profile row.profile
      disabled := disabled.getD row.disabled }) (fun _ ↦ rfl) (fun _ ↦ rfl)⟩

theorem exec_setDisabled (disabled : Bool) :
    ∃ r', RouterCall.exec service (.setDisabled row.id disabled) r = (.ok (), r') ∧
      r.Puts service name (some { row with disabled }) r' :=
  ⟨_, Router.change_found h hrow _, Router.puts_change h hrow
    (f := fun row ↦ { row with disabled }) (fun _ ↦ rfl) (fun _ ↦ rfl)⟩

theorem exec_remove : ∃ r', RouterCall.exec service (.remove row.id) r = (.ok (), r') ∧
    r.Puts service name none r' :=
  ⟨_, Router.change_found h hrow _, Router.puts_remove h hrow⟩

end Calls

/-- Changing the rows under an id, whatever it is. -/
theorem Router.WellFormed.change {r : Router} (h : r.WellFormed) (service : ServiceType)
    (id : String) {f : List Record → List Record}
    (hf : ∀ l, Tidy r.nextID l → Tidy r.nextID (f l)) : (r.change service id f).2.WellFormed := by
  unfold Router.change
  split_ifs
  · exact h
  · exact h.of (by simp) (Router.records_setRecords _ _ _)
      (fun _ hs ↦ Router.records_setRecords_of_ne hs _) (by simpa using hf _ (h.tidy service))
  · exact h

/-- Every command leaves the tables of the router in order. -/
theorem RouterCall.exec_wellFormed {r : Router} (h : r.WellFormed) (service : ServiceType)
    (c : RouterCall) : (c.exec service r).2.WellFormed := by
  cases c with
  | byName name =>
    simp only [RouterCall.exec]
    split
    · exact h
    · split <;> exact h
  | add args =>
    by_cases hadd : args.name = "" ∨ r.record service args.name ≠ none
    · obtain ⟨err, he⟩ := exec_add_refused hadd
      rwa [he]
    · rw [not_or, not_not] at hadd
      obtain ⟨r', he, hput⟩ := exec_add h hadd.1 hadd.2
      rw [he]
      exact hput.wellFormed
  | setProfile id profile =>
    exact h.change service id fun l hl ↦
      hl.change id (f := fun row ↦ { row with profile := orDefault profile row.profile })
        (fun _ ↦ rfl) (fun _ ↦ rfl)
  | set id password profile disabled =>
    exact h.change service id fun l hl ↦ hl.change id (f := fun row ↦ { row with
      password := orDefault password row.password
      profile := orDefault profile row.profile
      disabled := disabled.getD row.disabled }) (fun _ ↦ rfl) (fun _ ↦ rfl)
  | setDisabled id disabled =>
    exact h.change service id fun l hl ↦
      hl.change id (f := fun row ↦ { row with disabled }) (fun _ ↦ rfl) (fun _ ↦ rfl)
  | remove id => exact h.change service id fun l hl ↦ hl.remove id

end Rosmon.Mikrotik
