import Rosmon.Job.Outbox
import Rosmon.Sync.Login

namespace Rosmon

open Library Store Mikrotik Program Job

/-- A command to a router. -/
def Call.isCommand : Call → Bool
  | .router .. => true
  | _ => false

/-- As `Call.exec`, but nothing except a command can fail. -/
def execCommands (c : Call) (e : Env) (w : World) : c.Reply × World :=
  c.exec (if c.isCommand then e else { e with fault := none }) w

theorem execCommands_quiet {e : Env} (h : e.fault = none) (c : Call) (w : World) :
    execCommands c e w = c.exec e w := by
  have he : { e with fault := none } = e := by
    cases e
    simp_all
  simp [execCommands, he]

/-- A way to carry out calls that treats the devices as `Call.exec` does. -/
class OnDevices (exec : (c : Call) → Env → World → c.Reply × World) : Prop where
  device : ∀ id e w, exec (.device id) e w = Call.exec (.device id) e w
  router : ∀ id service c e w,
    exec (.router id service c) e w = Call.exec (.router id service c) e w

instance : OnDevices Call.exec := ⟨fun _ _ _ ↦ rfl, fun _ _ _ _ _ ↦ rfl⟩

instance : OnDevices execCommands := ⟨fun _ _ _ ↦ rfl, fun _ _ _ _ _ ↦ rfl⟩

/-- Some command may fail. -/
def Faulty (ok : Env → Prop) : Prop := ∃ e, ok e ∧ e.fault ≠ none

/-- A failure is never mistaken for the answer that there is no such record. -/
def Env.Honest (e : Env) : Prop := ∀ err, e.fault = some err → err.is .mikrotikNotFound = false

/-- No call fails. -/
def Env.Faultless (e : Env) : Prop := e.fault = none

instance (e : Env) : Decidable e.Faultless := inferInstanceAs (Decidable (_ = _))

/-- `w'` differs from `w` at most in the record of one login, which is `o`. -/
structure Puts (l : Login) (o : Option Record) (w w' : World) : Prop where
  rest : w' = { w with routers := w'.routers }
  wellFormed : ∀ id, (w'.routers id).WellFormed
  here : w'.record l = o
  elsewhere : ∀ l', l' ≠ l → w'.record l' = w.record l'

namespace Puts

variable {l : Login} {o o' : Option Record} {u v w : World}

theorem refl (h : ∀ id, (w.routers id).WellFormed) (l : Login) : Puts l (w.record l) w w :=
  ⟨rfl, h, rfl, fun _ _ ↦ rfl⟩

theorem trans (h : Puts l o u v) (h' : Puts l o' v w) : Puts l o' u w := by
  refine ⟨?_, h'.wellFormed, h'.here, fun l' hl' ↦ (h'.elsewhere l' hl').trans (h.elsewhere l' hl')⟩
  have hw := h'.rest
  rw [h.rest] at hw
  exact hw

theorem of_router (h : ∀ id, (w.routers id).WellFormed) {r : Router}
    (hr : (w.routers l.deviceID).Puts l.service l.name o r) :
    Puts l o w { w with routers := Function.update w.routers l.deviceID r } := by
  refine ⟨rfl, fun id ↦ ?_, ?_, fun l' hl' ↦ ?_⟩
  · by_cases hid : id = l.deviceID
    · subst hid
      simpa using hr.wellFormed
    · simpa [Function.update_of_ne hid] using h id
  · simpa [World.record] using hr.here
  · by_cases hid : l'.deviceID = l.deviceID
    · have hne : (l'.service, l'.name) ≠ (l.service, l.name) := by
        intro heq
        apply hl'
        cases l
        cases l'
        simp_all
      simpa [World.record, hid] using hr.elsewhere _ _ hne
    · simp [World.record, Function.update_of_ne hid]

end Puts

section Rules

variable {exec : (c : Call) → Env → World → c.Reply × World} [OnDevices exec] {α : Type}
  {ok : Env → Prop} {Q : α → World → Prop} {w : World}

/-- A command fails, or the router carries it out. -/
theorem wp_router {deviceID : ℕ} {service : ServiceType} {c : RouterCall}
    {k : Except Error c.Result → Prog α}
    (hfault : ∀ e err, ok e → e.fault = some err → (k (.error err)).wp exec ok Q w)
    (hdone : (k (c.exec service (w.routers deviceID)).1).wp exec ok Q
      { w with
        routers := Function.update w.routers deviceID (c.exec service (w.routers deviceID)).2 }) :
    (Program.call (.router deviceID service c) k).wp exec ok Q w := by
  intro e he
  cases hf : e.fault with
  | none => simpa [OnDevices.router, Call.exec, orFault, hf] using hdone
  | some err => simpa [OnDevices.router, Call.exec, orFault, hf] using hfault e err he hf

/-- `Manager.Get`. -/
theorem wp_device {id : ℕ} {k : Except Error Unit → Prog α}
    (hon : id ∈ w.connected → (k (.ok ())).wp exec ok Q w)
    (hoff : id ∉ w.connected → ∀ err, (k (.error err)).wp exec ok Q w) :
    (Program.call (.device id) k).wp exec ok Q w := by
  intro e _
  rw [show exec (.device id) e w = _ from OnDevices.device id e w, Call.exec]
  by_cases hdevice : id ∈ w.connected
  · simpa only [hdevice, if_true] using hon hdevice
  · simpa only [hdevice, if_false] using hoff hdevice _

/-- `SecretByName` and `UserByName`. -/
theorem wp_byName (hok : ∀ e, ok e → e.Honest) {l : Login} {k : Except Error Record → Prog α}
    (herr : ∀ err, err.is .mikrotikNotFound = false → Faulty ok ∨ l.name = "" →
      (k (.error err)).wp exec ok Q w)
    (hnone : l.name ≠ "" → w.record l = none →
      (k (.error (.of .mikrotikNotFound))).wp exec ok Q w)
    (hfound : ∀ row, l.name ≠ "" → w.record l = some row → (k (.ok row)).wp exec ok Q w) :
    (Program.call (.router l.deviceID l.service (.byName l.name)) k).wp exec ok Q w := by
  refine wp_router (fun e err he hf ↦ ?_) ?_
  · exact herr err (hok e he err hf) (.inl ⟨e, he, by simp [hf]⟩)
  · by_cases hname : l.name = ""
    · simpa [RouterCall.exec, hname] using herr (.of .mikrotikInvalidArgument) rfl (.inr hname)
    · cases hrow : w.record l with
      | none =>
        have hrow' : ((w.routers l.deviceID).records l.service).find? (·.name = l.name) = none :=
          hrow
        simpa [RouterCall.exec, hname, hrow'] using hnone hname hrow
      | some row =>
        have hrow' : ((w.routers l.deviceID).records l.service).find? (·.name = l.name) =
          some row := hrow
        simpa [RouterCall.exec, hname, hrow'] using hfound row hname hrow

/-- `SecretAdd` and `UserAdd`. -/
theorem wp_add (hw : ∀ id, (w.routers id).WellFormed) {l : Login} {args : AddArgs}
    (hname : args.name = l.name) {k : Except Error String → Prog α}
    (herr : ∀ err, Faulty ok ∨ l.name = "" ∨ w.record l ≠ none →
      (k (.error err)).wp exec ok Q w)
    (hok : ∀ id w', l.name ≠ "" → w.record l = none →
      Puts l (some ((w.routers l.deviceID).newRecord l.service args)) w w' →
        (k (.ok id)).wp exec ok Q w') :
    (Program.call (.router l.deviceID l.service (.add args)) k).wp exec ok Q w := by
  refine wp_router (fun e err he hf ↦ herr err (.inl ⟨e, he, by simp [hf]⟩)) ?_
  by_cases hrefused : args.name = "" ∨ (w.routers l.deviceID).record l.service args.name ≠ none
  · obtain ⟨err, he⟩ := exec_add_refused hrefused
    rw [he]
    rw [hname] at hrefused
    simpa using herr err (.inr hrefused)
  · rw [not_or, not_not] at hrefused
    obtain ⟨r', he, hput⟩ := exec_add (hw l.deviceID) hrefused.1 hrefused.2
    rw [he]
    rw [hname] at hrefused hput
    exact hok _ _ hrefused.1 hrefused.2 (.of_router hw hput)

section Found

variable (hw : ∀ id, (w.routers id).WellFormed) {l : Login} {row : Record}
  (hrow : w.record l = some row) {k : Except Error Unit → Prog α}
  (herr : ∀ err, Faulty ok → (k (.error err)).wp exec ok Q w)

include hw hrow herr

theorem wp_setProfile {profile : String}
    (hdone : ∀ w', Puts l (some { row with profile := orDefault profile row.profile }) w w' →
      (k (.ok ())).wp exec ok Q w') :
    (Program.call (.router l.deviceID l.service (.setProfile row.id profile)) k).wp
      exec ok Q w := by
  refine wp_router (fun e err he hf ↦ herr err ⟨e, he, by simp [hf]⟩) ?_
  obtain ⟨r', he, hput⟩ := exec_setProfile (hw l.deviceID) hrow profile
  rw [he]
  exact hdone _ (.of_router hw hput)

theorem wp_set {password profile : String} {disabled : Option Bool}
    (hdone : ∀ w', Puts l (some { row with
      password := orDefault password row.password
      profile := orDefault profile row.profile
      disabled := disabled.getD row.disabled }) w w' → (k (.ok ())).wp exec ok Q w') :
    (Program.call (.router l.deviceID l.service (.set row.id password profile disabled)) k).wp
      exec ok Q w := by
  refine wp_router (fun e err he hf ↦ herr err ⟨e, he, by simp [hf]⟩) ?_
  obtain ⟨r', he, hput⟩ := exec_set (hw l.deviceID) hrow password profile disabled
  rw [he]
  exact hdone _ (.of_router hw hput)

theorem wp_setDisabled {disabled : Bool}
    (hdone : ∀ w', Puts l (some { row with disabled }) w w' →
      (k (.ok ())).wp exec ok Q w') :
    (Program.call (.router l.deviceID l.service (.setDisabled row.id disabled)) k).wp
      exec ok Q w := by
  refine wp_router (fun e err he hf ↦ herr err ⟨e, he, by simp [hf]⟩) ?_
  obtain ⟨r', he, hput⟩ := exec_setDisabled (hw l.deviceID) hrow disabled
  rw [he]
  exact hdone _ (.of_router hw hput)

theorem wp_remove (hdone : ∀ w', Puts l none w w' → (k (.ok ())).wp exec ok Q w') :
    (Program.call (.router l.deviceID l.service (.remove row.id)) k).wp exec ok Q w := by
  refine wp_router (fun e err he hf ↦ herr err ⟨e, he, by simp [hf]⟩) ?_
  obtain ⟨r', he, hput⟩ := exec_remove (hw l.deviceID) hrow
  rw [he]
  exact hdone _ (.of_router hw hput)

end Found

end Rules

end Rosmon
