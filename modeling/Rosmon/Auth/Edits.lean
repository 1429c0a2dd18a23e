import Rosmon.Auth.Revocation

namespace Rosmon.Auth

open Library Program Store

/-- A call that edits the row of one user. -/
inductive Edit
  | updateUser (inp : UpdateUserInput)
  | updateMe (inp : UpdateMeInput)

namespace Edit

def request (id : ℕ) : Edit → Request
  | .updateUser inp => .updateUser id inp
  | .updateMe inp => .updateMe id inp

/-- The fields that the call names. -/
def input : Edit → UpdateUserInput
  | .updateUser inp => inp
  | .updateMe inp => inp.toUpdate

end Edit

/-- What `UpdateUser` may write. -/
structure Columns where
  email : String
  role : String
  active : Bool
  password : String
  deriving DecidableEq

def User.columns (u : User) : Columns := ⟨u.email, u.role, u.active, u.password⟩

namespace UpdateUserInput

variable (inp : UpdateUserInput)

/-- The named columns are those of the row that is saved. -/
def means (u : User) (columns : Columns) : Columns where
  email := if inp.email.isSome then u.email else columns.email
  role := if inp.role.isSome then u.role else columns.role
  active := if inp.active.isSome then u.active else columns.active
  password := if inp.password.isSome then u.password else columns.password

/-- The columns that are not named are the same in both rows. -/
def Agree (u u' : User) : Prop :=
  (inp.email = none → u.email = u'.email) ∧ (inp.role = none → u.role = u'.role) ∧
    (inp.active = none → u.active = u'.active) ∧ (inp.password = none → u.password = u'.password)

instance (u u' : User) : Decidable (inp.Agree u u') := inferInstanceAs (Decidable (_ ∧ _ ∧ _ ∧ _))

variable (s : Service)

/-- The row has the values that the call names. -/
structure Gives (u : User) : Prop where
  email : ∀ email, inp.email = some email → u.email = Go.trimSpace email
  role : ∀ role, inp.role = some role → u.role = role
  active : ∀ active, inp.active = some active → u.active = active
  password : ∀ plaintext, inp.password = some plaintext →
    ∃ salt, s.generate salt plaintext = .ok u.password

/-- The row is made of the one that has been read. -/
structure Makes (row u : User) : Prop where
  gives : inp.Gives s u
  agree : inp.Agree u row
  id : u.id = row.id
  deletedAt : u.deletedAt = row.deletedAt

variable {inp s}

theorem Agree.refl (u : User) : inp.Agree u u :=
  ⟨fun _ ↦ rfl, fun _ ↦ rfl, fun _ ↦ rfl, fun _ ↦ rfl⟩

theorem means_eq {u stored : User} (h : inp.Agree u stored) :
    inp.means u stored.columns = u.columns := by
  obtain ⟨hemail, hrole, hactive, hpassword⟩ := h
  unfold means User.columns
  congr 1
  · cases hnamed : inp.email with
    | none => exact (hemail hnamed).symm
    | some _ => rfl
  · cases hnamed : inp.role with
    | none => exact (hrole hnamed).symm
    | some _ => rfl
  · cases hnamed : inp.active with
    | none => exact (hactive hnamed).symm
    | some _ => rfl
  · cases hnamed : inp.password with
    | none => exact (hpassword hnamed).symm
    | some _ => rfl

/-- The row with everything but the password set. -/
theorem setFields_makes {row u : User} (h : inp.setFields row = .ok u) {v : User}
    (hv : v = { u with password := v.password })
    (hnamed : ∀ plaintext, inp.password = some plaintext →
      ∃ salt, s.generate salt plaintext = .ok v.password)
    (hkept : inp.password = none → v.password = row.password) : inp.Makes s row v := by
  unfold setFields at h
  split at h
  · cases h
    rw [hv]
    refine ⟨⟨?_, ?_, ?_, hnamed⟩, ⟨?_, ?_, ?_, hkept⟩, rfl, rfl⟩
    · exact fun _ hemail ↦ by simp [hemail]
    · exact fun _ hrole ↦ by simp [hrole]
    · exact fun _ hactive ↦ by simp [hactive]
    · exact fun hemail ↦ by simp [hemail]
    · exact fun hrole ↦ by simp [hrole]
    · exact fun hactive ↦ by simp [hactive]
  · cases h

end UpdateUserInput

/-- What has been seen of a call: the user it is about, the fields it names, the row it has read
last, the row it has saved, and whether the tokens could not be revoked after that. -/
structure Copy where
  id : ℕ
  input : UpdateUserInput
  row : Option User
  saved : Option User
  failed : Bool

def Edit.start (id : ℕ) (edit : Edit) : Copy := ⟨id, edit.input, none, none, false⟩

variable (s : Service)

def editObserver : Monitor Call Call.Reply Copy where
  allows m c := match c with
    | .userByID id => id = m.id ∧ m.saved = none
    | .updateUser u => m.saved = none ∧ ∃ row, m.row = some row ∧ m.input.Makes s row u
    | .now | .salt | .revokeAllForUser _ _ => True
    | _ => False
  next m c r := match c, r with
    | .userByID _, .ok u => { m with row := some u }
    | .updateUser u, .ok _ => { m with saved := some u }
    | .revokeAllForUser _ _, .error _ => { m with failed := true }
    | _, _ => m

/-- A call that returns success has saved a row with the values it names, and one that has
saved a row returns success unless the tokens could not be revoked. -/
structure Copy.Ended {α : Type} (inp : UpdateUserInput) (m : Copy) (r : Except Error α) : Prop where
  saved : ∀ a, r = .ok a → ∃ u, m.saved = some u ∧ inp.Gives s u
  succeeded : m.saved ≠ none → m.failed = false → ∃ a, r = .ok a

section Follows

variable {s} {inp : UpdateUserInput} {m : Copy}

theorem Copy.Ended.map {α β : Type} {r : Except Error α} {f : α → β} (h : m.Ended s inp r) :
    m.Ended s inp (r.map f) := by
  cases r with
  | error err => exact ⟨fun b hb ↦ (by cases hb), fun hsaved hfailed ↦
      absurd (h.succeeded hsaved hfailed) (by simp)⟩
  | ok a => exact ⟨fun b _ ↦ h.saved a rfl, fun _ _ ↦ ⟨f a, rfl⟩⟩

theorem Copy.ended_error {α : Type} (hsaved : m.saved = none) (err : Error) :
    m.Ended s inp (.error err : Except Error α) :=
  ⟨fun _ h ↦ (by cases h), fun h ↦ absurd hsaved h⟩

theorem setPassword_makes {row u : User} (h : inp.setFields row = .ok u) (m : Copy) :
    (inp.setPassword s u).Follows (editObserver s)
      (fun m' r ↦ m' = m ∧ ∀ v, r = .ok v → inp.Makes s row v) m := by
  unfold UpdateUserInput.setPassword
  cases hpassword : inp.password with
  | none =>
    refine ⟨rfl, fun v hv ↦ ?_⟩
    cases hv
    refine UpdateUserInput.setFields_makes h rfl (by simp [hpassword]) fun _ ↦ ?_
    unfold UpdateUserInput.setFields at h
    split at h
    · cases h
      rfl
    · cases h
  | some plaintext =>
    have hhash : (hash s plaintext).Follows (editObserver s)
        (fun m' r ↦ m' = m ∧ ∀ password, r = .ok password →
          ∃ salt, s.generate salt plaintext = .ok password) m := by
      unfold hash
      split
      · exact ⟨rfl, fun _ hr ↦ (by cases hr)⟩
      · exact ⟨trivial, fun salt ↦ ⟨rfl, fun password hr ↦ ⟨salt, hr⟩⟩⟩
    refine hhash.bind fun m' r hm ↦ ?_
    obtain ⟨rfl, hgenerated⟩ := hm
    cases r with
    | error err => exact ⟨rfl, fun v hv ↦ (by cases hv)⟩
    | ok password =>
      refine ⟨rfl, fun v hv ↦ ?_⟩
      cases hv
      refine UpdateUserInput.setFields_makes h rfl (fun plaintext' hnamed ↦ ?_)
        fun hnone ↦ absurd (hpassword.symm.trans hnone) (by simp)
      rw [hpassword] at hnamed
      cases hnamed
      exact hgenerated password rfl

theorem updateRow_ended {row : User} (hinput : m.input = inp) (hrow : m.row = some row)
    (hsaved : m.saved = none) (hfailed : m.failed = false) :
    (updateRow s inp row).Follows (editObserver s) (Copy.Ended s inp) m := by
  unfold updateRow
  cases hfields : inp.setFields row with
  | error err => exact Copy.ended_error hsaved err
  | ok u₁ =>
    refine (setPassword_makes hfields m).bind fun m' r hm ↦ ?_
    obtain ⟨rfl, hmakes⟩ := hm
    cases r with
    | error err => exact Copy.ended_error hsaved err
    | ok u =>
      have hgives := hmakes u rfl
      refine ⟨⟨hsaved, row, hrow, hinput ▸ hgives⟩, fun r ↦ ?_⟩
      cases r with
      | error err => exact Copy.ended_error hsaved _
      | ok _ =>
        change Follows (editObserver s) _ _ (if inp.revokes = true then _ else _)
        split
        · refine ⟨trivial, fun now ↦ ⟨trivial, fun r ↦ ?_⟩⟩
          cases r with
          | error err => exact ⟨fun _ hr ↦ (by cases hr), fun _ h ↦ (by cases h)⟩
          | ok _ => exact ⟨fun _ _ ↦ ⟨u, rfl, hgives.gives⟩, fun _ _ ↦ ⟨u, rfl⟩⟩
        · exact ⟨fun _ _ ↦ ⟨u, rfl, hgives.gives⟩, fun _ _ ↦ ⟨u, rfl⟩⟩

theorem updateUser_ended {id : ℕ} (hid : m.id = id) (hinput : m.input = inp)
    (hsaved : m.saved = none) (hfailed : m.failed = false) :
    (updateUser s id inp).Follows (editObserver s) (Copy.Ended s inp) m := by
  refine ⟨⟨hid.symm, hsaved⟩, fun r ↦ ?_⟩
  cases r with
  | error err => cases err <;> exact Copy.ended_error hsaved _
  | ok row => exact updateRow_ended hinput rfl hsaved hfailed

theorem updateMe_ended {id : ℕ} {inp : UpdateMeInput} (hid : m.id = id)
    (hinput : m.input = inp.toUpdate) (hsaved : m.saved = none) (hfailed : m.failed = false) :
    (updateMe s id inp).Follows (editObserver s) (Copy.Ended s inp.toUpdate) m := by
  refine ⟨⟨hid.symm, hsaved⟩, fun r ↦ ?_⟩
  cases r with
  | error err => cases err <;> exact Copy.ended_error hsaved _
  | ok u =>
    change Follows (editObserver s) _ _ (if inp.newPassword ≠ "" then _ else _)
    split
    · cases verify s u.password inp.currentPassword with
      | error err => exact Copy.ended_error (m := { m with row := some u }) hsaved _
      | ok _ => exact updateUser_ended hid hinput hsaved hfailed
    · exact updateUser_ended hid hinput hsaved hfailed

theorem edit_ended (id : ℕ) (edit : Edit) :
    ((edit.request id).prog s).Follows (editObserver s) (Copy.Ended s edit.input)
      (edit.start id) := by
  cases edit with
  | updateUser inp =>
    have hedit : (updateUser s id inp).Follows (editObserver s) (Copy.Ended s inp)
        ((Edit.updateUser inp).start id) := updateUser_ended rfl rfl rfl rfl
    exact (follows_map _ _ _).mpr (hedit.mono fun _ _ h ↦ h.map)
  | updateMe inp =>
    have hedit : (updateMe s id inp).Follows (editObserver s) (Copy.Ended s inp.toUpdate)
        ((Edit.updateMe inp).start id) := updateMe_ended rfl rfl rfl rfl
    exact (follows_map _ _ _).mpr (hedit.mono fun _ _ h ↦ h.map)

end Follows

variable {ι : Type} [DecidableEq ι]

/-- When a row is saved, the columns that the call does not name are stored as the call has
read them. -/
def KeepsUnnamed (w : World) (m : ι → Copy) (i : ι) : Call → Prop
  | .updateUser u => ∀ row ∈ (m i).row, ∀ stored ∈ w.user u.id, (m i).input.Agree stored row
  | _ => True

instance (w : World) (m : ι → Copy) (i : ι) (c : Call) : Decidable (KeepsUnnamed w m i c) := by
  unfold KeepsUnnamed
  split <;> infer_instance

section Steps

variable {s} {w : World} {u : User} {id : ℕ} {edits : ι → Edit}

theorem user_eq_some {w : World} {u : User} :
    w.user id = some u ↔ u ∈ w.users ∧ u.id = id ∧ u.deletedAt = none := by
  have hkey (r : User) (hr : World.live id r = true) : r.id = id := by
    simp only [World.live, Bool.and_eq_true, decide_eq_true_eq] at hr
    exact hr.1
  refine (Table.find_eq_some_of_key hkey).trans (and_congr_right fun _ ↦ ?_)
  simp [World.live]

/-- A row that is saved is stored. -/
theorem user_save {stored : User} (hstored : w.user u.id = some stored)
    (hdeleted : u.deletedAt = none) :
    World.user u.id { w with users := w.users.update (·.id = u.id) (World.saved u) } = some u := by
  obtain ⟨hmem, hid, hlive⟩ := user_eq_some.mp hstored
  have hsaved : World.saved u stored = u := by
    unfold World.saved
    rw [if_pos hlive, hid]
  refine user_eq_some.mpr ⟨?_, rfl, hdeleted⟩
  have hrow := Table.mem_update_of (p := fun r ↦ r.id = u.id) (f := World.saved u) hmem
    (decide_eq_true hid)
  rwa [hsaved] at hrow

/-- The rows that have been read are those of the user, who is still there. -/
structure Copies (id : ℕ) (edits : ι → Edit) (w : World) (m : ι → Copy) : Prop where
  about : ∀ i, (m i).id = id ∧ (m i).input = (edits i).input
  read : ∀ i row, (m i).row = some row → row.id = id ∧ row.deletedAt = none ∧ (w.user id).isSome

/-- `Users.Update` saves the row, or fails and changes nothing. -/
theorem updateUser_exec (s : Service) (u : User) (e : Env) (w : World) :
    (∃ err, (Call.updateUser u).exec s e w = (.error err, w)) ∨
      (Call.updateUser u).exec s e w =
        (.ok (), { w with users := w.users.update (·.id = u.id) (World.saved u) }) := by
  simp only [Call.exec, orFault]
  cases e.fault with
  | some err => exact .inl ⟨_, rfl⟩
  | none =>
    by_cases htaken : w.taken u = true
    · simp only [if_pos htaken]
      exact .inl ⟨_, rfl⟩
    · simp only [if_neg htaken]
      exact .inr trivial

theorem Copies.update {w' : World} {m : ι → Copy} {i : ι} {mark : Copy} (h : Copies id edits w m)
    (hlive : (w.user id).isSome → (w'.user id).isSome)
    (hsame : mark.id = (m i).id ∧ mark.input = (m i).input)
    (hrow : ∀ row, mark.row = some row →
      row.id = id ∧ row.deletedAt = none ∧ (w'.user id).isSome) :
    Copies id edits w' (Function.update m i mark) := by
  refine ⟨fun j ↦ ?_, fun j row hj ↦ ?_⟩
  · by_cases hji : j = i
    · rw [hji, Function.update_self, hsame.1, hsame.2]
      exact h.about i
    · rw [Function.update_of_ne hji]
      exact h.about j
  · by_cases hji : j = i
    · rw [hji, Function.update_self] at hj
      exact hrow row hj
    · rw [Function.update_of_ne hji] at hj
      obtain ⟨hrowid, hdeleted, hsome⟩ := h.read j row hj
      exact ⟨hrowid, hdeleted, hlive hsome⟩

theorem Copies.step {m : ι → Copy} {i : ι} {c : Call} {e : Env} (h : Copies id edits w m)
    (hc : (editObserver s).allows (m i) c) :
    Copies id edits (c.exec s e w).2
      (Function.update m i ((editObserver s).next (m i) c (c.exec s e w).1)) := by
  cases c with
  | now => simpa only [editObserver, Call.exec, Function.update_eq_self] using h
  | salt => simpa only [editObserver, Call.exec, Function.update_eq_self] using h
  | userByID id' =>
    have hworld : ((Call.userByID id').exec s e w).2 = w :=
      orFault_keeps (I := fun w' ↦ w' = w) rfl rfl
    rw [hworld]
    cases hr : ((Call.userByID id').exec s e w).1 with
    | error err => exact h.update (fun hsome ↦ hsome) ⟨rfl, rfl⟩ (h.read i)
    | ok u =>
      have hfound : w.user id' = some u := found_ok hr
      rw [hc.1.trans (h.about i).1] at hfound
      refine h.update (fun hsome ↦ hsome) ⟨rfl, rfl⟩ fun row hrow ↦ ?_
      cases hrow
      obtain ⟨-, hid, hlive⟩ := user_eq_some.mp hfound
      exact ⟨hid, hlive, by rw [hfound]; rfl⟩
  | updateUser u =>
    obtain ⟨-, row, hrow, hmakes⟩ := hc
    obtain ⟨hrowid, hdeleted, hsome⟩ := h.read i row hrow
    obtain ⟨stored, hstored⟩ := Option.isSome_iff_exists.mp hsome
    have hid : u.id = id := hmakes.id.trans hrowid
    obtain ⟨err, hexec⟩ | hexec := updateUser_exec s u e w
    · rw [hexec]
      exact h.update (fun hsome ↦ hsome) ⟨rfl, rfl⟩ (h.read i)
    · have hsave := user_save (u := u) (hid.symm ▸ hstored) (hmakes.deletedAt.trans hdeleted)
      rw [hid] at hsave
      have hsome' : (World.user id { w with
          users := w.users.update (·.id = u.id) (World.saved u) }).isSome := by
        rw [hid, hsave]
        rfl
      rw [hexec]
      refine h.update (fun _ ↦ hsome') ⟨rfl, rfl⟩ fun row' hrow' ↦ ?_
      obtain ⟨hrowid', hdeleted', -⟩ := h.read i row' hrow'
      exact ⟨hrowid', hdeleted', hsome'⟩
  | revokeAllForUser userID revokedAt =>
    have hworld : ((Call.revokeAllForUser userID revokedAt).exec s e w).2.user id = w.user id :=
      orFault_keeps (I := fun w' ↦ w'.user id = w.user id) rfl rfl
    have hread : ∀ row, (m i).row = some row → row.id = id ∧ row.deletedAt = none ∧
        (((Call.revokeAllForUser userID revokedAt).exec s e w).2.user id).isSome := by
      rw [hworld]
      exact h.read i
    cases ((Call.revokeAllForUser userID revokedAt).exec s e w).1 with
    | error err => exact h.update (by rw [hworld]; exact fun hsome ↦ hsome) ⟨rfl, rfl⟩ hread
    | ok _ => exact h.update (by rw [hworld]; exact fun hsome ↦ hsome) ⟨rfl, rfl⟩ hread
  | _ => cases hc

theorem UpdateUserInput.Agree.trans {inp : UpdateUserInput} {u v r : User} (h : inp.Agree u r)
    (h' : inp.Agree v r) : inp.Agree u v :=
  ⟨fun hnone ↦ (h.1 hnone).trans (h'.1 hnone).symm,
    fun hnone ↦ (h.2.1 hnone).trans (h'.2.1 hnone).symm,
    fun hnone ↦ (h.2.2.1 hnone).trans (h'.2.2.1 hnone).symm,
    fun hnone ↦ (h.2.2.2 hnone).trans (h'.2.2.2 hnone).symm⟩

def columns (id : ℕ) (w : World) : Option Columns := (w.user id).map User.columns

/-- What a call means to make of the columns: those that it names become what it saves, if the
call is one that counts. -/
def meant (edits : ι → Edit) (counts : ι → Bool) (i : ι) (c : Call) (_ : Env) (r : c.Reply)
    (v : Option Columns) : Option Columns :=
  match c, r with
  | .updateUser u, .ok _ => if counts i then v.map ((edits i).input.means u) else v
  | _, _ => v

omit [DecidableEq ι] in
theorem columns_step {m : ι → Copy} {i : ι} {c : Call} {e : Env} (h : Copies id edits w m)
    (hc : (editObserver s).allows (m i) c) (hg : KeepsUnnamed w m i c) :
    columns id (c.exec s e w).2 =
      meant edits (fun _ ↦ true) i c e (c.exec s e w).1 (columns id w) := by
  cases c with
  | now => rfl
  | salt => rfl
  | userByID id' =>
    have hworld : ((Call.userByID id').exec s e w).2 = w :=
      orFault_keeps (I := fun w' ↦ w' = w) rfl rfl
    rw [hworld]
    rfl
  | revokeAllForUser userID revokedAt =>
    have huser : ((Call.revokeAllForUser userID revokedAt).exec s e w).2.user id = w.user id :=
      orFault_keeps (I := fun w' ↦ w'.user id = w.user id) rfl rfl
    rw [columns, huser]
    rfl
  | updateUser u =>
    obtain ⟨-, row, hrow, hmakes⟩ := hc
    obtain ⟨hrowid, hdeleted, hsome⟩ := h.read i row hrow
    obtain ⟨stored, hstored⟩ := Option.isSome_iff_exists.mp hsome
    have hid : u.id = id := hmakes.id.trans hrowid
    obtain ⟨err, hexec⟩ | hexec := updateUser_exec s u e w
    · rw [hexec]
      rfl
    · have hsave := user_save (u := u) (hid.symm ▸ hstored) (hmakes.deletedAt.trans hdeleted)
      have hagree := hmakes.agree.trans (hg row hrow stored (hid.symm ▸ hstored))
      rw [hid] at hsave
      rw [hexec]
      simp only [columns, meant, hid, hsave, hstored, Option.map_some, if_true]
      rw [← (h.about i).2, UpdateUserInput.means_eq hagree]
  | _ => cases hc

end Steps

section Interleaved

variable (s : Service) (id : ℕ) (w : World) (edits : ι → Edit)

/-- The calls at their first statement. -/
def editPool : Pool ι Call Call.Reply (Except Error Answer) World Copy where
  state := w
  threads i := ((edits i).request id).prog s
  marks i := (edits i).start id

def edited (schedule : List (ι × Env)) :
    Pool ι Call Call.Reply (Except Error Answer) World Copy :=
  (editPool s id w edits).run (Call.exec s) (editObserver s) schedule

variable {s id w edits}

theorem saved_stays (m : Copy) (c : Call) (r : c.Reply) (h : m.saved ≠ none) :
    ((editObserver s).next m c r).saved ≠ none := by
  cases c with
  | userByID | updateUser | revokeAllForUser => cases r <;> first | exact h | simp [editObserver]
  | _ => exact h

omit [DecidableEq ι] in
theorem editPool_sound : (editPool s id w edits).Sound (editObserver s)
    (fun i ↦ Copy.Ended s (edits i).input) (Copies id edits) where
  inv := ⟨fun _ ↦ ⟨rfl, rfl⟩, fun _ _ h ↦ by cases h⟩
  follows i := edit_ended id (edits i)

theorem edited_sound (schedule : List (ι × Env)) :
    (edited s id w edits schedule).Sound (editObserver s)
      (fun i ↦ Copy.Ended s (edits i).input) (Copies id edits) :=
  editPool_sound.run_all (fun _ _ _ _ _ h hc ↦ h.step hc) schedule

/-- A call that has saved a row returns success. -/
theorem succeeded_of_saved {earlier later : List (ι × Env)} {a : ι × Env} {u : User}
    {k : (Call.updateUser u).Reply → Prog (Except Error Answer)}
    (hcall : (edited s id w edits earlier).threads a.1 = .call (.updateUser u) k)
    (hok : ((Call.updateUser u).exec s a.2 (edited s id w edits earlier).state).1 = .ok ())
    (hrevoked : ((edited s id w edits (earlier ++ a :: later)).marks a.1).failed = false)
    (hreturned : (edited s id w edits (earlier ++ a :: later)).result a.1 ≠ none) :
    Succeeded (edited s id w edits (earlier ++ a :: later)) a.1 := by
  have hfirst : (((edited s id w edits earlier).step (Call.exec s) (editObserver s) a).marks
      a.1).saved ≠ none := by
    rw [Pool.step_marks hcall, hok]
    simp [editObserver]
  have hsaved : ((edited s id w edits (earlier ++ a :: later)).marks a.1).saved ≠ none := by
    rw [edited, Pool.run_append]
    exact Pool.run_marks (fun m : Copy ↦ m.saved ≠ none) saved_stays hfirst later
  obtain ⟨r, hr⟩ := Option.ne_none_iff_exists'.mp hreturned
  have hended := (edited_sound (earlier ++ a :: later)).result hr
  obtain ⟨answer, hanswer⟩ := hended.succeeded hsaved hrevoked
  exact ⟨answer, hr.trans (congrArg some hanswer)⟩

/-- Each column holds what the last successful call that names it has given it. -/
theorem named_columns_hold (schedule : List (ι × Env))
    (hg : (editPool s id w edits).Guarded (Call.exec s) (editObserver s) KeepsUnnamed schedule)
    (hrevoked : ∀ i, ((edited s id w edits schedule).marks i).failed = false)
    (hreturned : ∀ i, (edited s id w edits schedule).result i ≠ none) :
    columns id (edited s id w edits schedule).state =
      (editPool s id w edits).meansAll (Call.exec s) (editObserver s)
        (meant edits fun i ↦ Succeeded (edited s id w edits schedule) i) schedule (columns id w) ∧
    ∀ i, Succeeded (edited s id w edits schedule) i →
      ∃ u, ((edited s id w edits schedule).marks i).saved = some u ∧ (edits i).input.Gives s u := by
  refine ⟨?_, fun i hi ↦ ?_⟩
  · have hview := editPool_sound.view (fun _ ↦ True) (columns id) (meant edits fun _ ↦ true)
      (fun _ _ _ _ _ h hc _ _ ↦ h.step hc) (fun _ _ _ _ _ h hc hg _ ↦ columns_step h hc hg) hg
      fun _ _ ↦ trivial
    refine hview.trans (Pool.meansAll_congr (fun earlier a later heq v ↦ ?_) _)
    change (edited s id w edits earlier).means _ _ _ _ = (edited s id w edits earlier).means _ _ _ _
    cases hcall : (edited s id w edits earlier).threads a.1 with
    | ret r => simp only [Pool.means, hcall]
    | call c k =>
      simp only [Pool.means, hcall]
      cases c with
      | updateUser u =>
        cases hr : ((Call.updateUser u).exec s a.2 (edited s id w edits earlier).state).1 with
        | error err => rfl
        | ok _ =>
          subst heq
          have hsucceeded := succeeded_of_saved hcall hr (hrevoked a.1) (hreturned a.1)
          simp only [meant, decide_eq_true hsucceeded]
      | _ => rfl
  · obtain ⟨answer, hanswer⟩ := hi
    exact ((edited_sound schedule).result hanswer).saved answer rfl

end Interleaved

/-- A user changes his address while he is deactivated. -/
def addressOrActive (i : Bool) : Edit :=
  if i then .updateUser ⟨none, none, some false, none⟩ else .updateMe ⟨"siti@rosmon.id", "", ""⟩

/-- The address is changed before the user is deactivated. -/
theorem address_then_active :
    columns 1 (edited plainService 1 .oneToken addressOrActive
      (turns (List.replicate 3 false ++ List.replicate 4 true))).state =
      some ⟨"siti@rosmon.id", "operator", false, "$2a$12$rahasia123"⟩ :=
  (named_columns_hold _ (by decide +kernel) (by decide +kernel) (by decide +kernel)).1.trans
    (by decide +kernel)

def viewerOrAdmin (i : Bool) : Edit :=
  .updateUser ⟨none, some (if i then "admin" else "viewer"), none, none⟩

/-- The database goes away after the second call has saved the row. -/
def revocationFails : List (Bool × Env) :=
  turns (List.replicate 4 false ++ List.replicate 3 true) ++
    [(true, { calm with fault := some (.new "connection refused") })]

/-- An address that is saved too late takes back the deactivation, and a call that fails has
given the user its role. -/
theorem named_columns_lost :
    (let last := edited plainService 1 .oneToken addressOrActive
        (turns ([false, false] ++ List.replicate 4 true ++ [false]))
     (∀ i, Succeeded last i) ∧
      columns 1 last.state = some ⟨"siti@rosmon.id", "operator", true, "$2a$12$rahasia123"⟩) ∧
    let last := edited plainService 1 .oneToken viewerOrAdmin revocationFails
    Succeeded last false ∧ last.result true ≠ none ∧ ¬Succeeded last true ∧
      columns 1 last.state = some ⟨"", "admin", true, "$2a$12$rahasia123"⟩ :=
  ⟨⟨by decide +kernel, by decide +kernel⟩, by decide +kernel, by decide +kernel,
    by decide +kernel, by decide +kernel⟩

end Rosmon.Auth
