import Mathlib.Data.Fintype.Basic
import Rosmon.Portal.CustomerAuth

namespace Rosmon.Portal

open Library Program Store Service Handler

/-- A call that saves the row of one customer. -/
inductive Op
  | update (req : CustomerUpdateRequest) (actor : Option ℕ)
  | setPassword (newPassword : String)
  | generateAndSetPassword
  | changePassword (oldPassword newPassword : String)
  deriving DecidableEq

inductive Answer
  | updated (r : Response Store.Customer)
  | done (r : Except AuthError Unit)
  | generated (r : Except AuthError String)
  deriving DecidableEq

def Answer.Succeeded : Answer → Prop
  | .updated r => r.Accepted
  | .done r => r = .ok ()
  | .generated r => ∃ plain, r = .ok plain

namespace Op

def prog (id : ℕ) : Op → Prog Answer
  | .update req actor => .updated <$> Portal.update id req actor
  | .setPassword newPassword => .done <$> Portal.setPassword id newPassword
  | .generateAndSetPassword => .generated <$> Portal.generateAndSetPassword id
  | .changePassword oldPassword newPassword =>
    .done <$> Portal.changePassword id oldPassword newPassword

/-- The call gives the customer a password. -/
def gives : Op → Bool
  | .update _ _ => false
  | _ => true

/-- What the call makes of the row it has read. -/
def Makes : Op → (read cust : Customer) → Prop
  | .update req _, read, cust =>
    cust = { read with toCustomer := req.setFields read.toCustomer }
  | .setPassword newPassword, read, cust => cust = { read with portalPassword := newPassword }
  | .generateAndSetPassword, read, cust =>
    cust = { read with portalPassword := cust.portalPassword }
  | .changePassword oldPassword newPassword, read, cust =>
    read.portalPassword = oldPassword ∧ cust = { read with portalPassword := newPassword }

variable {op : Op} {read cust : Customer}

theorem Makes.kept (h : op.Makes read cust) :
    cust.id = read.id ∧ cust.deletedAt = read.deletedAt := by
  cases op with
  | changePassword =>
    rw [h.2]
    exact ⟨rfl, rfl⟩
  | _ =>
    unfold Makes at h
    rw [h]
    exact ⟨rfl, rfl⟩

/-- A call that gives a password leaves the other columns as it has read them. -/
theorem Makes.profile (h : op.Makes read cust) (hgives : op.gives = true) :
    cust.toCustomer = read.toCustomer := by
  cases op with
  | update => cases hgives
  | changePassword => rw [h.2]
  | _ =>
    unfold Makes at h
    rw [h]

/-- The other call leaves the password as it has read it. -/
theorem Makes.password (h : op.Makes read cust) (hgives : op.gives = false) :
    cust.portalPassword = read.portalPassword := by
  cases op with
  | update =>
    unfold Makes at h
    rw [h]
  | _ => cases hgives

end Op

/-- What has been seen of a call: the row it has read and the row it has saved. -/
structure Copy where
  op : Op
  row : Option Customer
  saved : Option Customer

def observer (id : ℕ) : Monitor Call Call.Reply Copy where
  allows m c := match c with
    | .customer id' => id' = id ∧ m.saved = none
    | .updateCustomer cust => m.saved = none ∧ ∃ row, m.row = some row ∧ m.op.Makes row cust
    | .randInt _ | .base (.audit _) => True
    | _ => False
  next m c r := match c, r with
    | .customer _, .ok row => { m with row := some row }
    | .updateCustomer cust, .ok _ => { m with saved := some cust }
    | _, _ => m

/-- A call succeeds exactly if it has saved a row, and the password that it hands out is
the one it has saved. -/
structure Copy.Ended (m : Copy) (answer : Answer) : Prop where
  succeeded : answer.Succeeded ↔ m.saved.isSome
  generated : ∀ plain, answer = .generated (.ok plain) →
    ∃ cust, m.saved = some cust ∧ cust.portalPassword = plain

section Follows

variable {id : ℕ} {m : Copy}

theorem Copy.ended_failed {answer : Answer} (hsaved : m.saved = none) (h : ¬answer.Succeeded) :
    m.Ended answer where
  succeeded := by simp [hsaved, h]
  generated plain hplain := absurd ⟨plain, by cases hplain; rfl⟩ (hplain ▸ h)

theorem savePassword_ended {α : Type} {cust : Customer} {password : String} {answer : α}
    {f : Except AuthError α → Answer} (hrow : m.row = some cust) (hsaved : m.saved = none)
    (hmakes : m.op.Makes cust { cust with portalPassword := password })
    (hfailed : ∀ err, ¬(f (.error err)).Succeeded) (hdone : (f (.ok answer)).Succeeded)
    (hgenerated : ∀ plain, f (.ok answer) = .generated (.ok plain) → password = plain) :
    (savePassword cust password answer).Follows (observer id) (fun m r ↦ m.Ended (f r)) m := by
  refine ⟨⟨hsaved, cust, hrow, hmakes⟩, fun r ↦ ?_⟩
  cases r with
  | error err => exact Copy.ended_failed hsaved (hfailed _)
  | ok _ =>
    refine ⟨by simp [hdone, observer], fun plain hplain ↦ ?_⟩
    exact ⟨_, rfl, hgenerated plain hplain⟩

/-- The generator asks for random numbers only. -/
def Call.draws : Call → Prop
  | .randInt _ => True
  | _ => False

theorem randByte_draws (charset : List Char) : (randByte charset).Only Call.draws := by
  refine ⟨trivial, fun r ↦ ?_⟩
  cases r <;> trivial

theorem addLetters_draws (rounds : ℕ) (out : List Char) :
    (addLetters rounds out).Only Call.draws := by
  induction rounds generalizing out with
  | zero => trivial
  | succ rounds ih =>
    refine (randByte_draws _).bind fun r ↦ ?_
    cases r with
    | error err => trivial
    | ok ch => exact ih _

theorem shuffle_draws (i : ℕ) (out : List Char) : (shuffle i out).Only Call.draws := by
  induction i generalizing out with
  | zero => trivial
  | succ i ih =>
    refine ⟨trivial, fun r ↦ ?_⟩
    cases r with
    | error err => trivial
    | ok j => exact ih _

theorem generatePortalPassword_draws : generatePortalPassword.Only Call.draws := by
  refine (randByte_draws _).bind fun r ↦ ?_
  cases r with
  | error err => trivial
  | ok sym =>
    refine (addLetters_draws _ _).bind fun r ↦ ?_
    cases r with
    | error err => trivial
    | ok out =>
      refine (shuffle_draws _ _).bind fun r ↦ ?_
      cases r <;> trivial

/-- A named error has its own status, any other that of `writeErr`. -/
theorem not_accepted_of_error {named : Prop} [Decidable named] (err : Error)
    {status : ℕ} (hstatus : 300 ≤ status) (code message : String) :
    ¬(if named then .failure status code message
      else writeErr err : Response Store.Customer).Accepted := by
  split
  · simpa [Response.Accepted, Response.status] using fun _ ↦ hstatus
  · exact writeErr_not_accepted err

theorem update_ended (req : CustomerUpdateRequest) (actor : Option ℕ) :
    (Op.prog id (.update req actor)).Follows (observer id) Copy.Ended
      ⟨.update req actor, none, none⟩ := by
  refine (follows_map _ _ _).mpr ?_
  change Follows (observer id) _ _ (if ¬req.valid = true then _ else _)
  split
  · exact Copy.ended_failed rfl (by simp [Answer.Succeeded, Response.Accepted, Response.status])
  refine ⟨⟨rfl, rfl⟩, fun r ↦ ?_⟩
  cases r with
  | error err => exact Copy.ended_failed rfl (not_accepted_of_error err (by decide) _ _)
  | ok read =>
    refine ⟨⟨rfl, read, rfl, rfl⟩, fun r ↦ ?_⟩
    cases r with
    | error err => exact Copy.ended_failed rfl (not_accepted_of_error err (by decide) _ _)
    | ok _ =>
      refine ⟨trivial, fun r ↦ ⟨?_, fun _ h ↦ by cases h⟩⟩
      simp [Answer.Succeeded, Response.Accepted, Response.status, observer]

theorem setPassword_ended (newPassword : String) :
    (Op.prog id (.setPassword newPassword)).Follows (observer id) Copy.Ended
      ⟨.setPassword newPassword, none, none⟩ := by
  refine (follows_map _ _ _).mpr ?_
  change Follows (observer id) _ _ (if newPassword.utf8ByteSize < _ then _ else _)
  split
  · exact Copy.ended_failed rfl (by simp [Answer.Succeeded])
  refine ⟨⟨rfl, rfl⟩, fun r ↦ ?_⟩
  cases r with
  | error err => exact Copy.ended_failed rfl (by simp [Answer.Succeeded])
  | ok cust => exact savePassword_ended rfl rfl rfl (by simp [Answer.Succeeded]) rfl (by simp)

theorem generateAndSetPassword_ended :
    (Op.prog id .generateAndSetPassword).Follows (observer id) Copy.Ended
      ⟨.generateAndSetPassword, none, none⟩ := by
  refine (follows_map _ _ _).mpr ⟨⟨rfl, rfl⟩, fun r ↦ ?_⟩
  cases r with
  | error err => exact Copy.ended_failed rfl (by simp [Answer.Succeeded])
  | ok cust =>
    have hdraws : generatePortalPassword.Follows (observer id)
        (fun m _ ↦ m = ⟨.generateAndSetPassword, some cust, none⟩)
        ⟨.generateAndSetPassword, some cust, none⟩ := by
      refine generatePortalPassword_draws.follows (fun m c hm hc ↦ ?_) rfl
      cases c with
      | randInt max => exact ⟨trivial, fun _ ↦ hm⟩
      | _ => cases hc
    refine hdraws.bind fun m r hm ↦ ?_
    subst hm
    cases r with
    | error err => exact Copy.ended_failed rfl (by simp [Answer.Succeeded])
    | ok plain =>
      exact savePassword_ended rfl rfl rfl (by simp [Answer.Succeeded]) ⟨plain, rfl⟩ (by simp)

theorem changePassword_ended (oldPassword newPassword : String) :
    (Op.prog id (.changePassword oldPassword newPassword)).Follows (observer id) Copy.Ended
      ⟨.changePassword oldPassword newPassword, none, none⟩ := by
  refine (follows_map _ _ _).mpr ?_
  change Follows (observer id) _ _ (if newPassword.utf8ByteSize < _ then _ else _)
  split
  · exact Copy.ended_failed rfl (by simp [Answer.Succeeded])
  refine ⟨⟨rfl, rfl⟩, fun r ↦ ?_⟩
  cases r with
  | error err => exact Copy.ended_failed rfl (by simp [Answer.Succeeded])
  | ok cust =>
    change Follows (observer id) _ _ (if cust.portalPassword = "" then _ else _)
    split
    · exact Copy.ended_failed rfl (by simp [Answer.Succeeded])
    split
    · exact Copy.ended_failed rfl (by simp [Answer.Succeeded])
    next hold =>
      exact savePassword_ended rfl rfl ⟨not_not.mp hold, rfl⟩ (by simp [Answer.Succeeded]) rfl
        (by simp)

theorem prog_ended (op : Op) :
    (op.prog id).Follows (observer id) Copy.Ended ⟨op, none, none⟩ := by
  cases op with
  | update req actor => exact update_ended req actor
  | setPassword newPassword => exact setPassword_ended newPassword
  | generateAndSetPassword => exact generateAndSetPassword_ended
  | changePassword oldPassword newPassword => exact changePassword_ended oldPassword newPassword

end Follows

section Steps

/-- The row of the customer and the password that is stored with it. -/
def account (key : Option GCM) (id : ℕ) (w : World) :
    Option (Store.Customer × Except Error String) :=
  (w.customer id).map fun cust ↦ (cust, w.password key id)

/-- What a call means to make of the account with the row it saves: `Customers.Update` sets
the row, the others the password. -/
def Op.sets (op : Op) (cust : Customer) (account : Store.Customer × Except Error String) :
    Store.Customer × Except Error String :=
  if op.gives then (account.1, .ok cust.portalPassword) else (cust.toCustomer, account.2)

def Op.meant (op : Op) (c : Call) (r : c.Reply)
    (v : Option (Store.Customer × Except Error String)) :
    Option (Store.Customer × Except Error String) :=
  match c, r with
  | .updateCustomer cust, .ok _ => v.map (op.sets cust)
  | _, _ => v

variable (key : Option GCM) (id : ℕ)

/-- A step that saves nothing. -/
structure Quiet (w w' : World) (m m' : Copy) : Prop where
  customer : w'.customer id = w.customer id
  password : w'.password key id = w.password key id
  op : m'.op = m.op
  saved : m'.saved = m.saved
  row : ∀ row, m'.row = some row →
    m.row = some row ∨ row.id = id ∧ row.deletedAt = none ∧ (w.customer id).isSome

/-- A step that saves a row. -/
structure Saves (w w' : World) (m m' : Copy) (read cust : Customer) : Prop where
  unsaved : m.saved = none
  row : m.row = some read
  makes : m.op.Makes read cust
  isSome : (w.customer id).isSome
  customer : w'.customer id = some cust.toCustomer
  password : w'.password key id = .ok cust.portalPassword
  next : m' = { m with saved := some cust }

variable {key id} {w : World} {m : Copy} {c : Call} {e : Env}

theorem quiet_of_state (hstate : (c.exec key e w).2 = w)
    (hnext : (observer id).next m c (c.exec key e w).1 = m) :
    Quiet key id w (c.exec key e w).2 m ((observer id).next m c (c.exec key e w).1) := by
  rw [hstate, hnext]
  exact ⟨rfl, rfl, rfl, rfl, fun _ h ↦ .inl h⟩

/-- A step saves nothing, or it saves the row that the call has made. -/
theorem step_effect (key : Option GCM) (e : Env) (hread : ∀ row, m.row = some row →
      row.id = id ∧ row.deletedAt = none ∧ (w.customer id).isSome)
    (hc : (observer id).allows m c) :
    (Quiet key id w (c.exec key e w).2 m ((observer id).next m c (c.exec key e w).1) ∧
      ∀ (op : Op) v, op.meant c (c.exec key e w).1 v = v) ∨
    ∃ read cust, c = .updateCustomer cust ∧
      Saves key id w (c.exec key e w).2 m ((observer id).next m c (c.exec key e w).1) read cust ∧
      ∀ (op : Op) v, op.meant c (c.exec key e w).1 v = v.map (op.sets cust) := by
  cases c with
  | randInt max => exact .inl ⟨quiet_of_state rfl rfl, fun _ _ ↦ rfl⟩
  | base c =>
    cases c with
    | audit entry =>
      refine .inl ⟨⟨?_, rfl, rfl, rfl, fun _ h ↦ .inl h⟩, fun _ _ ↦ rfl⟩
      simp only [World.customer, Call.exec, Rosmon.Call.exec, Rosmon.orFault]
      cases e.base.fault <;> rfl
    | _ => cases hc
  | customer id' =>
    obtain ⟨rfl, -⟩ := hc
    have hstate : ((Call.customer id').exec key e w).2 = w := orFault_keeps _
    cases hr : ((Call.customer id').exec key e w).1 with
    | error err =>
      refine .inl ⟨?_, fun _ _ ↦ rfl⟩
      rw [← hr]
      exact quiet_of_state hstate (by rw [hr]; rfl)
    | ok row =>
      obtain ⟨hrow, -⟩ := reveal_ok hr
      obtain ⟨-, hid, hlive⟩ := World.customer_eq_some.mp hrow
      rw [hstate]
      refine .inl ⟨⟨rfl, rfl, rfl, rfl, fun row' hrow' ↦ .inr ?_⟩, fun _ _ ↦ rfl⟩
      cases hrow'
      exact ⟨hid, hlive, by rw [hrow]; rfl⟩
  | updateCustomer cust =>
    obtain ⟨hunsaved, read, hrow, hmakes⟩ := hc
    obtain ⟨hid, hlive, hsome⟩ := hread read hrow
    obtain ⟨hcustid, hdeleted⟩ := hmakes.kept
    have hcust : cust.id = id := hcustid.trans hid
    obtain ⟨err, hexec⟩ | ⟨w', hexec, hsaved⟩ := updateCustomer_exec key cust e w
    · rw [hexec]
      exact .inl ⟨⟨rfl, rfl, rfl, rfl, fun _ h ↦ .inl h⟩, fun _ _ ↦ rfl⟩
    · rw [hexec]
      refine .inr ⟨read, cust, rfl, ⟨hunsaved, hrow, hmakes, hsome, ?_, ?_, rfl⟩, fun _ _ ↦ rfl⟩
      · have hstored := hsaved.customer (hcust.symm ▸ hsome) (hdeleted.trans hlive)
        rwa [hcust] at hstored
      · have hpassword := hsaved.password
        rwa [hcust] at hpassword
  | _ => cases hc

end Steps

section Invariants

variable {ι : Type} [DecidableEq ι]

/-- The rows that have been read are those of the customer, who is still there, and each call
has saved what it makes of a row. -/
structure Copies (id : ℕ) (ops : ι → Op) (w : World) (m : ι → Copy) : Prop where
  about : ∀ i, (m i).op = ops i
  read : ∀ i row, (m i).row = some row →
    row.id = id ∧ row.deletedAt = none ∧ (w.customer id).isSome
  made : ∀ i cust, (m i).saved = some cust → ∃ read, (ops i).Makes read cust

/-- `ChangePassword` has replaced this password. -/
def Copy.changed (oldPassword : String) (m : Copy) : Bool :=
  match m.op with
  | .changePassword old _ => old = oldPassword && m.saved.isSome
  | _ => false

/-- A call that had not saved yet has given the customer the password. -/
def Given (old : String) (since m : ι → Copy) : Prop :=
  ∃ i cust, (since i).saved = none ∧ (m i).saved = some cust ∧ (m i).op.gives = true ∧
    cust.portalPassword = old

variable (key : Option GCM) (id : ℕ)

/-- What the call does not set is stored as it has been read, and `ChangePassword` does not
replace the same password a second time unless it is stored again. -/
def Kept (w : World) (m : ι → Copy) (read : Customer) : Op → Prop
  | .update _ _ => w.password key id = .ok read.portalPassword
  | .changePassword oldPassword _ => w.customer id = some read.toCustomer ∧
    ((∃ i, (m i).changed oldPassword = true) → w.password key id = .ok oldPassword)
  | _ => w.customer id = some read.toCustomer

/-- The condition under which a row is saved. -/
def Undisturbed (w : World) (m : ι → Copy) (i : ι) : Call → Prop
  | .updateCustomer _ => ∀ read ∈ (m i).row, Kept key id w m read (m i).op
  | _ => True

instance [Fintype ι] (w : World) (m : ι → Copy) (read : Customer) (op : Op) :
    Decidable (Kept key id w m read op) := by
  unfold Kept
  split <;> infer_instance

instance [Fintype ι] (w : World) (m : ι → Copy) (i : ι) (c : Call) :
    Decidable (Undisturbed key id w m i c) := by
  unfold Undisturbed
  split <;> infer_instance

/-- Unless a call has given it to the customer since, the password is not the stored one. -/
structure Gone (old : String) (since : ι → Copy) (w : World) (m : ι → Copy) : Prop where
  unsaved : ∀ i, (m i).saved = none → (since i).saved = none
  gone : w.password key id = .ok old → Given old since m

/-- Unless a call has given it to the customer, one `ChangePassword` at most has replaced the
password, and then it is not the stored one. -/
structure Once (old : String) (since : ι → Copy) (w : World) (m : ι → Copy) : Prop where
  unsaved : ∀ i, (m i).saved = none → (since i).saved = none
  gone : ∀ i, (m i).changed old = true → w.password key id = .ok old → Given old since m
  one : ∀ i j, (m i).changed old = true → (m j).changed old = true → i = j ∨ Given old since m

variable {key id} {ops : ι → Op} {w w' : World} {m since : ι → Copy} {mark : Copy} {i : ι}
variable {read cust : Customer} {old : String} {c : Call} {e : Env}

omit [DecidableEq ι] in
/-- The password of the customer after a call that gives none is the one before. -/
theorem Saves.kept_password (hsaves : Saves key id w w' (m i) mark read cust)
    (hkept : Kept key id w m read (m i).op) (hgives : (m i).op.gives = false) :
    w'.password key id = w.password key id := by
  rw [hsaves.password, hsaves.makes.password hgives]
  cases hop : (m i).op with
  | update =>
    rw [hop] at hkept
    exact hkept.symm
  | _ => simp [hop, Op.gives] at hgives

omit [DecidableEq ι] in
theorem Saves.kept_customer (hsaves : Saves key id w w' (m i) mark read cust)
    (hkept : Kept key id w m read (m i).op) (hgives : (m i).op.gives = true) :
    w'.customer id = w.customer id := by
  rw [hsaves.customer, hsaves.makes.profile hgives]
  cases hop : (m i).op with
  | update => simp [hop, Op.gives] at hgives
  | changePassword =>
    rw [hop] at hkept
    exact hkept.1.symm
  | _ =>
    rw [hop] at hkept
    exact hkept.symm

omit [DecidableEq ι] in
/-- The account after a row has been saved is what the call has meant to make of it. -/
theorem Saves.account (hsaves : Saves key id w w' (m i) mark read cust)
    (hkept : Kept key id w m read (m i).op) :
    account key id w' = (account key id w).map ((m i).op.sets cust) := by
  obtain ⟨row, hrow⟩ := Option.isSome_iff_exists.mp hsaves.isSome
  cases hgives : (m i).op.gives with
  | true =>
    have hcustomer := hsaves.kept_customer hkept hgives
    simp [Portal.account, hcustomer, hrow, hsaves.password, Op.sets, hgives]
  | false =>
    have hpassword := hsaves.kept_password hkept hgives
    simp [Portal.account, hsaves.customer, hrow, hpassword, Op.sets, hgives]

theorem Given.update (h : Given old since m) (hop : mark.op = (m i).op)
    (hsaved : ∀ cust, (m i).saved = some cust → mark.saved = some cust) :
    Given old since (Function.update m i mark) := by
  obtain ⟨j, cust, hsince, hj, hgives, hold⟩ := h
  by_cases hji : j = i
  · subst hji
    exact ⟨j, cust, hsince, by rw [Function.update_self]; exact hsaved cust hj,
      by rw [Function.update_self, hop]; exact hgives, hold⟩
  · exact ⟨j, cust, hsince, by rw [Function.update_of_ne hji]; exact hj,
      by rw [Function.update_of_ne hji]; exact hgives, hold⟩

theorem unsaved_update (h : ∀ j, (m j).saved = none → (since j).saved = none)
    (hsaved : mark.saved = none → (m i).saved = none) (j : ι)
    (hj : (Function.update m i mark j).saved = none) : (since j).saved = none := by
  by_cases hji : j = i
  · subst hji
    rw [Function.update_self] at hj
    exact h j (hsaved hj)
  · rw [Function.update_of_ne hji] at hj
    exact h j hj

/-- A row with this password is saved by a call that gives it. -/
theorem Saves.given (hsaves : Saves key id w w' (m i) mark read cust)
    (hsince : (since i).saved = none) (hgives : (m i).op.gives = true)
    (hold : cust.portalPassword = old) : Given old since (Function.update m i mark) := by
  refine ⟨i, cust, hsince, ?_, ?_, hold⟩
  · rw [Function.update_self, hsaves.next]
  · rw [Function.update_self, hsaves.next]
    exact hgives

theorem Copies.step (h : Copies id ops w m) (hc : (observer id).allows (m i) c) :
    Copies id ops (c.exec key e w).2
      (Function.update m i ((observer id).next (m i) c (c.exec key e w).1)) := by
  generalize hw' : (c.exec key e w).2 = w', hmark : (observer id).next (m i) c _ = mark
  obtain ⟨hquiet, -⟩ | ⟨read, cust, -, hsaves, -⟩ := step_effect key e (h.read i) hc
  · rw [hw', hmark] at hquiet
    refine ⟨fun j ↦ ?_, fun j row hj ↦ ?_, fun j cust hj ↦ ?_⟩
    · by_cases hji : j = i
      · rw [hji, Function.update_self, hquiet.op]
        exact h.about i
      · rw [Function.update_of_ne hji]
        exact h.about j
    · rw [hquiet.customer]
      by_cases hji : j = i
      · rw [hji, Function.update_self] at hj
        exact (hquiet.row row hj).elim (h.read i row) fun hrow ↦ hrow
      · rw [Function.update_of_ne hji] at hj
        exact h.read j row hj
    · by_cases hji : j = i
      · rw [hji, Function.update_self, hquiet.saved] at hj
        exact hji ▸ h.made i cust hj
      · rw [Function.update_of_ne hji] at hj
        exact h.made j cust hj
  · rw [hw', hmark] at hsaves
    have hsome : (w'.customer id).isSome := by
      rw [hsaves.customer]
      rfl
    refine ⟨fun j ↦ ?_, fun j row hj ↦ ?_, fun j cust' hj ↦ ?_⟩
    · by_cases hji : j = i
      · rw [hji, Function.update_self, hsaves.next]
        exact h.about i
      · rw [Function.update_of_ne hji]
        exact h.about j
    · by_cases hji : j = i
      · rw [hji, Function.update_self, hsaves.next] at hj
        obtain ⟨hid, hlive, -⟩ := h.read i row hj
        exact ⟨hid, hlive, hsome⟩
      · rw [Function.update_of_ne hji] at hj
        obtain ⟨hid, hlive, -⟩ := h.read j row hj
        exact ⟨hid, hlive, hsome⟩
    · by_cases hji : j = i
      · rw [hji, Function.update_self, hsaves.next] at hj
        cases hj
        exact ⟨read, hji ▸ h.about i ▸ hsaves.makes⟩
      · rw [Function.update_of_ne hji] at hj
        exact h.made j cust' hj

theorem Gone.step (h : Gone key id old since w m) (hcopies : Copies id ops w m)
    (hc : (observer id).allows (m i) c) (hg : Undisturbed key id w m i c) :
    Gone key id old since (c.exec key e w).2
      (Function.update m i ((observer id).next (m i) c (c.exec key e w).1)) := by
  generalize hw' : (c.exec key e w).2 = w', hmark : (observer id).next (m i) c _ = mark
  obtain ⟨hquiet, -⟩ | ⟨read, cust, rfl, hsaves, -⟩ := step_effect key e (hcopies.read i) hc
  · rw [hw', hmark] at hquiet
    refine ⟨unsaved_update h.unsaved fun hmark ↦ hquiet.saved ▸ hmark, fun hstored ↦ ?_⟩
    rw [hquiet.password] at hstored
    exact (h.gone hstored).update hquiet.op fun _ hsaved ↦ hquiet.saved.trans hsaved
  · rw [hw', hmark] at hsaves
    refine ⟨unsaved_update h.unsaved fun _ ↦ hsaves.unsaved, fun hstored ↦ ?_⟩
    cases hgives : (m i).op.gives with
    | true =>
      rw [hsaves.password] at hstored
      exact hsaves.given (h.unsaved i hsaves.unsaved) hgives (Except.ok.inj hstored)
    | false =>
      rw [hsaves.kept_password (hg read hsaves.row) hgives] at hstored
      refine (h.gone hstored).update (by rw [hsaves.next]) fun cust' hsaved ↦ ?_
      cases hsaves.unsaved.symm.trans hsaved

omit [DecidableEq ι] in
theorem Quiet.changed (h : Quiet key id w w' (m i) mark) :
    mark.changed old = (m i).changed old := by
  unfold Copy.changed
  rw [h.op, h.saved]

theorem changed_update (hmark : mark.changed old = true → (m i).changed old = true) {j : ι}
    (hj : (Function.update m i mark j).changed old = true) : (m j).changed old = true := by
  by_cases hji : j = i
  · subst hji
    rw [Function.update_self] at hj
    exact hmark hj
  · rwa [Function.update_of_ne hji] at hj

omit [DecidableEq ι] in
/-- If the call that saves now replaces the password, no other call has done so, or the
password had been given again. -/
theorem Once.first (h : Once key id old since w m)
    (hsaves : Saves key id w w' (m i) mark read cust) (hkept : Kept key id w m read (m i).op)
    (hmark : mark.changed old = true) {j : ι} (hj : (m j).changed old = true) :
    Given old since m := by
  refine h.gone j hj ?_
  rw [hsaves.next] at hmark
  unfold Copy.changed at hmark
  split at hmark
  next old' new hop =>
    simp only [Bool.and_eq_true, decide_eq_true_eq] at hmark
    obtain ⟨rfl, -⟩ := hmark
    change (m i).op = _ at hop
    rw [hop] at hkept
    exact hkept.2 ⟨j, hj⟩
  · cases hmark

theorem Once.step (h : Once key id old since w m) (hcopies : Copies id ops w m)
    (hc : (observer id).allows (m i) c) (hg : Undisturbed key id w m i c) :
    Once key id old since (c.exec key e w).2
      (Function.update m i ((observer id).next (m i) c (c.exec key e w).1)) := by
  generalize hw' : (c.exec key e w).2 = w', hmark : (observer id).next (m i) c _ = mark
  obtain ⟨hquiet, -⟩ | ⟨read, cust, rfl, hsaves, -⟩ := step_effect key e (hcopies.read i) hc
  · rw [hw', hmark] at hquiet
    have hstays (hgiven : Given old since m) : Given old since (Function.update m i mark) :=
      hgiven.update hquiet.op fun _ hsaved ↦ hquiet.saved.trans hsaved
    have hchanged {j : ι} : (Function.update m i mark j).changed old = true →
        (m j).changed old = true := changed_update fun hmark ↦ hquiet.changed ▸ hmark
    refine ⟨unsaved_update h.unsaved fun hmark ↦ hquiet.saved ▸ hmark, fun j hj hstored ↦ ?_,
      fun j k hj hk ↦ (h.one j k (hchanged hj) (hchanged hk)).imp_right hstays⟩
    rw [hquiet.password] at hstored
    exact hstays (h.gone j (hchanged hj) hstored)
  · rw [hw', hmark] at hsaves
    have hkept := hg read hsaves.row
    have hstays (hgiven : Given old since m) : Given old since (Function.update m i mark) := by
      refine hgiven.update (by rw [hsaves.next]) fun cust' hsaved ↦ ?_
      cases hsaves.unsaved.symm.trans hsaved
    refine ⟨unsaved_update h.unsaved fun _ ↦ hsaves.unsaved, fun j hj hstored ↦ ?_,
      fun j k hj hk ↦ ?_⟩
    · cases hgives : (m i).op.gives with
      | true =>
        rw [hsaves.password] at hstored
        exact hsaves.given (h.unsaved i hsaves.unsaved) hgives (Except.ok.inj hstored)
      | false =>
        rw [hsaves.kept_password hkept hgives] at hstored
        refine hstays (h.gone j (changed_update (fun hmark ↦ ?_) hj) hstored)
        rw [hsaves.next] at hmark
        unfold Copy.changed at hmark
        cases hop : (m i).op <;> simp [hop, Op.gives] at hmark hgives
    · by_cases hji : j = i
      · by_cases hki : k = i
        · exact .inl (hji.trans hki.symm)
        · subst hji
          rw [Function.update_self] at hj
          rw [Function.update_of_ne hki] at hk
          exact .inr (hstays (h.first hsaves hkept hj hk))
      · rw [Function.update_of_ne hji] at hj
        by_cases hki : k = i
        · subst hki
          rw [Function.update_self] at hk
          exact .inr (hstays (h.first hsaves hkept hk hj))
        · rw [Function.update_of_ne hki] at hk
          exact (h.one j k hj hk).imp_right hstays

omit [DecidableEq ι] in
theorem account_step (hcopies : Copies id ops w m) (hc : (observer id).allows (m i) c)
    (hg : Undisturbed key id w m i c) :
    account key id (c.exec key e w).2 =
      (ops i).meant c (c.exec key e w).1 (account key id w) := by
  obtain ⟨hquiet, hmeant⟩ | ⟨read, cust, rfl, hsaves, hmeant⟩ :=
    step_effect key e (hcopies.read i) hc
  · rw [hmeant, account, hquiet.customer, hquiet.password]
    rfl
  · rw [hmeant, hsaves.account (hg read hsaves.row), hcopies.about i]

end Invariants

/-- A login shows a customer who is found under the phone and whose password is stored. -/
theorem login_ok {key : Option GCM} {phone password token : String} {cust : Customer}
    {env : ℕ → Env} {w : World}
    (h : ((login phone password).run (Call.exec key) env w).1 = .ok (token, cust)) :
    w.password key cust.id = .ok password := by
  unfold login at h
  simp only [perform, perform_bind, run_call] at h
  cases hr : ((Call.customerByPhone (Go.trimSpace phone)).exec key (env 0) w).1 with
  | error err => rw [hr] at h; cases h
  | ok found =>
    rw [hr] at h
    obtain ⟨-, hpassword⟩ := reveal_ok hr
    change (Program.run _ (if found.portalPassword = "" then _ else _) _ _).1 = _ at h
    split at h
    · cases h
    · split at h
      · cases h
      next hsame =>
        simp only [run_call] at h
        split at h
        · cases h
        · cases h
          rw [hpassword, not_not.mp hsame]

section Interleaved

variable {ι : Type} [DecidableEq ι] (key : Option GCM) (id : ℕ) (w : World) (ops : ι → Op)

/-- The calls at their first statement. -/
def passwordPool : Pool ι Call Call.Reply Answer World Copy where
  state := w
  threads i := (ops i).prog id
  marks i := ⟨ops i, none, none⟩

def interleaved (schedule : List (ι × Env)) : Pool ι Call Call.Reply Answer World Copy :=
  (passwordPool id w ops).run (Call.exec key) (observer id) schedule

variable {key id w ops}

omit [DecidableEq ι] in
theorem passwordPool_sound : (passwordPool id w ops).Sound (observer id) (fun _ ↦ Copy.Ended)
    (Copies id ops) where
  inv := ⟨fun _ ↦ rfl, fun _ _ h ↦ (by cases h), fun _ _ h ↦ (by cases h)⟩
  follows i := prog_ended (ops i)

theorem interleaved_sound (schedule : List (ι × Env)) :
    (interleaved key id w ops schedule).Sound (observer id) (fun _ ↦ Copy.Ended)
      (Copies id ops) :=
  passwordPool_sound.run_all (fun _ _ _ _ _ h hc ↦ h.step hc) schedule

variable {earlier later : List (ι × Env)} {old : String}

theorem interleaved_append : interleaved key id w ops (earlier ++ later) =
    (interleaved key id w ops earlier).run (Call.exec key) (observer id) later :=
  Pool.run_append _ _ _ _ _

/-- A password that is not the stored one at some moment and that nobody gives to the customer
after that is not the stored one later. -/
theorem password_gone
    (hg : (interleaved key id w ops earlier).Guarded (Call.exec key) (observer id)
      (Undisturbed key id) later)
    (hreplaced : (interleaved key id w ops earlier).state.password key id ≠ .ok old)
    (hnever : ¬Given old (interleaved key id w ops earlier).marks
      (interleaved key id w ops (earlier ++ later)).marks) :
    (interleaved key id w ops (earlier ++ later)).state.password key id ≠ .ok old := by
  have hstart : (interleaved key id w ops earlier).Sound (observer id) (fun _ ↦ Copy.Ended)
      fun s m ↦ Copies id ops s m ∧
        Gone key id old (interleaved key id w ops earlier).marks s m :=
    ⟨⟨(interleaved_sound earlier).inv, fun _ h ↦ h, fun h ↦ absurd h hreplaced⟩,
      (interleaved_sound earlier).follows⟩
  have hlast := hstart.run (fun _ ↦ True)
    (fun _ _ _ _ _ h hc hg _ ↦ ⟨h.1.step hc, h.2.step h.1 hc hg⟩) hg fun _ _ ↦ trivial
  rw [interleaved_append] at hnever ⊢
  exact fun hstored ↦ hnever (hlast.inv.2.gone hstored)

/-- One `ChangePassword` at most replaces a password that nobody gives to the customer. -/
theorem changed_once {schedule : List (ι × Env)}
    (hg : (passwordPool id w ops).Guarded (Call.exec key) (observer id) (Undisturbed key id)
      schedule)
    (hnever : ¬Given old (passwordPool id w ops).marks
      (interleaved key id w ops schedule).marks) {i j : ι}
    (hi : ((interleaved key id w ops schedule).marks i).changed old = true)
    (hj : ((interleaved key id w ops schedule).marks j).changed old = true) : i = j := by
  have hnone (k : ι) : ((passwordPool id w ops).marks k).changed old ≠ true := by
    change Copy.changed old ⟨ops k, none, none⟩ ≠ true
    cases ops k <;> simp [Copy.changed]
  have hstart : (passwordPool id w ops).Sound (observer id) (fun _ ↦ Copy.Ended)
      fun s m ↦ Copies id ops s m ∧ Once key id old (passwordPool id w ops).marks s m :=
    ⟨⟨passwordPool_sound.inv, fun _ h ↦ h, fun k hk ↦ absurd hk (hnone k),
      fun k _ hk ↦ absurd hk (hnone k)⟩, passwordPool_sound.follows⟩
  have hlast := hstart.run (fun _ ↦ True)
    (fun _ _ _ _ _ h hc hg _ ↦ ⟨h.1.step hc, h.2.step h.1 hc hg⟩) hg fun _ _ ↦ trivial
  exact (hlast.inv.2.one i j hi hj).resolve_right hnever

/-- The call has returned success. -/
def Succeeded (p : Pool ι Call Call.Reply Answer World Copy) (i : ι) : Prop :=
  ∃ answer, p.result i = some answer ∧ answer.Succeeded

/-- The account is what the calls that have saved a row have made of it, one after the other, and
these are the calls that succeed. A password that has been replaced is not accepted again, and is
not replaced a second time, unless a call gives it to the customer. -/
theorem passwords_hold (schedule : List (ι × Env))
    (hg : (passwordPool id w ops).Guarded (Call.exec key) (observer id) (Undisturbed key id)
      schedule) :
    account key id (interleaved key id w ops schedule).state =
      (passwordPool id w ops).meansAll (Call.exec key) (observer id)
        (fun i c _ r ↦ (ops i).meant c r) schedule (account key id w) ∧
    (∀ i answer, (interleaved key id w ops schedule).result i = some answer →
      ((interleaved key id w ops schedule).marks i).Ended answer) ∧
    (∀ i cust, ((interleaved key id w ops schedule).marks i).saved = some cust →
      ∃ read, (ops i).Makes read cust) ∧
    (∀ earlier later old, schedule = earlier ++ later →
      (interleaved key id w ops earlier).state.password key id ≠ .ok old →
      ¬Given old (interleaved key id w ops earlier).marks
        (interleaved key id w ops schedule).marks →
      ∀ phone env token cust, ((login phone old).run (Call.exec key) env
        (interleaved key id w ops schedule).state).1 = .ok (token, cust) → cust.id ≠ id) ∧
    ∀ old, ¬Given old (passwordPool id w ops).marks
        (interleaved key id w ops schedule).marks →
      ∀ i j new new', ops i = .changePassword old new → ops j = .changePassword old new' →
        Succeeded (interleaved key id w ops schedule) i →
        Succeeded (interleaved key id w ops schedule) j → i = j := by
  refine ⟨?_, fun i answer h ↦ (interleaved_sound schedule).result h,
    (interleaved_sound schedule).inv.made, ?_, ?_⟩
  · exact passwordPool_sound.view (fun _ ↦ True) (account key id)
      (fun i c _ r ↦ (ops i).meant c r) (fun _ _ _ _ _ h hc _ _ ↦ h.step hc)
      (fun _ _ _ _ _ h hc hg _ ↦ account_step h hc hg) hg fun _ _ ↦ trivial
  · rintro earlier later old rfl hreplaced hnever phone env token cust hlogin rfl
    exact password_gone ((Pool.guarded_append _ _ _).mp hg).2 hreplaced hnever (login_ok hlogin)
  · intro old hnever i j new new' hi hj hsi hsj
    have hchanged {k : ι} {new : String} (hk : ops k = .changePassword old new)
        (hsk : Succeeded (interleaved key id w ops schedule) k) :
        ((interleaved key id w ops schedule).marks k).changed old = true := by
      obtain ⟨answer, hresult, hsucceeded⟩ := hsk
      have hsaved := ((interleaved_sound schedule).result hresult).succeeded.mp hsucceeded
      have hop : ((interleaved key id w ops schedule).marks k).op = .changePassword old new :=
        ((interleaved_sound schedule).inv.about k).trans hk
      simp [Copy.changed, hop, hsaved]
    exact changed_once hg hnever (hchanged hi hsi) (hchanged hj hsj)

end Interleaved

def budi (address : String) : Store.Customer :=
  { id := 1, fullName := "Budi", phone := "08123456789", address, deletedAt := none }

/-- One customer with a password, on a server without a key. -/
def World.oneCustomer : World where
  base := { Rosmon.World.oneInvoice 150000 .active with
    customers := Table.empty.insert (budi "") }
  passwords := fun id ↦ if id = 1 then "lama1234" else ""
  tickets := .empty
  published := []

/-- Nothing fails, and the calls take turns. -/
def turns (order : List Bool) : List (Bool × Env) := order.map fun i ↦ (i, .calm 0)

def moves : Op := .update ⟨none, none, some "Jl. Mawar 2", none, none, none⟩ none

def changes : Op := .changePassword "lama1234" "baru1234"

/-- The customer moves and then changes the password. -/
theorem moves_then_changes :
    account none 1 (interleaved none 1 .oneCustomer (fun i ↦ if i then changes else moves)
      (turns [false, false, false, true, true])).state =
      some (budi "Jl. Mawar 2", .ok "baru1234") :=
  (passwords_hold _ (by decide +kernel)).1.trans (by decide +kernel)

instance (a : Answer) : Decidable a.Succeeded :=
  match a with
  | .updated r => inferInstanceAs (Decidable r.Accepted)
  | .done r => inferInstanceAs (Decidable (r = .ok ()))
  | .generated (.ok plain) => isTrue ⟨plain, rfl⟩
  | .generated (.error _) => isFalse fun ⟨_, h⟩ ↦ by cases h

instance {ι : Type} (p : Pool ι Call Call.Reply Answer World Copy) (i : ι) :
    Decidable (Succeeded p i) :=
  match h : p.result i with
  | some answer => decidable_of_iff answer.Succeeded (by simp [Succeeded, h])
  | none => isFalse (by simp [Succeeded, h])

/-- An update that is saved too late brings the old password back, a password that is saved too
late takes back the new address, and two calls change the same password. -/
theorem passwords_lost :
    (let last := interleaved none 1 .oneCustomer (fun i ↦ if i then changes else moves)
        (turns [false, true, true, false, false])
     (∀ i, Succeeded last i) ∧
      account none 1 last.state =
        some (budi "Jl. Mawar 2", .ok "lama1234") ∧
      ((login "08123456789" "lama1234").run (Call.exec none) (fun _ ↦ .calm 0) last.state).1.isOk) ∧
    (let last := interleaved none 1 .oneCustomer (fun i ↦ if i then changes else moves)
        (turns [true, false, false, false, true])
     (∀ i, Succeeded last i) ∧
      account none 1 last.state =
        some (budi "", .ok "baru1234")) ∧
    ∀ i, Succeeded (interleaved none 1 .oneCustomer (fun _ ↦ changes)
      (turns [false, true, false, true])) i :=
  ⟨⟨by decide +kernel, by decide +kernel, by decide +kernel⟩,
    ⟨by decide +kernel, by decide +kernel⟩, by decide +kernel⟩

end Rosmon.Portal
