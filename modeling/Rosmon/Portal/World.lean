import Rosmon.Store.Secrets
import Rosmon.World

namespace Rosmon.Portal

open Library Store

/-- A customer as the store hands it out, with the password of the portal decrypted. -/
structure Customer extends Store.Customer where
  portalPassword : String
  deriving DecidableEq

structure Ticket where
  id : ℕ
  customerID : ℕ
  subject : String
  body : String
  status : String
  priority : String
  assignedTo : Option ℕ
  staffNotes : String
  resolvedAt : Option Time
  deletedAt : Option Time
  deriving DecidableEq

instance : Row Ticket := ⟨Ticket.id, fun n r ↦ { r with id := n }, fun _ _ ↦ rfl⟩

/-- What the server of the portal reads and writes. The column `portal_password` is `passwords`,
by the key of the customer. It and `mikrotik_password` in `base` hold what is stored. -/
structure World where
  base : Rosmon.World
  passwords : ℕ → String
  tickets : Table Ticket
  published : List Payment

/-- What the outside offers to a call of the portal. -/
structure Env where
  base : Rosmon.Env
  nonce : Except Error Nonce
  drawn : Except Error ℕ
  signed : Except Error String
  paymentOrder : Arrangement Payment
  ticketOrder : Arrangement Ticket

def Env.calm (now : Time) : Env where
  base := .calm now
  nonce := .ok ⟨List.replicate 12 0, rfl⟩
  drawn := .ok 0
  signed := .ok "token"
  paymentOrder := .keep _
  ticketOrder := .keep _

inductive Call
  | base (c : Rosmon.Call)
  | customer (id : ℕ)
  | customerByPhone (phone : String)
  | updateCustomer (cust : Customer)
  | randInt (max : ℕ)
  | signCustomerAccess (customerID : ℕ) (phone : String)
  | subscriptions (customerID : ℕ)
  | subscription (id : ℕ)
  | invoices (customerID : ℕ) (status : String)
  | payments (customerID : ℕ)
  | tickets (customerID : ℕ)
  | createTicket (t : Ticket)
  | publish (p : Payment)

abbrev Call.Reply : Call → Type
  | .base c => c.Reply
  | .customer _ | .customerByPhone _ => Except Error Customer
  | .updateCustomer _ => Except Error Unit
  | .randInt _ => Except Error ℕ
  | .signCustomerAccess _ _ => Except Error String
  | .subscriptions _ => Except Error (List Subscription)
  | .subscription _ => Except Error Subscription
  | .invoices _ _ => Except Error (List Invoice)
  | .payments _ => Except Error (List Payment)
  | .tickets _ => Except Error (List (Ticket × Option Store.Customer))
  | .createTicket _ => Except Error Ticket
  | .publish _ => Unit

abbrev Prog := Program Call Call.Reply

abbrev perform (c : Call) : Prog c.Reply := Program.perform c

def live (id : ℕ) (r : Store.Customer) : Bool := r.deletedAt = none && r.id == id

/-- What `Save` makes of the row with the key of `cust`. A deleted row is not updated but
inserted again, where an empty status gives way to the default of its column. -/
def saved (cust r : Store.Customer) : Store.Customer :=
  if r.deletedAt = none then { cust with id := r.id }
  else { cust with id := r.id, status := if cust.status = "" then "aktif" else cust.status }

instance (cust : Store.Customer) : KeepsKey (saved cust) :=
  ⟨fun r ↦ by unfold saved; split <;> rfl⟩

/-- The index on the phone covers live rows, and is in the way of a row that gets a phone. -/
def phoneTaken (cust : Store.Customer) (t : Table Store.Customer) : Bool :=
  cust.deletedAt = none &&
    (t.find fun r ↦ live cust.id r && r.phone = cust.phone).isNone &&
    (t.find fun r ↦ r.deletedAt = none && r.phone = cust.phone && r.id ≠ cust.id).isSome

/-- A filter on the customer; zero means no filter. -/
def ofCustomer (customerID owner : ℕ) : Bool := customerID = 0 || owner = customerID

/-- The columns that `TicketStore.Create` does not leave empty. -/
def Ticket.withDefaults (t : Ticket) : Ticket :=
  { t with
    status := if t.status = "" then "open" else t.status
    priority := if t.priority = "" then "normal" else t.priority }

namespace World

def customer (id : ℕ) (w : World) : Option Store.Customer := w.base.customers.find (live id)

variable (key : Option GCM)

/-- `decryptCustomerPassword`: no password stays no password. -/
def password (id : ℕ) (w : World) : Except Error String :=
  if w.passwords id = "" then .ok "" else decryptSecret key (w.passwords id)

def reveal (w : World) (cust : Store.Customer) : Except Error Customer :=
  (w.password key cust.id).map fun portalPassword ↦ { cust with portalPassword }

/-- `encryptCustomerPassword`. -/
def encryptPassword (nonce : Except Error Nonce) (plaintext : String) : Except Error String :=
  if plaintext = "" then .ok "" else encryptSecret key nonce plaintext

def write (cust : Customer) (stored : String) (w : World) : World :=
  { w with
    base := { w.base with
      customers := w.base.customers.update (·.id = cust.id) (saved cust.toCustomer) }
    passwords := Function.update w.passwords cust.id stored }

/-- `CustomerStore.Update`. -/
def save (nonce : Except Error Nonce) (cust : Customer) (w : World) : Except Error Unit × World :=
  match encryptPassword key nonce cust.portalPassword with
  | .error err => (.error err, w)
  | .ok stored =>
    if phoneTaken cust.toCustomer w.base.customers then (.error (.of .customerPhoneTaken), w)
    else (.ok (), w.write cust stored)

/-- `decryptSubscriptions` on one row. -/
def decryptSubscription (sub : Subscription) : Except Error Subscription :=
  (decryptSecret key sub.mikrotikPassword).map fun mikrotikPassword ↦
    { sub with mikrotikPassword }

/-- `TicketStore.Create`. A ticket refers to a row of `customers`. -/
def createTicket (t : Ticket) (w : World) : Except Error Ticket × World :=
  if (w.base.customers.get t.customerID).isSome then
    (.ok { t.withDefaults with id := w.tickets.next },
      { w with tickets := w.tickets.insert t.withDefaults })
  else (.error (.new ("ERROR: insert or update on table \"tickets\" violates foreign key " ++
    "constraint \"fk_tickets_customer\" (SQLSTATE 23503)")), w)

end World

/-- A statement that fails changes nothing. -/
def orFault {α : Type} (e : Env) (w : World) (done : Except Error α × World) :
    Except Error α × World :=
  match e.base.fault with
  | some err => (.error err, w)
  | none => done

variable (key : Option GCM)

def Call.exec : (c : Call) → Env → World → c.Reply × World
  | .base c, e, w =>
    let r := c.exec e.base w.base
    (r.1, { w with base := r.2 })
  | .customer id, e, w =>
    orFault e w ((found .customerNotFound (w.customer id)).bind (w.reveal key), w)
  | .customerByPhone phone, e, w =>
    orFault e w ((found .customerNotFound
      (w.base.customers.find fun r ↦ r.deletedAt = none && r.phone = phone)).bind (w.reveal key), w)
  | .updateCustomer cust, e, w => orFault e w (w.save key e.nonce cust)
  | .randInt max, e, w => (e.drawn.map (· % max), w)
  | .signCustomerAccess _ _, e, w => (e.signed, w)
  | .subscriptions customerID, e, w =>
    orFault e w ((e.base.subscriptionOrder.order (w.base.subscriptions.rows.filter fun sub ↦
      sub.live && ofCustomer customerID sub.customerID)).mapM (World.decryptSubscription key), w)
  | .subscription id, e, w =>
    orFault e w ((found .subscriptionNotFound
      (w.base.subscriptions.find (Subscription.liveAt id))).bind (World.decryptSubscription key), w)
  | .invoices customerID status, e, w =>
    orFault e w (.ok (e.base.invoiceOrder.order (w.base.invoices.rows.filter fun inv ↦
      ofCustomer customerID inv.customerID && (status = "" || inv.status.text = status))), w)
  | .payments customerID, e, w =>
    orFault e w (.ok (e.paymentOrder.order (w.base.payments.rows.filter fun p ↦
      ofCustomer customerID p.customerID)), w)
  | .tickets customerID, e, w =>
    orFault e w (.ok ((e.ticketOrder.order (w.tickets.rows.filter fun t ↦
      t.deletedAt = none && ofCustomer customerID t.customerID)).map fun t ↦
        (t, w.customer t.customerID)), w)
  | .createTicket t, e, w => orFault e w (w.createTicket t)
  | .publish p, _, w => ((), { w with published := w.published ++ [p] })

section Customers

variable {key} {e : Env} {w : World} {id : ℕ}

theorem World.customer_eq_some {cust : Store.Customer} : w.customer id = some cust ↔
    cust ∈ w.base.customers ∧ cust.id = id ∧ cust.deletedAt = none := by
  have hkey (r : Store.Customer) (hr : live id r = true) : r.id = id := by
    simp only [live, Bool.and_eq_true, beq_iff_eq] at hr
    exact hr.2
  refine (Table.find_eq_some_of_key hkey).trans (and_congr_right fun _ ↦ ?_)
  simp [live, and_comm]

theorem orFault_cases {α : Type} (e : Env) (w : World) (done : Except Error α × World) :
    (∃ err, orFault e w done = (.error err, w)) ∨ orFault e w done = done := by
  unfold orFault
  split
  · exact .inl ⟨_, rfl⟩
  · exact .inr rfl

theorem orFault_keeps {α : Type} (r : Except Error α) : (orFault e w (r, w)).2 = w := by
  unfold orFault
  split <;> rfl

/-- A customer that is handed out is a stored row with its password. -/
theorem reveal_ok {row : Option Store.Customer} {cust : Customer}
    (h : (orFault e w ((found .customerNotFound row).bind (w.reveal key), w)).1 = .ok cust) :
    row = some cust.toCustomer ∧ w.password key cust.id = .ok cust.portalPassword := by
  unfold orFault at h
  split at h
  · cases h
  · cases row with
    | none => cases h
    | some r =>
      change (w.password key r.id).map _ = _ at h
      cases hpassword : w.password key r.id with
      | error err => simp [hpassword, Except.map] at h
      | ok p =>
        simp only [hpassword, Except.map, Except.ok.injEq] at h
        subst h
        exact ⟨rfl, hpassword⟩

theorem encryptPassword_opens {nonce : Except Error Nonce} {plaintext stored : String}
    (h : World.encryptPassword key nonce plaintext = .ok stored) :
    (if stored = "" then .ok "" else decryptSecret key stored) = Except.ok plaintext := by
  unfold World.encryptPassword at h
  split at h
  next hempty =>
    cases h
    rw [if_pos rfl, hempty]
  next hempty => rw [if_neg (encryptSecret_ne h hempty), decryptSecret_encryptSecret h]

/-- The row of a customer and the password that is stored with it. -/
structure World.Saved (key : Option GCM) (cust : Customer) (w w' : World) : Prop where
  customer : (w.customer cust.id).isSome → cust.deletedAt = none →
    w'.customer cust.id = some cust.toCustomer
  password : w'.password key cust.id = .ok cust.portalPassword
  customers : w'.base.customers = w.base.customers.update (·.id = cust.id) (saved cust.toCustomer)
  passwords : ∀ n ≠ cust.id, w'.passwords n = w.passwords n
  base : w'.base = { w.base with customers := w'.base.customers }
  tickets : w'.tickets = w.tickets

theorem World.write_saved {nonce : Except Error Nonce} {cust : Customer} {stored : String}
    (h : World.encryptPassword key nonce cust.portalPassword = .ok stored) :
    World.Saved key cust w (w.write cust stored) where
  customer hsome hdeleted := by
    obtain ⟨r, hr⟩ := Option.isSome_iff_exists.mp hsome
    obtain ⟨hmem, hid, hlive⟩ := World.customer_eq_some.mp hr
    have hrow := Table.mem_update_of (p := fun r ↦ r.id = cust.id)
      (f := Portal.saved cust.toCustomer) hmem (decide_eq_true hid)
    have hsaved : Portal.saved cust.toCustomer r = cust.toCustomer := by
      unfold Portal.saved
      rw [if_pos hlive, hid]
    rw [hsaved] at hrow
    exact World.customer_eq_some.mpr ⟨hrow, rfl, hdeleted⟩
  password := by
    simp only [World.password, World.write, Function.update_self]
    exact encryptPassword_opens h
  customers := rfl
  passwords _ hn := Function.update_of_ne hn _ _
  base := rfl
  tickets := rfl

/-- `CustomerStore.Update` saves the row, or fails and changes nothing. -/
theorem updateCustomer_exec (key : Option GCM) (cust : Customer) (e : Env) (w : World) :
    (∃ err, (Call.updateCustomer cust).exec key e w = (.error err, w)) ∨
      ∃ w', (Call.updateCustomer cust).exec key e w = (.ok (), w') ∧ World.Saved key cust w w' := by
  obtain h | h := orFault_cases e w (w.save key e.nonce cust)
  · exact .inl h
  change (Call.updateCustomer cust).exec key e w = _ at h
  rw [h]
  unfold World.save
  split
  · exact .inl ⟨_, rfl⟩
  · split
    · exact .inl ⟨_, rfl⟩
    · exact .inr ⟨_, rfl, World.write_saved ‹_›⟩

end Customers

end Rosmon.Portal
