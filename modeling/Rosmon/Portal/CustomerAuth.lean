import Rosmon.Auth.Service
import Rosmon.Handler.Handlers
import Rosmon.Library.Program
import Rosmon.Portal.World

namespace Rosmon.Portal

open Go Library Store Service Handler

/-- A piece of the server that does not know the portal. -/
def lift {α : Type} (p : Rosmon.Prog α) : Prog α := Program.lift Call.base (fun _ r ↦ r) p

/-- The errors of `CustomerAuth`; the handlers tell the first two apart. -/
inductive AuthError
  | invalidCredentials
  | weakPassword
  | other (err : Error)
  deriving DecidableEq

def AuthError.err : AuthError → Error
  | .invalidCredentials => Auth.errInvalidCredentials
  | .weakPassword => Auth.errWeakPassword
  | .other err => err

def minPortalPasswordLen : ℕ := 8

def login (phone password : String) : Prog (Except AuthError (String × Customer)) := do
  match ← perform (.customerByPhone (trimSpace phone)) with
  | .error err =>
    return .error (if err.is .customerNotFound then .invalidCredentials else .other err)
  | .ok cust =>
    if cust.portalPassword = "" then return .error .invalidCredentials
    else if cust.portalPassword ≠ password then return .error .invalidCredentials
    else
      match ← perform (.signCustomerAccess cust.id cust.phone) with
      | .error err => return .error (.other err)
      | .ok token => return .ok (token, cust)

/-- The end of the calls that give a customer a password: the row is saved as a whole. -/
def savePassword {α : Type} (cust : Customer) (portalPassword : String) (answer : α) :
    Prog (Except AuthError α) := do
  match ← perform (.updateCustomer { cust with portalPassword }) with
  | .error err => return .error (.other err)
  | .ok () => return .ok answer

def setPassword (customerID : ℕ) (newPassword : String) : Prog (Except AuthError Unit) := do
  if newPassword.utf8ByteSize < minPortalPasswordLen then return .error .weakPassword
  else
    match ← perform (.customer customerID) with
    | .error err => return .error (.other err)
    | .ok cust => savePassword cust newPassword ()

def portalPwLetters : List Char :=
  "abcdefghijkmnpqrstuvwxyzABCDEFGHJKLMNPQRSTUVWXYZ23456789".toList

def portalPwSymbols : List Char := "@#$%&*".toList

def portalPwLen : ℕ := 10

def randByte (charset : List Char) : Prog (Except Error Char) := do
  match ← perform (.randInt charset.length) with
  | .error err => return .error err
  | .ok n => return .ok (charset.getD n ' ')

/-- `for len(out) < portalPwLen`, with the rounds that are left. -/
def addLetters : ℕ → List Char → Prog (Except Error (List Char))
  | 0, out => return .ok out
  | rounds + 1, out => do
    match ← randByte portalPwLetters with
    | .error err => return .error err
    | .ok ch => addLetters rounds (out ++ [ch])

/-- `out[i], out[j] = out[j], out[i]`. -/
def swap (out : List Char) (i j : ℕ) : List Char :=
  (out.set i (out.getD j ' ')).set j (out.getD i ' ')

/-- `for i := len(out) - 1; i > 0; i--`. -/
def shuffle : ℕ → List Char → Prog (Except Error (List Char))
  | 0, out => return .ok out
  | i + 1, out => do
    match ← perform (.randInt (i + 2)) with
    | .error err => return .error err
    | .ok j => shuffle i (swap out (i + 1) j)

def generatePortalPassword : Prog (Except Error String) := do
  match ← randByte portalPwSymbols with
  | .error err => return .error err
  | .ok sym =>
    match ← addLetters (portalPwLen - 1) [sym] with
    | .error err => return .error err
    | .ok out =>
      match ← shuffle (out.length - 1) out with
      | .error err => return .error err
      | .ok out => return .ok (String.ofList out)

def generateAndSetPassword (customerID : ℕ) : Prog (Except AuthError String) := do
  match ← perform (.customer customerID) with
  | .error err => return .error (.other err)
  | .ok cust =>
    match ← generatePortalPassword with
    | .error err => return .error (.other err)
    | .ok plain => savePassword cust plain plain

def changePassword (customerID : ℕ) (oldPassword newPassword : String) :
    Prog (Except AuthError Unit) := do
  if newPassword.utf8ByteSize < minPortalPasswordLen then return .error .weakPassword
  else
    match ← perform (.customer customerID) with
    | .error err => return .error (.other err)
    | .ok cust =>
      if cust.portalPassword = "" then return .error .invalidCredentials
      else if cust.portalPassword ≠ oldPassword then return .error .invalidCredentials
      else savePassword cust newPassword ()

/-- The fields of `PUT /customers/:id`; what is left out stays. -/
structure CustomerUpdateRequest where
  fullName : Option String
  phone : Option String
  address : Option String
  area : Option String
  notes : Option String
  status : Option String
  deriving DecidableEq

namespace CustomerUpdateRequest

/-- The binding rules of the request. -/
def valid (req : CustomerUpdateRequest) : Bool :=
  (req.fullName.all fun s ↦ 1 ≤ s.length && s.length ≤ 200) &&
    (req.phone.all fun s ↦ 3 ≤ s.length && s.length ≤ 20) &&
    (req.address.all fun s ↦ s.length ≤ 2000) && (req.area.all fun s ↦ s.length ≤ 100) &&
    (req.notes.all fun s ↦ s.length ≤ 2000) && req.status.all (· ∈ ["aktif", "nonaktif"])

def setFields (req : CustomerUpdateRequest) (cust : Store.Customer) : Store.Customer :=
  { cust with
    fullName := req.fullName.getD cust.fullName
    phone := req.phone.getD cust.phone
    address := req.address.getD cust.address
    area := req.area.getD cust.area
    notes := req.notes.getD cust.notes
    status := req.status.getD cust.status }

end CustomerUpdateRequest

/-- `Customers.Update`. -/
def update (id : ℕ) (req : CustomerUpdateRequest) (actor : Option ℕ) :
    Prog (Response Store.Customer) := do
  if ¬req.valid then return .failure 400 "VALIDATION" "request validation failed"
  else
    match ← perform (.customer id) with
    | .error err =>
      return if err.is .customerNotFound then .failure 404 "NOT_FOUND" "customer not found"
        else writeErr err
    | .ok read =>
      let cust := { read with toCustomer := req.setFields read.toCustomer }
      match ← perform (.updateCustomer cust) with
      | .error err =>
        return if err.is .customerPhoneTaken then .failure 409 "CONFLICT" "phone already registered"
          else writeErr err
      | .ok () =>
        lift (audit actor "customer_updated" "customer" id)
        return .success 200 cust.toCustomer

end Rosmon.Portal
