import Rosmon.Go.Stamp
import Rosmon.Rosfmt.Duration
import Rosmon.Store.Errors

namespace Rosmon.Vouchers

open Go Store

inductive Charset
  | lower | upper | mixed | number | lowerNumber | upperNumber | mixedNumber
  deriving DecidableEq

/-- `IsValid` and the conversion of a text that is valid. -/
def Charset.ofString : String → Option Charset
  | "lower" => some .lower
  | "upper" => some .upper
  | "mixed" => some .mixed
  | "number" => some .number
  | "lower_number" => some .lowerNumber
  | "upper_number" => some .upperNumber
  | "mixed_number" => some .mixedNumber
  | _ => none

/-- `Charset.Chars`. -/
def Charset.chars : Charset → String :=
  let lower := "abcdefghjkmnpqrstuvwxyz"
  let upper := "ABCDEFGHJKLMNPQRSTUVWXYZ"
  let number := "23456789"
  fun
  | .lower => lower
  | .upper => upper
  | .mixed => lower ++ upper
  | .number => number
  | .lowerNumber => lower ++ number
  | .upperNumber => upper ++ number
  | .mixedNumber => lower ++ upper ++ number

/-- A spec that has not been validated; the prices and the lock to a MAC play no part. -/
structure VoucherSpec where
  server : String
  userMode : String
  length : ℤ
  usernamePrefix : String
  charset : String
  profile : String
  timeLimit : String
  dataLimit : ℤ
  comment : String
  validity : String
  batchSize : ℤ
  deriving DecidableEq

/-- Arguments of `UserAdd`; the others are not set. -/
structure UserAddArgs where
  name : String
  password : String
  profile : String
  server : String
  limitUptime : String
  limitBytesTotal : ℤ
  comment : String
  deriving DecidableEq

/-- Why a voucher or a whole batch is not made; the text of the error is made of this. -/
inductive VoucherError
  | batchSize
  | batchSizeCapped
  | length
  | charset (charset : String)
  | emptyCharset
  | profile
  | emptyChars
  | random (err : Error)
  | validity (validity : String) (err : Rosfmt.DurationError)
  | userAdd (username : String) (err : Error)
  | context (err : Sentinel)
  deriving DecidableEq

/-- What `errors.Is` finds in it. -/
def VoucherError.chain : VoucherError → List Sentinel
  | .emptyChars => []
  | .random err | .userAdd _ err => err.chain
  | .context err => [err]
  | _ => [.mikrotikInvalidArgument]

def validateVoucherSpec (spec : VoucherSpec) : Except VoucherError Unit :=
  if spec.batchSize ≤ 0 then .error .batchSize
  else if 1000 < spec.batchSize then .error .batchSizeCapped
  else if spec.length ≤ 0 ∨ 32 < spec.length then .error .length
  else match Charset.ofString spec.charset with
    | none => .error (.charset spec.charset)
    | some charset =>
      if charset.chars = "" then .error .emptyCharset
      else if spec.profile = "" then .error .profile
      else .ok ()

/-- `now` is what `time.Now` says if it is asked; `loc` is `time.Local`. -/
def buildVoucherAddArgs (loc : Zone) (now : ℤ) (spec : VoucherSpec) (username password : String) :
    Except VoucherError UserAddArgs :=
  let args : UserAddArgs :=
    { name := username
      password
      profile := spec.profile
      server := spec.server
      limitUptime := spec.timeLimit
      limitBytesTotal := spec.dataLimit
      comment := spec.comment }
  if spec.validity = "" then .ok args
  else match Rosfmt.parseDuration spec.validity with
    | .error err => .error (.validity spec.validity err)
    | .ok dur =>
      if 0 < dur then
        let stamp := String.ofList (stamp (loc.clock (now + dur)))
        .ok { args with
          comment := if args.comment = "" then stamp else stamp ++ " " ++ args.comment }
      else .ok args

end Rosmon.Vouchers
