import Rosmon.Web.Digits

namespace Rosmon.Web

open Go

/-- What the backend keeps of a package: all of it is text. -/
structure QuickPrintPackage where
  name : String
  server : String
  userMode : String
  userLength : String
  prefixText : String
  charMode : String
  profile : String
  timeLimit : String
  dataLimit : String
  comment : String
  validity : String
  price : String
  sellingPrice : String
  lockUser : String
  deriving DecidableEq

inductive UserMode
  | vc
  | up
  deriving DecidableEq

inductive CharSet
  | lower
  | upper
  | mixed
  | number
  | lowerNumber
  | upperNumber
  | mixedNumber
  deriving DecidableEq

inductive DataLimitUnit
  | MB
  | GB
  deriving DecidableEq

inductive PresetColor
  | blue
  | indigo
  | purple
  | pink
  | red
  | amber
  | green
  | teal
  | cyan
  | sky
  deriving DecidableEq

def UserMode.text : UserMode → String
  | .vc => "vc"
  | .up => "up"

def CharSet.text : CharSet → String
  | .lower => "lower"
  | .upper => "upper"
  | .mixed => "mixed"
  | .number => "number"
  | .lowerNumber => "lower_number"
  | .upperNumber => "upper_number"
  | .mixedNumber => "mixed_number"

namespace DataLimitUnit

def text : DataLimitUnit → List Char
  | .MB => ['M', 'B']
  | .GB => ['G', 'B']

def bytes : DataLimitUnit → ℚ
  | .MB => 2 ^ 20
  | .GB => 2 ^ 30

end DataLimitUnit

@[ext]
structure QuickPrintPreset where
  id : String
  name : String
  package : String
  server : String
  userMode : UserMode
  userLength : Number
  prefixText : String
  charSet : CharSet
  profile : String
  timeLimit : String
  dataLimit : Number
  dataLimitUnit : DataLimitUnit
  validity : String
  price : Number
  sellingPrice : Number
  lockUser : Bool
  color : PresetColor
  deriving DecidableEq

/-- What the browser keeps beside the package, under its name. -/
structure PresetMeta where
  color : PresetColor
  packageLabel : String

/-- What is stored when a preset is saved. -/
def QuickPrintPreset.stored (p : QuickPrintPreset) : PresetMeta := ⟨p.color, p.package⟩

section Colors

def colorPalette : List PresetColor :=
  [.blue, .indigo, .purple, .pink, .red, .amber, .green, .teal, .cyan, .sky]

/-- The UTF-16 code units of a character. -/
def codeUnits (c : Char) : List ℤ :=
  if c.toNat < 0x10000 then [c.toNat]
  else [0xD800 + (c.toNat - 0x10000) / 0x400, 0xDC00 + (c.toNat - 0x10000) % 0x400]

def defaultColorFor (name : String) : PresetColor :=
  let hash := (name.toList.flatMap codeUnits).foldl
    (fun hash code ↦ (hash * 31 + code).bmod (2 ^ 32)) 0
  colorPalette.get ⟨hash.natAbs % 10, Nat.mod_lt _ (by decide)⟩

end Colors

section Reading

def validUserModes : List UserMode := [.vc, .up]

def validCharSets : List CharSet :=
  [.lower, .upper, .mixed, .number, .lowerNumber, .upperNumber, .mixedNumber]

/-- The value with this text, if it is in the list. -/
def oneOf {α : Type} (valid : List α) (text : α → String) (fallback : α) (s : String) : α :=
  (valid.find? fun a ↦ text a = s).getD fallback

def safeUserMode : String → UserMode := oneOf validUserModes UserMode.text .up

def safeCharSet : String → CharSet := oneOf validCharSets CharSet.text .lowerNumber

/-- The unit at the end of a text. -/
def unitOf (s : List Char) : Option DataLimitUnit :=
  if DataLimitUnit.GB.text <:+ s then some .GB
  else if DataLimitUnit.MB.text <:+ s then some .MB
  else none

/-- `Math.round(bytes / 1_048_576)`. -/
def megabytes (bytes : Number) : Number :=
  let quotient := (Number.of (bytes.value / 2 ^ 20)).getD 0
  (Number.of ⌊quotient.value + 1 / 2⌋).getD 0

def parseDataLimit (s : String) : Number × DataLimitUnit :=
  -- The case of other letters than those of the units makes no difference.
  let trimmed := (trim s.toList).map Char.toUpper
  match unitOf trimmed with
  | some unit => (parseInt0 trimmed.dropLast.dropLast, unit)
  | none =>
    let bytes := parseInt0 trimmed
    if 0 < bytes.value then (megabytes bytes, .MB) else (0, .MB)

def defaultLength : Number := ⟨5, by simpa using toFloat64_of_lt (n := 5) (by decide)⟩

/-- `s || fallback`. -/
def orText (s fallback : String) : String := if s = "" then fallback else s

def orLength (n : Number) : Number := if n = 0 then defaultLength else n

def isLocked (s : String) : Bool := s = "1" || s.toList.map Char.toLower = "true".toList

def apiToPreset (api : QuickPrintPackage) (stored : Option PresetMeta) : QuickPrintPreset where
  id := api.name
  name := api.name
  package := (stored.map PresetMeta.packageLabel).getD api.name
  server := orText api.server "all"
  userMode := safeUserMode api.userMode
  userLength := orLength (parseInt0 api.userLength.toList)
  prefixText := api.prefixText
  charSet := safeCharSet api.charMode
  profile := api.profile
  timeLimit := orText api.timeLimit "0"
  dataLimit := (parseDataLimit api.dataLimit).1
  dataLimitUnit := (parseDataLimit api.dataLimit).2
  validity := api.validity
  price := parseInt0 api.price.toList
  sellingPrice := parseInt0 api.sellingPrice.toList
  lockUser := isLocked api.lockUser
  color := (stored.map PresetMeta.color).getD (defaultColorFor api.name)

end Reading

section Writing

def numberText (x : Number) : String := String.ofList (numberToString x)

def dataLimitStr (value : Number) (unit : DataLimitUnit) : String :=
  if 0 < value.value then String.ofList (numberToString value ++ unit.text) else ""

def presetToApi (preset : QuickPrintPreset) : QuickPrintPackage where
  name := preset.name
  server := preset.server
  userMode := preset.userMode.text
  userLength := numberText preset.userLength
  prefixText := preset.prefixText
  charMode := preset.charSet.text
  profile := preset.profile
  timeLimit := preset.timeLimit
  dataLimit := dataLimitStr preset.dataLimit preset.dataLimitUnit
  comment := ""
  validity := preset.validity
  price := numberText preset.price
  sellingPrice := numberText preset.sellingPrice
  lockUser := if preset.lockUser then "1" else "0"

end Writing

section Meaning

/-- What a text says as a number, if it says a finite one. -/
def finiteValue : Float64 → Option ℚ
  | .finite q => some q
  | _ => none

/-- The bytes of a data limit. -/
def dataBytes (s : String) : Option ℚ :=
  let trimmed := trim s.toList
  match unitOf (trimmed.map Char.toUpper) with
  | some unit => (finiteValue (toNumber trimmed.dropLast.dropLast)).map (· * unit.bytes)
  | none => finiteValue (toNumber trimmed)

/-- Two records of one package. -/
structure QuickPrintPackage.Same (r s : QuickPrintPackage) : Prop where
  name : r.name = s.name
  prefixText : r.prefixText = s.prefixText
  profile : r.profile = s.profile
  validity : r.validity = s.validity
  comment : r.comment = s.comment
  server : r.server = s.server
  userMode : r.userMode = s.userMode
  charMode : r.charMode = s.charMode
  userLength : toNumber r.userLength.toList = toNumber s.userLength.toList
  price : toNumber r.price.toList = toNumber s.price.toList
  sellingPrice : toNumber r.sellingPrice.toList = toNumber s.sellingPrice.toList
  lockUser : isLocked r.lockUser = isLocked s.lockUser
  dataLimit : dataBytes r.dataLimit = dataBytes s.dataLimit

/-- `Number.isSafeInteger`. -/
def Number.Safe (x : Number) : Prop := ∃ m : ℤ, x.value = m ∧ |m| ≤ 2 ^ 53 - 1

/-- The presets that the schema admits: all but two of its conditions are in the types. -/
structure QuickPrintPreset.Admitted (p : QuickPrintPreset) : Prop where
  userLength : p.userLength.Safe
  dataLimit : p.dataLimit.Safe

/-- Everything but the `id`, which is not a setting. -/
def QuickPrintPreset.Same (p q : QuickPrintPreset) : Prop := { p with id := q.id } = q

end Meaning

end Rosmon.Web
