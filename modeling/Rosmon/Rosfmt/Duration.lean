import Rosmon.Go.Duration
import Rosmon.Go.ParseFloat

namespace Rosmon.Rosfmt

open Go

section Parse

inductive DurationError
  | empty
  | badDuration (v : List Char)
  | badNumber (num v : List Char)
  | unknownUnit (unit v : List Char)
  deriving DecidableEq

def second : ℤ := 1000000000

def millisecond : ℤ := 1000000

def durationUnit : List Char → Option ℤ
  | ['y'] => some (365 * 24 * hour)
  | ['m', 'o'] => some (30 * 24 * hour)
  | ['w'] => some (7 * 24 * hour)
  | ['d'] => some (24 * hour)
  | ['h'] => some hour
  | ['m'] => some (60 * second)
  | ['s'] => some second
  | ['m', 's'] => some millisecond
  | _ => none

/-- A letter, or what may be one when its bytes are read one by one; no unit has such a byte. -/
def isLetter (c : Char) : Bool := c.isAlpha || 0x80 ≤ c.toNat

/-- What a sum of two durations is in 64 bits. -/
def wrap64 (n : ℤ) : ℤ := n.bmod (2 ^ 64)

/-- `time.Duration(num * float64(mul))`. -/
def amount (num : Float64) (mul : ℤ) : ℤ := (num.mul (.ofRat mul)).toInt64

/-- The loop over the parts of a text that is not a number; every part has a letter at least, so
that the length of the text bounds their number. -/
def parseParts (v : List Char) : ℕ → ℤ → List Char → Except DurationError ℤ
  | _, total, [] => .ok total
  | 0, total, _ => .ok total
  | n + 1, total, rest =>
    let num := rest.takeWhile isNumeric
    let rest := rest.dropWhile isNumeric
    let unit := rest.takeWhile isLetter
    if num = [] then .error (.badDuration v)
    else match parseFloat num with
      | none => .error (.badNumber num v)
      | some f => match durationUnit unit with
        | none => .error (.unknownUnit unit v)
        | some mul => parseParts v n (wrap64 (total + amount f mul)) (rest.dropWhile isLetter)

def parseDuration (s : String) : Except DurationError ℤ :=
  let v := (trimSpace s).toList
  if v = [] then .error .empty
  else match parseFloat v with
    | some secs => .ok (amount secs second)
    | none => parseParts v v.length 0 v

def isValidDuration (s : String) : Bool := (parseDuration s).isOk

example : parseDuration "1w2d3h4m5s" =
      .ok (7 * 24 * hour + 2 * (24 * hour) + 3 * hour + 245 * second) ∧
    parseDuration " 1.5 " = .ok 1500000000 ∧
    parseDuration "1h2x" = .error (.unknownUnit ['x'] ['1', 'h', '2', 'x']) := by
  decide +kernel

end Parse

section Format

/-- The loop over the units, and what it leaves of the duration. -/
def formatUnits : List (ℤ × Char) → ℤ → List Char × ℤ
  | [], d => ([], d)
  | (dur, suffix) :: units, d =>
    let n := d.tdiv dur
    if 0 < n then
      let r := formatUnits units (d - n * dur)
      (fmtInt n.toNat ++ suffix :: r.1, r.2)
    else formatUnits units d

def units : List (ℤ × Char) :=
  [(7 * 24 * hour, 'w'), (24 * hour, 'd'), (hour, 'h'), (60 * second, 'm'), (second, 's')]

/-- `FormatDuration` of a positive duration. -/
def formatPositive (d : ℤ) : List Char :=
  let r := formatUnits units d
  let ms := r.2.tdiv millisecond
  let b := r.1 ++ if 0 < r.2 ∧ 0 < ms then fmtInt ms.toNat ++ ['m', 's'] else []
  if b = [] then ['0', 's'] else b

/-- `FormatDuration` that calls itself `depth` times at most. -/
def formatDuration : ℕ → ℤ → Option (List Char)
  | 0, _ => none
  | depth + 1, d =>
    if d = 0 then some ['0', 's']
    else if d < 0 then (formatDuration depth (wrap64 (-d))).map ('-' :: ·)
    else some (formatPositive d)

def normalizeDuration (depth : ℕ) (s : String) : Option (Except DurationError String) :=
  match parseDuration s with
  | .error err => some (.error err)
  | .ok d => (formatDuration depth d).map fun b ↦ .ok (String.ofList b)

example : normalizeDuration 1 "1y" = some (.ok "52w1d") ∧
    normalizeDuration 2 "-30" = some (.ok "-30s") := by
  decide +kernel

end Format

end Rosmon.Rosfmt
