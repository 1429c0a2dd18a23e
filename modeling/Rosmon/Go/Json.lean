import Rosmon.Go.Float64
import Rosmon.Go.Text

namespace Rosmon.Go

/-- A JSON value as `encoding/json` reads it. A number keeps the value its
literal denotes; members keep their order and their repetitions. -/
inductive Json
  | null
  | bool (b : Bool)
  | num (q : ℚ)
  | str (s : String)
  | arr (items : List Json)
  | obj (members : List (String × Json))

namespace Json

/-- The deepest nesting the scanner accepts. -/
def maxNestingDepth : ℕ := 10000

def skipSpace (cs : List Char) : List Char :=
  cs.dropWhile fun c ↦ c = ' ' || c = '\t' || c = '\r' || c = '\n'

def hexDigit (c : Char) : Option ℕ :=
  if '0' ≤ c ∧ c ≤ '9' then some (c.toNat - '0'.toNat)
  else if 'a' ≤ c ∧ c ≤ 'f' then some (c.toNat - 'a'.toNat + 10)
  else if 'A' ≤ c ∧ c ≤ 'F' then some (c.toNat - 'A'.toNat + 10)
  else none

/-- Four hexadecimal digits and the text after them. -/
def hex4 : List Char → Option (ℕ × List Char)
  | a :: b :: c :: d :: rest => do
    let n := (((← hexDigit a) * 16 + (← hexDigit b)) * 16 + (← hexDigit c)) * 16
    return (n + (← hexDigit d), rest)
  | _ => none

/-- A `\u` escape after its `u`. A surrogate pair is one character and a lone
surrogate is the replacement character. -/
def unicodeEscape (cs : List Char) : Option (Char × List Char) := do
  let (hi, rest) ← hex4 cs
  if hi < 0xD800 ∨ 0xDFFF < hi then return (Char.ofNat hi, rest)
  match rest with
  | '\\' :: 'u' :: tail =>
    match hex4 tail with
    | some (lo, after) =>
      if hi < 0xDC00 ∧ 0xDC00 ≤ lo ∧ lo ≤ 0xDFFF then
        return (Char.ofNat (0x10000 + (hi - 0xD800) * 0x400 + (lo - 0xDC00)), after)
      else return ('\uFFFD', rest)
    | none => return ('\uFFFD', rest)
  | _ => return ('\uFFFD', rest)

def simpleEscape : Char → Option Char
  | '"' => some '"'
  | '\\' => some '\\'
  | '/' => some '/'
  | 'b' => some (Char.ofNat 8)
  | 'f' => some (Char.ofNat 12)
  | 'n' => some '\n'
  | 'r' => some '\r'
  | 't' => some '\t'
  | _ => none

/-- The rest of a string literal after its opening quote. The first argument
bounds the characters still to be read. -/
def stringBody : ℕ → List Char → Option (List Char × List Char)
  | 0, _ => none
  | n + 1, cs =>
    match cs with
    | [] => none
    | '"' :: rest => some ([], rest)
    | '\\' :: 'u' :: rest => do
      let (c, rest) ← unicodeEscape rest
      let (s, rest) ← stringBody n rest
      return (c :: s, rest)
    | '\\' :: e :: rest => do
      let c ← simpleEscape e
      let (s, rest) ← stringBody n rest
      return (c :: s, rest)
    | c :: rest => do
      if c.toNat < 0x20 ∨ c = '\\' then none
      let (s, rest) ← stringBody n rest
      return (c :: s, rest)

def sign : List Char → ℤ × List Char
  | '-' :: rest => (-1, rest)
  | rest => (1, rest)

/-- The optional fraction of a number literal, as its digits. -/
def fraction : List Char → Option (List Char × List Char)
  | '.' :: rest =>
    let (digits, rest) := rest.span isDigit
    if digits = [] then none else some (digits, rest)
  | rest => some ([], rest)

/-- The optional exponent of a number literal. -/
def exponent : List Char → Option (ℤ × List Char)
  | e :: rest =>
    if e = 'e' ∨ e = 'E' then
      let (s, rest) : ℤ × List Char := match rest with
        | '+' :: rest => (1, rest)
        | rest => sign rest
      let (digits, rest) := rest.span isDigit
      if digits = [] then none else some (s * decimal digits, rest)
    else some (0, e :: rest)
  | [] => some (0, [])

/-- A number literal: no leading zero, and digits after a dot and an exponent. -/
def number (cs : List Char) : Option (ℚ × List Char) := do
  let (s, cs) := sign cs
  let (whole, cs) := cs.span isDigit
  if whole = [] ∨ (whole.head? = some '0' ∧ whole ≠ ['0']) then none
  let (frac, cs) ← fraction cs
  let (e, cs) ← exponent cs
  return (s * decimal (whole ++ frac) * (10 : ℚ) ^ (e - frac.length), cs)

def literal (word : List Char) (v : Json) (cs : List Char) : Option (Json × List Char) :=
  if word.isPrefixOf cs then some (v, cs.drop word.length) else none

mutual

/-- A value at nesting depth `depth`, with blanks before it. The first argument
bounds the characters still to be read. -/
def value : ℕ → ℕ → List Char → Option (Json × List Char)
  | 0, _, _ => none
  | n + 1, depth, cs =>
    match skipSpace cs with
    | '"' :: rest => (stringBody (rest.length + 1) rest).map fun (s, rest) ↦
        (.str (String.ofList s), rest)
    | '[' :: rest =>
      if depth = maxNestingDepth then none
      else match skipSpace rest with
        | ']' :: rest => some (.arr [], rest)
        | rest => (items n (depth + 1) rest).map fun (vs, rest) ↦ (.arr vs, rest)
    | '\x7b' :: rest =>
      if depth = maxNestingDepth then none
      else match skipSpace rest with
        | '\x7d' :: rest => some (.obj [], rest)
        | rest => (members n (depth + 1) rest).map fun (ms, rest) ↦ (.obj ms, rest)
    | 't' :: rest => literal ['r', 'u', 'e'] (.bool true) rest
    | 'f' :: rest => literal ['a', 'l', 's', 'e'] (.bool false) rest
    | 'n' :: rest => literal ['u', 'l', 'l'] .null rest
    | rest => (number rest).map fun (q, rest) ↦ (.num q, rest)

def items : ℕ → ℕ → List Char → Option (List Json × List Char)
  | 0, _, _ => none
  | n + 1, depth, cs => do
    let (v, rest) ← value n depth cs
    match skipSpace rest with
    | ',' :: rest => (items n depth rest).map fun (vs, rest) ↦ (v :: vs, rest)
    | ']' :: rest => some ([v], rest)
    | _ => none

def members : ℕ → ℕ → List Char → Option (List (String × Json) × List Char)
  | 0, _, _ => none
  | n + 1, depth, cs =>
    match skipSpace cs with
    | '"' :: rest => do
      let (k, rest) ← stringBody (rest.length + 1) rest
      match skipSpace rest with
      | ':' :: rest => do
        let (v, rest) ← value n depth rest
        let m := (String.ofList k, v)
        match skipSpace rest with
        | ',' :: rest => (members n depth rest).map fun (ms, rest) ↦ (m :: ms, rest)
        | '\x7d' :: rest => some ([m], rest)
        | _ => none
      | _ => none
    | _ => none

end

/-- The value of a whole text; nothing but blanks may follow it. Every call of
the parser reads a character, so the length bounds their nesting. -/
def parse (text : List Char) : Option Json :=
  match value (2 * text.length + 2) 0 text with
  | some (v, rest) => if skipSpace rest = [] then some v else none
  | none => none

/-- The case folding under which a member name is matched with a field name. -/
def foldRune (c : Char) : Char :=
  if 'a' ≤ c ∧ c ≤ 'z' then Char.ofNat (c.toNat - 32)
  else if c.toNat = 0x17F then 'S'
  else if c.toNat = 0x212A then 'K'
  else c

def foldName (s : String) : List Char := s.toList.map foldRune

/-- The values given for a field, in the order of the text. -/
def field (name : String) (members : List (String × Json)) : List Json :=
  (members.filter fun m ↦ foldName m.1 = foldName name).map Prod.snd

/-- Decode a `string` field: the last value wins, `null` is skipped and any
other kind is an error. -/
def stringField (name : String) (members : List (String × Json)) : Option String :=
  (field name members).foldlM (fun old v ↦ match v with
    | .null => some old
    | .str s => some s
    | _ => none) ""

/-- Decode a `float64` field. A literal too large for `float64` is an error. -/
def floatField (name : String) (members : List (String × Json)) : Option ℚ :=
  (field name members).foldlM (fun old v ↦ match v with
    | .null => some old
    | .num q => toFloat64 q
    | _ => none) 0

end Json

end Rosmon.Go
