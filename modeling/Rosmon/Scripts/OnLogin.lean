import Rosmon.Go.Text
import Rosmon.Go.Itoa
import Rosmon.Library.Separated
import Rosmon.Mikrotik.Literals

namespace Rosmon.Scripts

open Go Library Mikrotik

/-- The modes that `ParseExpiredMode` yields. -/
inductive ExpiredMode
  | none
  | remove
  | notice
  | removeRecord
  | noticeRecord
  deriving DecidableEq

def ExpiredMode.text : ExpiredMode → String
  | none => "0"
  | remove => "rem"
  | notice => "ntf"
  | removeRecord => "remc"
  | noticeRecord => "ntfc"

/-- A script whose bytes are marked with whether they come from a value. -/
abbrev Script := Marked Bool

def own (s : String) : Script := marked false (bytes s)

def pasted (s : String) : Script := marked true (bytes s)

/-- The script that the router gets. -/
def Script.body (s : Script) : List UInt8 := s.map Prod.snd

namespace OnLogin

structure Options where
  mode : ExpiredMode
  validity : String
  price : ℤ
  sellPrice : ℤ
  lockMAC : Bool
  webhookURL : String
  profileName : String
  deriving DecidableEq

def Options.metadataLockToken (o : Options) : String := if o.lockMAC then "Enable" else "Disable"

/-- `%d` -/
def number (n : ℤ) : Script := marked false ((itoa n).map Char.toUInt8)

def writeMetadata (o : Options) : Script :=
  if o.mode = .none then
    own ":put (\",," ++ number o.price ++ own ",,,noexp," ++ own o.metadataLockToken ++
      own ",\");\n"
  else
    own ":put (\"," ++ own o.mode.text ++ own "," ++ number o.price ++ own "," ++
      pasted o.validity ++ own "," ++ number o.sellPrice ++ own ",," ++
      own o.metadataLockToken ++ own ",\");\n"

/-- A condition of the script. -/
inductive Condition
  | eq (name value : String)
  | or (a b : Condition)

def Condition.text : Condition → List UInt8
  | eq name value => bytes "$" ++ bytes name ++ bytes " = \"" ++ bytes value ++ bytes "\""
  | or a b => a.text ++ bytes " or " ++ b.text

def Condition.eval (env : String → List UInt8) : Condition → Bool
  | eq name value => env name = bytes value
  | or a b => a.eval env || b.eval env

/-- The condition under which the script sets the expiry. -/
def firstLogin : Condition := .or (.or (.eq "ucode" "vc") (.eq "ucode" "up")) (.eq "comment" "")

/-- The template as far as the placeholder. -/
def expiryHead : List UInt8 :=
  ["\x7b\n",
    "  :local comment [/ip hotspot user get ",
    "[/ip hotspot user find where name=\"$user\"] comment];\n",
    "  :local ucode [:pic $comment 0 2];\n",
    "  :if ("].flatMap bytes ++ firstLogin.text ++
  [") do=\x7b\n",
    "    :local date  [/system clock get date];\n",
    "    :local year  [:pick $date 7 11];\n",
    "    /sys sch add name=\"$user\" disable=no start-date=$date ",
    "interval=\""].flatMap bytes

def expiryTail : List UInt8 :=
  ["\";\n",
    "    :delay 5s;\n",
    "    :local exp    [/sys sch get [/sys sch find where name=\"$user\"] next-run];\n",
    "    :local getxp  [len $exp];\n",
    "    :if ($getxp = 15) do=\x7b\n",
    "      :local d [:pic $exp 0 6];\n",
    "      :local t [:pic $exp 7 16];\n",
    "      :local s (\"/\");\n",
    "      :local exp (\"$d$s$year $t\");\n",
    "      /ip hotspot user set comment=\"$exp\" [find where name=\"$user\"];\n",
    "    \x7d;\n",
    "    :if ($getxp = 8) do=\x7b\n",
    "      /ip hotspot user set comment=\"$date $exp\" [find where name=\"$user\"];\n",
    "    \x7d;\n",
    "    :if ($getxp > 15) do=\x7b\n",
    "      /ip hotspot user set comment=\"$exp\" [find where name=\"$user\"];\n",
    "    \x7d;\n",
    "    :delay 5s;\n",
    "    /sys sch remove [find where name=\"$user\"];\n",
    "  \x7d\n",
    "\x7d\n"].flatMap bytes

def expiryTemplate : List UInt8 := expiryHead ++ bytes "<VALIDITY>" ++ expiryTail

/-- `ReplaceAll` in the template, which comes from no value. -/
def writeExpiryBlock (o : Options) : Script :=
  replaceAll (marked false expiryTemplate) (own "<VALIDITY>") (pasted o.validity)

def writeLockMACBlock : Script :=
  own ":local mac $\"mac-address\";\n" ++
    own "/ip hotspot user set mac-address=$mac [find where name=$user];\n"

/-- An operand of a concatenation: a literal, whose end may be a value, or a variable. -/
inductive Operand
  | literal (text value : String)
  | var (name : String)

def Operand.script : Operand → Script
  | literal text value => own "\"" ++ own text ++ pasted value ++ own "\""
  | var name => own "$" ++ own name

def concatenation (operands : List Operand) : Script :=
  (own " . ").intercalate (operands.map Operand.script)

/-- The body of the request that the script sends. -/
def httpData (o : Options) : List Operand :=
  [.literal "user=" "", .var "user", .literal "&mac=" "", .var "\"mac-address\"",
    .literal "&ip=" "", .var "address", .literal "&profile=" o.profileName]

def writeWebhookBlock (o : Options) : Script :=
  if o.webhookURL = "" then []
  else
    own ":do \x7b\n" ++
      own "  /tool fetch mode=http http-method=post keep-result=no url=(\"" ++
      pasted o.webhookURL ++ own "\") http-data=(" ++ concatenation (httpData o) ++
      own ");\n" ++ own "\x7d on-error=\x7b\x7d\n"

def build (o : Options) : Script :=
  writeMetadata o ++
    if o.mode = .none then []
    else writeExpiryBlock o ++ (if o.lockMAC then writeLockMACBlock else []) ++ writeWebhookBlock o

theorem writeExpiryBlock_eq (o : Options) : writeExpiryBlock o =
    marked false expiryHead ++ pasted o.validity ++ marked false expiryTail := by
  have hhead : (60 : UInt8) ∉ expiryHead := by decide +kernel
  have htail : (60 : UInt8) ∉ expiryTail := by decide +kernel
  have hplaceholder : own "<VALIDITY>" = (false, 60) :: own "VALIDITY>" := by decide
  rw [writeExpiryBlock, expiryTemplate, marked_append, marked_append]
  change replaceAll (_ ++ own "<VALIDITY>" ++ _) _ _ = _
  rw [hplaceholder]
  refine replaceAll_of_notMem (fun h ↦ hhead ?_) fun h ↦ htail ?_
  · simpa [marked] using h
  · simpa [marked] using h

/-- The same options with texts that mean nothing in a literal. -/
def Options.harmless (o : Options) : Options :=
  { o with
    validity := "x"
    webhookURL := if o.webhookURL = "" then "" else "x"
    profileName := "x" }

/-- The script has the structure that it has with harmless texts, and none of it comes from the
texts of the options. -/
def Intact (o : Options) : Prop := tokens .code (build o) = tokens .code (build o.harmless)

theorem plain_number (n : ℤ) : Plain ((itoa n).map Char.toUInt8) := by
  intro b hb
  obtain ⟨c, hc, rfl⟩ := List.mem_map.mp hb
  obtain rfl | hdigit := mem_itoa hc
  · decide
  · have hrange : 48 ≤ c.toNat ∧ c.toNat ≤ 57 := by
      simpa [Char.isDigit, UInt32.le_iff_toNat_le] using hdigit
    have hbyte : c.toUInt8.toNat = c.toNat := by
      rw [Char.toUInt8, UInt32.toNat_toUInt8]
      exact Nat.mod_eq_of_lt (by change c.toNat < 256; omega)
    refine ⟨?_, ?_, ?_⟩ <;> intro heq <;> rw [heq] at hbyte
    · have hquote : (34 : ℕ) = c.toNat := hbyte
      omega
    · have hslash : (92 : ℕ) = c.toNat := hbyte
      omega
    · have hdollar : (36 : ℕ) = c.toNat := hbyte
      omega

theorem plain_mode (mode : ExpiredMode) : Plain (bytes mode.text) := by
  cases mode <;> decide

theorem plain_lockToken (o : Options) : Plain (bytes o.metadataLockToken) := by
  unfold Options.metadataLockToken
  split_ifs <;> decide

theorem contained_x : contained (bytes "x") = true := by decide

section Blocks

variable (o : Options) {r r' : Script}

/-- What the metadata say after the validity, without the comma. -/
def Options.prices (o : Options) : List UInt8 :=
  (itoa o.sellPrice).map Char.toUInt8 ++ (bytes ",," ++ (bytes o.metadataLockToken ++
    bytes ",\");\n"))

/-- What they say before it. -/
def Options.start (o : Options) : List UInt8 :=
  bytes ":put (\"," ++ (bytes o.mode.text ++ (bytes "," ++ ((itoa o.price).map Char.toUInt8 ++
    bytes ",")))

theorem writeMetadata_eq (hmode : o.mode ≠ .none) : writeMetadata o =
    marked false o.start ++ pasted o.validity ++ marked false (44 :: o.prices) := by
  have hcomma : bytes "," = [44] := by decide
  have hcons : ∀ s, marked false (44 :: s) = marked false [44] ++ marked false s := fun _ ↦ rfl
  rw [hcons]
  simp only [writeMetadata, if_neg hmode, Options.start, Options.prices, own, number,
    marked_append, List.append_assoc, hcomma]

theorem after_start : Place.code.after o.start = .literal := by
  have hopen : Place.code.after (bytes ":put (\",") = .literal := by decide
  rw [Options.start, after_append, hopen]
  exact after_of_plain ((plain_mode _).append (.append (by decide)
    (.append (plain_number _) (by decide))))

theorem after_prices : Place.literal.after o.prices = .code ∧
    tokens .literal (marked false o.prices) ≠ [] := by
  have hplain : Plain ((itoa o.sellPrice).map Char.toUInt8 ++ (bytes ",," ++
      bytes o.metadataLockToken)) :=
    (plain_number _).append (.append (by decide) (plain_lockToken _))
  have heq : o.prices = (itoa o.sellPrice).map Char.toUInt8 ++ (bytes ",," ++
      bytes o.metadataLockToken) ++ bytes ",\");\n" := by simp [Options.prices]
  obtain ⟨hnothing, hback⟩ := tokens_of_contained false (contained_of_plain hplain)
  rw [heq, after_append, hback, marked_append, tokens_append, map_snd_marked, hnothing, hback,
    List.nil_append]
  decide

theorem metadata_iff (hmode : o.mode ≠ .none) :
    tokens .code (writeMetadata o ++ r) = tokens .code (writeMetadata o.harmless ++ r') ↔
      tokens .literal (pasted o.validity) = [] ∧ tokens .code r = tokens .code r' := by
  obtain ⟨hend, htokens⟩ := after_prices o
  have hcomma : Plain [44] := by decide
  obtain ⟨hquote, hslash, hdollar⟩ := hcomma 44 (List.mem_singleton_self _)
  have hy : tokens .literal (marked false (44 :: o.prices)) ≠ [] := by
    rw [(tokens_cons_plain false hquote hslash hdollar _).1]
    exact htokens
  rw [writeMetadata_eq o hmode, writeMetadata_eq o.harmless hmode]
  refine (tokens_hole_plain hcomma (after_start o) contained_x hy).trans ?_
  rw [hend]
  rfl

theorem after_expiry : Place.code.after expiryHead = .literal ∧
    Place.literal.after expiryTail = .code := by decide +kernel

theorem append_ne {α : Type} {l l' a b : List α} (n : ℕ) (hl : n ≤ l.length)
    (hl' : n ≤ l'.length) (h : l.take n ≠ l'.take n) : l ++ a ≠ l' ++ b := by
  intro heq
  have htake := congrArg (List.take n) heq
  rw [List.take_append_of_le_length hl, List.take_append_of_le_length hl'] at htake
  exact h htake

/-- What a text makes of an open backslash, seen from its first two tokens. -/
theorem tokens_escape_ne {y : List UInt8} (r r' : Script)
    (h : 2 ≤ (tokens .escape (marked false y)).length ∧
      2 ≤ (tokens .literal (marked false y)).length ∧
      (tokens .escape (marked false y)).take 2 ≠ (tokens .literal (marked false y)).take 2) :
    tokens .escape (marked false y ++ r) ≠ tokens .literal (marked false y ++ r') := by
  rw [tokens_append, tokens_append]
  exact append_ne 2 h.1 h.2.1 h.2.2

theorem expiry_iff :
    tokens .code (writeExpiryBlock o ++ r) = tokens .code (writeExpiryBlock o.harmless ++ r') ↔
      contained (bytes o.validity) = true ∧ tokens .code r = tokens .code r' := by
  have hy : tokens .literal (marked false expiryTail) ≠ [] := by decide
  have htells := tokens_escape_ne (y := expiryTail) r r' (by decide +kernel)
  rw [writeExpiryBlock_eq, writeExpiryBlock_eq]
  refine (tokens_hole_told after_expiry.1 contained_x hy htells).trans ?_
  rw [after_expiry.2]

/-- The texts of the webhook block around its two values. -/
def webhookParts : List UInt8 × List UInt8 × List UInt8 × List UInt8 :=
  (bytes ":do \x7b\n" ++
      bytes "  /tool fetch mode=http http-method=post keep-result=no url=(\"",
    ["\") http-data=(", "\"", "user=", "\"", " . "].flatMap bytes,
    ["$", "user", " . ", "\"", "&mac=", "\"", " . ", "$", "\"mac-address\"", " . ", "\"", "&ip=",
      "\"", " . ", "$", "address", " . ", "\"", "&profile="].flatMap bytes,
    bytes "\"" ++ (bytes ");\n" ++ bytes "\x7d on-error=\x7b\x7d\n"))

theorem writeWebhookBlock_eq (hurl : o.webhookURL ≠ "") : writeWebhookBlock o =
    marked false webhookParts.1 ++ pasted o.webhookURL ++ marked false webhookParts.2.1 ++
      (marked false webhookParts.2.2.1 ++ pasted o.profileName ++
        marked false webhookParts.2.2.2 ++ []) := by
  have hnothing : pasted "" = [] := rfl
  simp only [writeWebhookBlock, if_neg hurl, webhookParts, own, marked_append, List.append_assoc,
    List.append_nil, concatenation, httpData, Operand.script, List.map_cons, List.map_nil,
    List.intercalate_cons_cons, List.intercalate_singleton, hnothing, List.flatMap_cons,
    List.flatMap_nil]

theorem after_webhook : Place.code.after webhookParts.1 = .literal ∧
    Place.literal.after webhookParts.2.1 = .code ∧
    Place.code.after webhookParts.2.2.1 = .literal := by decide

theorem webhook_iff :
    tokens .code (writeWebhookBlock o) = tokens .code (writeWebhookBlock o.harmless) ↔
      (o.webhookURL ≠ "" → contained (bytes o.webhookURL) = true ∧
        contained (bytes o.profileName) = true) := by
  by_cases hurl : o.webhookURL = ""
  · have hurl' : o.harmless.webhookURL = "" := by
      rw [Options.harmless]
      exact if_pos hurl
    rw [writeWebhookBlock, writeWebhookBlock, if_pos hurl, if_pos hurl']
    exact iff_of_true rfl fun hne ↦ absurd hurl hne
  · have hurl' : o.harmless.webhookURL = "x" := by
      rw [Options.harmless]
      exact if_neg hurl
    have hne : o.harmless.webhookURL ≠ "" := by
      rw [hurl']
      decide
    have hy : tokens .literal (marked false webhookParts.2.1) ≠ [] := by decide
    have hy' : tokens .literal (marked false webhookParts.2.2.2) ≠ [] := by decide
    have htells : ∀ r r', tokens .escape (marked false webhookParts.2.1 ++ r) ≠
        tokens .literal (marked false webhookParts.2.1 ++ r') :=
      fun r r' ↦ tokens_escape_ne r r' (by decide)
    have htells' : tokens .escape (marked false webhookParts.2.2.2 ++ []) ≠
        tokens .literal (marked false webhookParts.2.2.2 ++ []) := by decide
    have hfirst := contained_x
    rw [← hurl'] at hfirst
    rw [writeWebhookBlock_eq o hurl, writeWebhookBlock_eq _ hne]
    refine (tokens_hole_told after_webhook.1 hfirst hy (htells _ _)).trans ?_
    rw [after_webhook.2.1]
    refine (and_congr_right fun _ ↦
      tokens_hole_told after_webhook.2.2 contained_x hy' htells').trans ?_
    simp [hurl]

end Blocks

theorem after_lockMAC : Place.code.after (writeLockMACBlock.map Prod.snd) = .code := by
  decide +kernel

theorem intact_iff (o : Options) : Intact o ↔ (o.mode ≠ .none →
    contained (bytes o.validity) = true ∧ (o.webhookURL ≠ "" →
      contained (bytes o.webhookURL) = true ∧ contained (bytes o.profileName) = true)) := by
  unfold Intact build
  by_cases hmode : o.mode = .none
  · have hmode' : o.harmless.mode = .none := hmode
    rw [if_pos hmode, if_pos hmode', writeMetadata, writeMetadata, if_pos hmode, if_pos hmode']
    exact iff_of_true rfl fun hne ↦ absurd hmode hne
  · have hmode' : o.harmless.mode ≠ .none := hmode
    have hlock : o.harmless.lockMAC = o.lockMAC := rfl
    have hsilent : contained (bytes o.validity) = true →
        tokens .literal (pasted o.validity) = [] := fun h ↦ (tokens_of_contained true h).1
    have hrest : tokens .code ((if o.lockMAC then writeLockMACBlock else []) ++
          writeWebhookBlock o) =
        tokens .code ((if o.lockMAC then writeLockMACBlock else []) ++
          writeWebhookBlock o.harmless) ↔
        tokens .code (writeWebhookBlock o) = tokens .code (writeWebhookBlock o.harmless) := by
      split_ifs
      · rw [tokens_append, tokens_append, after_lockMAC, List.append_cancel_left_eq]
      · rfl
    rw [if_neg hmode, if_neg hmode', List.append_assoc, List.append_assoc, metadata_iff o hmode,
      expiry_iff, hlock, hrest, webhook_iff]
    exact ⟨fun h _ ↦ h.2, fun h ↦ ⟨hsilent (h hmode).1, h hmode⟩⟩

end OnLogin

end Rosmon.Scripts
