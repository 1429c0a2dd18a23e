import Rosmon.Library.Html
import Rosmon.Web.LiveEvents
import Rosmon.Web.Numbers

namespace Rosmon.Web.Printing

open Go Library Library.Html

inductive PrintTemplate
  | default
  | small
  | thermal
  deriving DecidableEq

structure GeneratedVoucher where
  username : String
  password : String
  comment : String
  deriving DecidableEq

/-- The lot that the vouchers were made in. -/
structure Meta where
  profile : String
  validity : String
  sellingPrice : Number
  title : Option String
  hotspotName : Option String
  loginUrl : Option String
  timeLimit : Option String
  dataLimit : Option String

structure PrintJob where
  template : PrintTemplate
  vouchers : List GeneratedVoucher
  batch : Meta

section Shared

/-- `replace(/c/g, by)` -/
def replacing (c : Char) (new : String) (d : Char) : List Char :=
  if d = c then new.toList else [d]

def replace (c : Char) (new s : String) : String :=
  String.ofList (s.toList.flatMap (replacing c new))

def escapeHtml (value : String) : String :=
  replace '\'' "&#039;" (replace '"' "&quot;" (replace '>' "&gt;" (replace '<' "&lt;"
    (replace '&' "&amp;" value))))

def qrImageUrl (data : String) (size : ℕ) : String :=
  let side := String.ofList (itoa size)
  "https://api.qrserver.com/v1/create-qr-code/?size=" ++ side ++ "x" ++ side ++ "&data=" ++
    Live.encodeURIComponent data

def unitName : Char → Option String
  | 'd' => some "hari"
  | 'h' => some "jam"
  | 'w' => some "minggu"
  | 'm' => some "bulan"
  | _ => none

def humanizeValidity (v : String) : String :=
  let s := trim v.toList
  match s.getLast?.bind unitName with
  | none => String.ofList s
  | some unit =>
    let num := s.dropLast
    if num ≠ [] ∧ num.all isDigit then String.ofList num ++ " " ++ unit else String.ofList s

/-- The first of these texts that is there and not empty, else the last. -/
def orElse (a : Option String) (b : String) : String :=
  match a with
  | some s => if s = "" then b else s
  | none => b

def Meta.name (m : Meta) : String := orElse m.hotspotName (orElse m.title m.profile)

end Shared

def SHARED_CSS : String := "
  body \x7b
    color: #000;
    background: #fff;
    font-size: 14px;
    font-family: 'Helvetica', Arial, sans-serif;
    margin: 0;
    padding: 8px;
    -webkit-print-color-adjust: exact;
    print-color-adjust: exact;
  \x7d
  table.voucher \x7b
    display: inline-block;
    border: 2px solid #000;
    margin: 2px;
    vertical-align: top;
    border-collapse: collapse;
  \x7d
  table.voucher td, table.voucher th \x7b padding: 2px 4px; \x7d
  .num \x7b float: right; display: inline-block; \x7d
  .rotate \x7b max-width: 15px; white-space: nowrap; vertical-align: bottom; padding-right: 5px; \x7d
  .rotate > div \x7b transform: rotate(-90deg); \x7d
  .qrcode \x7b height: 60px; width: 60px; \x7d
  @page \x7b size: auto; margin: 8mm 3mm 3mm 7mm; \x7d
  @media print \x7b
    body \x7b padding: 0; \x7d
    table \x7b page-break-after: auto \x7d
    tr \x7b page-break-inside: avoid; page-break-after: auto \x7d
    td \x7b page-break-inside: avoid; page-break-after: auto \x7d
  \x7d
"

def wrapDocument (title css body : String) : String :=
  "<!DOCTYPE html>
<html lang=\"id\">
<head>
<meta charset=\"utf-8\" />
<title>" ++ escapeHtml title ++ "</title>
<style>" ++ SHARED_CSS ++ css ++ "</style>
</head>
<body>
" ++ body ++ "
</body>
</html>"

section Render

variable (rupiah : Number → String) (now : String)

def defaultCss : String := "
    .vc \x7b width:100%; font-weight:bold; font-size:18px; text-align:center; \x7d
    .up \x7b width:100%; font-weight:bold; font-size:13px; text-align:left; \x7d
    .qrcode \x7b height:60px; width:60px; \x7d
  "

def thermalCss : String := "
    .price \x7b font-size: 20px; \x7d
    .qrcode \x7b height:100px; width:100px; \x7d
  "

def GeneratedVoucher.isVoucher (v : GeneratedVoucher) : Bool := v.username = v.password

/-- What the code on a voucher is for. -/
def GeneratedVoucher.login (v : GeneratedVoucher) : String :=
  if v.isVoucher then v.username else v.username ++ ":" ++ v.password

def defaultCard (m : Meta) (v : GeneratedVoucher) (i : ℕ) : String :=
  let priceStr := "Rp " ++ rupiah m.sellingPrice
  let validity := escapeHtml (humanizeValidity m.validity)
  let timeLimit := escapeHtml (m.timeLimit.getD "")
  let dataLimit := escapeHtml (m.dataLimit.getD "")
  let hotspotName := escapeHtml m.name
  let loginUrl := escapeHtml (m.loginUrl.getD "")
  let username := escapeHtml v.username
  let password := escapeHtml v.password
  let qr := escapeHtml (qrImageUrl v.login 60)
  let creds :=
    if v.isVoucher then "<td class=\"vc\">" ++ username ++ "</td>"
    else "<td class=\"up\">User: " ++ username ++ "<br>Pass: " ++ password ++ "</td>"
  let number := String.ofList (itoa (i + 1))
  let loginRow :=
    if loginUrl ≠ "" then
      "<td colspan=\"3\" style=\"font-size:10px;\">Login: http://" ++ loginUrl ++
        " <span class=\"num\">[" ++ number ++ "]</span></td>"
    else
      "<td colspan=\"3\" style=\"font-size:10px;\"><span class=\"num\">[" ++ number ++
        "]</span></td>"
  "
      <table class=\"voucher\" style=\"width:230px;\">
        <tbody>
          <tr>
            <td style=\"font-weight:bold;border-right:2px dashed #000;\" class=\"rotate\" rowspan=\"4\"><div>" ++ escapeHtml priceStr ++ "</div></td>
            <td style=\"font-weight:bold;\" colspan=\"2\">" ++ hotspotName ++ "</td>
            <td rowspan=\"3\"><img class=\"qrcode\" src=\"" ++ qr ++ "\" alt=\"qr\"></td>
          </tr>
          <tr>" ++ creds ++ "</tr>
          <tr>
            <td style=\"font-size:10px;\">" ++ validity ++ " " ++ timeLimit ++ " " ++ dataLimit ++ "</td>
          </tr>
          <tr>" ++ loginRow ++ "</tr>
        </tbody>
      </table>"

def renderDefault (job : PrintJob) : String :=
  let cards := String.join (job.vouchers.zipIdx.map fun p ↦ defaultCard rupiah job.batch p.1 p.2)
  wrapDocument "Voucher — Default" defaultCss cards

def smallCard (m : Meta) (v : GeneratedVoucher) (i : ℕ) : String :=
  let priceStr := "Rp " ++ rupiah m.sellingPrice
  let validity := escapeHtml (humanizeValidity m.validity)
  let timeLimit := escapeHtml (m.timeLimit.getD "")
  let dataLimit := escapeHtml (m.dataLimit.getD "")
  let hotspotName := escapeHtml m.name
  let username := escapeHtml v.username
  let password := escapeHtml v.password
  let headRow :=
    if v.isVoucher then "<td colspan=\"2\" style=\"font-size:10px;\">Voucher</td>"
    else "<td style=\"font-size:10px;\">Username</td><td style=\"font-size:10px;\">Password</td>"
  let credRow :=
    if v.isVoucher then
      "<td colspan=\"2\" style=\"border:1px solid #000;font-weight:bold;\">" ++ username ++ "</td>"
    else
      "<td style=\"border:1px solid #000;font-weight:bold;\">" ++ username ++
        "</td><td style=\"border:1px solid #000;font-weight:bold;\">" ++ password ++ "</td>"
  "
      <table class=\"voucher\" style=\"width:140px;\">
        <thead>
          <tr>
            <th colspan=\"2\" style=\"width:100%;text-align:left;font-size:12px;font-weight:bold;border-bottom:1px solid #000;\">" ++ hotspotName ++ "<span class=\"num\">" ++ String.ofList (itoa (i + 1)) ++ "</span></th>
          </tr>
        </thead>
        <tbody>
          <tr style=\"font-size:10px;text-align:center;\">" ++ headRow ++ "</tr>
          <tr style=\"font-size:12px;text-align:center;\">" ++ credRow ++ "</tr>
        </tbody>
        <tfoot>
          <tr style=\"font-size:10px;text-align:center;\">
            <th colspan=\"2\">" ++ validity ++ " " ++ timeLimit ++ " " ++ dataLimit ++ " " ++ escapeHtml priceStr ++ "</th>
          </tr>
        </tfoot>
      </table>"

def renderSmall (job : PrintJob) : String :=
  let cards := String.join (job.vouchers.zipIdx.map fun p ↦ smallCard rupiah job.batch p.1 p.2)
  wrapDocument "Voucher — Small" "" cards

def thermalCard (m : Meta) (v : GeneratedVoucher) : String :=
  let priceStr := "Rp " ++ rupiah m.sellingPrice
  let validity := escapeHtml (humanizeValidity m.validity)
  let timeLimit := escapeHtml (m.timeLimit.getD "")
  let dataLimit := escapeHtml (m.dataLimit.getD "")
  let hotspotName := escapeHtml m.name
  let loginUrl := escapeHtml (m.loginUrl.getD "")
  let stamp := escapeHtml now
  let username := escapeHtml v.username
  let password := escapeHtml v.password
  let qr := escapeHtml (qrImageUrl v.login 100)
  let comment := escapeHtml v.comment
  let credBlock :=
    if v.isVoucher then
      "<tr><td style=\"font-size:12px;\">Kode Voucher</td></tr>
           <tr><td style=\"border:1px solid #000;font-weight:bold;font-size:16px;\">" ++ username ++ "</td></tr>"
    else
      "<tr><td style=\"width:50%;\">Username</td><td>Password</td></tr>
           <tr style=\"font-size:14px;\"><td style=\"border:1px solid #000;font-weight:bold;\">" ++ username ++ "</td><td style=\"border:1px solid #000;font-weight:bold;\">" ++ password ++ "</td></tr>"
  let loginRow :=
    if loginUrl ≠ "" then
      "<tr><td colspan=\"2\" style=\"font-weight:bold;font-size:12px;\">Login: http://" ++ loginUrl ++
        "</td></tr>"
    else ""
  "
      <table class=\"voucher\" style=\"width:180px;\">
        <tbody>
          <tr><td style=\"text-align:center;font-size:14px;font-weight:bold;\">" ++ hotspotName ++ "</td></tr>
          <tr><td style=\"text-align:center;font-size:12px;border-bottom:1px solid #000;\"><span>" ++ stamp ++ "</span></td></tr>
          <tr>
            <td>
              <table style=\"text-align:center;width:170px;font-size:12px;\">
                <tbody>
                  <tr><td><table style=\"width:100%;\"><tbody>" ++ credBlock ++ "</tbody></table></td></tr>
                  <tr><td colspan=\"2\" style=\"border-top:1px solid #000;font-weight:bold;font-size:14px;\">" ++ validity ++ " " ++ timeLimit ++ " " ++ dataLimit ++ "</td></tr>
                  <tr><td><span class=\"price\">" ++ escapeHtml priceStr ++ "</span></td></tr>
                  <tr><td colspan=\"2\"><img class=\"qrcode\" style=\"height:100px;width:100px;\" src=\"" ++ qr ++ "\" alt=\"qr\"><br>" ++ comment ++ "</td></tr>
                  " ++ loginRow ++ "
                </tbody>
              </table>
            </td>
          </tr>
        </tbody>
      </table>"

def renderThermal (job : PrintJob) : String :=
  let cards := String.join (job.vouchers.map (thermalCard rupiah now job.batch))
  wrapDocument "Voucher — Thermal" thermalCss cards

/-- What the print preview writes into its frame. -/
def buildPrintHtml (job : PrintJob) : String :=
  match job.template with
  | .default => renderDefault rupiah job
  | .small => renderSmall rupiah job
  | .thermal => renderThermal rupiah now job

end Render

section Pages

variable (rupiah : Number → String) (now : String)

def tags (m : String) : Piece := .markup m.toList

/-- The document with what is in its body. -/
def document (title css : String) (body : List Piece) : List Piece :=
  [tags "<!DOCTYPE html>
<html lang=\"id\">
<head>
<meta charset=\"utf-8\" />
<title>", .text title, tags "</title>
<style>", tags SHARED_CSS, tags css, tags "</style>
</head>
<body>
"] ++ body ++ [tags "
</body>
</html>"]

/-- The price, the validity and the limits, as each card has them. -/
def price (m : Meta) : Piece := .text ("Rp " ++ rupiah m.sellingPrice)

def terms (m : Meta) : List Piece :=
  [.text (humanizeValidity m.validity), tags " ", .text (m.timeLimit.getD ""), tags " ",
    .text (m.dataLimit.getD "")]

def number (i : ℕ) : Piece := .text (String.ofList (itoa (i + 1)))

def defaultPieces (m : Meta) (v : GeneratedVoucher) (i : ℕ) : List Piece :=
  [tags "
      <table class=\"voucher\" style=\"width:230px;\">
        <tbody>
          <tr>
            <td style=\"font-weight:bold;border-right:2px dashed #000;\" class=\"rotate\" rowspan=\"4\"><div>",
    price rupiah m, tags "</div></td>
            <td style=\"font-weight:bold;\" colspan=\"2\">", .text m.name, tags "</td>
            <td rowspan=\"3\"><img class=\"qrcode\" src=\"", .text (qrImageUrl v.login 60),
    tags "\" alt=\"qr\"></td>
          </tr>
          <tr>"] ++
    (if v.isVoucher then [tags "<td class=\"vc\">", .text v.username, tags "</td>"]
      else
        [tags "<td class=\"up\">User: ", .text v.username, tags "<br>Pass: ",
          .text v.password, tags "</td>"]) ++
    [tags "</tr>
          <tr>
            <td style=\"font-size:10px;\">"] ++ terms m ++ [tags "</td>
          </tr>
          <tr>"] ++
    (if m.loginUrl.getD "" ≠ "" then
        [tags "<td colspan=\"3\" style=\"font-size:10px;\">Login: http://",
          .text (m.loginUrl.getD ""), tags " <span class=\"num\">[", number i,
          tags "]</span></td>"]
      else
        [tags "<td colspan=\"3\" style=\"font-size:10px;\"><span class=\"num\">[", number i,
          tags "]</span></td>"]) ++
    [tags "</tr>
        </tbody>
      </table>"]

def smallPieces (m : Meta) (v : GeneratedVoucher) (i : ℕ) : List Piece :=
  [tags "
      <table class=\"voucher\" style=\"width:140px;\">
        <thead>
          <tr>
            <th colspan=\"2\" style=\"width:100%;text-align:left;font-size:12px;font-weight:bold;border-bottom:1px solid #000;\">",
    .text m.name, tags "<span class=\"num\">", number i, tags "</span></th>
          </tr>
        </thead>
        <tbody>
          <tr style=\"font-size:10px;text-align:center;\">"] ++
    (if v.isVoucher then [tags "<td colspan=\"2\" style=\"font-size:10px;\">Voucher</td>"]
      else
        [tags "<td style=\"font-size:10px;\">Username</td><td style=\"font-size:10px;\">Password</td>"]) ++
    [tags "</tr>
          <tr style=\"font-size:12px;text-align:center;\">"] ++
    (if v.isVoucher then
        [tags "<td colspan=\"2\" style=\"border:1px solid #000;font-weight:bold;\">",
          .text v.username, tags "</td>"]
      else
        [tags "<td style=\"border:1px solid #000;font-weight:bold;\">", .text v.username,
          tags "</td><td style=\"border:1px solid #000;font-weight:bold;\">",
          .text v.password, tags "</td>"]) ++
    [tags "</tr>
        </tbody>
        <tfoot>
          <tr style=\"font-size:10px;text-align:center;\">
            <th colspan=\"2\">"] ++ terms m ++ [tags " ", price rupiah m, tags "</th>
          </tr>
        </tfoot>
      </table>"]

def thermalPieces (m : Meta) (v : GeneratedVoucher) : List Piece :=
  [tags "
      <table class=\"voucher\" style=\"width:180px;\">
        <tbody>
          <tr><td style=\"text-align:center;font-size:14px;font-weight:bold;\">", .text m.name,
    tags "</td></tr>
          <tr><td style=\"text-align:center;font-size:12px;border-bottom:1px solid #000;\"><span>",
    .text now, tags "</span></td></tr>
          <tr>
            <td>
              <table style=\"text-align:center;width:170px;font-size:12px;\">
                <tbody>
                  <tr><td><table style=\"width:100%;\"><tbody>"] ++
    (if v.isVoucher then
        [tags "<tr><td style=\"font-size:12px;\">Kode Voucher</td></tr>
           <tr><td style=\"border:1px solid #000;font-weight:bold;font-size:16px;\">",
          .text v.username, tags "</td></tr>"]
      else
        [tags "<tr><td style=\"width:50%;\">Username</td><td>Password</td></tr>
           <tr style=\"font-size:14px;\"><td style=\"border:1px solid #000;font-weight:bold;\">",
          .text v.username, tags "</td><td style=\"border:1px solid #000;font-weight:bold;\">",
          .text v.password, tags "</td></tr>"]) ++
    [tags "</tbody></table></td></tr>
                  <tr><td colspan=\"2\" style=\"border-top:1px solid #000;font-weight:bold;font-size:14px;\">"] ++
    terms m ++ [tags "</td></tr>
                  <tr><td><span class=\"price\">", price rupiah m, tags "</span></td></tr>
                  <tr><td colspan=\"2\"><img class=\"qrcode\" style=\"height:100px;width:100px;\" src=\"",
    .text (qrImageUrl v.login 100), tags "\" alt=\"qr\"><br>", .text v.comment,
    tags "</td></tr>
                  "] ++
    (if m.loginUrl.getD "" ≠ "" then
        [tags "<tr><td colspan=\"2\" style=\"font-weight:bold;font-size:12px;\">Login: http://",
          .text (m.loginUrl.getD ""), tags "</td></tr>"]
      else []) ++
    [tags "
                </tbody>
              </table>
            </td>
          </tr>
        </tbody>
      </table>"]

def cards (job : PrintJob) : List (List Piece) :=
  match job.template with
  | .default => job.vouchers.zipIdx.map fun p ↦ defaultPieces rupiah job.batch p.1 p.2
  | .small => job.vouchers.zipIdx.map fun p ↦ smallPieces rupiah job.batch p.1 p.2
  | .thermal => job.vouchers.map (thermalPieces rupiah now job.batch)

def title : PrintTemplate → String
  | .default => "Voucher — Default"
  | .small => "Voucher — Small"
  | .thermal => "Voucher — Thermal"

def css : PrintTemplate → String
  | .default => defaultCss
  | .small => ""
  | .thermal => thermalCss

/-- The page as it is meant, with each value as the text that it is. -/
def page (job : PrintJob) : List Piece :=
  document (title job.template) (css job.template) (cards rupiah now job).flatten

end Pages

section Written

variable (rupiah : Number → String) (now : String)

theorem replace_toList (c : Char) (new s : String) :
    (replace c new s).toList = s.toList.flatMap (replacing c new) := by
  simp only [replace, String.toList_ofList]

/-- No replacement is replaced by a later one. -/
theorem escapeHtml_toList (value : String) : (escapeHtml value).toList = escape value.toList := by
  simp only [escapeHtml, replace_toList, List.flatMap_assoc, escape]
  congr 1
  funext c
  unfold escapeChar
  split
  · decide +kernel
  · decide +kernel
  · decide +kernel
  · decide +kernel
  · decide +kernel
  · next hand hlt hgt hquot hapos =>
    have keep {d : Char} {new : String} (h : c = d → False) : replacing d new c = [c] := if_neg h
    simp only [keep hand, keep hlt, keep hgt, keep hquot, keep hapos, List.flatMap_singleton]

theorem escape_of_digits {text : List Char} (h : ∀ c ∈ text, c.isDigit) : escape text = text := by
  have keep (c : Char) (hc : c ∈ text) : escapeChar c = [c] := by
    have digit := h c hc
    unfold escapeChar
    split
    · exact absurd digit (by decide)
    · exact absurd digit (by decide)
    · exact absurd digit (by decide)
    · exact absurd digit (by decide)
    · exact absurd digit (by decide)
    · rfl
  rw [escape, List.flatMap_congr keep]
  simp

theorem escapeChar_ne_nil (c : Char) : escapeChar c ≠ [] := by
  unfold escapeChar
  split <;> simp

theorem escapeHtml_eq_empty (s : String) : escapeHtml s = "" ↔ s = "" := by
  rw [← String.toList_inj, escapeHtml_toList, ← String.toList_eq_nil_iff (b := s)]
  cases h : s.toList with
  | nil => simp [escape]
  | cons c cs => simp [escape, escapeChar_ne_nil]

theorem number_written (i : ℕ) : (number i).written = itoa (i + 1) := by
  have digits (c : Char) (hc : c ∈ itoa (i + 1)) : c.isDigit := by
    rw [itoa, if_neg (by omega)] at hc
    exact isDigit_of_mem_fmtInt hc
  rw [number, Piece.text_written, String.toList_ofList, escape_of_digits digits]

set_option maxRecDepth 2000 in
theorem defaultCard_toList (m : Meta) (v : GeneratedVoucher) (i : ℕ) :
    (defaultCard rupiah m v i).toList =
      (defaultPieces rupiah m v i).flatMap Piece.written := by
  unfold defaultCard defaultPieces
  simp only [ne_eq, escapeHtml_eq_empty]
  by_cases hv : v.isVoucher <;> by_cases hu : m.loginUrl.getD "" = "" <;>
    simp only [hv, hu, number_written, terms, price, tags, Piece.markup_written, Piece.text_written,
      String.toList_append, escapeHtml_toList, String.toList_ofList, List.flatMap_append,
      List.flatMap_cons, List.flatMap_nil, List.append_assoc, List.append_nil, if_true, if_false,
      not_true, not_false_iff, Bool.false_eq_true]

set_option maxRecDepth 2000 in
theorem smallCard_toList (m : Meta) (v : GeneratedVoucher) (i : ℕ) :
    (smallCard rupiah m v i).toList = (smallPieces rupiah m v i).flatMap Piece.written := by
  unfold smallCard smallPieces
  by_cases hv : v.isVoucher <;>
    simp only [hv, number_written, terms, price, tags, Piece.markup_written, Piece.text_written,
      String.toList_append, escapeHtml_toList, String.toList_ofList, List.flatMap_append,
      List.flatMap_cons, List.flatMap_nil, List.append_assoc, List.append_nil, if_true, if_false,
      Bool.false_eq_true]

set_option maxRecDepth 2000 in
theorem thermalCard_toList (m : Meta) (v : GeneratedVoucher) :
    (thermalCard rupiah now m v).toList =
      (thermalPieces rupiah now m v).flatMap Piece.written := by
  unfold thermalCard thermalPieces
  simp only [ne_eq, escapeHtml_eq_empty]
  by_cases hv : v.isVoucher <;> by_cases hu : m.loginUrl.getD "" = "" <;>
    simp only [hv, hu, terms, price, tags, Piece.markup_written, Piece.text_written,
      String.toList_append, escapeHtml_toList, List.flatMap_append,
      List.flatMap_cons, List.flatMap_nil, String.toList_empty,
      List.append_assoc, List.append_nil, if_true, if_false,
      not_true, not_false_iff, Bool.false_eq_true]

theorem document_written (title css : String) {body : List Piece} {written : String}
    (h : written.toList = body.flatMap Piece.written) :
    (wrapDocument title css written).toList =
      (document title css body).flatMap Piece.written := by
  unfold wrapDocument document
  simp only [h, tags, Piece.markup_written, Piece.text_written, String.toList_append,
    escapeHtml_toList, List.flatMap_append, List.flatMap_cons, List.flatMap_nil,
    List.append_assoc, List.append_nil]

theorem join_written {α : Type} {f : α → String} {g : α → List Piece}
    (h : ∀ a, (f a).toList = (g a).flatMap Piece.written) (l : List α) :
    (String.join (l.map f)).toList = (l.map g).flatten.flatMap Piece.written := by
  rw [String.toList_join]
  induction l with
  | nil => rfl
  | cons a l ih =>
    rw [List.map_cons, List.map_cons, List.flatMap_cons, List.flatten_cons, List.flatMap_append,
      h, ih]

/-- What is written is the page that was meant, with its texts escaped. -/
theorem buildPrintHtml_toList (job : PrintJob) :
    (buildPrintHtml rupiah now job).toList = (page rupiah now job).flatMap Piece.written := by
  unfold buildPrintHtml page cards
  cases job.template with
  | default =>
    have cards := join_written (fun p : GeneratedVoucher × ℕ ↦
      defaultCard_toList rupiah job.batch p.1 p.2) job.vouchers.zipIdx
    exact document_written _ _ cards
  | small =>
    have cards := join_written (fun p : GeneratedVoucher × ℕ ↦
      smallCard_toList rupiah job.batch p.1 p.2) job.vouchers.zipIdx
    exact document_written _ _ cards
  | thermal =>
    have cards := join_written (thermalCard_toList rupiah now job.batch) job.vouchers
    exact document_written _ _ cards

end Written

section Read

variable (rupiah : Number → String) (now : String)

/-- A part of a page that begins and ends outside of any tag. -/
def Whole (part : List Piece) : Prop :=
  Html.start.placed part ∧ (thread State.accept Html.start part).1 = Html.start

instance (part : List Piece) : Decidable (Whole part) := inferInstanceAs (Decidable (_ ∧ _))

theorem eq_start_of_hide {s : State} (h : s.hide = Html.start) : s = Html.start := by
  obtain ⟨m, reference⟩ := s
  have hm := congrArg State.mode h
  have hreference := congrArg State.reference h
  cases m <;> simp_all [State.hide, Mode.hide, Html.start]

/-- The texts in it do not matter. -/
theorem Whole.congr {part other : List Piece} (h : Whole other)
    (hide : part.map Piece.hide = other.map Piece.hide) : Whole part := by
  refine ⟨(State.placed_congr rfl hide).trans h.1, eq_start_of_hide ?_⟩
  rw [(State.shape_page rfl hide).1, h.2]
  rfl

theorem Whole.append {part rest : List Piece} (h : Whole part) (hrest : Whole rest) :
    Whole (part ++ rest) := by
  constructor
  · rw [State.placed_append, h.1, h.2, hrest.1]
    rfl
  · rw [thread_append, h.2, hrest.2]

theorem Whole.flatten {parts : List (List Piece)} (h : ∀ part ∈ parts, Whole part) :
    Whole parts.flatten := by
  induction parts with
  | nil => exact ⟨rfl, rfl⟩
  | cons part parts ih =>
    apply Whole.append (h part List.mem_cons_self)
    exact ih fun p hp ↦ h p (List.mem_cons_of_mem _ hp)

/-- The lots and the vouchers are told apart by no more than this. -/
def SameKind (m n : Meta) (v w : GeneratedVoucher) : Prop :=
  v.isVoucher = w.isVoucher ∧ (m.loginUrl.getD "" = "" ↔ n.loginUrl.getD "" = "")

variable {rupiah now}
variable {rupiah' : Number → String} {now' : String} {m n : Meta} {v w : GeneratedVoucher}

/-- What is printed of one voucher. -/
def cardPieces (rupiah : Number → String) (now : String) (template : PrintTemplate) (m : Meta)
    (v : GeneratedVoucher) (i : ℕ) : List Piece :=
  match template with
  | .default => defaultPieces rupiah m v i
  | .small => smallPieces rupiah m v i
  | .thermal => thermalPieces rupiah now m v

theorem cardPieces_hide (template : PrintTemplate) (h : SameKind m n v w) (i j : ℕ) :
    (cardPieces rupiah now template m v i).map Piece.hide =
      (cardPieces rupiah' now' template n w j).map Piece.hide := by
  cases template with
  | default =>
    simp only [cardPieces, defaultPieces, h.1, h.2, terms, price, number, tags,
      apply_ite (List.map Piece.hide), List.map_append, List.map_cons, List.map_nil, Piece.hide,
      ne_eq]
  | small =>
    simp only [cardPieces, smallPieces, h.1, terms, price, number, tags,
      apply_ite (List.map Piece.hide), List.map_append, List.map_cons, List.map_nil, Piece.hide]
  | thermal =>
    simp only [cardPieces, thermalPieces, h.1, h.2, terms, price, tags,
      apply_ite (List.map Piece.hide), List.map_append, List.map_cons, List.map_nil, Piece.hide,
      ne_eq]

theorem cards_eq (rupiah : Number → String) (now : String) (job : PrintJob) :
    cards rupiah now job =
      job.vouchers.zipIdx.map fun p ↦ cardPieces rupiah now job.template job.batch p.1 p.2 := by
  unfold cards
  cases job.template with
  | default => rfl
  | small => rfl
  | thermal =>
    -- The slips have no numbers.
    simp only [cardPieces]
    rw [← Function.comp_def (thermalPieces rupiah now job.batch) Prod.fst, ← List.map_map,
      List.zipIdx_map_fst]

/-- One of each kind. -/
def sampleMeta (url : Bool) : Meta :=
  ⟨"", "", 0, none, none, if url then some "a" else none, none, none⟩

def sampleVoucher (voucher : Bool) : GeneratedVoucher := ⟨"", if voucher then "" else "a", ""⟩

theorem exists_sample (m : Meta) (v : GeneratedVoucher) :
    ∃ url voucher, SameKind m (sampleMeta url) v (sampleVoucher voucher) := by
  refine ⟨m.loginUrl.getD "" ≠ "", v.isVoucher, ?_, ?_⟩
  · cases h : v.isVoucher <;> simp [GeneratedVoucher.isVoucher, sampleVoucher]
  · by_cases h : m.loginUrl.getD "" = "" <;> simp [h, sampleMeta]

theorem sample_whole (template : PrintTemplate) (url voucher : Bool) :
    Whole (cardPieces (fun _ ↦ "") "" template (sampleMeta url) (sampleVoucher voucher) 0) := by
  -- The kernel reads a literal's characters fast only when they are written as a list.
  cases template <;>
    (simp only [cardPieces, defaultPieces, smallPieces, thermalPieces, tags]
     repeat rw [String.toList_ofList]
     cases url <;> cases voucher <;> decide +kernel)

variable (rupiah now)

theorem cards_whole (job : PrintJob) {card : List Piece} (h : card ∈ cards rupiah now job) :
    Whole card := by
  rw [cards_eq] at h
  obtain ⟨⟨v, i⟩, -, rfl⟩ := List.mem_map.mp h
  obtain ⟨url, voucher, kind⟩ := exists_sample job.batch v
  exact (sample_whole job.template url voucher).congr (cardPieces_hide job.template kind i 0)

theorem document_whole (template : PrintTemplate) {body : List Piece} (h : Whole body) :
    Whole (document (title template) (css template) body) := by
  unfold document
  apply Whole.append
  · apply Whole.append ?_ h
    cases template <;>
      (simp only [tags, title, css, SHARED_CSS, defaultCss, thermalCss]
       repeat rw [String.toList_ofList]
       decide +kernel)
  · simp only [tags]
    rw [String.toList_ofList]
    decide +kernel

theorem page_whole (job : PrintJob) : Whole (page rupiah now job) := by
  unfold page
  apply document_whole
  exact Whole.flatten fun card h ↦ cards_whole rupiah now job h

/-- Each value that is printed is read as the text that it is, wherever it is in the page. -/
theorem printed_as_meant (job : PrintJob) :
    Html.start.read (buildPrintHtml rupiah now job).toList =
      (Html.start, (thread State.accept Html.start (page rupiah now job)).2) := by
  have whole := page_whole rupiah now job
  rw [buildPrintHtml_toList, State.read_page whole.1]
  exact Prod.ext whole.2 rfl

end Read

section Shape

/-- The jobs have the same template, and their vouchers are of the same kinds. -/
def SameShape (j k : PrintJob) : Prop :=
  j.template = k.template ∧
    j.vouchers.map GeneratedVoucher.isVoucher = k.vouchers.map GeneratedVoucher.isVoucher ∧
      (j.batch.loginUrl.getD "" = "" ↔ k.batch.loginUrl.getD "" = "")

instance (j k : PrintJob) : Decidable (SameShape j k) := inferInstanceAs (Decidable (_ ∧ _ ∧ _))

variable (rupiah rupiah' : Number → String) (now now' : String)

theorem flatten_hide {f g : GeneratedVoucher → ℕ → List Piece}
    (h : ∀ v w i, v.isVoucher = w.isVoucher → (f v i).map Piece.hide = (g w i).map Piece.hide)
    {vs ws : List GeneratedVoucher} (hkinds : vs.map GeneratedVoucher.isVoucher =
      ws.map GeneratedVoucher.isVoucher) (i : ℕ) :
    ((vs.zipIdx i).map fun p ↦ f p.1 p.2).flatten.map Piece.hide =
      ((ws.zipIdx i).map fun p ↦ g p.1 p.2).flatten.map Piece.hide := by
  induction vs generalizing ws i with
  | nil =>
    obtain rfl : ws = [] := by simpa using hkinds.symm
    rfl
  | cons v vs ih =>
    cases ws with
    | nil => simp at hkinds
    | cons w ws =>
      rw [List.map_cons, List.map_cons, List.cons.injEq] at hkinds
      simp only [List.zipIdx_cons, List.map_cons, List.flatten_cons, List.map_append]
      rw [h v w i hkinds.1, ih hkinds.2]

theorem page_hide {j k : PrintJob} (h : SameShape j k) :
    (page rupiah now j).map Piece.hide = (page rupiah' now' k).map Piece.hide := by
  obtain ⟨htemplate, hkinds, hurl⟩ := h
  have body : (cards rupiah now j).flatten.map Piece.hide =
      (cards rupiah' now' k).flatten.map Piece.hide := by
    rw [cards_eq, cards_eq, ← htemplate]
    exact flatten_hide (fun v w i hv ↦ cardPieces_hide j.template ⟨hv, hurl⟩ i i) hkinds 0
  unfold page document
  rw [List.map_append, List.map_append, List.map_append, List.map_append, body, htemplate]

/-- What is printed on the vouchers makes no difference to the tags of the page. -/
theorem values_make_no_tags {j k : PrintJob} (h : SameShape j k) :
    shape (Html.start.read (buildPrintHtml rupiah now j).toList).2 =
      shape (Html.start.read (buildPrintHtml rupiah' now' k).toList).2 := by
  rw [buildPrintHtml_toList, buildPrintHtml_toList, State.read_page (page_whole rupiah now j).1,
    State.read_page (page_whole rupiah' now' k).1]
  exact (State.shape_page rfl (page_hide rupiah rupiah' now now' h)).2

/-- A job of one card. -/
def single (template : PrintTemplate) (name username password : String) : PrintJob where
  template := template
  vouchers := [⟨username, password, ""⟩]
  batch := ⟨"harian", "1d", 0, none, some name, none, none, none⟩

theorem script_printed_as_text :
    shape (Html.start.read (buildPrintHtml (fun _ ↦ "5.000") "1/6/2024, 08.00.00"
        (single .thermal "\"><script>" "</td><script>alert(1)</script>" "b")).toList).2 =
      shape (Html.start.read (buildPrintHtml (fun _ ↦ "5.000") "1/6/2024, 08.00.00"
        (single .thermal "Hotspot" "a" "b")).toList).2 :=
  values_make_no_tags _ _ _ _ ⟨rfl, rfl, Iff.rfl⟩

end Shape

end Rosmon.Web.Printing
