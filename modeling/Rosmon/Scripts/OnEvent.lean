import Rosmon.Scripts.OnLogin

namespace Rosmon.Scripts

open Go Library Mikrotik

namespace OnEvent

structure Options where
  profileName : String
  mode : ExpiredMode
  deriving DecidableEq

def actionForMode : ExpiredMode → List UInt8
  | .remove | .removeRecord => bytes "/ip hotspot user remove $i"
  | .notice | .noticeRecord => bytes "/ip hotspot user set limit-uptime=1s $i"
  | .none => bytes ":log warning \"onevent: unsupported mode \"0\"\""

/-- The template as far as its first placeholder. -/
def eventHead : List UInt8 :=
  [":local dateint do=\x7b\n",
    "  :local montharray (\"jan\",\"feb\",\"mar\",\"apr\",\"may\",\"jun\",",
    "\"jul\",\"aug\",\"sep\",\"oct\",\"nov\",\"dec\");\n",
    "  :local days  [:pick $d 4 6];\n",
    "  :local month [:pick $d 0 3];\n",
    "  :local year  [:pick $d 7 11];\n",
    "  :local monthint ([:find $montharray $month]);\n",
    "  :local month ($monthint + 1);\n",
    "  :if ([len $month] = 1) do=\x7b\n",
    "    :local zero (\"0\");\n",
    "    :return [:tonum (\"$year$zero$month$days\")];\n",
    "  \x7d else=\x7b\n",
    "    :return [:tonum (\"$year$month$days\")];\n",
    "  \x7d\n",
    "\x7d;\n",
    ":local timeint do=\x7b\n",
    "  :local hours   [:pick $t 0 2];\n",
    "  :local minutes [:pick $t 3 5];\n",
    "  :return ($hours * 60 + $minutes);\n",
    "\x7d;\n",
    ":local date    [/system clock get date];\n",
    ":local time    [/system clock get time];\n",
    ":local today   [$dateint d=$date];\n",
    ":local curtime [$timeint t=$time];\n",
    ":foreach i in [/ip hotspot user find where profile=\""].flatMap bytes

/-- What stands between the placeholders. -/
def eventMiddle : List UInt8 :=
  ["\"] do=\x7b\n",
    "  :local comment [/ip hotspot user get $i comment];\n",
    "  :local name    [/ip hotspot user get $i name];\n",
    "  :local gettime [:pic $comment 12 20];\n",
    "  :if ([:pic $comment 3] = \"/\" and [:pic $comment 6] = \"/\") do=\x7b\n",
    "    :local expd [$dateint d=$comment];\n",
    "    :local expt [$timeint t=$gettime];\n",
    "    :if (\n",
    "      ($expd < $today and $expt < $curtime) or\n",
    "      ($expd < $today and $expt > $curtime) or\n",
    "      ($expd = $today and $expt < $curtime)\n",
    "    ) do=\x7b\n",
    "      "].flatMap bytes

def eventTail : List UInt8 :=
  [";\n",
    "      [/ip hotspot active remove [find where user=$name]];\n",
    "    \x7d;\n",
    "  \x7d;\n",
    "\x7d;\n"].flatMap bytes

def profileMark : List UInt8 := bytes "<PROFILE>"

def actionMark : List UInt8 := bytes "<ACTION>"

def build (o : Options) : List UInt8 :=
  let out := replaceAll (eventHead ++ profileMark ++ (eventMiddle ++ actionMark ++ eventTail))
    profileMark (bytes o.profileName)
  replaceAll out actionMark (actionForMode o.mode)

/-- What is put in stands where the placeholders of the template stood, and nowhere else. -/
def FillsOwn (o : Options) : Prop :=
  build o = eventHead ++ bytes o.profileName ++ eventMiddle ++ actionForMode o.mode ++ eventTail

theorem replace_profile (name : List UInt8) :
    replaceAll (eventHead ++ profileMark ++ (eventMiddle ++ actionMark ++ eventTail))
      profileMark name = eventHead ++ name ++ eventMiddle ++ actionMark ++ eventTail := by
  have hmark : profileMark = 60 :: bytes "PROFILE>" := by decide
  have hhead : (60 : UInt8) ∉ eventHead := by decide +kernel
  have hrest : cut profileMark (eventMiddle ++ actionMark ++ eventTail) = none := by
    decide +kernel
  have hne : profileMark ≠ [] := by decide
  have hcloses : Closes profileMark eventHead := hmark ▸ closes_of_notMem hhead
  rw [replaceAll_once hne hcloses ((cut_eq_none hne).mp hrest)]
  simp only [List.append_assoc]

theorem closes_action (name : List UInt8) :
    Closes actionMark (eventHead ++ name ++ eventMiddle) ↔ ¬actionMark <:+: name := by
  have hne : actionMark ≠ [] := by decide
  have hblank : (32 : UInt8) ∉ actionMark := by decide
  have hquote : quoteMark ∉ actionMark := by decide
  have hhead : eventHead = eventHead.dropLast ++ [quoteMark] := by decide +kernel
  have hmiddle : eventMiddle = quoteMark :: eventMiddle.tail.dropLast ++ [32] := by
    decide +kernel
  have hbefore : ¬actionMark <:+: eventHead.dropLast :=
    (cut_eq_none hne).mp (by decide +kernel)
  have hbehind : ¬actionMark <:+: eventMiddle.tail.dropLast :=
    (cut_eq_none hne).mp (by decide +kernel)
  have hwhole : eventHead ++ name ++ eventMiddle = eventHead.dropLast ++ quoteMark ::
      (name ++ quoteMark :: eventMiddle.tail.dropLast) ++ [32] := by
    rw [hmiddle]
    nth_rewrite 1 [hhead]
    simp only [List.append_assoc, List.cons_append, List.nil_append, List.tail_cons,
      List.dropLast_concat]
  rw [hwhole, closes_concat_iff hne hblank, infix_append_cons_iff hquote,
    infix_append_cons_iff hquote, or_iff_right hbefore, or_iff_left hbehind]

theorem fillsOwn_iff (o : Options) : FillsOwn o ↔ ¬actionMark <:+: bytes o.profileName := by
  have hne : actionMark ≠ [] := by decide
  have htail : ¬actionMark <:+: eventTail := (cut_eq_none hne).mp (by decide)
  have hlen : (actionForMode o.mode).length ≠ actionMark.length := by
    cases o.mode <;> decide
  rw [FillsOwn, build, replace_profile]
  constructor
  · intro heq hin
    have hinside : actionMark <:+: eventHead ++ bytes o.profileName ++ eventMiddle :=
      hin.trans ⟨eventHead, eventMiddle, rfl⟩
    exact replaceAll_ne hne hlen hinside heq
  · intro hnot
    exact replaceAll_once hne ((closes_action _).mpr hnot) htail

end OnEvent

/-- The two scripts take what is put into them for text, and only that, exactly if the values in
the first are contained in their literals and the one in the second holds no placeholder. -/
theorem values_stay_values_iff (o : OnLogin.Options) (e : OnEvent.Options) :
    OnLogin.Intact o ∧ OnEvent.FillsOwn e ↔
      (o.mode ≠ .none → contained (bytes o.validity) = true ∧
        (o.webhookURL ≠ "" →
          contained (bytes o.webhookURL) = true ∧ contained (bytes o.profileName) = true)) ∧
      ¬OnEvent.actionMark <:+: bytes e.profileName :=
  and_congr (OnLogin.intact_iff o) (OnEvent.fillsOwn_iff e)

/-- A name that ends its literal and brings a command, and one that holds a placeholder. -/
theorem names_that_act :
    ¬OnLogin.Intact
      { mode := .remove
        validity := "1d"
        price := 5000
        sellPrice := 4500
        lockMAC := false
        webhookURL := "http://192.168.1.10:8080/api/v1/hook/hotspot/login/1"
        profileName := "promo\"); /system reboot; :put (\"" } ∧
      ¬OnEvent.FillsOwn ⟨"promo<ACTION>", .remove⟩ := by
  rw [OnLogin.intact_iff, OnEvent.fillsOwn_iff, ← cut_eq_none (by decide)]
  decide

end Rosmon.Scripts
