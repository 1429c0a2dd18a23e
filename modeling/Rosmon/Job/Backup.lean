import Rosmon.Go.Itoa
import Rosmon.Go.Map
import Rosmon.Go.Stamp
import Rosmon.Library.Separated
import Rosmon.Library.Shell

namespace Rosmon.Job.Backup

open Go Library Library.Shell

section Paths

/-- The elements of a path so far, the last one first, with one more. -/
def push (rooted : Bool) (stack : List (List Char)) (x : List Char) : List (List Char) :=
  if x = [] ∨ x = ['.'] then stack
  else if x ≠ ['.', '.'] then x :: stack
  else
    match stack with
    | [] => if rooted then [] else [x]
    | top :: rest => if top = ['.', '.'] then x :: stack else rest

/-- `filepath.Clean` -/
def clean (path : List Char) : List Char :=
  let rooted : Bool := path.head? = some '/'
  let cleaned := ['/'].intercalate ((split ['/'] path).foldl (push rooted) []).reverse
  if rooted then '/' :: cleaned else if cleaned = [] then ['.'] else cleaned

/-- `filepath.Join` of a directory and a name. -/
def join (dir name : List Char) : List Char :=
  if dir = [] then clean name else clean (dir ++ '/' :: name)

example : join "./a//b/../c".toList "d".toList = "a/c/d".toList := by decide +kernel

end Paths

section Command

/-- `strings.ReplaceAll(s, "'", "'\\''")`, in quotes. -/
def shellQuote (s : String) : List Char :=
  '\'' :: s.toList.flatMap (fun c ↦ if c = '\'' then "'\\''".toList else [c]) ++ ['\'']

/-- `Format("2006-01-02")` of what the clock shows. -/
def stamp (clock : ℤ) : List Char :=
  appendInt (year clock) 4 ++ '-' :: appendInt (month clock) 2 ++ '-' ::
    appendInt (dayOfMonth clock) 2

def dumpName (clock : ℤ) : List Char := "db-".toList ++ stamp clock ++ ".sql.gz".toList

/-- The command line that `sh -c` is given. -/
def dumpCommand (pgDump dsn : String) (outFile : List Char) : List Char :=
  pgDump.toList ++ ' ' :: shellQuote dsn ++ " | gzip > ".toList ++ outFile

end Command

section Shell

theorem mem_intercalate {sep : List Char} {c : Char} (ps : List (List Char)) :
    (c ∈ sep.intercalate ps → c ∈ sep ∨ ∃ p ∈ ps, c ∈ p) ∧
      ∀ p ∈ ps, c ∈ p → c ∈ sep.intercalate ps := by
  induction ps with
  | nil => simp
  | cons p ps ih =>
    by_cases hps : ps = []
    · subst hps
      simpa using fun h ↦ Or.inr h
    · rw [List.intercalate_cons_of_ne_nil hps]
      constructor
      · intro h
        rcases List.mem_append.mp h with h | h
        · rcases List.mem_append.mp h with h | h
          · exact .inr ⟨p, List.mem_cons_self, h⟩
          · exact .inl h
        · rcases ih.1 h with h | ⟨q, hq, hc⟩
          · exact .inl h
          · exact .inr ⟨q, List.mem_cons_of_mem p hq, hc⟩
      · intro q hq hc
        rcases List.mem_cons.mp hq with rfl | hq
        · simp [hc]
        · exact List.mem_append_right _ (ih.2 q hq hc)

theorem mem_push {rooted : Bool} {stack : List (List Char)} {x y : List Char}
    (h : y ∈ push rooted stack x) : y ∈ stack ∨ y = x := by
  unfold push at h
  split at h
  · exact .inl h
  split at h
  · exact (List.mem_cons.mp h).symm
  cases stack with
  | nil => cases rooted <;> simp_all
  | cons top rest =>
    dsimp only at h
    split at h
    · exact (List.mem_cons.mp h).symm
    · exact .inl (List.mem_cons_of_mem top h)

theorem mem_foldl_push {rooted : Bool} {stack xs : List (List Char)} {y : List Char}
    (h : y ∈ xs.foldl (push rooted) stack) : y ∈ stack ∨ y ∈ xs := by
  induction xs generalizing stack with
  | nil => exact .inl h
  | cons x xs ih =>
    rcases ih h with h | h
    · rcases mem_push h with h | rfl
      · exact .inl h
      · exact .inr List.mem_cons_self
    · exact .inr (List.mem_cons_of_mem x h)

/-- No character is new in a path that is cleaned, but for a dot where nothing is left. -/
theorem mem_clean {path : List Char} {c : Char} (h : c ∈ clean path) :
    c ∈ path ∨ c = '/' ∨ c = '.' := by
  have kept (rooted : Bool)
      (h : c ∈ ['/'].intercalate ((split ['/'] path).foldl (push rooted) []).reverse) :
      c ∈ path ∨ c = '/' := by
    rcases (mem_intercalate _).1 h with h | ⟨p, hp, hc⟩
    · exact .inr (List.mem_singleton.mp h)
    · rcases mem_foldl_push (List.mem_reverse.mp hp) with hp | hp
      · cases hp
      · left
        rw [← join_split (List.cons_ne_nil '/' []) path]
        exact (mem_intercalate _).2 p hp hc
  unfold clean at h
  dsimp only at h
  split_ifs at h
  · rcases List.mem_cons.mp h with rfl | h
    · exact .inr (.inl rfl)
    · exact (kept _ h).imp_right .inl
  · exact .inr (.inr (List.mem_singleton.mp h))
  · exact (kept _ h).imp_right .inl

theorem clean_ne_nil (path : List Char) : clean path ≠ [] := by
  unfold clean
  dsimp only
  split_ifs with hrooted hempty
  · simp
  · simp
  · exact hempty

theorem join_ne_nil (dir name : List Char) : join dir name ≠ [] := by
  unfold join
  split_ifs <;> exact clean_ne_nil _

theorem plain_clean {path : List Char} (h : path.all plain) : (clean path).all plain := by
  rw [List.all_eq_true] at h ⊢
  intro c hc
  rcases mem_clean hc with hc | rfl | rfl
  · exact h c hc
  · decide
  · decide

theorem plain_appendInt (x : ℤ) (width : ℕ) : (appendInt x width).all plain := by
  have hdigits : (fmtInt x.natAbs).all plain := by
    rw [List.all_eq_true]
    intro c hc
    have digit := isDigit_of_mem_fmtInt hc
    simp [plain, Char.isAlphanum, digit]
  have hsign : (if x < 0 then ['-'] else []).all plain := by
    split_ifs <;> decide
  unfold appendInt
  rw [List.all_append, List.all_append, hsign, hdigits]
  simp [show plain '0' = true by decide]

theorem plain_dumpName (clock : ℤ) : (dumpName clock).all plain := by
  simp only [dumpName, stamp, List.all_append, List.all_cons, plain_appendInt,
    Bool.true_and, Bool.and_true]
  decide

theorem plain_join {dir name : List Char} (hdir : dir.all plain) (hname : name.all plain) :
    (join dir name).all plain := by
  unfold join
  split_ifs
  · exact plain_clean hname
  · apply plain_clean
    rw [List.all_append, List.all_cons, hdir, hname]
    decide

theorem shellQuote_eq (s : String) : shellQuote s = quote s.toList := by
  have hchar : (fun c ↦ if c = '\'' then "'\\''".toList else [c]) = quoteChar := by
    funext c
    unfold quoteChar
    split_ifs <;> rfl
  rw [shellQuote, quote, hchar]

theorem not_reserved {w : List Char} (h : '/' ∈ w) : w ∉ reserved := by
  have hwords : ∀ w ∈ reserved, '/' ∉ w := by simp [reserved]
  exact fun hw ↦ hwords w hw h

theorem read_line {pgDump dsn : String} {outFile : List Char} (hpath : '/' ∈ pgDump.toList)
    (hpgDump : pgDump.toList.all plain) (hdsn : '\x00' ∉ dsn.toList) (hfile : outFile ≠ [])
    (hplain : outFile.all plain) :
    commands (dumpCommand pgDump dsn outFile) =
      some [⟨[pgDump.toList, dsn.toList], none⟩, ⟨["gzip".toList], some outFile⟩] := by
  have hprogram := read_plain (List.ne_nil_of_mem hpath) hpgDump
  have hquote := read_quote hdsn
  have houtput := read_plain hfile hplain
  have blank (w : List Char) : Mode.step (.word w) ' ' = (.blank, [.word w]) := rfl
  have between (w : List Char) : thread Mode.step (.word w) " | gzip > ".toList =
      (.blank, [.word w, .pipe, .word "gzip".toList, .output]) := by
    rw [String.toList_ofList]
    rfl
  have line : thread Mode.step .blank (dumpCommand pgDump dsn outFile) =
      (.word outFile,
        [.word pgDump.toList, .word dsn.toList, .pipe, .word "gzip".toList, .output]) := by
    rw [dumpCommand, shellQuote_eq, ← List.singleton_append (x := ' ')]
    simp only [List.append_assoc, thread_append, thread_cons, hprogram, hquote, blank, between,
      houtput, List.nil_append, List.append_nil, List.cons_append]
  have hgzip : ['g', 'z', 'i', 'p'] ∉ reserved := by simp [reserved]
  simp [commands, tokens, line, pipeline, Command.add, not_reserved hpath, hgzip]

/-- A text that no argument of a program can hold is not read. -/
theorem read_nul {pgDump dsn : String} {outFile : List Char} (hpath : '/' ∈ pgDump.toList)
    (hpgDump : pgDump.toList.all plain) (hdsn : '\x00' ∈ dsn.toList) :
    commands (dumpCommand pgDump dsn outFile) = none := by
  have hprogram := read_plain (List.ne_nil_of_mem hpath) hpgDump
  have hunknown := read_quote_nul hdsn
  have blank (w : List Char) : Mode.step (.word w) ' ' = (.blank, [.word w]) := rfl
  have line : (thread Mode.step .blank (dumpCommand pgDump dsn outFile)).1 = .unknown := by
    rw [dumpCommand, shellQuote_eq, ← List.singleton_append (x := ' ')]
    simp only [List.append_assoc, thread_append, thread_cons, hprogram, blank, hunknown,
      List.nil_append, List.cons_append, thread_unknown]
  unfold commands tokens
  split
  next h => simp [h] at line
  next h => simp [h] at line
  next => rfl

/-- The shell reads the command as it is meant: the connection string is one argument of `pg_dump`,
whatever it is, and the output of `gzip` goes to the file. -/
theorem dump_command_read {pgDump dsn : String} {dir : List Char} (clock : ℤ)
    (hpath : '/' ∈ pgDump.toList) (hpgDump : pgDump.toList.all plain) (hdsn : '\x00' ∉ dsn.toList)
    (hdir : dir.all plain) :
    commands (dumpCommand pgDump dsn (join dir (dumpName clock))) =
      some [⟨[pgDump.toList, dsn.toList], none⟩,
        ⟨["gzip".toList], some (join dir (dumpName clock))⟩] := by
  apply read_line hpath hpgDump hdsn
  · exact join_ne_nil dir (dumpName clock)
  · exact plain_join hdir (plain_dumpName clock)

/-- Not even a quote lets a password out of its argument. -/
theorem quoted_dsn_read :
    commands (dumpCommand "/usr/bin/pg_dump" "host=db password='; reboot #'"
      (join "./backups".toList (dumpName (date 2025 3 1)))) =
      some [⟨["/usr/bin/pg_dump".toList, "host=db password='; reboot #'".toList], none⟩,
        ⟨["gzip".toList], some (join "./backups".toList (dumpName (date 2025 3 1)))⟩] := by
  apply dump_command_read
  · decide +kernel
  · decide +kernel
  · decide +kernel
  · decide +kernel

end Shell

/-- A file of the disk: when it was written last, and the number of the run that has written the
whole of its dump to it, if one has. -/
structure File where
  modified : ℤ
  whole : Option ℕ
  deriving DecidableEq

/-- The files by their cleaned paths. -/
abbrev Disk := List Char → Option File

/-- A run of the job: the settings, which are empty where they cannot be read, and what comes of
its calls. A failing `pg_dump` is not seen through the pipe, so that the file of a command that the
shell starts is all that tells of it: when it was written last, and whether the dump is whole. The
paths are ones that the shell takes as they are, and the time that they are kept for is one that a
time has room for. -/
structure Pass where
  enabled : String
  path : String
  retention : String
  databaseDSN : String
  mkdirAll : Bool
  now : ℤ
  pgDump : Option String
  dumped : Option (ℤ × Bool)
  cleaned : ℤ
  readDir : Bool
  info : List Char → Bool
  remove : List Char → Bool
  path_plain : path.toList.all plain
  pgDump_plain : ∀ program ∈ pgDump, '/' ∈ program.toList ∧ program.toList.all plain
  retention_fits : ∀ n ∈ atoi retention, n ≤ 10 ^ 14

namespace Pass

variable (zone : Zone) (r : Pass)

def backupPath : List Char := if r.path = "" then "./backups".toList else r.path.toList

def retentionDays : ℤ := ((atoi r.retention).filter (0 < ·)).getD 7

def cutoff : ℤ := zone.resolve (addDate (zone.clock r.cleaned) 0 0 (-r.retentionDays))

def outFile : List Char := join r.backupPath (dumpName (zone.clock r.now))

/-- The run gets as far as the dump. -/
def ready : Bool := r.enabled = "true" && r.mkdirAll

/-- The file that the shell opens for a command line. -/
def opened (line : List Char) : Option (List Char) :=
  (commands line).bind fun cs ↦ cs.getLast?.bind Command.output

/-- `dumpDB`, of the run that has the number. -/
def dumpDB (n : ℕ) (disk : Disk) : Disk :=
  match r.pgDump.bind fun program ↦ opened (dumpCommand program r.databaseDSN (r.outFile zone)),
    r.dumped with
  | some file, some (t, whole) =>
    Function.update disk file (some ⟨t, if whole then some n else none⟩)
  | _, _ => disk

/-- The last element of a path. -/
def base (path : List Char) : List Char := (path.reverse.takeWhile (· ≠ '/')).reverse

/-- The file is an entry of the directory. -/
def lists (file : List Char) : Bool := join r.backupPath (base file) = file

def expired (file : List Char) (modified : ℤ) : Bool :=
  r.readDir && r.lists file && r.info file && modified < r.cutoff zone && r.remove file

def cleanOld (disk : Disk) : Disk := fun file ↦
  (disk file).filter fun f ↦ !r.expired zone file f.modified

/-- `BackupJob.Run`. -/
def run (n : ℕ) (disk : Disk) : Disk :=
  if r.ready then
    r.cleanOld zone (if r.databaseDSN ≠ "" then r.dumpDB zone n disk else disk)
  else disk

/-- The run writes a dump to the file, the whole of it or not. -/
def Dumps (file : List Char) (t : ℤ) (whole : Bool) : Prop :=
  r.ready ∧ r.databaseDSN ≠ "" ∧ '\x00' ∉ r.databaseDSN.toList ∧ r.pgDump ≠ none ∧
    r.dumped = some (t, whole) ∧ r.outFile zone = file

/-- The run removes the file if it was written last at a time. -/
def Removes (file : List Char) (t : ℤ) : Prop := r.ready ∧ r.expired zone file t

end Pass

/-- The disk after some runs of the job, one after the other. -/
def after (zone : Zone) (disk : Disk) (rs : List Pass) : Disk :=
  rs.zipIdx.foldl (fun disk r ↦ r.1.run zone r.2 disk) disk

section Runs

variable {zone : Zone} {r : Pass} {file : List Char} {t : ℤ} {whole : Bool}

theorem Pass.plain_backupPath (r : Pass) : r.backupPath.all plain := by
  have hdefault : "./backups".toList.all plain := by decide
  unfold backupPath
  split_ifs
  · exact hdefault
  · exact r.path_plain

theorem Pass.plain_outFile (zone : Zone) (r : Pass) : (r.outFile zone).all plain :=
  plain_join r.plain_backupPath (plain_dumpName (zone.clock r.now))

/-- The shell opens the file of the day, but for a connection string that it cannot be given. -/
theorem Pass.opened_outFile (zone : Zone) {program : String} (h : program ∈ r.pgDump) :
    opened (dumpCommand program r.databaseDSN (r.outFile zone)) =
      if '\x00' ∈ r.databaseDSN.toList then none else some (r.outFile zone) := by
  obtain ⟨hpath, hplain⟩ := r.pgDump_plain program h
  have hfile : r.outFile zone ≠ [] := join_ne_nil r.backupPath (dumpName (zone.clock r.now))
  unfold opened
  split_ifs with hnul
  · rw [read_nul hpath hplain hnul]
    rfl
  · rw [read_line hpath hplain hnul hfile (r.plain_outFile zone)]
    rfl

theorem Pass.Dumps.dumpDB (h : r.Dumps zone file t whole) (n : ℕ) (disk : Disk) :
    r.dumpDB zone n disk file = some ⟨t, if whole then some n else none⟩ := by
  obtain ⟨-, -, hnul, hprogram, hdumped, hfile⟩ := h
  obtain ⟨program, hprogram⟩ := Option.ne_none_iff_exists'.mp hprogram
  have hopened := r.opened_outFile zone hprogram
  rw [if_neg hnul, hfile] at hopened
  simp [Pass.dumpDB, hprogram, hfile, hopened, hdumped]

theorem Pass.dumpDB_other (hready : r.ready) (hdsn : r.databaseDSN ≠ "")
    (h : ∀ t whole, ¬r.Dumps zone file t whole) (n : ℕ) (disk : Disk) :
    r.dumpDB zone n disk file = disk file := by
  cases hdumped : r.dumped with
  | none => simp [dumpDB, hdumped]
  | some d =>
    obtain ⟨t, whole⟩ := d
    cases hprogram : r.pgDump with
    | none => simp [dumpDB, hprogram]
    | some program =>
      have hopened := opened_outFile zone hprogram
      by_cases hnul : '\x00' ∈ r.databaseDSN.toList
      · rw [if_pos hnul] at hopened
        simp [dumpDB, hprogram, hopened]
      · have hne : file ≠ r.outFile zone := by
          rintro rfl
          exact h t whole ⟨hready, hdsn, hnul, by simp [hprogram], hdumped, rfl⟩
        rw [if_neg hnul] at hopened
        simp [dumpDB, hprogram, hopened, hdumped, hne]

/-- The file that a run leaves is one that it wrote or found there, and did not remove. -/
theorem Pass.run_iff (n : ℕ) (disk : Disk) (f : File) :
    r.run zone n disk file = some f ↔ ¬r.Removes zone file f.modified ∧
      ((∃ t whole, r.Dumps zone file t whole ∧ f = ⟨t, if whole then some n else none⟩) ∨
        (∀ t whole, ¬r.Dumps zone file t whole) ∧ disk file = some f) := by
  by_cases hready : r.ready
  · have hdump : (if r.databaseDSN ≠ "" then r.dumpDB zone n disk else disk) file = some f ↔
        (∃ t whole, r.Dumps zone file t whole ∧ f = ⟨t, if whole then some n else none⟩) ∨
          (∀ t whole, ¬r.Dumps zone file t whole) ∧ disk file = some f := by
      by_cases hwrites : ∃ t whole, r.Dumps zone file t whole
      · obtain ⟨t, whole, hdumps⟩ := hwrites
        rw [if_pos hdumps.2.1, hdumps.dumpDB, Option.some.injEq]
        constructor
        · rintro rfl
          exact .inl ⟨t, whole, hdumps, rfl⟩
        · rintro (⟨t', whole', hdumps', rfl⟩ | ⟨hnone, -⟩)
          · have hsame := hdumps.2.2.2.2.1.symm.trans hdumps'.2.2.2.2.1
            obtain ⟨rfl, rfl⟩ := Prod.mk.inj (Option.some.inj hsame)
            rfl
          · exact absurd hdumps (hnone t whole)
      · push Not at hwrites
        have hkept : (if r.databaseDSN ≠ "" then r.dumpDB zone n disk else disk) file =
            disk file := by
          split_ifs with hdsn
          · exact dumpDB_other hready hdsn hwrites n disk
          · rfl
        rw [hkept]
        simp [hwrites]
    simp only [run, hready, if_true, cleanOld, Option.filter_eq_some_iff, hdump, Removes, true_and]
    simp [and_comm]
  · simp [run, hready, Removes, Dumps]

theorem after_append (zone : Zone) (disk : Disk) (rs : List Pass) (r : Pass) :
    after zone disk (rs ++ [r]) = r.run zone rs.length (after zone disk rs) := by
  simp [after, List.zipIdx_append]

/-- After any runs, a file holds the whole of a dump just if a run wrote it there, and neither this
one nor a later one removed it, and no later one wrote to the file, with or without success. -/
theorem restorable_iff {disk : Disk} (hnew : ∀ file f, disk file = some f → f.whole = none)
    (rs : List Pass) (file : List Char) (t : ℤ) (n : ℕ) :
    after zone disk rs file = some ⟨t, some n⟩ ↔
      ∃ r, rs[n]? = some r ∧ r.Dumps zone file t true ∧ ¬r.Removes zone file t ∧
        ∀ later r', n < later → rs[later]? = some r' →
          ¬r'.Removes zone file t ∧ ∀ t' whole, ¬r'.Dumps zone file t' whole := by
  induction rs using List.reverseRecOn with
  | nil =>
    simp only [after, List.zipIdx_nil, List.foldl_nil, List.getElem?_nil]
    constructor
    · intro h
      cases hnew file _ h
    · rintro ⟨r, hr, -⟩
      cases hr
  | append_singleton rs r ih =>
    rw [after_append, Pass.run_iff, ih]
    have hlast : (rs ++ [r])[rs.length]? = some r := by simp
    have hbefore {k : ℕ} (hk : k < rs.length) : (rs ++ [r])[k]? = rs[k]? :=
      List.getElem?_append_left hk
    have hafter {k : ℕ} (hk : rs.length < k) : (rs ++ [r])[k]? = none := by simp; omega
    constructor
    · rintro ⟨hkept, ⟨t', whole, hdumps, heq⟩ | ⟨hother, r₀, hr₀, hdumps, hkept₀, hlater⟩⟩
      · obtain ⟨rfl, hn⟩ := File.mk.inj heq
        cases whole with
        | false => cases hn
        | true =>
          obtain rfl := Option.some.inj hn
          refine ⟨r, hlast, hdumps, hkept, fun later r' hlt hr' ↦ ?_⟩
          rw [hafter hlt] at hr'
          cases hr'
      · have hn : n < rs.length := (List.getElem?_eq_some_iff.mp hr₀).1
        refine ⟨r₀, (hbefore hn).trans hr₀, hdumps, hkept₀, fun later r' hlt hr' ↦ ?_⟩
        rcases lt_trichotomy later rs.length with hk | rfl | hk
        · exact hlater later r' hlt ((hbefore hk).symm.trans hr')
        · obtain rfl := Option.some.inj (hlast.symm.trans hr')
          exact ⟨hkept, hother⟩
        · rw [hafter hk] at hr'
          cases hr'
    · rintro ⟨r₀, hr₀, hdumps, hkept₀, hlater⟩
      rcases lt_trichotomy n rs.length with hn | rfl | hn
      · obtain ⟨hkept, hother⟩ := hlater rs.length r hn hlast
        refine ⟨hkept, .inr ⟨hother, r₀, (hbefore hn).symm.trans hr₀, hdumps, hkept₀, ?_⟩⟩
        intro later r' hlt hr'
        have hk : later < rs.length := (List.getElem?_eq_some_iff.mp hr').1
        exact hlater later r' hlt ((hbefore hk).trans hr')
      · obtain rfl := Option.some.inj (hlast.symm.trans hr₀)
        exact ⟨hkept₀, .inl ⟨t, true, hdumps, rfl⟩⟩
      · rw [hafter hn] at hr₀
        cases hr₀

/-- A run in the night of the first of March, by the clock, which takes a minute. -/
def nightly (clock : ℤ) (whole : Bool) : Pass where
  enabled := "true"
  path := ""
  retention := "14"
  databaseDSN := "host=db user=rosmon"
  mkdirAll := true
  now := date 2025 3 1 + clock
  pgDump := some "/usr/bin/pg_dump"
  dumped := some (date 2025 3 1 + clock + hour / 60, whole)
  cleaned := date 2025 3 1 + clock + hour / 60
  readDir := true
  info _ := true
  remove _ := true
  path_plain := by decide
  pgDump_plain := by
    rintro _ ⟨⟩
    exact ⟨by decide +kernel, by decide +kernel⟩
  retention_fits := by decide +kernel

/-- A dump that fails takes that of an earlier run of the night with it. -/
theorem dump_spoiled :
    after .utc (fun _ ↦ none) [nightly hour true] ((nightly hour true).outFile .utc) =
        some ⟨date 2025 3 1 + hour + hour / 60, some 0⟩ ∧
      after .utc (fun _ ↦ none) [nightly hour true, nightly (2 * hour) false]
          ((nightly hour true).outFile .utc) ≠
        some ⟨date 2025 3 1 + hour + hour / 60, some 0⟩ := by
  have hnew : ∀ (file : List Char) (f : File), (fun _ ↦ none : Disk) file = some f →
      f.whole = none := by
    intro file f h
    cases h
  constructor
  · rw [restorable_iff hnew]
    refine ⟨nightly hour true, rfl, ⟨by decide, by decide, by decide +kernel,
      by simp [nightly], rfl, rfl⟩, ?_, ?_⟩
    · rintro ⟨-, hexpired⟩
      simp only [Pass.expired, Bool.and_eq_true, decide_eq_true_eq] at hexpired
      exact absurd hexpired.1.2 (by decide +kernel)
    · intro later r' hlt hr'
      rw [List.getElem?_eq_none hlt] at hr'
      cases hr'
  · rw [Ne, restorable_iff hnew]
    rintro ⟨r, -, -, -, hlater⟩
    refine (hlater 1 (nightly (2 * hour) false) (by decide) rfl).2
      (date 2025 3 1 + 2 * hour + hour / 60) false ?_
    exact ⟨by decide, by decide, by decide +kernel, by simp [nightly], rfl, by decide +kernel⟩

end Runs

end Rosmon.Job.Backup
