import Rosmon.Library.Sequences

namespace Rosmon.Library.Shell

inductive Token
  | word (w : List Char)
  | pipe
  | output
  deriving DecidableEq

/-- Where a shell is in a command line: between two words, after an operator, in a word, in quotes
that are a part of one, or after a backslash. What is outside the part of the language that is here
ends in `unknown`. -/
inductive Mode
  | blank
  | operator
  | word (w : List Char)
  | quoted (w : List Char)
  | escaped (w : List Char)
  | unknown
  deriving DecidableEq

/-- The characters that have no meaning of their own in any place of a word. -/
def plain (c : Char) : Bool := c.isAlphanum || c ∈ "._-/:,+@".toList

namespace Mode

def start (c : Char) : Mode × List Token :=
  if c = ' ' ∨ c = '\t' then (blank, [])
  else if c = '|' then (operator, [.pipe])
  else if c = '>' then (operator, [.output])
  else if c = '\'' then (quoted [], [])
  else if c = '\\' then (escaped [], [])
  else if plain c then (word [c], [])
  else (unknown, [])

def step (m : Mode) (c : Char) : Mode × List Token :=
  match m with
  | blank => start c
  -- two of them may be another operator
  | operator => if c = '|' ∨ c = '>' then (unknown, []) else start c
  | word w =>
    if c = ' ' ∨ c = '\t' then (blank, [.word w])
    else if c = '|' then (operator, [.word w, .pipe])
    else if c = '\'' then (quoted w, [])
    else if c = '\\' then (escaped w, [])
    else if plain c then (word (w ++ [c]), [])
    else (unknown, [])
  | quoted w =>
    if c = '\x00' then (unknown, [])
    else if c = '\'' then (word w, [])
    else (quoted (w ++ [c]), [])
  | escaped w => if c = '\n' ∨ c = '\x00' then (unknown, []) else (word (w ++ [c]), [])
  | unknown => (unknown, [])

end Mode

/-- The tokens of a command line, if they are all known. -/
def tokens (line : List Char) : Option (List Token) :=
  match thread Mode.step .blank line with
  | (.blank, ts) => some ts
  | (.word w, ts) => some (ts ++ [.word w])
  | _ => none

/-- A simple command of a pipeline, with the file that its output goes to. -/
structure Command where
  words : List (List Char)
  output : Option (List Char)
  deriving DecidableEq

def Command.add (c : Command) (w : List Char) : Command := { c with words := c.words ++ [w] }

/-- The words that are no name of a command. -/
def reserved : List (List Char) :=
  ["if", "then", "else", "elif", "fi", "do", "done", "case", "esac", "while", "until", "for", "in",
    "function", "select", "time", "coproc"].map String.toList

/-- The commands of a pipeline, the first of which is being read. -/
def pipeline (c : Command) : List Token → Option (List Command)
  | [] => if c.words = [] then none else some [c]
  | .word w :: ts => if c.words = [] ∧ reserved.contains w then none else pipeline (c.add w) ts
  | .output :: .word w :: ts => if c.output = none then pipeline { c with output := some w } ts else none
  | .output :: _ => none
  | .pipe :: ts => if c.words = [] then none else (pipeline ⟨[], none⟩ ts).map (c :: ·)

def commands (line : List Char) : Option (List Command) :=
  (tokens line).bind (pipeline ⟨[], none⟩)

/-- Between two quotes, a quote is written outside of them. -/
def quoteChar (c : Char) : List Char := if c = '\'' then ['\'', '\\', '\'', '\''] else [c]

def quote (s : List Char) : List Char := '\'' :: s.flatMap quoteChar ++ ['\'']

section Read

theorem read_quoted (w : List Char) {s : List Char} (hs : '\x00' ∉ s) :
    thread Mode.step (.quoted w) (s.flatMap quoteChar) = (.quoted (w ++ s), []) := by
  induction s generalizing w with
  | nil => simp
  | cons c s ih =>
    rw [List.mem_cons, not_or] at hs
    have first : thread Mode.step (.quoted w) (quoteChar c) = (.quoted (w ++ [c]), []) := by
      by_cases hc : c = '\''
      · subst hc
        simp [quoteChar, Mode.step]
      · simp [quoteChar, Mode.step, hc, Ne.symm hs.1]
    rw [List.flatMap_cons, thread_append, first, ih _ hs.2, List.append_assoc]
    rfl

/-- A quoted text is read as one word, which is the text. -/
theorem read_quote {s : List Char} (hs : '\x00' ∉ s) :
    thread Mode.step .blank (quote s) = (.word s, []) := by
  have inside := read_quoted [] hs
  have opening : Mode.step .blank '\'' = (.quoted [], []) := by decide
  rw [quote, List.cons_append, thread_cons, thread_append, opening, inside]
  simp [Mode.step]

theorem thread_unknown (s : List Char) : thread Mode.step .unknown s = (.unknown, []) := by
  induction s with
  | nil => rfl
  | cons c s ih =>
    rw [thread_cons, show Mode.step .unknown c = (.unknown, []) from rfl, ih]
    rfl

theorem read_quoted_nul (w : List Char) {s : List Char} (hs : '\x00' ∈ s) :
    thread Mode.step (.quoted w) (s.flatMap quoteChar) = (.unknown, []) := by
  induction s generalizing w with
  | nil => cases hs
  | cons c s ih =>
    rw [List.flatMap_cons, thread_append]
    by_cases hc : c = '\x00'
    · subst hc
      have first : thread Mode.step (.quoted w) (quoteChar '\x00') = (.unknown, []) := by
        simp [quoteChar, Mode.step]
      rw [first, thread_unknown]
      rfl
    · have rest : '\x00' ∈ s := (List.mem_cons.mp hs).resolve_left (Ne.symm hc)
      have first : thread Mode.step (.quoted w) (quoteChar c) = (.quoted (w ++ [c]), []) := by
        by_cases hquote : c = '\''
        · subst hquote
          simp [quoteChar, Mode.step]
        · simp [quoteChar, Mode.step, hc, hquote]
      rw [first, ih _ rest]
      rfl

/-- No word can hold a text with a zero in it. -/
theorem read_quote_nul {s : List Char} (hs : '\x00' ∈ s) :
    thread Mode.step .blank (quote s) = (.unknown, []) := by
  have opening : Mode.step .blank '\'' = (.quoted [], []) := by decide
  rw [quote, List.cons_append, thread_cons, thread_append, opening, read_quoted_nul [] hs,
    thread_unknown]
  rfl

theorem step_plain {c : Char} (hc : plain c) (w : List Char) :
    Mode.step (.word w) c = (.word (w ++ [c]), []) ∧ Mode.step .blank c = (.word [c], []) := by
  have other (d : Char) (hd : plain d = false) : c ≠ d := by
    rintro rfl
    simp [hd] at hc
  simp [Mode.step, Mode.start, hc, other ' ' (by decide), other '\t' (by decide),
    other '|' (by decide), other '>' (by decide), other '\'' (by decide), other '\\' (by decide)]

theorem read_rest (w : List Char) {s : List Char} (hs : s.all plain) :
    thread Mode.step (.word w) s = (.word (w ++ s), []) := by
  induction s generalizing w with
  | nil => simp
  | cons c s ih =>
    rw [List.all_cons, Bool.and_eq_true] at hs
    rw [thread_cons, (step_plain hs.1 w).1, ih _ hs.2]
    simp

/-- A text of plain characters is a word as it is. -/
theorem read_plain {s : List Char} (hne : s ≠ []) (hs : s.all plain) :
    thread Mode.step .blank s = (.word s, []) := by
  cases s with
  | nil => exact absurd rfl hne
  | cons c s =>
    rw [List.all_cons, Bool.and_eq_true] at hs
    rw [thread_cons, (step_plain hs.1 []).2, read_rest [c] hs.2]
    rfl

end Read

end Rosmon.Library.Shell
